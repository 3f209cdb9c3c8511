/-
  HwEfat.Main.CaseDesign.Def — `case_design.py`: from JSON files to test cases.

  `generate_cases` takes the objects of all files one after the other.  An object sets the
  compile flag, or is a case: it is checked, and its sub-cases are generated if it is
  selected.  The lists of required keys belong to the class `ConstManager`; all checks
  share them, so they are part of the state.
-/
import HwEfat.Main.SubCaseDesign.Fuzz

namespace HwEfat.Main

open HwEfat.Lib (PyError PyVal PyDict raiseIf bind_eq_ok)

/-- What the generation depends on: also the contents of JSON files. -/
structure CaseEnv extends FuzzEnv where
  loadJsonFile : String → Except PyError PyVal

/-- `CaseDesign`, with the cases and the compile flag of `generate_cases` so far, and the
lists of `ConstManager`. -/
structure CaseDesign where
  /-- No list if all cases are asked for. -/
  caseNameList : Option (List String)
  caseNameToJsonFileMap : PyDict String := []
  report : OpSTReport := {}
  totalCaseInFile : List SubCase := []
  compileFlag : PyVal := .none
  requiredKeys : List String := REQUIRED_KEYS
  attrRequiredKeys : List String := ATTR_REQUIRED_KEYS

namespace CaseDesign

/-! ## §1. `generate_cases`. -/

/-- `not (self.case_name_list and case_name not in self.case_name_list)` -/
def selects (design : CaseDesign) (caseName : String) : Bool :=
  design.caseNameList.all fun l => l.isEmpty || l.contains caseName

/-- The design of the sub-cases of a case. -/
def subCaseDesign (design : CaseDesign) (jsonPath : String) (jsonObj : PyVal) : SubCaseDesign :=
  { currentJsonPath := jsonPath, jsonObj, totalCaseList := design.totalCaseInFile,
    report := design.report, attrRequiredKeys := design.attrRequiredKeys }

/-- `SubCaseDesignFuzz` or `SubCaseDesignCross`, and its `subcase_generate`. -/
def subcaseGenerate (env : FuzzEnv) (subDesign : SubCaseDesign) :
    Except PyError SubCaseDesign := do
  if (← subDesign.jsonObj.get FUZZ_IMPL).truthy then
    SubCaseDesignFuzz.subcaseGenerate env subDesign
  else SubCaseDesignCross.subcaseGenerate env.toDesignEnv subDesign

/-- `_get_total_case` -/
def getTotalCase (env : FuzzEnv) (jsonPath : String) (design : CaseDesign) (jsonObj : PyVal)
    (caseName : String) : Except PyError CaseDesign := do
  raiseIf ((design.caseNameToJsonFileMap.lookup caseName).isSome = true) invalidData
  let subDesign ← subcaseGenerate env (design.subCaseDesign jsonPath jsonObj)
  return { design with
    caseNameToJsonFileMap := design.caseNameToJsonFileMap.set caseName jsonPath
    report := subDesign.report
    totalCaseInFile := subDesign.totalCaseList
    attrRequiredKeys := subDesign.attrRequiredKeys }

/-- The body of the loop of `generate_cases`. -/
def generateCase (env : FuzzEnv) (design : CaseDesign) (e : String × PyVal) :
    Except PyError CaseDesign := do
  let (jsonPath, jsonObj) := e
  let compileFlag ← jsonObj.get "compile_flag"
  if compileFlag.truthy then return { design with compileFlag }
  else
    let requiredKeys ← SubCaseDesign.checkRequiredKeyValid jsonObj design.requiredKeys
    let design := { design with requiredKeys }
    match ← jsonObj.getItem CASE_NAME with
    | .str caseName =>
        if design.selects caseName then getTotalCase env jsonPath design jsonObj caseName
        else return design
    -- The check has seen to it that the name is a string.
    | _ => .error (.typeError "unhashable type")

/-- The objects of a file. -/
def fileObjects (env : CaseEnv) (jsonPath : String) : Except PyError (List (String × PyVal)) := do
  return (← (← env.loadJsonFile jsonPath).iter).map fun jsonObj => (jsonPath, jsonObj)

/-- `generate_cases` -/
def generateCases (env : CaseEnv) (jsonPathList : List String) (design : CaseDesign) :
    Except PyError CaseDesign :=
  jsonPathList.foldlM (fun design jsonPath => do
    (← fileObjects env jsonPath).foldlM (generateCase env.toFuzzEnv) design) design

/-! ## §2. The sequence of the objects. -/

/-- The objects of all files. -/
def caseObjects (env : CaseEnv) (jsonPathList : List String) :
    Except PyError (List (String × PyVal)) := do
  return (← jsonPathList.mapM (fileObjects env)).flatten

/-- Files that can be read are one sequence of objects. -/
theorem generateCases_eq {env : CaseEnv} {jsonPathList : List String}
    {objects : List (String × PyVal)} (h : caseObjects env jsonPathList = .ok objects)
    (design : CaseDesign) :
    generateCases env jsonPathList design
      = objects.foldlM (generateCase env.toFuzzEnv) design := by
  unfold caseObjects at h
  rw [bind_eq_ok] at h
  obtain ⟨files, hfiles, h⟩ := h
  cases h
  rw [Lib.mapM_eq_ok] at hfiles
  unfold generateCases
  induction hfiles generalizing design with
  | nil => rfl
  | cons hfile _ ih =>
      rw [List.foldlM_cons, hfile, List.flatten_cons, List.foldlM_append]
      exact bind_congr ih

end CaseDesign

end HwEfat.Main
