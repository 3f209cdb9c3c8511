/-
  HwEfat.Main.CaseDesign.Executable — which cases have all their generated cases
  executable.

  A design by crossing raises if a dynamic shape has no typical shape.  A fuzz design does
  not, and hands the negative dimensions on (`dynamic_fuzz_case`), so its cases are
  executable exactly if their dynamic shapes have a substitute
  (`executable_iff_substituted`).
-/
import HwEfat.Main.CaseDesign.Def
import HwEfat.Main.SubCaseDesign.FuzzShape

namespace HwEfat.Main

open HwEfat.Lib (PyError PyVal PyDict bind_eq_ok exists_eq_ok)

namespace CaseDesign

open SubCaseDesignFuzz (checkFuzzValid checkFuzzCaseNumValid RoundSubstituted CaseExecutable)

/-- A case is no fuzz case, or its dynamic shapes have substitutes: in every call of the fuzz
function, with the first value that it returns. -/
def HasSubstitutes (env : FuzzEnv) (design : SubCaseDesign) : Prop :=
  ∀ impl, design.jsonObj.get FUZZ_IMPL = .ok impl → impl.truthy = true →
    ∀ fuzzFunction loopNum ms,
      checkFuzzValid env design.currentJsonPath design.jsonObj = .ok fuzzFunction →
      checkFuzzCaseNumValid design.jsonObj = .ok loopNum →
      SubCaseDesignCross.isMs design.jsonObj = .ok ms →
        ∀ round < loopNum, RoundSubstituted ms fuzzFunction design.jsonObj round

/-- **When the generated cases can be executed**: the effective shape of every description
has no negative dimension, and is the declared one unless that is dynamic. -/
theorem executable_iff_substituted {env : FuzzEnv} {design design' : SubCaseDesign}
    (h : subcaseGenerate env design = .ok design') :
    (∀ case ∈ newCases design design', CaseExecutable case) ↔ HasSubstitutes env design := by
  unfold subcaseGenerate at h
  obtain ⟨impl, himpl, h⟩ := bind_eq_ok.mp h
  split at h
  · next hfuzz =>
      obtain ⟨fuzzFunction, loopNum, ms, hfunction, hnum, hms, hexec⟩ :=
        SubCaseDesignFuzz.subcaseGenerate_executable h
      rw [hexec]
      constructor
      · intro hrounds _ _ _ fuzzFunction' loopNum' ms' hfunction' hnum' hms'
        -- The settings of a case are determined by the case.
        cases hfunction.symm.trans hfunction'
        cases hnum.symm.trans hnum'
        cases hms.symm.trans hms'
        exact hrounds
      · intro hsubst
        exact hsubst impl himpl hfuzz fuzzFunction loopNum ms hfunction hnum hms
  · next hcross =>
      have hgen := SubCaseDesignCross.subcaseGenerate_executable h
      apply iff_of_true
      · intro case hcase
        obtain ⟨_, hexec⟩ := hgen.of_mem_newCases hcase
        exact hexec
      · intro impl' himpl' hfuzz
        cases himpl.symm.trans himpl'
        exact absurd hfuzz hcross

/-! ## A case by crossing, and a dynamic fuzz case. -/

/-- A fuzz function that returns an empty dictionary. -/
def fuzzEnv : FuzzEnv where
  toDesignEnv := SubCaseDesignCross.plainEnv
  fuzzFunc _ _ := some fun _ => .ok (.dict [])

/-- The descriptions are static. -/
theorem executable_iff_substituted_twoShapes :
    ∃ design', subcaseGenerate fuzzEnv (SubCaseDesignCross.addDesign
        [SubCaseDesignCross.twoShapes []] [SubCaseDesignCross.twoShapes []]) = .ok design' ∧
      ∀ case ∈ newCases (SubCaseDesignCross.addDesign
        [SubCaseDesignCross.twoShapes []] [SubCaseDesignCross.twoShapes []]) design',
        CaseExecutable case := by
  obtain ⟨design', hdesign, -⟩ := exists_eq_ok
    (x := subcaseGenerate fuzzEnv (SubCaseDesignCross.addDesign
      [SubCaseDesignCross.twoShapes []] [SubCaseDesignCross.twoShapes []]))
    (p := fun design' => design'.totalCaseList.length == 2) (by decide +kernel)
  refine ⟨design', hdesign, (executable_iff_substituted hdesign).mpr ?_⟩
  intro impl himpl htruthy
  cases himpl
  cases htruthy

/-- A case whose shapes are dynamic. -/
def dynamicCase (rest : List (String × PyVal)) : SubCaseDesign :=
  let desc := PyVal.dict
    [("format", .str "ND"), ("type", .str "float"), ("shape", .list [.int (-1)])]
  subCaseDesign { caseNameList := none } "/st/Add.json"
    (.dict ([(CASE_NAME, .str "Add"), (OP, .str "Add"), (INPUT_DESC, .list [desc]),
      (OUTPUT_DESC, .list [desc])] ++ rest))

/-- A dimension of the typical shape is `-1`. -/
def hasMinusOne (desc : Desc) : Bool :=
  match replaceShapeToTypicalShape desc with
  | .ok (.list dims) => dims.any fun dim => dim.asInt == some (-1)
  | _ => false

/-- A dynamic fuzz case without a typical shape is executed with -1; a design by crossing
rejects the same descriptions. -/
theorem dynamic_fuzz_case :
    (∃ design', subcaseGenerate fuzzEnv
        (dynamicCase [(FUZZ_IMPL, .str "fuzz.py"), (FUZZ_CASE_NUM, .int 1)]) = .ok design' ∧
      ∃ case ∈ newCases
        (dynamicCase [(FUZZ_IMPL, .str "fuzz.py"), (FUZZ_CASE_NUM, .int 1)]) design',
        ∃ desc ∈ case.inputDesc, ∃ dims dim, replaceShapeToTypicalShape desc = .ok (.list dims) ∧
          dim ∈ dims ∧ dim.asInt = some (-1) ∧ ¬ Executable desc) ∧
    (subcaseGenerate fuzzEnv (dynamicCase [])).toOption.isNone = true := by
  constructor
  · -- The run shows a shape with -1, which cannot be executed.
    obtain ⟨design', hdesign, htest⟩ := exists_eq_ok
      (x := subcaseGenerate fuzzEnv
        (dynamicCase [(FUZZ_IMPL, .str "fuzz.py"), (FUZZ_CASE_NUM, .int 1)]))
      (p := fun design' => (newCases
        (dynamicCase [(FUZZ_IMPL, .str "fuzz.py"), (FUZZ_CASE_NUM, .int 1)]) design').any
          fun case => case.inputDesc.any hasMinusOne) (by decide +kernel)
    obtain ⟨case, hcase, htest⟩ := List.any_eq_true.mp htest
    obtain ⟨desc, hdesc, htest⟩ := List.any_eq_true.mp htest
    refine ⟨design', hdesign, case, hcase, desc, hdesc, ?_⟩
    unfold hasMinusOne at htest
    split at htest
    · next dims hshape =>
        obtain ⟨dim, hdim, hminus⟩ := List.any_eq_true.mp htest
        have hminus := beq_iff_eq.mp hminus
        refine ⟨dims, dim, hshape, hdim, hminus, ?_⟩
        rintro ⟨shape, hshape', ⟨dims', hlist, hnonneg⟩, _⟩
        subst hlist
        cases hshape.symm.trans hshape'
        obtain ⟨i, hi, hle⟩ := hnonneg dim hdim
        cases hminus.symm.trans hi
        omega
    · cases htest
  · decide +kernel

end CaseDesign

end HwEfat.Main
