/-
  HwEfat.Main.SubCaseDesign.Def — what a case of a JSON file has to look like:
  `subcase_design.py`, and what it uses of `dynamic_handle.py` and `case_design.py`.

  A description of an input or output gives for each field a list of profiles; one value
  alone is a list of one.  The checks raise or return that list.  Printed messages are
  left out.
-/
import Mathlib.Algebra.GroupWithZero.Nat
import HwEfat.Main.Report.Def
import HwEfat.Main.Utils

namespace HwEfat.Main

open HwEfat.Lib (PyError PyVal PyDict PyFloat raiseIf pathJoin dirname splitextExt)

/-! ## §1. What the checks depend on. -/

/-- `WhiteLists`; of `format_map` the keys. -/
structure WhiteLists where
  formatMap : List String
  typeList : List String
  mindsporeTypeList : List String
  dataDistributionList : List String

/-- The white lists, and `check_path_valid`: what the file system says about a path. -/
structure DesignEnv where
  whiteLists : WhiteLists
  checkPathValid : String → Except PyError Unit

/-- The profiles of an input or output: `one_input_desc` or `one_output_desc`. -/
abbrev Tensor : Type := PyDict (List PyVal)

/-- One description of an input or output in a sub-case: `cur_params`. -/
abbrev Desc : Type := PyDict PyVal

/-! ## §2. Dynamic shapes. -/

/-- `_check_dynamic_shape` -/
def checkDynamicShape (dim : PyVal) : Nat :=
  if dim.asNumber = some (.finite SHAPE_DYNAMIC_SCENARIOS_ONE) ∨
      dim.asNumber = some (.finite SHAPE_DYNAMIC_SCENARIOS_TWO) then 1
  else 0

/-- `check_not_dynamic_shape` -/
def checkNotDynamicShape (shapeList : PyVal) : Except PyError Nat :=
  if !shapeList.truthy then .ok 0
  else do
    let dims ← shapeList.iter
    return (dims.map fun dim =>
      match dim with
      | .list l => (l.map checkDynamicShape).sum
      | dim => if dim.asInt.isSome then checkDynamicShape dim else 0).sum

/-- `check_typical_shape_valid` -/
def checkTypicalShapeValid (typicalShape : PyVal) : Except PyError Unit := do
  forM (← typicalShape.iter) fun dim =>
    match dim.asInt with
    | some i => raiseIf (i < 0) invalidData
    | none => .error invalidData

/-- `set_typical_shape_in_cur_params` -/
def setTypicalShapeInCurParams (tensor : Tensor) (curParams : Desc) : Except PyError Desc :=
  match curParams.lookup "shape" with
  | some (.list shapeList) =>
      shapeList.foldlM (fun curParams dim =>
        if checkDynamicShape dim = 1 then
          match tensor.lookup TYPICAL_SHAPE with
          | none => .error (opTestGenException OP_TEST_GEN_NONE_TYPICAL_SHAPE_ERROR)
          | some typicalShapeList => do
              let curParams := curParams.set TYPICAL_SHAPE (← Lib.first typicalShapeList)
              if dim.asNumber = some (.finite SHAPE_DYNAMIC_SCENARIOS_TWO) ∧
                  (curParams.lookup SHAPE_RANGE).any PyVal.truthy then
                return curParams.pop SHAPE_RANGE
              else return curParams
        else return curParams) curParams
  | _ => .error (.typeError "object is not iterable")

/-- `replace_shape_to_typical_shape` -/
def replaceShapeToTypicalShape (opDescDict : Desc) : Except PyError PyVal :=
  match (opDescDict.lookup TYPICAL_SHAPE).getD .none with
  | .none => .ok ((opDescDict.lookup "shape").getD .none)
  | typicalShapeList => do
      let _ ← typicalShapeList.len
      return typicalShapeList

/-! ## §3. `SubCaseDesign`: the fields of a description. -/

namespace SubCaseDesign

/-- `_check_key_exist` -/
def checkKeyExist (jsonObj : PyVal) (key : String) : Except PyError Unit := do
  raiseIf (!(← jsonObj.hasKey key)) invalidData

/-- `_check_fuzz_in_json` -/
def checkFuzzInJson (jsonObj : PyVal) (key : String) : Except PyError Unit := do
  raiseIf ((← jsonObj.get key).isStr "fuzz") invalidData

/-- A string is a list of one. -/
def asStrList : PyVal → Except PyError (List PyVal)
  | .str s => .ok [.str s]
  | .list l => .ok l
  | _ => .error invalidData

/-- `_check_list_str_valid` -/
def checkListStrValid (jsonObj : PyVal) (key : String) (supportList : List String) :
    Except PyError (List PyVal) := do
  checkKeyExist jsonObj key
  checkFuzzInJson jsonObj key
  let valueList ← asStrList (← jsonObj.getItem key)
  raiseIf valueList.isEmpty invalidData
  forM valueList fun item =>
    match item with
    | .str s => raiseIf (s = "" ∨ s ∉ supportList) invalidData
    | _ => .error invalidData
  return valueList

/-- `_check_list_list_valid` -/
def checkListListValid (jsonObj : PyVal) (key : String) : Except PyError (List PyVal) := do
  checkKeyExist jsonObj key
  checkFuzzInJson jsonObj key
  match ← jsonObj.getItem key with
  | .list [] => .ok [.list []]
  | .list (first :: rest) => do
      raiseIf (rest.any fun item => item.isList != first.isList) invalidData
      if first.isList then return first :: rest else return [.list (first :: rest)]
  | _ => .error invalidData

/-- `_check_shape_valid` -/
def checkShapeValid (shape : PyVal) : Except PyError Unit := do
  forM (← shape.iter) fun dim =>
    match dim.asInt with
    | some i => raiseIf (i < SHAPE_DYNAMIC_SCENARIOS_TWO) invalidData
    | none => .error invalidData

/-- `_check_range_value_valid` -/
def checkRangeValueValid (rangeValue : PyVal) (forShapeRange : Bool) : Except PyError Unit := do
  let values ← rangeValue.iter
  match values.map PyVal.asNumber with
  | [some low, some high] =>
      if forShapeRange ∧ (low = .finite (-1) ∨ high = .finite (-1)) then return ()
      else raiseIf (high.lt low) invalidData
  | _ => .error invalidData

/-- `_check_ori_format_list_str_valid` -/
def checkOriFormatListStrValid (oriFormat : PyVal) : List PyVal :=
  match oriFormat with
  | .str s => [.str s]
  | .list l => l
  | _ => []

/-- `_check_ori_filed_length_valid` -/
def checkOriFiledLengthValid (oriList compareList : List PyVal) : Except PyError Unit :=
  raiseIf (oriList.length ≠ compareList.length) invalidData

/-- `_get_ori_filed_data` for `ori_format`. -/
def getOriFormat (desc : PyVal) (formatList : List PyVal) :
    Except PyError (Option (List PyVal)) := do
  let oriFormat ← desc.get "ori_format"
  if oriFormat.isNone then return none
  else
    let oriFormatList := checkOriFormatListStrValid oriFormat
    checkOriFiledLengthValid oriFormatList formatList
    return some oriFormatList

/-- `_get_ori_filed_data` for `ori_shape`. -/
def getOriShape (desc : PyVal) (shapeList : List PyVal) :
    Except PyError (Option (List PyVal)) := do
  let oriShape ← desc.get "ori_shape"
  if oriShape.isNone then return none
  else
    let oriShapeList ← checkListListValid desc "ori_shape"
    checkOriFiledLengthValid oriShapeList shapeList
    return some oriShapeList

/-- `_get_ori_filed_data`: both fields, or none of them. -/
def getOriFiledData (desc : PyVal) (formatList shapeList : List PyVal) :
    Except PyError (Option (List PyVal × List PyVal)) := do
  let oriFormatList ← getOriFormat desc formatList
  let oriShapeList ← getOriShape desc shapeList
  match oriFormatList, oriShapeList with
  | some oriFormat, some oriShape => return some (oriFormat, oriShape)
  | none, none => return none
  | _, _ => .error invalidData

/-- `_get_dynamic_shape_info` -/
def getDynamicShapeInfo (opDesc : PyVal) (oneOpDict : Tensor) : Except PyError Tensor := do
  if (← checkNotDynamicShape (← opDesc.get "shape")) = 0 then return oneOpDict
  else
    let typicalShapeList ← checkListListValid opDesc TYPICAL_SHAPE
    forM typicalShapeList checkTypicalShapeValid
    let oneOpDict := oneOpDict.set TYPICAL_SHAPE typicalShapeList
    if (← opDesc.get SHAPE_RANGE).truthy then
      let shapeRangeList ← checkListListValid opDesc SHAPE_RANGE
      forM shapeRangeList fun item => checkRangeValueValid item true
      return oneOpDict.set SHAPE_RANGE [.list shapeRangeList]
    else return oneOpDict

/-- `_check_bin_valid` -/
def checkBinValid (env : DesignEnv) (binPath dirPath : String) : Except PyError String := do
  let realBinPath := pathJoin dirPath binPath
  raiseIf (splitextExt realBinPath ≠ BIN_FILE)
    (opTestGenException OP_TEST_GEN_INVALID_PATH_ERROR)
  env.checkPathValid realBinPath
  return realBinPath

/-- `_check_value_valid`, not for fuzz cases. -/
def checkValueValid (env : DesignEnv) (jsonPath : String) (oneInputDesc : Tensor)
    (caseValue : PyVal) : Except PyError (List PyVal) := do
  raiseIf (oneInputDesc.any fun e => 1 < e.2.length) invalidData
  match caseValue with
  | .str path => return [.str (← checkBinValid env path (dirname jsonPath))]
  | .list l => return [.list l]
  | _ => .error invalidData

/-- `ConstInput.deal_with_const`, not for fuzz cases. -/
def dealWithConst (isConst : PyVal) (inputDesc : Tensor) : Except PyError Tensor :=
  match isConst with
  | .none => .ok inputDesc
  | .bool b => .ok (inputDesc.set IS_CONST [.bool b])
  | _ => .error invalidData

/-- `_deal_with_value` for the field `value`, not for fuzz cases. -/
def withValue (env : DesignEnv) (jsonPath : String) (value : PyVal) (oneInputDesc : Tensor) :
    Except PyError Tensor :=
  if value.isNone then .ok oneInputDesc
  else do
    let valueList ← checkValueValid env jsonPath oneInputDesc value
    return oneInputDesc.set VALUE valueList

/-- `_deal_with_value`, not for fuzz cases. -/
def dealWithValue (env : DesignEnv) (jsonPath : String) (inputDesc : PyVal)
    (oneInputDesc : Tensor) : Except PyError Tensor := do
  let oneInputDesc ← withValue env jsonPath (← inputDesc.get VALUE) oneInputDesc
  dealWithConst (← inputDesc.get IS_CONST) oneInputDesc

/-- `_check_cur_params_undefined` -/
def checkCurParamsUndefined (curParams : Desc) : Desc :=
  let curParams :=
    if (curParams.lookup "format").any fun v => OPTIONAL_TYPE_LIST.any fun s => v.isStr s then
      curParams.set "type" (.str TYPE_UNDEFINED)
    else curParams
  if (curParams.lookup "type").any (PyVal.isStr TYPE_UNDEFINED) then
    curParams.set "format" (.str TYPE_UNDEFINED)
  else curParams

/-! ## §4. `SubCaseDesign`: attributes and settings. -/

/-- `check_required_key_valid` of `case_design.py`, with the list of required keys as it
leaves it. -/
def checkRequiredKeyValid (jsonObj : PyVal) (requiredKeyList : List String) :
    Except PyError (List String) := do
  let requiredKeyList :=
    if (← jsonObj.get ST_MODE).isStr "ms_python_train" then requiredKeyList ++ [ST_MODE]
    else requiredKeyList
  forM requiredKeyList fun key => do
    if key = CASE_NAME ∨ key = OP then checkNameValid (← jsonObj.get key)
  let missingKeys ← requiredKeyList.filterM fun key => do return !(← jsonObj.hasKey key)
  raiseIf (!missingKeys.isEmpty) invalidData
  return requiredKeyList

/-- `_check_name_type_valid` -/
def checkNameTypeValid (attr : PyVal) (key : String) : Except PyError String := do
  match ← attr.getItem key with
  | .str s => do
      raiseIf (s = "" ∨ (key = "type" ∧ s ∉ ATTR_TYPE_MAP_VALUES)) invalidData
      return s
  | _ => .error invalidData

/-- `_check_attr_valid` without a fuzz function, and what it leaves of
`ATTR_REQUIRED_KEYS`. -/
def checkAttrValid (jsonObj : PyVal) (attrRequiredKeys : List String) :
    Except PyError (List PyVal × List String) := do
  if !(← jsonObj.hasKey ATTR) then return ([], attrRequiredKeys)
  else
    match ← jsonObj.getItem ATTR with
    | .list attrs => do
        let (attrList, _, attrRequiredKeys) ← attrs.foldlM (fun (attrList, nameList, keys) attr => do
          let keys ← checkRequiredKeyValid attr keys
          let name ← checkNameTypeValid attr "name"
          raiseIf (name ∈ nameList) invalidData
          let _ ← checkNameTypeValid attr "type"
          checkAttrValueValid attr
          return (attrList ++ [attr], nameList ++ [name], keys))
          (([] : List PyVal), ([] : List String), attrRequiredKeys)
        return (attrList, attrRequiredKeys)
    | _ => .error invalidData

/-- `_check_expect_output_param`: the file and the function. -/
def checkExpectOutputParam (env : DesignEnv) (jsonPath : String) (jsonObj : PyVal) :
    Except PyError (Option String × PyVal) := do
  let expectStr ← jsonObj.get "calc_expect_func_file"
  if expectStr.truthy then
    match expectStr with
    | .str s =>
        match Lib.split s ":" with
        | [file, function] => do
            let function := String.ofList (function.toList.filter (· != ' '))
            let realExpectFilePath := pathJoin (dirname jsonPath) file
            env.checkPathValid realExpectFilePath
            if function = "" then return (some realExpectFilePath, ← jsonObj.get OP)
            else return (some realExpectFilePath, .str function)
        | _ => return (none, .none)
    | _ => .error (.attributeError "object has no attribute 'split'")
  else return (none, .none)

/-- `_check_set_error_threshold` -/
def checkSetErrorThreshold (jsonObj : PyVal) : Except PyError PyVal := do
  match ← jsonObj.get ERROR_THRESHOLD with
  | .none => return .none
  | .list [low, high] => do
      checkListFloat [low, high]
      return .list [low, high]
  | _ => .error (opTestGenException OP_TEST_GEN_INVALID_ERROR_THRESHOLD_ERROR)

end SubCaseDesign

/-! ## §5. Sub-cases. -/

/-- A case that is generated. -/
structure SubCase where
  op : PyVal
  stMode : Option PyVal
  inputDesc : List Desc
  outputDesc : List Desc
  attr : List PyVal
  caseName : String
  /-- `calc_expect_func_file`, `calc_expect_func_file_func` and `error_threshold`. -/
  expect : Option (String × PyVal × PyVal)

namespace SubCase

/-- `_parse_expect_output_param` -/
def parseExpectOutputParam (case : SubCase) (pyfile : Option String) (function errThr : PyVal) :
    SubCase :=
  match pyfile with
  | some file =>
      if file != "" && function.truthy then { case with expect := some (file, function, errThr) }
      else case
  | none => case

/-- The case as a dictionary. -/
def toPyVal (case : SubCase) : PyVal :=
  .dict ([("op", case.op)] ++ (case.stMode.map fun v => (ST_MODE, v)).toList ++
    [(INPUT_DESC, .list (case.inputDesc.map .dict)),
      (OUTPUT_DESC, .list (case.outputDesc.map .dict))] ++
    (if case.attr.isEmpty then [] else [(ATTR, .list case.attr)]) ++
    [(CASE_NAME, .str case.caseName)] ++
    match case.expect with
    | some (file, function, errThr) =>
        [("calc_expect_func_file", .str file), ("calc_expect_func_file_func", function),
          (ERROR_THRESHOLD, errThr)]
    | none => [])

end SubCase

/-- `SubCaseDesign`: the object, and the list `ATTR_REQUIRED_KEYS` that all objects
share. -/
structure SubCaseDesign where
  currentJsonPath : String
  jsonObj : PyVal
  caseIdx : Nat := 1
  totalCaseList : List SubCase
  report : OpSTReport
  attrRequiredKeys : List String

namespace SubCaseDesign

/-- `_add_case_to_total_case` -/
def addCaseToTotalCase (design : SubCaseDesign) (case : SubCase) (pyfile : Option String)
    (function errThr : PyVal) : SubCaseDesign :=
  let case := case.parseExpectOutputParam pyfile function errThr
  let caseInfo : OpSTCase := { caseName := case.caseName, opParams := case.toPyVal }
  let caseRpt := OpSTCaseReport.ofTrace { stCaseInfo := caseInfo }
  { design with
    caseIdx := design.caseIdx + 1
    totalCaseList := design.totalCaseList ++ [case]
    report := { design.report with reportList := design.report.reportList ++ [caseRpt] } }

end SubCaseDesign

end HwEfat.Main
