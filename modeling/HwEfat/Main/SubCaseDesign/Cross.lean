/-
  HwEfat.Main.SubCaseDesign.Cross — sub-cases by crossing profiles:
  `subcase_design_cross.py`.

  `subcase_generate` reads the descriptions of a case, crosses the profiles of each input
  and output (`crossTensor`), counts the cases (`getCount`) and puts together case after
  case (`getSubTestCases`).  What comes before the last step is `prepare` here.

  A description gets its name in the list that it is taken from, so these lists are part
  of the state of the loop.  A description that several cases share is one object in the
  source; it never changes once a case has it, so here it is a value.
-/
import HwEfat.Lib.Product
import HwEfat.Main.SubCaseDesign.Def

namespace HwEfat.Main

open HwEfat.Lib (PyError PyVal PyDict raiseIf product)

/-! ## §1. Crossing. -/

/-- `_get_data_list`.  An entry is the list of the values of a tuple, or of one value. -/
def getDataList (eachCrossList : List (List PyVal)) : List PyVal := eachCrossList.flatten

/-- `combine_ori_field_to_cross`: `ori_format` goes with `format`, and `ori_shape` with
`shape`. -/
def combineOriFieldToCross (tensor : Tensor) (crossKeyList : List String) :
    Except PyError (List String × List (List PyVal)) := do
  let pairs := fun (l m : List PyVal) => (l.zip m).map fun e => [e.1, e.2]
  let crossList ← (crossKeyList.filter fun key => !(["format", "shape"].contains key)).mapM
    fun key => tensor.getItem key
  let oriFieldCrossKeyList := (crossKeyList.insertIdx 1 "ori_format").insertIdx 3 "ori_shape"
  let combineFormatOriFormatList := pairs (← tensor.getItem "format")
    (← tensor.getItem "ori_format")
  let combineShapeOriShapeList := pairs (← tensor.getItem "shape") (← tensor.getItem "ori_shape")
  let orthonormalize := product (combineFormatOriFormatList :: combineShapeOriShapeList ::
    crossList.map fun l => l.map fun v => [v])
  return (oriFieldCrossKeyList, orthonormalize.map getDataList)

namespace SubCaseDesignCross

/-- The body of the loop of `_get_case_list`. -/
def getCase (tensor : Tensor) (curParams : Desc) : Except PyError Desc :=
  let curParams := SubCaseDesign.checkCurParamsUndefined curParams
  if (curParams.lookup "shape").any PyVal.truthy then
    setTypicalShapeInCurParams tensor curParams
  else .ok curParams

/-- `_get_case_list` -/
def getCaseList (tensor : Tensor) (crossList : List (List PyVal)) (crossKeyList : List String) :
    Except PyError (List Desc) :=
  crossList.mapM fun case => getCase tensor (crossKeyList.zip case)

/-- The body of the loop of `_cross_tensor`. -/
def crossTensor (opCrossKeyList : List String) (tensor : Tensor) : Except PyError (List Desc) := do
  let crossKeyList := addNewKeyToCrossList tensor opCrossKeyList
  if filled tensor "ori_format" && filled tensor "ori_shape" then
    let (oriFieldCrossKeyList, resultCrossList) ← combineOriFieldToCross tensor crossKeyList
    getCaseList tensor resultCrossList oriFieldCrossKeyList
  else
    let crossList ← crossKeyList.mapM fun key => tensor.getItem key
    getCaseList tensor (product crossList) crossKeyList

/-- `_cross_tensor` -/
def crossTensors (tensorList : List Tensor) (opCrossKeyList : List String) :
    Except PyError (List (List Desc)) :=
  tensorList.mapM (crossTensor opCrossKeyList)

/-! ## §2. Descriptions of inputs and outputs. -/

/-- `[[0.1, 1.0]]`, with the double that `0.1` is. -/
def defaultValueRange : List PyVal :=
  [.list [.float (.finite (3602879701896397 / 36028797018963968)), .float (.finite 1)]]

/-- `_get_data_distribute_list` -/
def getDataDistributeList (env : DesignEnv) (inputDesc : PyVal) : Except PyError (List PyVal) := do
  if (← inputDesc.hasKey "data_distribute") && !(← inputDesc.hasKey VALUE) then
    SubCaseDesign.checkListStrValid inputDesc "data_distribute"
      env.whiteLists.dataDistributionList
  else return [.str "uniform"]

/-- `_get_value_range_list` -/
def getValueRangeList (inputDesc : PyVal) : Except PyError (List PyVal) := do
  if (← inputDesc.hasKey "value_range") && !(← inputDesc.hasKey VALUE) then
    let valueRangeList ← SubCaseDesign.checkListListValid inputDesc "value_range"
    forM valueRangeList fun item => SubCaseDesign.checkRangeValueValid item false
    return valueRangeList
  else return defaultValueRange

/-- The fields `shape` of a description, checked. -/
def getShapeList (desc : PyVal) : Except PyError (List PyVal) := do
  let shapeList ← SubCaseDesign.checkListListValid desc "shape"
  forM shapeList SubCaseDesign.checkShapeValid
  return shapeList

/-- The fields that inputs and outputs have in common. -/
def withOriFields (formatList typeList shapeList : List PyVal)
    (oriFiledList : Option (List PyVal × List PyVal)) : Tensor :=
  match oriFiledList with
  | some (oriFormat, oriShape) =>
      [("format", formatList), ("ori_format", oriFormat), ("type", typeList),
        ("shape", shapeList), ("ori_shape", oriShape)]
  | none => [("format", formatList), ("type", typeList), ("shape", shapeList)]

/-- `_get_dynamic_shape_info`, if there is a `typical_shape`. -/
def withDynamicShapeInfo (desc : PyVal) (tensor : Tensor) : Except PyError Tensor := do
  if (← desc.get TYPICAL_SHAPE).isNone then return tensor
  else SubCaseDesign.getDynamicShapeInfo desc tensor

/-- The body of the loop of `_make_input_desc_list`. -/
def makeInputDesc (env : DesignEnv) (jsonPath : String) (inputDesc : PyVal) :
    Except PyError Tensor := do
  let formatList ← SubCaseDesign.checkListStrValid inputDesc "format" env.whiteLists.formatMap
  let typeList ← SubCaseDesign.checkListStrValid inputDesc "type" env.whiteLists.typeList
  let shapeList ← getShapeList inputDesc
  let dataDistributeList ← getDataDistributeList env inputDesc
  let valueRangeList ← getValueRangeList inputDesc
  let oriFiledList ← SubCaseDesign.getOriFiledData inputDesc formatList shapeList
  let oneInputDesc ← withDynamicShapeInfo inputDesc
    (withOriFields formatList typeList shapeList oriFiledList ++
      [("value_range", valueRangeList), ("data_distribute", dataDistributeList)])
  SubCaseDesign.dealWithValue env jsonPath inputDesc oneInputDesc

/-- The body of the loop of `_make_output_desc_list`. -/
def makeOutputDesc (env : DesignEnv) (outputDesc : PyVal) : Except PyError Tensor := do
  let formatList ← SubCaseDesign.checkListStrValid outputDesc "format" env.whiteLists.formatMap
  let typeList ← SubCaseDesign.checkListStrValid outputDesc "type" env.whiteLists.typeList
  let shapeList ← getShapeList outputDesc
  let oriFiledList ← SubCaseDesign.getOriFiledData outputDesc formatList shapeList
  withDynamicShapeInfo outputDesc (withOriFields formatList typeList shapeList oriFiledList)

/-- The body of the loop of `_make_input_desc_list_ms`. -/
def makeInputDescMs (env : DesignEnv) (jsonPath : String) (inputDesc : PyVal) :
    Except PyError Tensor := do
  let typeList ← SubCaseDesign.checkListStrValid inputDesc "type"
    env.whiteLists.mindsporeTypeList
  let shapeList ← getShapeList inputDesc
  let dataDistributeList ← getDataDistributeList env inputDesc
  let valueRangeList ← getValueRangeList inputDesc
  SubCaseDesign.dealWithValue env jsonPath inputDesc
    [("type", typeList), ("shape", shapeList), ("value_range", valueRangeList),
      ("data_distribute", dataDistributeList)]

/-- The body of the loop of `_make_output_desc_list_ms`. -/
def makeOutputDescMs (env : DesignEnv) (outputDesc : PyVal) : Except PyError Tensor := do
  let typeList ← SubCaseDesign.checkListStrValid outputDesc "type"
    env.whiteLists.mindsporeTypeList
  let shapeList ← getShapeList outputDesc
  return [("type", typeList), ("shape", shapeList)]

/-- The loops of the four methods; all but `_make_input_desc_list` demand a
description. -/
def makeDescList (jsonObj : PyVal) (key : String) (demanded : Bool)
    (makeDesc : PyVal → Except PyError Tensor) : Except PyError (List Tensor) := do
  let descs ← jsonObj.getItem key
  raiseIf (demanded ∧ (← descs.len) = 0) invalidData
  (← descs.iter).mapM makeDesc

/-- `check_number_match` -/
def checkNumberMatch (key : String) (count : Nat) (descList : List Tensor) :
    Except PyError Unit :=
  forM descList fun item => do raiseIf (count ≠ (← item.getItem key).length) invalidData

/-- `_check_value_number_valid` with `format`, `type` and `shape`, and
`_check_value_number_valid_ms` with `type` and `shape`. -/
def checkValueNumberValid (keys : List String) (inputDescList outputDescList : List Tensor) :
    Except PyError Unit :=
  match inputDescList with
  | [] => .ok ()
  | inputDesc :: _ =>
      forM keys fun key => do
        let count := (← inputDesc.getItem key).length
        checkNumberMatch key count inputDescList
        checkNumberMatch key count outputDescList

/-! ## §3. Before the cases are put together. -/

/-- `json_obj.get(ST_MODE) == "ms_python_train"` -/
def isMs (jsonObj : PyVal) : Except PyError Bool := do
  return (← jsonObj.get ST_MODE).isStr "ms_python_train"

/-- The inputs and outputs of a case, and the fields that are crossed. -/
structure Descs where
  inputDescList : List Tensor
  outputDescList : List Tensor
  inputCrossList : List String
  outputCrossList : List String

/-- The input and output descriptions of either mode. -/
def makeDescs (env : DesignEnv) (jsonPath : String) (jsonObj : PyVal) : Except PyError Descs := do
  if ← isMs jsonObj then
    let inputDescList ← makeDescList jsonObj INPUT_DESC true (makeInputDescMs env jsonPath)
    let outputDescList ← makeDescList jsonObj OUTPUT_DESC true (makeOutputDescMs env)
    return ⟨inputDescList, outputDescList, MS_INPUT_CROSS_LIST, MS_OUTPUT_CROSS_LIST⟩
  else
    let inputDescList ← makeDescList jsonObj INPUT_DESC false (makeInputDesc env jsonPath)
    let outputDescList ← makeDescList jsonObj OUTPUT_DESC true (makeOutputDesc env)
    return ⟨inputDescList, outputDescList, INPUT_CROSS_LIST, OUTPUT_CROSS_LIST⟩

/-- `self.multi`, once the descriptions are made. -/
def Descs.multi (descs : Descs) : Bool :=
  (descs.inputDescList ++ descs.outputDescList).any fun tensor =>
    tensor.any fun e => decide (1 < e.2.length)

/-- `_check_input_count` -/
def checkInputCount (caseList : List (List Desc)) : Except PyError Unit :=
  raiseIf ((caseList.map List.length).dedup.length ≠ 1) invalidData

/-- `_get_count` -/
def getCount (inputCaseList outputCaseList : List (List Desc)) : Except PyError Nat := do
  if inputCaseList.length > 1 then
    checkInputCount inputCaseList
    return (← Lib.first inputCaseList).length
  else
    checkInputCount outputCaseList
    return (← Lib.first outputCaseList).length

/-- `case_dict`, and what `_get_sub_test_cases` is given besides. -/
structure Prepared where
  input : List (List Desc)
  output : List (List Desc)
  count : Nat
  casePrefix : String
  attrList : List PyVal
  attrRequiredKeys : List String

/-- `case_name.replace('/', '_')` -/
def replaceSlash (caseName : String) : String :=
  String.ofList (caseName.toList.map fun c => if c = '/' then '_' else c)

/-- `subcase_generate` up to `_get_sub_test_cases`. -/
def prepare (env : DesignEnv) (design : SubCaseDesign) : Except PyError Prepared := do
  let jsonObj := design.jsonObj
  let descs ← makeDescs env design.currentJsonPath jsonObj
  let (attrList, attrRequiredKeys) ←
    SubCaseDesign.checkAttrValid jsonObj design.attrRequiredKeys
  checkValueNumberValid descs.outputCrossList descs.inputDescList descs.outputDescList
  let input ← crossTensors descs.inputDescList descs.inputCrossList
  let output ← crossTensors descs.outputDescList descs.outputCrossList
  let count ← getCount input output
  let ms ← isMs jsonObj
  match ← jsonObj.get CASE_NAME with
  | .str caseName =>
      let kind := if !descs.multi then "case_" else if ms then "sub_" else "sub_case_"
      return ⟨input, output, count, replaceSlash caseName ++ "_" ++ kind, attrList,
        attrRequiredKeys⟩
  | _ => .error (.attributeError "object has no attribute 'replace'")

/-! ## §4. Putting the cases together. -/

/-- `json_obj[key][i].get('name')` -/
def nameOf (jsonObj : PyVal) (key : String) (i : Nat) : Except PyError PyVal := do
  (← (← jsonObj.getItem key).item i).get "name"

/-- `cases[index].update({'name': name})`, if there is a name. -/
def updateName (name : PyVal) (cases : List Desc) (index : Nat) : Except PyError (List Desc) :=
  if name.truthy then
    match cases[index]? with
    | some desc => .ok (cases.set index (desc.set "name" name))
    | none => .error (.indexError "list index out of range")
  else .ok cases

/-- `cases[index]` -/
def caseAt (cases : List Desc) (index : Nat) : Except PyError Desc :=
  match cases[index]? with
  | some desc => .ok desc
  | none => .error (.indexError "list index out of range")

/-- Takes the description at `use` for the input or output `i`, after the one at `index`
has got its name. -/
def takeDesc (jsonObj : PyVal) (key : String) (index use : Nat) (cases : List Desc) (i : Nat) :
    Except PyError (Desc × List Desc) := do
  let cases ← updateName (← nameOf jsonObj key i) cases index
  return (← caseAt cases use, cases)

/-- The descriptions of all inputs or outputs, and the lists as they are then. -/
def takeDescs (jsonObj : PyVal) (key : String) (index use : Nat) (caseList : List (List Desc)) :
    Except PyError (List Desc × List (List Desc)) := do
  let taken ← caseList.zipIdx.mapM fun e => takeDesc jsonObj key index use e.1 e.2
  return taken.unzip

/-- `output_index` -/
def outputIndex (output : List (List Desc)) (index : Nat) : Except PyError Nat := do
  if index ≥ (← Lib.first output).length then return index % output.length else return index

/-- `'%03d' % i` -/
def padded (i : Nat) : String :=
  (if i < 10 then "00" else if i < 100 then "0" else "") ++ toString i

/-- An item of `'_'.join`. -/
def joined (value : Option PyVal) : Except PyError String :=
  match value with
  | some (.str s) => .ok s
  | _ => .error (.typeError "sequence item: expected str instance")

/-- `case['case_name']` -/
def caseNameOf (ms : Bool) (casePrefix : String) (caseIdx : Nat) (first : Desc) :
    Except PyError String :=
  if ms then do
    let typeStr ← joined (first.lookup "type")
    return casePrefix ++ toString caseIdx ++ "_" ++ typeStr
  else do
    let formatStr ← joined (first.lookup "format")
    let typeStr ← joined (first.lookup "type")
    return casePrefix ++ padded caseIdx ++ "_" ++ formatStr ++ "_" ++ typeStr

/-- `json_obj[ST_MODE]`, in the cases of that mode. -/
def stModeOf (ms : Bool) (jsonObj : PyVal) : Except PyError (Option PyVal) :=
  if ms then do return some (← jsonObj.getItem ST_MODE) else .ok none

/-- The state of the loop: `case_dict` and the object. -/
structure LoopState where
  input : List (List Desc)
  output : List (List Desc)
  design : SubCaseDesign

/-- The body of the loop of `_get_sub_test_cases`. -/
def subTestCase (prepared : Prepared) (pyfile : Option String) (function errThr : PyVal)
    (st : LoopState) (index : Nat) : Except PyError LoopState := do
  let jsonObj := st.design.jsonObj
  let ms ← isMs jsonObj
  let op ← jsonObj.getItem OP
  let stMode ← stModeOf ms jsonObj
  let (inputDesc, input) ← takeDescs jsonObj INPUT_DESC index index st.input
  let use ← outputIndex st.output index
  let (outputDesc, output) ← takeDescs jsonObj OUTPUT_DESC index use st.output
  let caseName ← caseNameOf ms prepared.casePrefix st.design.caseIdx (← Lib.first outputDesc)
  let case : SubCase :=
    { op, stMode, inputDesc, outputDesc, attr := prepared.attrList, caseName, expect := none }
  return { input, output, design := st.design.addCaseToTotalCase case pyfile function errThr }

/-- `_get_sub_test_cases` -/
def getSubTestCases (env : DesignEnv) (design : SubCaseDesign) (prepared : Prepared) :
    Except PyError SubCaseDesign := do
  let (pyfile, function) ←
    SubCaseDesign.checkExpectOutputParam env design.currentJsonPath design.jsonObj
  let errThr ← SubCaseDesign.checkSetErrorThreshold design.jsonObj
  let st ← (List.range prepared.count).foldlM (subTestCase prepared pyfile function errThr)
    ⟨prepared.input, prepared.output, design⟩
  return st.design

/-- `subcase_generate`; it returns the list of cases of the object. -/
def subcaseGenerate (env : DesignEnv) (design : SubCaseDesign) : Except PyError SubCaseDesign := do
  let prepared ← prepare env design
  getSubTestCases env { design with attrRequiredKeys := prepared.attrRequiredKeys } prepared

end SubCaseDesignCross

end HwEfat.Main
