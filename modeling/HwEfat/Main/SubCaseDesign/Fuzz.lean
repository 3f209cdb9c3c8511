/-
  HwEfat.Main.SubCaseDesign.Fuzz — sub-cases by a fuzz function:
  `subcase_design_fuzz.py`, and what it uses of `subcase_design.py`.

  A field with the value `"fuzz"` takes what the fuzz function returns for it
  (`replaceFuzzParam`).  It is replaced in the copy of the case that the loop works on,
  so that the checks of a description return the description as it is then, too.
-/
import HwEfat.Main.SubCaseDesign.Cross

namespace HwEfat.Main

open HwEfat.Lib (PyError PyVal PyDict raiseIf pathJoin dirname splitextExt)

/-- What a fuzz design depends on: also the fuzz functions.  `fuzzFunc` imports a function
from a file, if it can; the function returns something at each call. -/
structure FuzzEnv extends DesignEnv where
  fuzzFunc : String → String → Option (Nat → Except PyError PyVal)

namespace SubCaseDesignFuzz

open SubCaseDesign (checkKeyExist checkShapeValid checkRangeValueValid checkListListValid
  checkRequiredKeyValid checkNameTypeValid checkExpectOutputParam
  checkSetErrorThreshold addCaseToTotalCase)

/-- The exception of the checks of the fuzz settings. -/
def invalidParam : PyError := opTestGenException OP_TEST_GEN_INVALID_PARAM_ERROR

/-- `OP_TEST_GEN_INVALID_PATH_ERROR` -/
def invalidPath : PyError := opTestGenException OP_TEST_GEN_INVALID_PATH_ERROR

/-! ## §1. Values of the fuzz function. -/

/-- `v[key] = a` -/
def setItem (v : PyVal) (key : String) (a : PyVal) : Except PyError PyVal :=
  match v with
  | .dict d => .ok (.dict (PyDict.set d key a))
  | _ => .error (.typeError "object does not support item assignment")

/-- `v.get(name)`, where the name comes from a JSON file. -/
def getNamed (v name : PyVal) : Except PyError PyVal :=
  match v, name with
  | .dict d, .str s => .ok ((d.lookup s).getD .none)
  | .dict _, .list _ => .error (.typeError "unhashable type: 'list'")
  | .dict _, .dict _ => .error (.typeError "unhashable type: 'dict'")
  | .dict _, _ => .ok .none
  | _, _ => .error (.attributeError "object has no attribute 'get'")

/-- `fuzz_dict.get(param_type).get(name).get(key)`, where an `AttributeError` is reported. -/
def fuzzResultParam (fuzzDict : PyVal) (paramType : String) (name : PyVal) (key : String) :
    Except PyError PyVal :=
  let value := do (← getNamed (← fuzzDict.get paramType) name).get key
  match value with
  | .error (.attributeError _) => .error invalidParam
  | value => value

/-- `_replace_fuzz_param` -/
def replaceFuzzParam (jsonObj : PyVal) (key paramType : String) (fuzzDict : PyVal) :
    Except PyError PyVal := do
  if (← jsonObj.get key).isStr "fuzz" then
    let name ← jsonObj.get "name"
    raiseIf name.isNone invalidParam
    setItem jsonObj key (← fuzzResultParam fuzzDict paramType name key)
  else return jsonObj

/-- `get_fuzz_func_return` -/
def getFuzzFuncReturn (fuzzReturn : PyVal) : Except PyError (List PyVal) :=
  match fuzzReturn with
  | .dict d => .ok [.dict d]
  | .list l => .ok l
  | _ => .error invalidData

/-! ## §2. Checks. -/

/-- The path and the function of `fuzz_impl`. -/
def fuzzImplOf (fuzzImplPathFunc : String) : Except PyError (String × String) :=
  match Lib.split fuzzImplPathFunc ":" with
  | [path] => .ok (path, FUZZ_FUNCTION)
  | [path, func] => .ok (path, String.ofList (func.toList.filter (· != ' ')))
  | _ => .error invalidPath

/-- `check_fuzz_valid` -/
def checkFuzzValid (env : FuzzEnv) (jsonPath : String) (jsonObj : PyVal) :
    Except PyError (Nat → Except PyError PyVal) := do
  match ← jsonObj.get FUZZ_IMPL with
  | .str fuzzImplPathFunc => do
      let (fuzzImplPath, fuzzFunc) ← fuzzImplOf fuzzImplPathFunc
      let realFuzzPath := pathJoin (dirname jsonPath) fuzzImplPath
      raiseIf (splitextExt realFuzzPath ≠ PY_FILE) invalidPath
      env.checkPathValid realFuzzPath
      match env.fuzzFunc realFuzzPath fuzzFunc with
      | some fuzzFunction => return fuzzFunction
      | none => .error invalidParam
  | _ => .error (.attributeError "object has no attribute 'split'")

/-- `_check_fuzz_case_num_valid` -/
def checkFuzzCaseNumValid (jsonObj : PyVal) : Except PyError Nat := do
  match (← jsonObj.get FUZZ_CASE_NUM).asInt with
  | some n => do
      raiseIf (¬ (0 < n ∧ n ≤ MAX_FUZZ_CASE_NUM)) invalidParam
      return n.toNat
  | none => .error invalidParam

/-- `_check_key_exist`, if the key is required. -/
def checkRequired (required : Bool) (jsonObj : PyVal) (key : String) : Except PyError Unit :=
  if required then checkKeyExist jsonObj key else .ok ()

/-- A list stands for its only profile. -/
def onlyProfile : PyVal → Except PyError PyVal
  | .list [v] => .ok v
  | .list _ => .error invalidData
  | v => .ok v

/-- `_check_fuzz_value_valid`; no support list supports everything. -/
def checkFuzzValueValid (jsonObj : PyVal) (key : String) (supportList : Option (List String))
    (paramType : String) (fuzzDict : PyVal) (required : Bool) :
    Except PyError (PyVal × PyVal) := do
  checkRequired required jsonObj key
  let jsonObj ← replaceFuzzParam jsonObj key paramType fuzzDict
  let paramValue ← onlyProfile (← jsonObj.get key)
  raiseIf (supportList.any fun l => !l.any fun s => paramValue.isStr s) invalidData
  return (paramValue, jsonObj)

/-- `_check_fuzz_shape_valid` -/
def checkFuzzShapeValid (jsonObj : PyVal) (key paramType : String) (fuzzDict : PyVal)
    (required : Bool) : Except PyError (PyVal × PyVal) := do
  checkRequired required jsonObj key
  let jsonObj ← replaceFuzzParam jsonObj key paramType fuzzDict
  match ← jsonObj.get key with
  | .list shapeValue => do
      checkShapeValid (.list shapeValue)
      return (.list shapeValue, jsonObj)
  | _ => .error invalidData

/-- `_check_fuzz_data_distribute_valid` -/
def checkFuzzDataDistributeValid (env : FuzzEnv) (jsonObj : PyVal) (paramType : String)
    (fuzzDict : PyVal) : Except PyError (PyVal × PyVal) := do
  if (← jsonObj.hasKey "data_distribute") && !(← jsonObj.hasKey VALUE) then
    checkFuzzValueValid jsonObj "data_distribute" (some env.whiteLists.dataDistributionList)
      paramType fuzzDict true
  else return (.str "uniform", jsonObj)

/-- `_check_fuzz_value_range_valid` -/
def checkFuzzValueRangeValid (jsonObj : PyVal) (paramType : String) (fuzzDict : PyVal) :
    Except PyError (PyVal × PyVal) := do
  if (← jsonObj.hasKey "value_range") && !(← jsonObj.hasKey VALUE) then
    let jsonObj ← replaceFuzzParam jsonObj "value_range" paramType fuzzDict
    match ← jsonObj.get "value_range" with
    | .list valueRange => do
        let valueRange :=
          match valueRange with
          | [.list inner] => .list inner
          | l => PyVal.list l
        checkRangeValueValid valueRange false
        return (valueRange, jsonObj)
    | _ => .error invalidData
  else return (← Lib.first SubCaseDesignCross.defaultValueRange, jsonObj)

/-- `_deal_with_value` for the field `value`, for fuzz cases: the number of profiles is not
checked. -/
def withValue (env : FuzzEnv) (jsonPath : String) (value : PyVal) (oneDesc : Desc) :
    Except PyError Desc :=
  if value.isNone then .ok oneDesc
  else do
    let valueList ← SubCaseDesign.checkValueValid env.toDesignEnv jsonPath [] value
    return oneDesc.set VALUE (← Lib.first valueList)

/-- `ConstInput.deal_with_const`, for fuzz cases. -/
def dealWithConst (isConst : PyVal) (oneDesc : Desc) : Except PyError Desc :=
  match isConst with
  | .none => .ok oneDesc
  | .bool b => .ok (oneDesc.set IS_CONST (.bool b))
  | _ => .error invalidData

/-- `_deal_with_value`, for fuzz cases. -/
def dealWithValue (env : FuzzEnv) (jsonPath : String) (inputDesc : PyVal) (oneDesc : Desc) :
    Except PyError Desc := do
  let oneDesc ← withValue env jsonPath (← inputDesc.get VALUE) oneDesc
  dealWithConst (← inputDesc.get IS_CONST) oneDesc

/-! ## §3. Descriptions. -/

/-- What inputs have besides: `value_range`, `data_distribute`, `value` and `is_const`. -/
def inputFields (env : FuzzEnv) (jsonPath : String) (descObj : PyVal) (fuzzDict : PyVal)
    (oneDesc : Desc) : Except PyError (Desc × PyVal) := do
  let (dataDistribute, descObj) ←
    checkFuzzDataDistributeValid env descObj INPUT_DESC fuzzDict
  let (valueRange, descObj) ← checkFuzzValueRangeValid descObj INPUT_DESC fuzzDict
  let oneDesc := oneDesc ++ [("value_range", valueRange), ("data_distribute", dataDistribute)]
  let descObj ← replaceFuzzParam descObj VALUE INPUT_DESC fuzzDict
  return (← dealWithValue env jsonPath descObj oneDesc, descObj)

/-- Only inputs have these fields. -/
def withInputFields (env : FuzzEnv) (jsonPath : String) (descType : String) (descObj : PyVal)
    (fuzzDict : PyVal) (oneDesc : Desc) : Except PyError (Desc × PyVal) :=
  if descType = INPUT_DESC then inputFields env jsonPath descObj fuzzDict oneDesc
  else .ok (oneDesc, descObj)

/-- The body of the loop of `_make_desc_list_ms_fuzz`. -/
def makeDescMsFuzz (env : FuzzEnv) (jsonPath : String) (fuzzDict : PyVal) (descType : String)
    (descObj : PyVal) : Except PyError (Desc × PyVal) := do
  let (typeValue, descObj) ← checkFuzzValueValid descObj "type"
    (some env.whiteLists.mindsporeTypeList) descType fuzzDict true
  let (shapeValue, descObj) ← checkFuzzShapeValid descObj "shape" descType fuzzDict true
  withInputFields env jsonPath descType descObj fuzzDict
    [("type", typeValue), ("shape", shapeValue)]

/-- `ori_shape`, if there is one. -/
def oriShapeValue (jsonObj : PyVal) (paramType : String) (fuzzDict : PyVal) :
    Except PyError (PyVal × PyVal) := do
  if (← jsonObj.get "ori_shape").isNone then return (.none, jsonObj)
  else checkFuzzShapeValid jsonObj "ori_shape" paramType fuzzDict false

/-- `_deal_with_ori_filed_data_fuzz` -/
def dealWithOriFiledDataFuzz (jsonObj : PyVal) (paramType : String) (fuzzDict : PyVal)
    (oneInputDesc : Desc) : Except PyError (Desc × PyVal) := do
  let (oriFormatValue, jsonObj) ←
    checkFuzzValueValid jsonObj "ori_format" none paramType fuzzDict false
  let (oriShapeValue, jsonObj) ← oriShapeValue jsonObj paramType fuzzDict
  if oriFormatValue.truthy && oriShapeValue.truthy then
    return ((oneInputDesc.set "ori_format" oriFormatValue).set "ori_shape" oriShapeValue, jsonObj)
  else return (oneInputDesc, jsonObj)

/-- `_check_fuzz_shape_range_valid` -/
def checkFuzzShapeRangeValid (jsonObj : PyVal) (paramType : String) (fuzzDict : PyVal) :
    Except PyError (PyVal × PyVal) := do
  let jsonObj ← replaceFuzzParam jsonObj SHAPE_RANGE paramType fuzzDict
  let shapeRange ← checkListListValid jsonObj SHAPE_RANGE
  forM shapeRange fun item => checkRangeValueValid item true
  return (.list shapeRange, jsonObj)

/-- `_deal_with_dynamic_shape_fuzz` -/
def dealWithDynamicShapeFuzz (jsonObj : PyVal) (paramType : String) (fuzzDict : PyVal)
    (oneInputDesc : Desc) : Except PyError (Desc × PyVal) := do
  if (← checkNotDynamicShape (← jsonObj.get "shape")) = 0 then return (oneInputDesc, jsonObj)
  else
    let (typicalShape, jsonObj) ←
      checkFuzzShapeValid jsonObj TYPICAL_SHAPE paramType fuzzDict true
    checkTypicalShapeValid typicalShape
    let (shapeRange, jsonObj) ← checkFuzzShapeRangeValid jsonObj paramType fuzzDict
    return ((oneInputDesc.set TYPICAL_SHAPE typicalShape).set SHAPE_RANGE shapeRange, jsonObj)

/-- `_deal_with_dynamic_shape_fuzz`, if there is a `typical_shape`. -/
def withDynamicShapeFuzz (jsonObj : PyVal) (paramType : String) (fuzzDict : PyVal)
    (oneInputDesc : Desc) : Except PyError (Desc × PyVal) := do
  if (← jsonObj.get TYPICAL_SHAPE).isNone then return (oneInputDesc, jsonObj)
  else dealWithDynamicShapeFuzz jsonObj paramType fuzzDict oneInputDesc

/-- The body of the loop of `_make_desc_list_fuzz`. -/
def makeDescFuzz (env : FuzzEnv) (jsonPath : String) (fuzzDict : PyVal) (descType : String)
    (descObj : PyVal) : Except PyError (Desc × PyVal) := do
  let (formatValue, descObj) ← checkFuzzValueValid descObj "format"
    (some env.whiteLists.formatMap) descType fuzzDict true
  let (typeValue, descObj) ← checkFuzzValueValid descObj "type"
    (some env.whiteLists.typeList) descType fuzzDict true
  let (shapeValue, descObj) ← checkFuzzShapeValid descObj "shape" descType fuzzDict true
  let (oneDesc, descObj) ← withInputFields env jsonPath descType descObj fuzzDict
    [("format", formatValue), ("type", typeValue), ("shape", shapeValue)]
  let (oneDesc, descObj) ← dealWithOriFiledDataFuzz descObj descType fuzzDict oneDesc
  let (oneDesc, descObj) ← withDynamicShapeFuzz descObj descType fuzzDict oneDesc
  let name ← descObj.get "name"
  return (if name.truthy then oneDesc.set "name" name else oneDesc, descObj)

/-- The loops over the descriptions: in `_make_desc_list_fuzz` the inputs may be empty.  The
descriptions are those of the case from then on. -/
def makeDescListFuzz (jsonObj : PyVal) (descType : String) (demanded : Bool)
    (makeDesc : String → PyVal → Except PyError (Desc × PyVal)) :
    Except PyError (List Desc × PyVal) := do
  let descs ← jsonObj.getItem descType
  if (← descs.len) = 0 then
    raiseIf (demanded = true) invalidData
    return ([], jsonObj)
  else
    let made ← (← descs.iter).mapM (makeDesc descType)
    return (made.map Prod.fst, ← setItem jsonObj descType (.list (made.map Prod.snd)))

/-! ## §4. Attributes. -/

/-- The attribute with the value that the fuzz function returns for it. -/
def fuzzAttr (attr fuzzDict : PyVal) : Except PyError PyVal :=
  if fuzzDict.isNone then .ok attr else replaceFuzzParam attr "value" "attr" fuzzDict

/-- `_check_attr_value_valid` -/
def checkAttrValue (attr fuzzDict : PyVal) : Except PyError PyVal := do
  let attr ← fuzzAttr attr fuzzDict
  checkAttrValueValid attr
  return attr

/-- The body of the loop of `_check_attr_valid`: the attributes and names so far, and the
list of required keys. -/
def checkAttr (fuzzDict : PyVal) (st : List PyVal × List String × List String) (attr : PyVal) :
    Except PyError (List PyVal × List String × List String) := do
  let (attrList, nameList, keys) := st
  let keys ← checkRequiredKeyValid attr keys
  let name ← checkNameTypeValid attr "name"
  raiseIf (name ∈ nameList) invalidData
  let _ ← checkNameTypeValid attr "type"
  let attr ← checkAttrValue attr fuzzDict
  return (attrList ++ [attr], nameList ++ [name], keys)

/-- `_check_attr_valid` with a fuzz dictionary: also the case and the list of required keys
as they are then. -/
def checkAttrValidFuzz (jsonObj : PyVal) (fuzzDict : PyVal) (attrRequiredKeys : List String) :
    Except PyError (List PyVal × PyVal × List String) := do
  if !(← jsonObj.hasKey ATTR) then return ([], jsonObj, attrRequiredKeys)
  else
    match ← jsonObj.getItem ATTR with
    | .list attrs => do
        let (attrList, _, keys) ← attrs.foldlM (checkAttr fuzzDict) ([], [], attrRequiredKeys)
        return (attrList, ← setItem jsonObj ATTR (.list attrList), keys)
    | _ => .error invalidData

/-! ## §5. Cases. -/

/-- `case['case_name']`: padded in either mode. -/
def caseNameOf (ms : Bool) (casePrefix : String) (caseIdx : Nat) (first : Desc) :
    Except PyError String := do
  let typeStr ← SubCaseDesignCross.joined (first.lookup "type")
  if ms then return casePrefix ++ SubCaseDesignCross.padded caseIdx ++ "_" ++ typeStr
  else
    let formatStr ← SubCaseDesignCross.joined (first.lookup "format")
    return casePrefix ++ SubCaseDesignCross.padded caseIdx ++ "_" ++ formatStr ++ "_" ++ typeStr

/-- The descriptions of the inputs and of the outputs, and the case as it is then. -/
def makeDescsFuzz (env : FuzzEnv) (jsonPath : String) (oriJson fuzzDict : PyVal) (ms : Bool) :
    Except PyError (List Desc × List Desc × PyVal) := do
  let makeDesc :=
    if ms then makeDescMsFuzz env jsonPath fuzzDict else makeDescFuzz env jsonPath fuzzDict
  let (inputDescList, oriJson) ← makeDescListFuzz oriJson INPUT_DESC ms makeDesc
  let (outputDescList, oriJson) ← makeDescListFuzz oriJson OUTPUT_DESC true makeDesc
  return (inputDescList, outputDescList, oriJson)

/-- The settings of a design that all its cases share. -/
structure Settings where
  casePrefix : String
  pyfile : Option String
  function : PyVal
  errThr : PyVal

/-- The body of the inner loop of `subcase_generate`: one value of the fuzz function. -/
def fuzzCase (env : FuzzEnv) (settings : Settings) (st : SubCaseDesign × PyVal)
    (fuzzDict : PyVal) : Except PyError (SubCaseDesign × PyVal) := do
  let (design, oriJson) := st
  let ms ← SubCaseDesignCross.isMs oriJson
  let (inputDesc, outputDesc, oriJson) ←
    makeDescsFuzz env design.currentJsonPath oriJson fuzzDict ms
  let (attr, oriJson, attrRequiredKeys) ←
    checkAttrValidFuzz oriJson fuzzDict design.attrRequiredKeys
  let caseName ← caseNameOf ms settings.casePrefix design.caseIdx (← Lib.first outputDesc)
  let op ← oriJson.getItem OP
  let stMode := if ms then some (PyVal.str "ms_python_train") else none
  let case : SubCase := { op, stMode, inputDesc, outputDesc, attr, caseName, expect := none }
  let design := { design with attrRequiredKeys := attrRequiredKeys }
  return (design.addCaseToTotalCase case settings.pyfile settings.function settings.errThr, oriJson)

/-- The body of the outer loop: one call of the fuzz function, on a fresh copy of the case. -/
def fuzzRound (env : FuzzEnv) (settings : Settings) (fuzzFunction : Nat → Except PyError PyVal)
    (design : SubCaseDesign) (round : Nat) : Except PyError SubCaseDesign := do
  let fuzzReturnList ← getFuzzFuncReturn (← fuzzFunction round)
  let (design, _) ← fuzzReturnList.foldlM (fuzzCase env settings) (design, design.jsonObj)
  return design

/-- `case_name.replace('/', '_') + '_fuzz_case_'` -/
def casePrefixOf (jsonObj : PyVal) : Except PyError String := do
  match ← jsonObj.get CASE_NAME with
  | .str caseName => return SubCaseDesignCross.replaceSlash caseName ++ "_fuzz_case_"
  | _ => .error (.attributeError "object has no attribute 'replace'")

/-- `subcase_generate` -/
def subcaseGenerate (env : FuzzEnv) (design : SubCaseDesign) : Except PyError SubCaseDesign := do
  let fuzzFunction ← checkFuzzValid env design.currentJsonPath design.jsonObj
  let loopNum ← checkFuzzCaseNumValid design.jsonObj
  let casePrefix ← casePrefixOf design.jsonObj
  let (pyfile, function) ←
    checkExpectOutputParam env.toDesignEnv design.currentJsonPath design.jsonObj
  let errThr ← checkSetErrorThreshold design.jsonObj
  (List.range loopNum).foldlM
    (fuzzRound env { casePrefix, pyfile, function, errThr } fuzzFunction) design

end SubCaseDesignFuzz

end HwEfat.Main
