/-
  HwEfat.Main.AclOpJson.Def — `acl_op.json` of the test cases: `create_acl_op_json_content` of
  `atc_transform_om.py`.

  The attributes of a test case are dictionaries that other cases may have as well, so a
  case holds references to them, and `acl_op.json` is made of the very same dictionaries.
  The other objects of a case are read only, and stand for themselves.

  Constant inputs are drawn, written and read as the data of the inputs are; the arrays and
  the operating system are those of a `DataEnv`.
-/
import HwEfat.Lib.Heap
import HwEfat.Main.DataGenerator.Def

namespace HwEfat.Main

open HwEfat.Lib (Heap PyError PyVal PyDict PyM pathJoin)

namespace AclOpJson

open DataGenerator (DataEnv field genData inputPath openFile)

/-! ## §1. `ConstManager`. -/

def OP_TEST_GEN_INVALID_INPUT_NAME_ERROR : Int := 114

def VALUE_RANGE : String := "value_range"
def CONST_VALUE : String := "const_value"

def ATTR_TYPE_SUPPORT_TYPE_MAP : PyDict String :=
  [("int8", "DT_INT8"), ("int32", "DT_INT32"), ("int16", "DT_INT16"), ("int64", "DT_INT64"),
    ("uint8", "DT_UINT8"), ("uint16", "DT_UINT16"), ("uint32", "DT_UINT32"),
    ("uint64", "DT_UINT64"), ("float", "DT_FLOAT"), ("float16", "DT_FLOAT16"),
    ("float32", "DT_FLOAT"), ("bool", "DT_BOOL"), ("double", "DT_DOUBLE"),
    ("complex64", "DT_COMPLEX64"), ("complex128", "DT_COMPLEX128")]

/-- The check of a case accepts the values that are converted. -/
example : ATTR_TYPE_SUPPORT_TYPE_MAP.map Prod.fst = ATTR_TYPE_SUPPORT_TYPE_MAP_KEYS := rfl

/-! ## §2. The objects. -/

/-- An attribute. -/
abbrev Attr : Type := PyDict PyVal

/-- A case of `testcase_list`, with references to its attributes; it has inputs and outputs, as
every case that is generated. -/
structure Testcase where
  op : PyVal
  stMode : Option PyVal
  inputDesc : List Desc
  outputDesc : List Desc
  attr : Option (List Nat)
  caseName : String
  expect : Option (String × PyVal × PyVal)

/-- The attribute behind a reference. -/
def attrOf (attrs : Heap Attr) (ref : Nat) : Attr := (attrs.read ref).getD []

/-- The case as the other components read it. -/
def Testcase.subCase (attrs : Heap Attr) (case : Testcase) : SubCase where
  op := case.op
  stMode := case.stMode
  inputDesc := case.inputDesc
  outputDesc := case.outputDesc
  attr := (case.attr.getD []).map fun ref => .dict (attrOf attrs ref)
  caseName := case.caseName
  expect := case.expect

/-- The attributes, and the files. -/
structure AclState (α : Type) where
  attrs : Heap Attr
  files : String → Option α

structure AclEnv (α : Type) extends DataEnv α where
  /-- `np.array(value)` -/
  asArray : PyVal → Except PyError α
  /-- `array.flatten().tolist()` -/
  tolist : α → PyVal
  chmod : String → Except PyError Unit
  /-- `json.dumps(content, sort_keys=True, indent=2)` -/
  dumps : List PyVal → Except PyError String

abbrev Acl (α : Type) : Type → Type := PyM (AclState α)

section Content

variable {α : Type}

/-! ## §3. Descriptions. -/

/-- `_get_trans_data_info`: shape, type and format. -/
def getTransDataInfo (descDic : Desc) : PyVal × PyVal × PyVal :=
  if (OPTIONAL_TYPE_LIST.any fun s => (field descDic "format").isStr s) ||
      (field descDic "type").isStr TYPE_UNDEFINED then
    (.list [], .str TYPE_UNDEFINED, .str TYPE_UNDEFINED)
  else (field descDic "shape", field descDic "type", field descDic "format")

/-- The directory of `_generate_const_value`. -/
def constDir (outputPath : String) : String :=
  pathJoin (pathJoin (pathJoin (pathJoin outputPath "run") "out") "test_data") "data"

/-- `_generate_const_value` -/
def generateConstValue (env : AclEnv α) (data : α) (outputPath caseName : String) (index : Nat) :
    Acl α PyVal := do
  PyM.lift (env.makeDirs (constDir outputPath))
  let filePath := inputPath (constDir outputPath) caseName index
  PyM.lift (env.save filePath)
  PyM.modify fun s => { s with files := Function.update s.files filePath (some data) }
  PyM.lift (env.chmod filePath)
  return env.tolist data

/-- The constant value of `add_const_info_in_acl_json`. -/
def constValue (env : AclEnv α) (descDict : Desc) (outputPath caseName : String) (index : Nat) :
    Acl α PyVal := do
  let dtype := field descDict "type"
  if (field descDict VALUE).truthy then
    match field descDict VALUE with
    | .str path => do
        let npType ← PyM.lift (env.npType dtype)
        let s ← PyM.read
        let data ← PyM.lift (openFile (s.files path))
        return env.tolist (← PyM.lift (env.fromfile data (.str npType)))
    | value => return env.tolist (← PyM.lift (env.asArray value))
  else
    match ← PyM.lift (field descDict VALUE_RANGE).iter with
    | [rangeMin, rangeMax] => do
        let data ← PyM.lift (genData env.toDataEnv
          (inputPath (constDir outputPath) caseName index) (field descDict "shape") rangeMin
          rangeMax dtype (field descDict DATA_DISTRIBUTE))
        generateConstValue env data outputPath caseName index
    | l => PyM.lift (.error (.valueError
        (if l.length < 2 then "not enough values to unpack" else "too many values to unpack")))

/-- `add_const_info_in_acl_json` -/
def addConstInfoInAclJson (env : AclEnv α) (descDict resDescDic : Desc)
    (outputPath caseName : String) (index : Nat) : Acl α Desc := do
  match field descDict IS_CONST with
  | .bool true => do
      let value ← constValue env descDict outputPath caseName index
      return (resDescDic.set IS_CONST (.bool true)).set CONST_VALUE value
  | _ => return resDescDic

/-- The description in `acl_op.json` before anything is added to it. -/
def transDesc (descDic : Desc) : Desc :=
  let (dataShape, dataType, dataFormat) := getTransDataInfo descDic
  if !(field descDic "ori_format").isNone && !(field descDic "ori_shape").isNone then
    [("format", dataFormat), ("origin_format", field descDic "ori_format"), ("type", dataType),
      ("shape", dataShape), ("origin_shape", field descDic "ori_shape")]
  else [("format", dataFormat), ("type", dataType), ("shape", dataShape)]

/-- The name of the description, that none before it may have. -/
def addName (resDescDic : Desc) (inputName : PyVal) (inputNameList : List PyVal) :
    Except PyError (Desc × List PyVal) :=
  if inputName.isNone then .ok (resDescDic, inputNameList)
  else if inputNameList.any fun name => inputName.eq name then
    .error (opTestGenException OP_TEST_GEN_INVALID_INPUT_NAME_ERROR)
  else .ok (resDescDic.set "name" inputName, inputNameList ++ [inputName])

/-- The body of the loop of `_get_desc_dic`, with `input_name_list`. -/
def getDesc (env : AclEnv α) (outputPath caseName : String) (index : Nat) (descDic : Desc)
    (inputNameList : List PyVal) : Acl α (Desc × List PyVal) := do
  let resDescDic ←
    addConstInfoInAclJson env descDic (transDesc descDic) outputPath caseName index
  let (resDescDic, inputNameList) ←
    PyM.lift (addName resDescDic (field descDic "name") inputNameList)
  let shapeRange := field descDic SHAPE_RANGE
  return (if shapeRange.truthy then resDescDic.set SHAPE_RANGE shapeRange else resDescDic,
    inputNameList)

/-- `_get_desc_dic`, from an index on. -/
def getDescDic (env : AclEnv α) (outputPath caseName : String) :
    Nat → List Desc → List PyVal → Acl α (List Desc)
  | _, [], _ => return []
  | index, descDic :: rest, inputNameList => do
      let (resDescDic, inputNameList) ←
        getDesc env outputPath caseName index descDic inputNameList
      return resDescDic :: (← getDescDic env outputPath caseName (index + 1) rest inputNameList)

/-- The inputs and the outputs of `_get_testcase_dict`. -/
def getDescs (env : AclEnv α) (outputPath : String) (case : Testcase) :
    Acl α (List Desc × List Desc) := do
  let inputDesc ← getDescDic env outputPath case.caseName 0 case.inputDesc []
  let outputDesc ← getDescDic env outputPath case.caseName 0 case.outputDesc []
  return (inputDesc, outputDesc)

/-! ## §4. Attributes. -/

/-- `ATTR_TYPE_SUPPORT_TYPE_MAP.get(value)`, if the value is one of the keys. -/
def supportType : PyVal → Except PyError (Option String)
  | .str s => .ok (ATTR_TYPE_SUPPORT_TYPE_MAP.lookup s)
  | .list _ => .error (.typeError "unhashable type: 'list'")
  | .dict _ => .error (.typeError "unhashable type: 'dict'")
  | _ => .ok none

/-- The body of the loop over the attributes: the value is written into the attribute of the
case. -/
def convertAttr (ref : Nat) : Acl α Unit := do
  let s ← PyM.read
  let attrDic := attrOf s.attrs ref
  if (field attrDic "type").isStr "data_type" then
    match ← PyM.lift (supportType (field attrDic VALUE)) with
    | some dt =>
        PyM.modify fun s => { s with attrs := s.attrs.write ref (attrDic.set VALUE (.str dt)) }
    | none => return ()
  else return ()

/-- The loop over the attributes. -/
def convertAttrs : List Nat → Acl α Unit
  | [] => return ()
  | ref :: rest => do
      convertAttr ref
      convertAttrs rest

/-! ## §5. The content. -/

/-- What `_get_testcase_dict` returns. -/
structure TestcaseDict where
  op : PyVal
  inputDesc : List Desc
  outputDesc : List Desc
  attr : Option (List Nat)

/-- `_get_testcase_dict` -/
def getTestcaseDict (env : AclEnv α) (outputPath : String) (case : Testcase) :
    Acl α TestcaseDict := do
  let (inputDesc, outputDesc) ← getDescs env outputPath case
  convertAttrs (case.attr.getD [])
  return { op := case.op, inputDesc, outputDesc, attr := case.attr }

/-- An element of `content`. -/
inductive Entry where
  | compileDic (compileFlag : PyVal)
  | tmpDic (dic : TestcaseDict)

/-- The element as it is now. -/
def Entry.value (attrs : Heap Attr) : Entry → PyVal
  | .compileDic compileFlag => .dict [("compile_flag", compileFlag)]
  | .tmpDic dic =>
      .dict ([("op", dic.op), (INPUT_DESC, .list (dic.inputDesc.map .dict)),
        (OUTPUT_DESC, .list (dic.outputDesc.map .dict))] ++
        (dic.attr.map fun refs =>
          (ATTR, .list (refs.map fun ref => .dict (attrOf attrs ref)))).toList)

/-- The body of the loop of `create_acl_op_json_content`. -/
def addCase (env : AclEnv α) (outputPath : String) (case : Testcase) (content : List Entry) :
    Acl α (List Entry) := do
  let tmpDic ← getTestcaseDict env outputPath case
  let s ← PyM.read
  let value := (Entry.tmpDic tmpDic).value s.attrs
  return if content.any fun e => value.eq (e.value s.attrs) then content
    else content ++ [.tmpDic tmpDic]

/-- The loop of `create_acl_op_json_content`. -/
def addCases (env : AclEnv α) (outputPath : String) :
    List Testcase → List Entry → Acl α (List Entry)
  | [], content => return content
  | case :: rest, content => do
      let content ← addCase env outputPath case content
      addCases env outputPath rest content

/-- `json.dumps`, and what becomes of its `TypeError`. -/
def dumpContent (env : AclEnv α) (content : List PyVal) : Except PyError String :=
  match env.dumps content with
  | .error (.typeError _) => .ok ""
  | result => result

/-- `create_acl_op_json_content` -/
def createAclOpJsonContent (env : AclEnv α) (testcaseList : List Testcase) (outputPath : String)
    (compileFlag : Option PyVal) : Acl α String := do
  let content ← addCases env outputPath testcaseList (compileFlag.map Entry.compileDic).toList
  let s ← PyM.read
  PyM.lift (dumpContent env (content.map (Entry.value s.attrs)))

end Content

end AclOpJson

end HwEfat.Main
