/-
  HwEfat.Main.Utils — the exception and the checks of the test framework (`utils.py`),
  and the constants of `const_manager.py` that the modelled scripts use.

  What a check prints before it raises is left out.
-/
import HwEfat.Lib.Python

namespace HwEfat.Main

open HwEfat.Lib (PyError PyVal PyDict raiseIf)

/-! ## §1. `ConstManager`. -/

def RUN_OUT : String := "run/out"

def OP_TEST_GEN_INVALID_PARAM_ERROR : Int := 17
def OP_TEST_GEN_INVALID_DATA_ERROR : Int := 18
def OP_TEST_GEN_INVALID_PATH_ERROR : Int := 101
def OP_TEST_GEN_OPEN_FILE_ERROR : Int := 103
def OP_TEST_GEN_WRITE_FILE_ERROR : Int := 108
def OP_TEST_GEN_NONE_TYPICAL_SHAPE_ERROR : Int := 115
def OP_TEST_GEN_INVALID_ERROR_THRESHOLD_ERROR : Int := 116
def ATC_TRANSFORM_ERROR : Int := 1110

def BIN_FILE : String := ".bin"
def PY_FILE : String := ".py"
def TYPE_UNDEFINED : String := "UNDEFINED"
def OPTIONAL_TYPE_LIST : List String := ["UNDEFINED", "RESERVED"]
def MAX_NAME_LENGTH : Nat := 256

def OP : String := "op"
def INPUT_DESC : String := "input_desc"
def OUTPUT_DESC : String := "output_desc"
def ATTR : String := "attr"
def CASE_NAME : String := "case_name"
def ST_MODE : String := "st_mode"
def FUZZ_IMPL : String := "fuzz_impl"
def FUZZ_CASE_NUM : String := "fuzz_case_num"
def FUZZ_FUNCTION : String := "fuzz_branch"
def MAX_FUZZ_CASE_NUM : Int := 2000

def REQUIRED_KEYS : List String := [OP, INPUT_DESC, OUTPUT_DESC, CASE_NAME]
def ATTR_REQUIRED_KEYS : List String := ["name", "type", "value"]

/-- `list(ATTR_TYPE_MAP.values())` -/
def ATTR_TYPE_MAP_VALUES : List String :=
  ["int", "float", "bool", "string", "data_type", "list_int", "list_float", "list_bool",
    "list_string", "list_list_int"]

/-- `ATTR_TYPE_SUPPORT_TYPE_MAP.keys()` -/
def ATTR_TYPE_SUPPORT_TYPE_MAP_KEYS : List String :=
  ["int8", "int32", "int16", "int64", "uint8", "uint16", "uint32", "uint64", "float",
    "float16", "float32", "bool", "double", "complex64", "complex128"]

def SHAPE_RANGE : String := "shape_range"
def TYPICAL_SHAPE : String := "typical_shape"
def SHAPE_DYNAMIC_SCENARIOS_ONE : Int := -1
def SHAPE_DYNAMIC_SCENARIOS_TWO : Int := -2
def VALUE : String := "value"
def IS_CONST : String := "is_const"
def DATA_DISTRIBUTE : String := "data_distribute"

def INPUT_CROSS_LIST : List String :=
  ["format", "shape", "type", "data_distribute", "value_range"]
def OUTPUT_CROSS_LIST : List String := ["format", "shape", "type"]
def MS_INPUT_CROSS_LIST : List String := ["type", "shape", "data_distribute", "value_range"]
def MS_OUTPUT_CROSS_LIST : List String := ["type", "shape"]

def ERROR_THRESHOLD : String := "error_threshold"

/-- `[0.01, 0.05]`, as the doubles that these literals are. -/
def DEFAULT_ERROR_THRESHOLD : PyVal :=
  .list [.float (.finite (5764607523034235 / 576460752303423488)),
    .float (.finite (7205759403792794 / 144115188075855872))]

/-! ## §2. `OpTestGenException`. -/

/-- `utils.OpTestGenException(error_info)` -/
def opTestGenException (errorInfo : Int) : PyError := .raised "OpTestGenException" errorInfo

/-- `except utils.OpTestGenException` -/
def isOpTestGenException : PyError → Bool
  | .raised name _ => name == "OpTestGenException"
  | _ => false

/-- The exception of most checks. -/
def invalidData : PyError := opTestGenException OP_TEST_GEN_INVALID_DATA_ERROR

/-! ## §3. Checks. -/

/-- `NAME_PATTERN`, that is `^[A-Za-z0-9_,]+$`; its `$` passes over one line feed at the
end. -/
def matchesNamePattern (name : String) : Bool :=
  let cs :=
    if "\n".toList.isSuffixOf name.toList then name.toList.dropLast else name.toList
  !cs.isEmpty && cs.all fun c => c.isAlphanum || c == '_' || c == ','

/-- `check_name_valid` -/
def checkNameValid (name : PyVal) : Except PyError Unit := do
  let invalid := opTestGenException OP_TEST_GEN_INVALID_PARAM_ERROR
  raiseIf (!name.truthy) invalid
  raiseIf (MAX_NAME_LENGTH < (← name.len)) invalid
  match name with
  | .str s => raiseIf (!matchesNamePattern s) invalid
  | _ => .error (.typeError "expected string or bytes-like object")

/-- `check_value_valid` for the types that are not lists. -/
def checkPlainValueValid (feType : String) (value : PyVal) : Except PyError Unit :=
  match feType, value with
  | "bool", .bool _ => .ok ()
  | "bool", _ => .error invalidData
  | "string", .str _ => .ok ()
  | "string", _ => .error invalidData
  | "float", .float _ => .ok ()
  | "float", _ => .error invalidData
  | "data_type", .list _ => .error (.typeError "unhashable type: 'list'")
  | "data_type", .dict _ => .error (.typeError "unhashable type: 'dict'")
  | "data_type", .str s => raiseIf (s ∉ ATTR_TYPE_SUPPORT_TYPE_MAP_KEYS) invalidData
  | "data_type", _ => .error invalidData
  | _, value => raiseIf value.asInt.isNone invalidData

/-- `check_value_valid` -/
def checkValueValid (feType : String) (value : PyVal) : Except PyError Unit :=
  if feType = "list_int" then
    match value with
    | .list l => do
        raiseIf l.isEmpty invalidData
        forM l (checkPlainValueValid "int")
    | _ => .error invalidData
  else checkPlainValueValid feType value

/-- `check_attr_value_valid` -/
def checkAttrValueValid (attr : PyVal) : Except PyError Unit := do
  let value ← attr.get "value"
  match ← attr.get "type" with
  | .str attrType =>
      if "list_".toList.isPrefixOf attrType.toList then
        match value with
        | .list l => forM l (checkValueValid (String.ofList (attrType.toList.drop 5)))
        | _ => .error invalidData
      else checkValueValid attrType value
  | _ => .error (.attributeError "object has no attribute 'startswith'")

/-- `check_list_float`; a `nan` passes. -/
def checkListFloat (inputList : List PyVal) : Except PyError Unit :=
  forM inputList fun i =>
    match i with
    | .float x =>
        raiseIf (Lib.PyFloat.lt (.finite 1) x || x.lt (.finite 0))
          (opTestGenException OP_TEST_GEN_INVALID_ERROR_THRESHOLD_ERROR)
    | _ => .error (opTestGenException OP_TEST_GEN_INVALID_ERROR_THRESHOLD_ERROR)

/-- `bool(tensor.get(key))` -/
def filled (tensor : PyDict (List PyVal)) (key : String) : Bool :=
  (tensor.lookup key).any fun l => !l.isEmpty

/-- `add_new_key_to_cross_list` -/
def addNewKeyToCrossList (tensor : PyDict (List PyVal)) (crossKeyList : List String) :
    List String :=
  crossKeyList ++ [SHAPE_RANGE, VALUE, IS_CONST].filter (filled tensor)

end HwEfat.Main
