/-
  HwEfat.Main.CaseGenerator.HeadFile — reading the prototype of an AI CPU operator:
  `_parse_aicpu_op_proto`.

  A head file registers an operator by a chain of calls,

      REG_OP(Add).INPUT(x, TensorType({DT_FLOAT, DT_INT32})).OUTPUT(y, TensorType({DT_FLOAT}))
          .ATTR(alpha, Float, 1.0).OP_END_FACTORY_REG(Add)

  It is taken from `REG_OP` on, without comments and blanks, and cut at each `).`.  Every piece
  that starts with a keyword is an entry of `op_info`: the inputs and outputs are numbered in the
  order in which they come, the attributes have their names.
-/
import HwEfat.Lib.Comments
import HwEfat.Main.CaseGenerator.CheckOpInfo

namespace HwEfat.Main

open HwEfat.Lib (PyError PyVal Dict split strip slice sliceFrom startswith findChars
  deleteComments)

namespace CaseGenerator

/-! ## §1. Pieces of text. -/

/-- `IN_OUT_OP_KEY_MAP` -/
def IN_OUT_OP_KEY_MAP : List (String × String) :=
  [("INPUT", "input"), ("DYNAMIC_INPUT", "input"), ("OPTIONAL_INPUT", "input"),
   ("OUTPUT", "output"), ("DYNAMIC_OUTPUT", "output")]

def AICPU_ATTR_LIST : List String := ["ATTR", "REQUIRED_ATTR"]

/-- `OP_PROTO_PARSE_ATTR_TYPE_MAP` -/
def OP_PROTO_PARSE_ATTR_TYPE_MAP : List (String × String) :=
  [("Int", "int"), ("Float", "float"), ("String", "str"), ("Bool", "bool"), ("Type", "type"),
   ("ListInt", "listInt"), ("ListFloat", "listFloat"), ("ListString", "listStr"),
   ("ListBool", "listBool"), ("ListListInt", "listListInt")]

/-- `s.replace(c, '')` -/
def removeAll (c : Char) (s : String) : String := String.ofList (s.toList.filter (· != c))

/-- `s[s.find(sub):]`; what does not occur is found at -1. -/
def fromFound (s sub : String) : String :=
  match findChars sub.toList s.toList with
  | some i => sliceFrom s i
  | none => sliceFrom s (s.length - 1)

/-- `s[s.find("{") + 1:s.find("}")]` -/
def inBraces (s : String) : String :=
  slice s (match findChars ['{'] s.toList with
      | some i => i + 1
      | none => 0)
    (match findChars ['}'] s.toList with
      | some i => i
      | none => s.length - 1)

/-- `s[s.find(",") + 1:]` -/
def behindComma (s : String) : String :=
  match findChars [','] s.toList with
  | some i => sliceFrom s (i + 1)
  | none => s

/-- `_parse_name_from_op_proto_file`: `re.findall(r'[(](.*?)[,]', s)[0]`, or the empty text. -/
def parseName (s : String) : String :=
  match findChars ['('] s.toList with
  | none => ""
  | some i =>
      let rest := s.toList.drop (i + 1)
      match findChars [','] rest with
      | none => ""
      | some j => String.ofList (rest.take j)

/-- `_split_type_attrs`; `none` is an `IndexError`. -/
def splitTypeAttrs (typeAttrs : String) : Option (String × String) :=
  (findChars [','] typeAttrs.toList).map fun i =>
    (slice typeAttrs 0 i, sliceFrom typeAttrs (i + 1))

/-- `format_dict_to_list`, of a text. -/
def formatDictToList (s : String) : String :=
  String.ofList (s.toList.map fun c => if c = '{' then '[' else if c = '}' then ']' else c)

/-! ## §2. The entries. -/

/-- `op_info` and the numbers of inputs and outputs so far. -/
structure HeadState where
  opInfo : OpInfo
  inputCount : Nat := 0
  outputCount : Nat := 0

/-- `_get_op_info_from_head_file` -/
def getOpInfoFromHeadFile (opInfo : OpInfo) (opInfoKey inputTensorType name : String) :
    Except PyError OpInfo := do
  let inputTensorType := removeAll ' ' (removeAll '\\' inputTensorType)
  checkOpInfoListValid ((split inputTensorType ",").map .str)
  let opInfo := setOpInfo opInfo opInfoKey "name" (.str name)
  let opInfo := setOpInfo opInfo opInfoKey "type" (.str inputTensorType)
  return setOpInfo opInfo opInfoKey "format" (.str "")

/-- `_parse_aicpu_input_output_info`, for the keywords that are left. -/
def parseInputOutput (line : String) :
    List (String × String) → HeadState → Except PyError HeadState
  | [], s => .ok s
  | (opKey, kind) :: keys, s =>
      if startswith line opKey then
        let startStr := fromFound line opKey
        let name := parseName startStr
        if name = "" then .ok s
        else do
          let inputTensorType := inBraces startStr
          if kind = "input" then
            let opInfo ← getOpInfoFromHeadFile s.opInfo (kind ++ toString s.inputCount)
              inputTensorType name
            parseInputOutput line keys { s with opInfo, inputCount := s.inputCount + 1 }
          else
            let opInfo ← getOpInfoFromHeadFile s.opInfo (kind ++ toString s.outputCount)
              inputTensorType name
            parseInputOutput line keys { s with opInfo, outputCount := s.outputCount + 1 }
      else parseInputOutput line keys s

def parseAicpuInputOutputInfo (line : String) (s : HeadState) : Except PyError HeadState :=
  parseInputOutput line IN_OUT_OP_KEY_MAP s

/-- `_get_attr_tensor_type`: the type, and `op_info` with the default value of an `ATTR`.
`str({})` stands for one that is missing. -/
def getAttrTensorType (opInfo : OpInfo) (opKey typeAttrs attrName : String) :
    OpInfo × String :=
  if opKey = "ATTR" then
    let (attrTensorType, defaultValue) := (splitTypeAttrs typeAttrs).getD ("", "\x7b\x7d")
    (setOpInfo opInfo attrName "defaultValue"
        (.str (removeAll '"' (removeAll '\\' (formatDictToList defaultValue)))),
      attrTensorType)
  else (opInfo, String.ofList (typeAttrs.toList.takeWhile (· != ')')))

/-- What is done with an attribute of the keyword. -/
def parseAttr (opInfo : OpInfo) (opKey line : String) : Except PyError OpInfo := do
  let attrStr := fromFound line opKey
  let name := parseName attrStr
  let attrName := "attr_" ++ name
  let opInfo := setOpInfo opInfo attrName "name" (.str name)
  let typeAttrs := strip (behindComma attrStr)
  let (opInfo, attrTensorType) := getAttrTensorType opInfo opKey typeAttrs attrName
  checkOpInfoListValid [.str attrTensorType]
  let type :=
    match OP_PROTO_PARSE_ATTR_TYPE_MAP.lookup attrTensorType with
    | some type => PyVal.str type
    | none => PyVal.none
  return setOpInfo opInfo attrName "type" type

/-- `_parse_aicpu_attr` -/
def parseAicpuAttr (line : String) (opInfo : OpInfo) : Except PyError OpInfo :=
  AICPU_ATTR_LIST.foldlM
    (fun opInfo opKey => if startswith line opKey then parseAttr opInfo opKey line else .ok opInfo)
    opInfo

/-- What is done with a piece. -/
def parsePiece (s : HeadState) (line : String) : Except PyError HeadState := do
  let line := strip line
  let s ← parseAicpuInputOutputInfo line s
  let opInfo ← parseAicpuAttr line s.opInfo
  return { s with opInfo }

/-! ## §3. The file. -/

/-- `_delete_comments` -/
def deleteCommentsOf (content : String) : String := strip (deleteComments content)

/-- The registration on one line, without blanks. -/
def oneLine (regOpInfoStr : String) : String :=
  removeAll ' ' (removeAll '\t' (removeAll '\r' (removeAll '\n' (deleteCommentsOf regOpInfoStr))))

/-- `_parse_aicpu_op_proto`, of the text of the file: whether it registers an operator, and
`op_info` then. -/
def parseAicpuOpProto (opNameHText : String) (opInfo : OpInfo) : Except PyError (Bool × OpInfo) :=
  if opNameHText = "" then .ok (false, opInfo)
  else
    let regOpInfoStr := strip (fromFound opNameHText "REG_OP")
    if startswith regOpInfoStr "REG_OP" then do
      let s ← (split (oneLine regOpInfoStr) ").").foldlM parsePiece { opInfo }
      return (true, s.opInfo)
    else .ok (false, opInfo)

end CaseGenerator

end HwEfat.Main
