/-
  HwEfat.Main.CaseGenerator.ModelCases — `_generate_base_case_from_model` for an AI Core operator.

  A node of the model with as many inputs and outputs as the base case gives a case of its own: the
  descriptions of the base case are copied, and the copies are changed in place.  The base case is
  returned if no node does.  `derive` says what the case of a node is made of.
-/
import HwEfat.Lib.Collect
import HwEfat.Lib.Dict
import HwEfat.Lib.Objects
import HwEfat.Lib.Text
import HwEfat.Main.CaseGenerator.IniFile

namespace HwEfat.Main

open HwEfat.Lib (PyError PyVal PyM Dict Heap raiseIf strip updateList)
open HwEfat.Lib.PyM (lift tryExcept deepcopy updateEach updateAll collect)

namespace CaseGenerator

/-! ## §1. Cases. -/

/-- The description of an input or output. -/
abbrev Desc : Type := Dict PyVal

instance : Inhabited Desc := ⟨.empty⟩

/-- A case, with descriptions `δ`: references to them, or what they are. -/
structure Case (δ : Type) where
  caseName : String
  stMode : Option String := none
  op : String
  inputDesc : List δ
  outputDesc : List δ
  attr : Option (List PyVal) := none

/-- All descriptions. -/
def Case.descs {δ : Type} (case : Case δ) : List δ := case.inputDesc ++ case.outputDesc

/-- What a case in memory is. -/
def content (h : Heap Desc) (case : Case Nat) : Case Desc :=
  { case with
    inputDesc := h.contents case.inputDesc, outputDesc := h.contents case.outputDesc }

/-- A base case in memory, where every description is an object of its own. -/
structure BaseCase (h : Heap Desc) extends Case Nat where
  nodup : toCase.descs.Nodup
  valid : ∀ r ∈ toCase.descs, r < h.size

/-- A node of the model. -/
structure Node where
  layer : String
  inputDtype : List PyVal
  inputShape : List (List PyVal)
  outputDtype : List PyVal
  outputShape : List (List PyVal)
  attr : Option (List PyVal)

/-- The numbers of inputs and outputs are those of the base case. -/
def Matches {δ : Type} (baseCase : Case δ) (node : Node) : Prop :=
  node.inputShape.length = baseCase.inputDesc.length ∧
    node.outputShape.length = baseCase.outputDesc.length

instance {δ : Type} (baseCase : Case δ) : DecidablePred (Matches baseCase) := fun _ =>
  inferInstanceAs (Decidable (_ ∧ _))

/-! ## §2. What a node changes. -/

/-- `_check_shape_valid` -/
def checkShapeValid (shape : List PyVal) : Except PyError Unit :=
  forM shape fun dim =>
    match dim.asInt with
    | some n => raiseIf (n ≤ 0) invalidData
    | none => .error invalidData

/-- `desc['shape'].append(shape)`, with the check before it. -/
def appendShape (shape : List PyVal) (desc : Desc) : Except PyError Desc := do
  checkShapeValid shape
  match ← desc.getItem "shape" with
  | .list l => return desc.set "shape" (.list (l ++ [.list shape]))
  | _ => .error (.attributeError "object has no attribute 'append'")

/-- `desc['type'] = dtype` -/
def setType (dtype : PyVal) (desc : Desc) : Except PyError Desc := .ok (desc.set "type" dtype)

/-- What `_update_format_from_model` does with a description. -/
def setFormat (formatValue : String) (desc : Desc) : Desc :=
  if (desc.get? "format").isSome then desc.set "format" (.list [.str formatValue]) else desc

/-- `v.replace(c, "")` -/
def removeChar (c : Char) : PyVal → Except PyError String
  | .str s => .ok (String.ofList (s.toList.filter (· != c)))
  | _ => .error (.attributeError "object has no attribute 'replace'")

/-- What `_get_info_from_model` appends to `new_attr_list`, if anything. -/
def newAttr (item attr : PyVal) : Except PyError (Option PyVal) := do
  let nodeAttrName ← item.getItem "name"
  if nodeAttrName.eq (← attr.get "name") then
    let attrValue ←
      if (← attr.get "type").isStr "string" then do
        let attrFormatValue ← removeChar '"' (← item.get "value")
        (removeChar ' ' (.str attrFormatValue)).map PyVal.str
      else item.get "value"
    let newAttr :=
      .dict [("name", nodeAttrName), ("type", ← attr.getItem "type"), ("value", attrValue)]
    checkAttrValueValid newAttr
    return some newAttr
  else return none

/-- The value of the attribute `data_format`, if it is this one. -/
def dataFormat (item : PyVal) : Except PyError (Option String) := do
  if (← item.getItem "name").isStr "data_format" then
    return some (strip (← removeChar '"' (← item.getItem "value")))
  else return none

/-! ## §3. The programs. -/

/-- `_modify_new_base_case_dict` -/
def modifyNewBaseCaseDict (node : Node) (newBaseCase : Case Nat) : PyM (Heap Desc) Unit := do
  updateEach appendShape node.inputShape newBaseCase.inputDesc
  updateEach appendShape node.outputShape newBaseCase.outputDesc
  updateEach setType node.inputDtype newBaseCase.inputDesc
  updateEach setType node.outputDtype newBaseCase.outputDesc

/-- `layer.replace('/', '_')` -/
def layerName (node : Node) : String :=
  String.ofList (node.layer.toList.map fun c => if c = '/' then '_' else c)

/-- `_get_new_base_case`; a node that does not match is skipped. -/
def getNewBaseCase (baseCase : Case Nat) (node : Node) : PyM (Heap Desc) (Option (Case Nat)) := do
  if node.inputShape.length ≠ baseCase.inputDesc.length then return none
  if node.outputShape.length ≠ baseCase.outputDesc.length then return none
  let inputDesc ← deepcopy baseCase.inputDesc
  let outputDesc ← deepcopy baseCase.outputDesc
  let newBaseCase : Case Nat :=
    { caseName := "Test_" ++ layerName node, op := baseCase.op, inputDesc, outputDesc }
  modifyNewBaseCaseDict node newBaseCase
  return some newBaseCase

/-- `except KeyError` -/
def isKeyError : PyError → Bool
  | .keyError _ => true
  | _ => false

/-- `_update_aicore_io_from_model` -/
def updateAicoreIoFromModel (baseCase : Case Nat) (node : Node) :
    PyM (Heap Desc) (Option (Case Nat)) :=
  tryExcept (getNewBaseCase baseCase node) isKeyError (lift (.error invalidOpInfoFile))

/-- `_update_format_from_model` -/
def updateFormatFromModel (formatValue : String) (newBaseCase : Case Nat) :
    PyM (Heap Desc) Unit := do
  updateAll (fun desc => .ok (setFormat formatValue desc)) newBaseCase.inputDesc
  updateAll (fun desc => .ok (setFormat formatValue desc)) newBaseCase.outputDesc

/-- `_get_info_from_model` -/
def getInfoFromModel (newBaseCase : Case Nat) (item attr : PyVal) :
    PyM (Heap Desc) (Option PyVal) := do
  let newAttr ← lift (newAttr item attr)
  match ← lift (dataFormat item) with
  | some formatValue => updateFormatFromModel formatValue newBaseCase
  | none => pure ()
  return newAttr

/-- Every attribute of the base case with every attribute of the node. -/
def attrPairs {δ : Type} (baseCase : Case δ) (node : Node) : List (PyVal × PyVal) :=
  match baseCase.attr, node.attr with
  | some attrs, some items => attrs.flatMap fun attr => items.map fun item => (attr, item)
  | _, _ => []

/-- `_update_aicore_attr_from_model` -/
def updateAicoreAttrFromModel (baseCase : Case Nat) (node : Node) (newBaseCase : Case Nat) :
    PyM (Heap Desc) (Case Nat) := do
  let found ← collect (fun p => getInfoFromModel newBaseCase p.2 p.1) (attrPairs baseCase node)
  let newAttrList := found.filterMap id
  if 0 < newAttrList.length then return { newBaseCase with attr := some newAttrList }
  else return newBaseCase

/-- What is done with a node. -/
def updateFromNode (baseCase : Case Nat) (node : Node) : PyM (Heap Desc) (Option (Case Nat)) := do
  match ← updateAicoreIoFromModel baseCase node with
  | some newBaseCase => return some (← updateAicoreAttrFromModel baseCase node newBaseCase)
  | none => return none

/-- `_generate_base_case_from_model` for an AI Core operator, given `get_model_nodes`. -/
def generateBaseCaseFromModel (baseCase : Case Nat) (nodes : List Node) :
    PyM (Heap Desc) (List (Case Nat)) := do
  if nodes.length = 0 then return [baseCase]
  let newBaseCases ← collect (updateFromNode baseCase) nodes
  let baseCaseList := newBaseCases.filterMap id
  if baseCaseList.isEmpty then return [baseCase]
  return baseCaseList

/-! ## §4. What a case is made of. -/

/-- The formats that are set, the last one for good. -/
def setFormats (formats : List (Option String)) (desc : Desc) : Desc :=
  (formats.filterMap id).foldl (fun desc formatValue => setFormat formatValue desc) desc

/-- The case of a node, from what the base case is. -/
def derive (baseCase : Case Desc) (node : Node) : Except PyError (Case Desc) := do
  let inputs ← updateList appendShape node.inputShape baseCase.inputDesc
  let outputs ← updateList appendShape node.outputShape baseCase.outputDesc
  let inputs ← updateList setType node.inputDtype inputs
  let outputs ← updateList setType node.outputDtype outputs
  let found ← (attrPairs baseCase node).mapM fun p => newAttr p.2 p.1
  let formats ← (attrPairs baseCase node).mapM fun p => dataFormat p.2
  let newAttrList := found.filterMap id
  .ok
    { caseName := "Test_" ++ layerName node, op := baseCase.op,
      inputDesc := inputs.map (setFormats formats),
      outputDesc := outputs.map (setFormats formats),
      attr := if 0 < newAttrList.length then some newAttrList else none }

end CaseGenerator

end HwEfat.Main
