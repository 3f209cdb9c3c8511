/-
  HwEfat.AutoSchedule.InterfaceCheck.Def — what `cann_check_interface.py` reads of a file: its
  functions, classes and global variables.

  `build_file_spec` and `get_spec_info_list` turn lines into `FileSpec`s.  An entry goes to
  the object at its indentation in `spec_tree`, which has to have a method for it.
-/
import HwEfat.Lib.Text
import HwEfat.Lib.Dict

namespace HwEfat.AutoSchedule.InterfaceCheck

open HwEfat.Lib

/-! ## §1. Specs. -/

/-- `FuncIntfSpec`. Both builders trim the parameters. -/
structure FuncIntfSpec where
  funcName : String
  paramList : List String
  stripped : ∀ param ∈ paramList, strip param = param

/-- A class: its name and its methods. -/
structure ClassIntfSpec where
  className : String
  superClasses : List String
  funcList : Dict FuncIntfSpec

/-- A global variable, with its value. -/
structure GlobalVarSpec where
  globalVarName : String
  globalVarValues : String

/-- What a file has: classes, functions and global variables. -/
structure FileSpec where
  specFileName : String
  sourceFileName : String
  classSpecs : Dict ClassIntfSpec
  funcSpecs : Dict FuncIntfSpec
  globalVarSpec : Dict GlobalVarSpec

namespace FileSpec

/-- `FileSpec(spec_file_name, source_file_name)` -/
def new (specFileName sourceFileName : String) : FileSpec :=
  { specFileName, sourceFileName,
    classSpecs := .empty, funcSpecs := .empty, globalVarSpec := .empty }

/-- `add_class_spec` -/
def addClassSpec (f : FileSpec) (spec : ClassIntfSpec) : FileSpec :=
  { f with classSpecs := f.classSpecs.set spec.className spec }

/-- `add_func_spec` -/
def addFuncSpec (f : FileSpec) (spec : FuncIntfSpec) : FileSpec :=
  { f with funcSpecs := f.funcSpecs.set spec.funcName spec }

/-- `add_global_var_spec` -/
def addGlobalVarSpec (f : FileSpec) (spec : GlobalVarSpec) : FileSpec :=
  { f with globalVarSpec := f.globalVarSpec.set spec.globalVarName spec }

/-- `add_func_spec` of the class that the file holds under this name. -/
def addMethod (f : FileSpec) (className : String) (spec : FuncIntfSpec) : FileSpec :=
  match f.classSpecs.get? className with
  | some c =>
      { f with
        classSpecs :=
          f.classSpecs.set className { c with funcList := c.funcList.set spec.funcName spec } }
  | none => f

end FileSpec

/-! ## §2. Lines. -/

/-- `get_tree_idx` -/
def getTreeIdxChars : List Char → Nat
  | ' ' :: ' ' :: ' ' :: ' ' :: cs => 1 + getTreeIdxChars cs
  | _ => 1

/-- `get_tree_idx`: one more than the level of indentation. -/
def getTreeIdx (strInfo : String) : Nat := getTreeIdxChars strInfo.toList

/-- `is_global_variable`, given the letters of Unicode. -/
def isGlobalVariable (upper lower : Char → Bool) (specLine : String) : Bool :=
  if startswith specLine "    " then false
  else
    match strIndex specLine "=" with
    | .error _ => false
    | .ok i => (split (rstrip (slice specLine 0 i)) "_").all (isupper upper lower)

/-- The class that a line declares. -/
def classIntfSpec (specLine : String) : Except PyError ClassIntfSpec :=
  if contains specLine "(" then do
    let i ← strIndex specLine "("
    let j ← strIndex specLine ")"
    .ok
      { className := slice specLine 6 i
        superClasses := split (slice specLine (i + 1) j) ","
        funcList := .empty }
  else
    .ok
      { className := String.ofList (specLine.toList.dropLast.drop 6)
        superClasses := []
        funcList := .empty }

/-- The function that a line declares. -/
def funcIntfSpec (specLine : String) : Except PyError FuncIntfSpec := do
  let specLine := strip specLine
  let i ← strIndex specLine "("
  let j ← strIndex specLine ")"
  .ok
    { funcName := slice specLine 4 i
      paramList := (split (slice specLine (i + 1) j) ",").map strip
      stripped := by
        intro param hparam
        obtain ⟨x, _, rfl⟩ := List.mem_map.mp hparam
        exact strip_strip x }

/-- The global variable that a line assigns. -/
def globalVarSpec (specLine : String) : Except PyError GlobalVarSpec := do
  let i ← strIndex specLine "="
  let name := rstrip (slice specLine 0 i)
  .ok { globalVarName := name, globalVarValues := sliceFrom specLine (name.length + 3) }

/-! ## §3. The tree of the lines read so far. -/

/-- An entry of `spec_tree`: one of the files, or what was declared last at an indentation.
A class is the one that its file holds under its name. -/
inductive SpecNode where
  | file (i : Nat)
  | cls (i : Nat) (className : String)
  | func
  | globalVar
  deriving Repr, DecidableEq

/-- The name of the type of a node. -/
def SpecNode.typeName : SpecNode → String
  | file _ => "FileSpec"
  | cls _ _ => "ClassIntfSpec"
  | func => "FuncIntfSpec"
  | globalVar => "GlobalVarSpec"

/-- The files so far, and the tree of the current one. -/
structure SpecState where
  files : List FileSpec
  specTree : List SpecNode

/-- `spec_tree.append(node)` or `spec_tree[tree_idx] = node` -/
def place (specTree : List SpecNode) (treeIdx : Nat) (node : SpecNode) : List SpecNode :=
  if specTree.length < treeIdx + 1 then specTree ++ [node] else specTree.set treeIdx node

/-- A method that the node does not have. -/
def noAttribute (typeName method : String) : PyError :=
  .attributeError ("'" ++ typeName ++ "' object has no attribute '" ++ method ++ "'")

/-- `spec_tree[tree_idx - 1]`, read after the new object of type `typeName` has been placed,
if it has the method. -/
def parent (specTree : List SpecNode) (treeIdx : Nat) (typeName method : String)
    (hasMethod : SpecNode → Bool) : Except PyError SpecNode :=
  match specTree[treeIdx - 1]? with
  | some node =>
      if hasMethod node then .ok node else .error (noAttribute node.typeName method)
  | none =>
      -- The new object may have been appended right there.
      if treeIdx - 1 = specTree.length then .error (noAttribute typeName method)
      else .error (.indexError "list index out of range")

/-- Global variables and classes belong to a file. -/
def SpecNode.isFile : SpecNode → Bool
  | file _ => true
  | _ => false

/-- Functions belong to a file or a class. -/
def SpecNode.takesFuncs : SpecNode → Bool
  | file _ => true
  | cls _ _ => true
  | _ => false

/-- `_get_class_spec_info` -/
def addClass (st : SpecState) (specLine : String) : Except PyError SpecState := do
  let treeIdx := getTreeIdx specLine
  let classSpec ← classIntfSpec specLine
  match ← parent st.specTree treeIdx "ClassIntfSpec" "add_class_spec" SpecNode.isFile with
  | .file i =>
      .ok
        { files := st.files.modify i (·.addClassSpec classSpec)
          specTree := place st.specTree treeIdx (.cls i classSpec.className) }
  | _ => .ok st

/-- `_get_def_spec_info` -/
def addFunc (st : SpecState) (specLine : String) : Except PyError SpecState := do
  let treeIdx := getTreeIdx specLine
  let funcSpec ← funcIntfSpec specLine
  let specTree := place st.specTree treeIdx .func
  match ← parent st.specTree treeIdx "FuncIntfSpec" "add_func_spec" SpecNode.takesFuncs with
  | .file i => .ok { files := st.files.modify i (·.addFuncSpec funcSpec), specTree }
  | .cls i className =>
      .ok { files := st.files.modify i (·.addMethod className funcSpec), specTree }
  | _ => .ok st

/-- `_get_global_var_spec_info` -/
def addGlobalVar (st : SpecState) (specLine : String) : Except PyError SpecState := do
  let treeIdx := getTreeIdx specLine
  let globalVarSpec ← globalVarSpec specLine
  match ← parent st.specTree treeIdx "GlobalVarSpec" "add_global_var_spec" SpecNode.isFile with
  | .file i =>
      .ok
        { files := st.files.modify i (·.addGlobalVarSpec globalVarSpec)
          specTree := place st.specTree treeIdx .globalVar }
  | _ => .ok st

/-- What both builders do with a trimmed line. -/
def addLine (upper lower : Char → Bool) (st : SpecState) (specLine : String) :
    Except PyError SpecState :=
  if startswith specLine "#" then .ok st
  else if contains specLine "class" then addClass st specLine
  else if contains specLine "def" then addFunc st specLine
  else if isGlobalVariable upper lower specLine then addGlobalVar st specLine
  else .ok st

/-- `build_file_spec` -/
def buildFileSpec (upper lower : Char → Bool) (specLines : List String) (fileSpec : FileSpec) :
    Except PyError FileSpec := do
  let st ← specLines.foldlM (fun st specLine => addLine upper lower st (rstrip specLine))
    { files := [fileSpec], specTree := [.file 0] }
  first st.files

/-- The loop of `get_spec_info_list` over the lines of one file: a line that names a source
file starts a new `FileSpec`. -/
def addSpecFileLine (upper lower : Char → Bool) (specFile : String) (st : SpecState)
    (specLine : String) : Except PyError SpecState :=
  if contains specLine "# source file:" then
    .ok
      { files := st.files ++ [.new specFile (strip (sliceFrom specLine 14))]
        specTree := place st.specTree 0 (.file st.files.length) }
  else addLine upper lower st specLine

/-- `get_spec_info_list` on the files that it finds, in their order, with their lines. -/
def getSpecInfoList (upper lower : Char → Bool) (specs : List (String × List String)) :
    Except PyError (List FileSpec) :=
  specs.foldlM
    (fun files spec =>
      if endswith spec.1 "pyh" then do
        let st ← spec.2.foldlM
          (fun st specLine => addSpecFileLine upper lower spec.1 st (rstrip specLine))
          { files, specTree := [] }
        .ok st.files
      else .ok files)
    []

end HwEfat.AutoSchedule.InterfaceCheck
