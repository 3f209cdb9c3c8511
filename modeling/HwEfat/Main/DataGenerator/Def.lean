/-
  HwEfat.Main.DataGenerator.Def — the data of the test cases: `data_generator.py`.

  The generator writes files, imports the modules of the users' functions and writes the
  paths into the report; a program on these objects (`PyM`) that raises leaves them as it
  has changed them so far.  An array is what numpy holds and what a file of data holds.

  What numpy computes, what the operating system says and what the users' modules do is
  given by a `DataEnv`; the random numbers are those drawn for a file.  Two paths are two
  files.  What is left out: everything that is printed, and `param_info_list`, which only
  is printed.
-/
import Mathlib.Algebra.Ring.Int.Defs
import HwEfat.Main.Report.Def
import HwEfat.Main.SubCaseDesign.Def

namespace HwEfat.Main

open HwEfat.Lib (PyError PyVal PyDict PyM raiseIf pathJoin dirname basename splitextRoot)

namespace DataGenerator

/-! ## §1. The objects. -/

/-- The files, the modules that are imported, each with the directory it is from, and the
report. -/
structure DataState (α : Type) where
  files : String → Option α
  sysPath : List String
  modules : PyDict String
  report : OpSTReport

/-- A parameter of the users' function: `value`, `dtype`, `shape` and `format` of an input, the
same but for the value of an output, or the value of an attribute. -/
inductive ParamVal (α : Type) where
  | input (value : α) (dtype shape format : PyVal)
  | output (dtype shape format : PyVal)
  | attr (value : PyVal)

/-- `calc_func_params_tmp`, as the updates that make it. -/
abbrev Params (α : Type) : Type := List (PyVal × ParamVal α)

/-- What the users' function returns. -/
inductive ExpectResult (α : Type) where
  | tensor (t : α)
  | tensors (l : List α)

structure DataEnv (α : Type) where
  checkPathValid : String → Except PyError Unit
  makeDirs : String → Except PyError Unit
  /-- Whether a file can be written. -/
  save : String → Except PyError Unit
  /-- `getattr(np, dtype)` -/
  npType : PyVal → Except PyError String
  /-- The random numbers for a file: of this shape, from `min_value` to `max_value`. -/
  draw : String → PyVal → PyVal → PyVal → String → String → Except PyError α
  /-- `np.fromfile(file, dtype)`, by what the file holds. -/
  fromfile : α → PyVal → Except PyError α
  /-- `np.array(value, dtype)` -/
  array : PyVal → PyVal → Except PyError α
  shape : α → List Int
  reshape : α → List Int → α
  /-- The module of this name in a directory, if there is one: what its import does. -/
  module : String → String → Option (Except PyError Unit)
  /-- The function of a module from a directory: what it returns for its parameters. -/
  call : String → String → PyVal → Params α → Except PyError (ExpectResult α)
  /-- `str(v)`, for anything else than a string. -/
  str : PyVal → String

/-- A program of the generator. -/
abbrev Gen (α : Type) : Type → Type := PyM (DataState α)

/-- `OpTestGenException(OP_TEST_GEN_WRITE_FILE_ERROR)` -/
def writeFileError : PyError := opTestGenException OP_TEST_GEN_WRITE_FILE_ERROR

def isMemoryError : PyError → Bool
  | .raised name _ => name == "MemoryError"
  | _ => false

def isOSError : PyError → Bool
  | .osError _ => true
  | _ => false

/-- `try: x / except E as error: raise e from error` -/
def raiseFrom {β : Type} (caught : PyError → Bool) (e : PyError) (x : Except PyError β) :
    Except PyError β :=
  match x with
  | .error e' => if caught e' then .error e else .error e'
  | .ok b => .ok b

section Generator

variable {α : Type}

/-- A field of a description. -/
def field (desc : Desc) (key : String) : PyVal := (desc.lookup key).getD .none

/-- `array.tofile(path)` -/
def DataState.write (s : DataState α) (path : String) (data : α) : DataState α :=
  { s with files := Function.update s.files path (some data) }

/-! ## §2. Arrays. -/

/-- The dimensions of a shape. -/
def dimsOf (shape : PyVal) : Except PyError (List Int) := do
  (← shape.iter).mapM fun dim =>
    match dim.asInt with
    | some n => .ok n
    | none => .error (.typeError "object cannot be interpreted as an integer")

/-- `functools.reduce(lambda x, y: x * y, dims)` -/
def reduceMul (dims : List Int) : Except PyError Int :=
  if dims = [] then .error (.typeError "reduce() of empty sequence with no initial value")
  else .ok dims.prod

/-- `_check_data_size` -/
def checkDataSize (env : DataEnv α) (data : α) (inputShape : List Int) : Except PyError Unit := do
  let inputSize ← reduceMul inputShape
  let dataSize ← reduceMul (env.shape data)
  raiseIf (inputSize ≠ dataSize) writeFileError

/-- `map_type_to_expect_type` -/
def mapTypeToExpectType : PyVal → Except PyError PyVal
  | .str s => .ok (.str (if s = "float" then "float32" else s))
  | .list _ => .error (.typeError "unhashable type: 'list'")
  | .dict _ => .error (.typeError "unhashable type: 'dict'")
  | v => .ok v

/-- What a file holds, or `FileNotFoundError`. -/
def openFile (contents : Option α) : Except PyError α :=
  match contents with
  | some a => .ok a
  | none => .error (.osError "No such file or directory")

/-- `gen_data_with_value` -/
def genDataWithValue (env : DataEnv α) (files : String → Option α)
    (inputShape value dtype : PyVal) : Except PyError α := do
  let dtype ← mapTypeToExpectType dtype
  match value with
  | .str path => do
      let data ← env.fromfile (← openFile (files path)) dtype
      let dims ← dimsOf inputShape
      checkDataSize env data dims
      return env.reshape data dims
  | value => do
      let data ← env.array value dtype
      let dims ← dimsOf inputShape
      if env.shape data = dims ∨ dims = [] then return data else .error writeFileError

def DISTRIBUTIONS : List String :=
  ["uniform", "normal", "beta", "laplace", "triangular", "relu", "sigmoid", "softmax", "tanh"]

/-- `gen_data`, for a file. -/
def genData (env : DataEnv α) (filePath : String) (dataShape minValue maxValue dtype : PyVal)
    (distribution : PyVal) : Except PyError α := do
  let npType ← env.npType (← mapTypeToExpectType dtype)
  match distribution with
  | .str name =>
      if name ∈ DISTRIBUTIONS then env.draw filePath dataShape minValue maxValue npType name
      else .error writeFileError
  | _ => .error writeFileError

/-- `_gen_op_iput_data` -/
def genOpIputData (env : DataEnv α) (files : String → Option α) (filePath : String)
    (inputShape : PyVal) (inputDesc : Desc) : Except PyError α := do
  match ← (field inputDesc "value_range").iter with
  | [rangeMin, rangeMax] =>
      let dtype := field inputDesc "type"
      let value := field inputDesc VALUE
      if value.truthy then genDataWithValue env files inputShape value dtype
      else genData env filePath inputShape rangeMin rangeMax dtype (field inputDesc DATA_DISTRIBUTE)
  | l =>
      .error (.valueError
        (if l.length < 2 then "not enough values to unpack" else "too many values to unpack"))

/-- `_gen_input_data` -/
def genInputData (env : DataEnv α) (files : String → Option α) (filePath : String)
    (inputShape : PyVal) (inputDesc : Desc) : Except PyError α :=
  raiseFrom isMemoryError writeFileError (genOpIputData env files filePath inputShape inputDesc)

/-! ## §3. Inputs and parameters. -/

/-- `is_const_distribute` -/
def isConstDistribute (inputDesc : Desc) : Bool :=
  (field inputDesc IS_CONST).truthy && (field inputDesc DATA_DISTRIBUTE).truthy &&
    (field inputDesc VALUE).isNone

/-- The array of `_get_const_data_input_dict`. -/
def getConstData (env : DataEnv α) (contents : Option α) (inputShape : PyVal) (inputDesc : Desc) :
    Except PyError α := do
  let dataList ← env.fromfile (← openFile contents) (field inputDesc "type")
  let dims ← dimsOf inputShape
  checkDataSize env dataList dims
  return env.reshape dataList dims

/-- The array of `_get_trans_data_input_dict`. -/
def getTransData (env : DataEnv α) (filePath : String) (inputShape : PyVal) (inputDesc : Desc) :
    Gen α α := do
  let s ← PyM.read
  PyM.lift (raiseIf ((s.files filePath).isSome = true) writeFileError)
  let data ← PyM.lift (genInputData env s.files filePath inputShape inputDesc)
  PyM.lift (raiseFrom isOSError writeFileError (env.save filePath))
  PyM.modify fun s => s.write filePath data
  return data

/-- `_get_input_dict_with_data` -/
def getInputData (env : DataEnv α) (filePath : String) (inputShape : PyVal) (inputDesc : Desc) :
    Gen α α := do
  if isConstDistribute inputDesc then
    let s ← PyM.read
    PyM.lift (getConstData env (s.files filePath) inputShape inputDesc)
  else getTransData env filePath inputShape inputDesc

/-- `calc_func_params_tmp.update({name: value})` -/
def update (params : Params α) (name : PyVal) (value : ParamVal α) : Except PyError (Params α) :=
  match name with
  | .list _ => .error (.typeError "unhashable type: 'list'")
  | .dict _ => .error (.typeError "unhashable type: 'dict'")
  | name => .ok (params ++ [(name, value)])

/-- Only inputs and outputs with a name are parameters. -/
def updateNamed (params : Params α) (desc : Desc) (value : ParamVal α) :
    Except PyError (Params α) :=
  if (field desc "name").truthy then update params (field desc "name") value else .ok params

def inputPath (outputPath caseName : String) (index : Nat) : String :=
  pathJoin outputPath (caseName ++ "_input_" ++ toString index ++ ".bin")

/-- The type is that of an input that is not there. -/
def isOptional (inputDesc : Desc) : Bool :=
  OPTIONAL_TYPE_LIST.any fun s => (field inputDesc "type").isStr s

/-- The body of the loop of `_get_input_desc_and_gen_data`. -/
def getInput (env : DataEnv α) (outputPath caseName : String) (index : Nat) (inputDesc : Desc)
    (params : Params α) : Gen α (Params α) := do
  if isOptional inputDesc then return params
  else
    let inputShape ← PyM.lift (replaceShapeToTypicalShape inputDesc)
    let data ← getInputData env (inputPath outputPath caseName index) inputShape inputDesc
    PyM.lift (updateNamed params inputDesc
      (.input data (field inputDesc "type") inputShape (field inputDesc "format")))

/-- `_get_input_desc_and_gen_data`, from an index on. -/
def getInputs (env : DataEnv α) (outputPath caseName : String) :
    Nat → List Desc → Params α → Gen α (Params α)
  | _, [], params => return params
  | index, inputDesc :: rest, params => do
      let params ← getInput env outputPath caseName index inputDesc params
      getInputs env outputPath caseName (index + 1) rest params

/-- An output in `_generate_params_desc`. -/
def outputParam (params : Params α) (outputDesc : Desc) : Except PyError (Params α) := do
  let outputShape ← replaceShapeToTypicalShape outputDesc
  updateNamed params outputDesc
    (.output (field outputDesc "type") outputShape (field outputDesc "format"))

/-- An attribute in `generate`. -/
def attrParam (params : Params α) (attr : PyVal) : Except PyError (Params α) := do
  update params (← attr.get "name") (.attr (← attr.get "value"))

/-- `_generate_params_desc`, and the attributes. -/
def generateParamsDesc (env : DataEnv α) (outputPath : String) (case : SubCase) :
    Gen α (Params α) := do
  let params ← getInputs env outputPath case.caseName 0 case.inputDesc []
  let params ← PyM.lift (case.outputDesc.foldlM outputParam params)
  PyM.lift (case.attr.foldlM attrParam params)

/-! ## §4. Expected data. -/

/-- `importlib.import_module(name)`: the directory that the module is from. -/
def importModule (env : DataEnv α) (name : String) : Gen α String := do
  let s ← PyM.read
  match s.modules.lookup name with
  | some dir => return dir
  | none =>
      match s.sysPath.find? fun dir => (env.module dir name).isSome with
      | none => PyM.lift (.error (.raised "ModuleNotFoundError" 0))
      | some dir => do
          PyM.lift ((env.module dir name).getD (.ok ()))
          PyM.modify fun s => { s with modules := s.modules.set name dir }
          return dir

/-- `_get_tensors_and_func`: the tensors. -/
def getTensorsAndFunc (env : DataEnv α) (expectFuncFile : String) (expectFunc : PyVal)
    (params : Params α) : Gen α (List α) := do
  PyM.modify fun s => { s with sysPath := s.sysPath ++ [dirname expectFuncFile] }
  let name := splitextRoot (basename expectFuncFile)
  let dir ← importModule env name
  let result ← PyM.lift (raiseFrom (fun _ => true)
    (opTestGenException OP_TEST_GEN_INVALID_PARAM_ERROR) (env.call dir name expectFunc params))
  match result with
  | .tensor t => return [t]
  | .tensors l => return l

/-- The file and the function of `calc_expect_func_file`, if both are there. -/
def expectFuncOf (case : SubCase) : Option (String × PyVal) :=
  match case.expect with
  | some (file, function, _) =>
      if file != "" && function.truthy then some (file, function) else none
  | none => none

/-- `'%s' % v` -/
def textOf (env : DataEnv α) : PyVal → String
  | .str s => s
  | v => env.str v

def expectPath (env : DataEnv α) (outputPath caseName : String) (idx : Nat) (outputDtype : PyVal) :
    String :=
  pathJoin (pathJoin outputPath "expect")
    (caseName ++ "_expect_output_" ++ toString idx ++ "_" ++ textOf env outputDtype ++ ".bin")

/-- The body of the loop of `_generate_expect_data`. -/
def saveTensor (env : DataEnv α) (outputPath : String) (case : SubCase) (idx : Nat) (tensor : α) :
    Gen α String := do
  match case.outputDesc[idx]? with
  | none => PyM.lift (.error (.indexError "list index out of range"))
  | some outputDesc => do
      let outputDtype ← PyM.lift (outputDesc.getItem "type")
      let expectDataPath := expectPath env outputPath case.caseName idx outputDtype
      PyM.lift (env.save expectDataPath)
      PyM.modify fun s => s.write expectDataPath tensor
      return expectDataPath

/-- The loop of `_generate_expect_data`, from an index on. -/
def saveTensors (env : DataEnv α) (outputPath : String) (case : SubCase) :
    Nat → List α → Gen α (List String)
  | _, [] => return []
  | idx, tensor :: rest => do
      let expectDataPath ← saveTensor env outputPath case idx tensor
      return expectDataPath :: (← saveTensors env outputPath case (idx + 1) rest)

/-- `_generate_expect_data` -/
def generateExpectData (env : DataEnv α) (outputPath : String) (case : SubCase)
    (params : Params α) : Gen α (List String) := do
  PyM.lift (env.makeDirs (pathJoin outputPath "expect"))
  match expectFuncOf case with
  | none => return []
  | some (expectFuncFile, expectFunc) => do
      let tensors ← getTensorsAndFunc env expectFuncFile expectFunc params
      saveTensors env outputPath case 0 tensors

/-! ## §5. `generate`. -/

/-- The case of the report with its paths. -/
def withPaths (caseReport : OpSTCaseReport) (outputPath : String) (expectDataPaths : List String) :
    OpSTCaseReport :=
  let info := { caseReport.traceDetail.stCaseInfo with inputDataPaths := some outputPath }
  let info :=
    if expectDataPaths = [] then info else { info with expectDataPaths := some expectDataPaths }
  { caseReport with traceDetail := { caseReport.traceDetail with stCaseInfo := info } }

/-- Dealing with the report; `get_case_report` returns a string if it finds no case. -/
def dealWithReport (outputPath caseName : String) (expectDataPaths : List String) :
    Gen α Unit := do
  let s ← PyM.read
  match s.report.getCaseReport caseName with
  | none => PyM.lift (.error (.attributeError "'str' object has no attribute 'trace_detail'"))
  | some (caseReport, i) =>
      PyM.modify fun s =>
        { s with report := s.report.setAt i (withPaths caseReport outputPath expectDataPaths) }

/-- The body of the loop of `generate`, for a case with inputs. -/
def generateCase (env : DataEnv α) (outputPath : String) (case : SubCase) : Gen α Unit := do
  let params ← generateParamsDesc env outputPath case
  let expectDataPaths ← generateExpectData env outputPath case params
  dealWithReport outputPath case.caseName expectDataPaths

/-- The loop of `generate`: a case without inputs ends it. -/
def generateLoop (env : DataEnv α) (outputPath : String) : List SubCase → Gen α Unit
  | [] => return ()
  | case :: rest =>
      if case.inputDesc.length < 1 then return ()
      else do
        generateCase env outputPath case
        generateLoop env outputPath rest

/-- `generate` -/
def generate (env : DataEnv α) (outputPath : String) (caseList : List SubCase) : Gen α Unit := do
  PyM.lift (env.checkPathValid outputPath)
  generateLoop env outputPath caseList

end Generator

end DataGenerator

end HwEfat.Main
