/-
  HwEfat.Main.TbeOp.Def — running a kernel on the device: `ascend_tbe_op.py`.

  A runner puts the inputs of a kernel on the device, obtains buffers for its outputs, its
  workspaces and its tiling data, launches it and frees what is only needed for this run.
  The buffers of inputs and outputs belong to parameters, which are kept in `_kernel_params`
  and released when the runner is left.

  What is given by a `TbeEnv`: the runtime, the files and numpy, and `shape_utils`, which is
  not part of the repository.  A parameter is a reference into the objects of the runner.
  What is left out: compiling an operator, reading the description of a kernel, the contents of
  arrays, and the log files of a simulator.
-/
import HwEfat.Lib.Collect
import HwEfat.Lib.Heap
import HwEfat.Lib.Slice
import HwEfat.Main.RtsApi.Def

namespace HwEfat.Main

open HwEfat.Lib (PyError PyM Heap getIndex)

namespace TbeOp

open RtsApi (Api Rts RtsEnv)

/-! ## §1. Parameters and kernels. -/

/-- An array, as far as it is looked at: `dtype` is its name in `np_dtype_to_str`. -/
structure NpData where
  shape : List Nat
  dtype : Option String
  nbytes : Nat

/-- `AscendOpKernelParam`: the device is that of the runner, or none. -/
structure AscendOpKernelParam where
  npData : Option NpData
  shape : Option (List Int)
  dtype : Option String
  size : Int
  shapeSize : Int
  hbmPointer : Option Nat
  ascendDevice : Bool

/-- An entry of `output_infos`. -/
structure OutputInfo where
  size : Option Int := none
  runShape : Option (List Int) := none
  shape : Option (List Int) := none
  dtype : Option String := none

/-- `AscendOpKernel`: `ref` tells two kernels apart. -/
structure AscendOpKernel where
  ref : Nat
  binPath : String
  stubFuncName : String
  magic : Option String := none
  blockDim : Option Int := none
  workspace : List Int := []
  outputInfos : List (Option OutputInfo) := []
  needDoTiling : Bool := false

/-- What a runner depends on: the runtime library, and the conversions of arrays and types. -/
structure TbeEnv where
  rts : RtsEnv
  /-- `shape_utils.calc_shape_size` -/
  calcShapeSize : Option (List Int) → Except PyError Int
  /-- `np.fromfile`: how many elements of the type there are. -/
  fromfile : String → String → Except PyError Nat
  /-- `np.reshape` of so many elements. -/
  reshape : Nat → Option (List Int) → Except PyError (List Nat)

/-- `AscendOpKernelRunner`, with the objects of type `AscendOpKernelParam`, and the functions
of the kernels that are registered. -/
structure Runner where
  api : Api
  params : Heap AscendOpKernelParam := Heap.empty
  kernelParams : List Nat := []
  stubFuncs : List (Nat × String) := []
  stream : Nat := 0
  deviceId : Int := 0
  profiling : Bool := false
  profilingTimes : Nat := 1

/-- A run of the runner: it may fail, and its state is the runner and the device. -/
abbrev Run : Type → Type := PyM Runner

/-- A call of `self.ascend_device`. -/
def onDevice {α : Type} (x : Rts α) : Run α := fun s => ((x s.api).1, { s with api := (x s.api).2 })

/-! ## §2. Types and sizes. -/

/-- `get_dtype_byte` -/
def getDtypeByte (dtype : String) : Option Nat :=
  List.lookup dtype
    [("bool", 1), ("int8", 1), ("uint8", 1), ("int16", 2), ("uint16", 2), ("int32", 4),
      ("uint32", 4), ("int64", 8), ("uint64", 8), ("float16", 2), ("float32", 4), ("float64", 8)]

/-- `get_all_str_dtypes` -/
def getAllStrDtypes : List String :=
  ["float16", "float32", "float64", "bool", "int8", "uint8", "int16", "uint16", "int32",
    "uint32", "int64", "uint64"]

/-- `calc_op_param_size` -/
def calcOpParamSize (shapeSize : Int) (dtype : Option String) : Except PyError Int :=
  match dtype with
  | none => .error (.typeError ("dtype must be str and in [" ++ ",".intercalate getAllStrDtypes
      ++ "]"))
  | some dtype =>
      match getDtypeByte dtype with
      | some size => .ok (shapeSize * size)
      | none => .error
          (.typeError "unsupported operand type(s) for *: 'int' and 'NoneType'")

/-! ## §3. Objects of type `AscendOpKernelParam`. -/

/-- `AscendOpKernelParam(np_data, shape, dtype, ascend_device, hbm_pointer)` -/
def initParam (env : TbeEnv) (npData : Option NpData) (shape : Option (List Int))
    (dtype : Option String) (ascendDevice : Bool) (hbmPointer : Option Nat) :
    Except PyError AscendOpKernelParam := do
  let (shape, dtype) :=
    match npData with
    | some data => (some (data.shape.map fun n => (n : Int)), data.dtype)
    | none => (shape, dtype)
  let shapeSize ← env.calcShapeSize shape
  if shapeSize < 0 then throw (.runtimeError "Shape size < 0.")
  let size ← calcOpParamSize shapeSize dtype
  return { npData, shape, dtype, size, shapeSize, hbmPointer, ascendDevice }

/-- A new object. -/
def newParam (param : Except PyError AscendOpKernelParam) : Run Nat := do
  let param ← PyM.lift param
  let runner ← PyM.read
  PyM.modify fun runner => { runner with params := runner.params.alloc param }
  return runner.params.size

/-- The parameter with this number. -/
def readParam (k : Nat) : Run AscendOpKernelParam := do
  let runner ← PyM.read
  match runner.params.read k with
  | some param => return param
  | none => PyM.lift (.error (.attributeError "no such object"))

/-- The parameter with this number, changed. -/
def updateParam (k : Nat) (f : AscendOpKernelParam → AscendOpKernelParam) : Run Unit := do
  let param ← readParam k
  PyM.modify fun runner => { runner with params := runner.params.write k (f param) }

/-- `build_op_param_by_np_data` -/
def buildOpParamByNpData (env : TbeEnv) (npData : NpData) : Run Nat :=
  newParam (initParam env (some npData) none none false none)

/-- The array in a file; `dtype` is a name, if it is given. -/
def loadNpData (env : TbeEnv) (dataFilePath : String) (dtype : Option String)
    (shape : Option (List Int)) : Except PyError NpData := do
  if env.rts.pathExists dataFilePath = false then
    throw (.osError ("data_file_path is not exist, path: " ++ dataFilePath))
  match dtype.filter (· ∈ getAllStrDtypes) with
  | none => throw (.runtimeError ("dtype must in [" ++ ",".intercalate getAllStrDtypes ++ "]"))
  | some npDtype => do
      let length ← env.fromfile dataFilePath npDtype
      let shapeSize ← env.calcShapeSize shape
      if shapeSize < 0 then throw (.runtimeError "Shape size < 0")
      if length < shapeSize then
        throw (.runtimeError ("Data size(" ++ toString length ++ ") in data_file < shape size("
          ++ toString shapeSize ++ ")"))
      let shape ← env.reshape shapeSize.toNat shape
      return { shape, dtype := some npDtype,
               nbytes := shapeSize.toNat * (getDtypeByte npDtype).getD 0 }

/-- `build_op_param_by_data_file` -/
def buildOpParamByDataFile (env : TbeEnv) (dataFilePath : String) (dtype : Option String)
    (shape : Option (List Int)) : Run Nat := do
  let npData ← PyM.lift (loadNpData env dataFilePath dtype shape)
  buildOpParamByNpData env npData

/-- `sync_to_device` -/
def syncToDevice (env : TbeEnv) (k : Nat) : Run Unit := do
  updateParam k fun param => { param with ascendDevice := true }
  let param ← readParam k
  match param.npData with
  | none => PyM.lift (.error (.attributeError "'NoneType' object has no attribute 'tobytes'"))
  | some npData => do
      let p ← onDevice (RtsApi.copyBinToHbm env.rts npData.nbytes)
      updateParam k fun param => { param with hbmPointer := some p }

/-- The buffer of a parameter on the device is freed. -/
def releasePointer (env : TbeEnv) (k : Nat) (param : AscendOpKernelParam) : Run Unit :=
  match param.ascendDevice, param.hbmPointer with
  | true, some p => do
      onDevice (RtsApi.free env.rts p)
      updateParam k fun param => { param with hbmPointer := none }
  | _, _ => return ()

/-- `release_device` -/
def releaseDevice (env : TbeEnv) (k : Nat) : Run Unit := do
  let param ← readParam k
  releasePointer env k param
  updateParam k fun param => { param with ascendDevice := false }

/-! ## §4. The runner. -/

/-- `AscendOpKernelRunner(simulator_mode, device_id, soc_version, …)` -/
def initRunner (env : TbeEnv) (simulatorMode socVersion simulatorLibPath : Option String)
    (simulatorDumpPath : String) (deviceId : Int) (profiling : Bool) (profilingTimes : Nat) :
    Run Unit := do
  if profilingTimes < 1 ∨ 100 < profilingTimes then
    PyM.lift (.error (.valueError "profiling times should between [1, 100]"))
  PyM.modify fun runner => { runner with deviceId }
  onDevice (RtsApi.init env.rts simulatorMode socVersion simulatorLibPath simulatorDumpPath)
  onDevice (RtsApi.setDevice env.rts deviceId)
  let stream ← onDevice (RtsApi.createStream env.rts)
  PyM.modify fun runner =>
    { runner with stream, kernelParams := [], profiling, profilingTimes }

/-- What a parameter is built from: an array, or the path of a file. -/
inductive ParamData where
  | array (npData : NpData)
  | file (path : String)

/-- An input of `run`. -/
inductive OpInput where
  | param (k : Nat)
  | data (data : ParamData)

/-- The parameter of `build_kernel_param`. -/
def buildParam (env : TbeEnv) (data : ParamData) (shape : Option (List Int))
    (dtype : Option String) : Run Nat :=
  match data with
  | .file path => buildOpParamByDataFile env path dtype shape
  | .array npData => buildOpParamByNpData env npData

/-- `build_kernel_param` -/
def buildKernelParam (env : TbeEnv) (data : ParamData) (shape : Option (List Int))
    (dtype : Option String) : Run Nat := do
  let kernelParam ← buildParam env data shape dtype
  syncToDevice env kernelParam
  PyM.modify fun runner => { runner with kernelParams := runner.kernelParams ++ [kernelParam] }
  return kernelParam

/-- `cache_kernel_param` -/
def cacheKernelParam (k : Nat) : Run Unit :=
  PyM.modify fun runner =>
    if k ∈ runner.kernelParams then runner
    else { runner with kernelParams := runner.kernelParams ++ [k] }

/-- `concat_into_kernel_args`: what is appended. -/
def concatIntoKernelArgs (k : Nat) : Run (Option Nat) := do
  let param ← readParam k
  return param.hbmPointer

/-- A step of `_fill_inputs`: what it appends to `kernel_args`, and to `input_params` if it
does. -/
def fillInput (env : TbeEnv) : OpInput → Run (Option Nat × Option Nat)
  | .param k => do
      -- `isinstance` looks at the object.
      let _ ← readParam k
      cacheKernelParam k
      let param ← readParam k
      if param.hbmPointer.isNone then syncToDevice env k
      return (← concatIntoKernelArgs k, some k)
  | .data data => do
      let k ← buildKernelParam env data none none
      return (← concatIntoKernelArgs k, none)

/-- `_fill_inputs` -/
def fillInputs (env : TbeEnv) (inputs : List OpInput) : Run (List (Option Nat × Option Nat)) :=
  PyM.collect (fillInput env) inputs

/-- `dict(output_input_ref).get(j)` -/
def refOf (outputInputRef : List (Int × Int)) (j : Int) : Option Int :=
  outputInputRef.reverse.lookup j

/-- `output_info.get("run_shape")`, or its shape. -/
def OutputInfo.outShape (info : OutputInfo) : Option (List Int) :=
  if info.runShape.isNone then info.shape else info.runShape

/-- The size of the buffer of an output. -/
def outSize (env : TbeEnv) (info : OutputInfo) : Except PyError Int :=
  if info.size.getD 0 ≠ 0 then .ok (info.size.getD 0)
  else do
    let shapeSize ← env.calcShapeSize info.outShape
    if shapeSize < 0 then return -1 else calcOpParamSize shapeSize info.dtype

/-- The parameter of an output: that of an input, or a new one with a buffer of its own. -/
def outputParam (env : TbeEnv) (outputInputRef : List (Int × Int)) (inputParams : List Nat)
    (outputIdx : Int) (info : OutputInfo) : Run Nat :=
  match refOf outputInputRef outputIdx with
  | some i => PyM.lift (getIndex inputParams i)
  | none => do
      let size ← PyM.lift (outSize env info)
      let p ← onDevice (RtsApi.malloc env.rts size)
      onDevice (RtsApi.memset env.rts p size)
      newParam (initParam env none info.outShape info.dtype true (some p))

/-- A step of `_fill_outputs`: what it appends to `output_params` and to `kernel_args`. -/
def fillOutput (env : TbeEnv) (outputInputRef : List (Int × Int)) (inputParams : List Nat)
    (outputIdx : Int) (info : OutputInfo) : Run (Nat × Option Nat) := do
  let k ← outputParam env outputInputRef inputParams outputIdx info
  let arg ← concatIntoKernelArgs k
  cacheKernelParam k
  return (k, arg)

/-- `_fill_outputs`; `output_idx` is not counted up. -/
def fillOutputs (env : TbeEnv) (outputInputRef : List (Int × Int)) (inputParams : List Nat)
    (outputInfos : List (Option OutputInfo)) : Run (List (Nat × Option Nat)) :=
  let outputIdx := 0
  PyM.collect (fillOutput env outputInputRef inputParams outputIdx) (outputInfos.filterMap id)

/-- `_fill_workspace` -/
def fillWorkspace (env : TbeEnv) (workspace : List Int) : Run (List Nat) :=
  PyM.collect (fun size => onDevice (RtsApi.malloc env.rts (size + 32))) workspace

/-- `_fill_tiling`, for tiling data of this length, if there is any. -/
def fillTiling (env : TbeEnv) (kernel : AscendOpKernel) (tiling : Option Nat) :
    Run (List Nat) := do
  if kernel.needDoTiling = false then return []
  if tiling.getD 0 = 0 then PyM.lift (.error (.runtimeError "Tiling data is None"))
  let p ← onDevice (RtsApi.copyBinToHbm env.rts (tiling.getD 0))
  return [p]

/-- `[arg.value for arg in kernel_args]` -/
def knlArgs : List (Option Nat) → Except PyError (List Nat)
  | [] => .ok []
  | none :: _ => .error (.attributeError "'NoneType' object has no attribute 'value'")
  | some p :: args => do return p :: (← knlArgs args)

/-- The function of a kernel, which is registered if it was not. -/
def registerKernel (env : TbeEnv) (kernel : AscendOpKernel) : Run String := do
  let runner ← PyM.read
  match runner.stubFuncs.lookup kernel.ref with
  | some stubFunc => return stubFunc
  | none => do
      let handle ← onDevice
        (RtsApi.registerDeviceBinaryKernel env.rts kernel.binPath kernel.magic)
      let stubFunc ← onDevice (RtsApi.registerFunction env.rts handle kernel.stubFuncName)
      PyM.modify fun runner =>
        { runner with stubFuncs := runner.stubFuncs ++ [(kernel.ref, stubFunc)] }
      return stubFunc

/-- The kernel is launched so many times. -/
def launchTimes (env : TbeEnv) (stubFunc : String) (blockDim : Int) (args : List Nat)
    (stream : Nat) : Nat → Run Unit
  | 0 => return ()
  | n + 1 => do
      onDevice (RtsApi.launchKernel env.rts stubFunc blockDim args)
      onDevice (RtsApi.synchronizeWithStream env.rts stream)
      launchTimes env stubFunc blockDim args stream n

/-- `ctypes.c_uint32(block_dim)` -/
def cBlockDim (blockDim : Option Int) : Except PyError Int :=
  match blockDim with
  | some n => .ok n
  | none => .error (.typeError "an integer is required (got type NoneType)")

/-- `_execute_kernel` -/
def executeKernel (env : TbeEnv) (kernel : AscendOpKernel) (args : List Nat)
    (blockDim : Option Int) : Run Unit := do
  let runner ← PyM.read
  if runner.profiling then
    onDevice (RtsApi.startOnlineProfiling env.rts runner.stream runner.profilingTimes)
  let stubFunc ← registerKernel env kernel
  let dim ← PyM.lift (cBlockDim blockDim)
  launchTimes env stubFunc dim args runner.stream
    (if runner.profiling then runner.profilingTimes else 1)
  if runner.profiling then do
    onDevice (RtsApi.getOnlineProfilingData env.rts runner.stream runner.profilingTimes)
    onDevice (RtsApi.stopOnlineProfiling env.rts runner.stream)

/-- The part of `run` that obtains buffers for this run only, up to `_execute_kernel`. -/
def executeWith (env : TbeEnv) (kernel : AscendOpKernel) (kernelArgs : List (Option Nat))
    (tiling : Option Nat) (blockDim : Option Int) : Run (List Nat × List Nat) := do
  let workspaceHbmPList ← fillWorkspace env kernel.workspace
  let tilingHbm ← fillTiling env kernel tiling
  let args ← PyM.lift
    (knlArgs (kernelArgs ++ workspaceHbmPList.map some ++ tilingHbm.map some))
  executeKernel env kernel args (if blockDim.getD 0 = 0 then kernel.blockDim else blockDim)
  return (workspaceHbmPList, tilingHbm)

/-- `self.ascend_device.free` for each buffer of a list, in order. -/
def freeAll (env : TbeEnv) : List Nat → Run Unit
  | [] => return ()
  | p :: ps => do
      onDevice (RtsApi.free env.rts p)
      freeAll env ps

/-- The part of `run` behind the inputs and outputs. -/
def runWith (env : TbeEnv) (kernel : AscendOpKernel) (kernelArgs : List (Option Nat))
    (tiling : Option Nat) (blockDim : Option Int) : Run Unit := do
  let (workspaceHbmPList, tilingHbm) ← executeWith env kernel kernelArgs tiling blockDim
  freeAll env workspaceHbmPList
  freeAll env tilingHbm

/-- The arguments of `run`, with the length of the tiling data. -/
structure RunArgs where
  kernel : AscendOpKernel
  inputs : List OpInput
  outputInputRef : List (Int × Int) := []
  tiling : Option Nat := none
  blockDim : Option Int := none
  actualOutputInfo : List (Option OutputInfo) := []

/-- `actual_output_info if actual_output_info else kernel.output_infos` -/
def RunArgs.outputInfos (a : RunArgs) : List (Option OutputInfo) :=
  if a.actualOutputInfo.isEmpty then a.kernel.outputInfos else a.actualOutputInfo

/-- `run`; the output parameters are returned in a list, also if there is one. -/
def run (env : TbeEnv) (a : RunArgs) : Run (List Nat) := do
  let ins ← fillInputs env a.inputs
  let inputParams := ins.filterMap Prod.snd
  let outs ← fillOutputs env a.outputInputRef inputParams a.outputInfos
  runWith env a.kernel (ins.map Prod.fst ++ outs.map Prod.snd) a.tiling a.blockDim
  return outs.map Prod.fst

/-- `release_device` for each parameter of a list, in order. -/
def releaseAll (env : TbeEnv) : List Nat → Run Unit
  | [] => return ()
  | k :: ks => do
      releaseDevice env k
      releaseAll env ks

/-- `__exit__` -/
def exit (env : TbeEnv) : Run Unit := do
  let runner ← PyM.read
  releaseAll env runner.kernelParams
  onDevice (RtsApi.destroyStream env.rts runner.stream)
  onDevice (RtsApi.reset env.rts (some runner.deviceId))

/-! ## §5. Sessions. -/

/-- A call in a with-block. -/
inductive SessionCall where
  | buildKernelParam (data : ParamData) (shape : Option (List Int)) (dtype : Option String)
  | run (a : RunArgs)

/-- One call of a session. -/
def sessionCall (env : TbeEnv) : SessionCall → Run Unit
  | .buildKernelParam data shape dtype => do
      let _ ← buildKernelParam env data shape dtype
      return ()
  | .run a => do
      let _ ← run env a
      return ()

/-- The objects after some calls; a caller may go on after one that raises. -/
def sessionRun (env : TbeEnv) (calls : List SessionCall) (s : Runner) : Runner :=
  calls.foldl (fun s call => (sessionCall env call s).2) s

/-- A with-block: how `__exit__` ends, and the objects after it. -/
def session (env : TbeEnv) (calls : List SessionCall) (s : Runner) :
    Except PyError Unit × Runner :=
  exit env (sessionRun env calls s)

end TbeOp

end HwEfat.Main
