/-
  HwEfat.Main.RtsApi.Def — the runtime of the device: `rts_api.py`.

  `AscendRTSApi` calls functions of a shared library.  Every call gives a code, and a code
  that is not 0 is raised.  The object keeps the calls with their codes, in order; what the
  library holds (contexts, buffers) can be told from them.  A handle that a call gives is new,
  and it is not null.

  What is given by an `RtsEnv`: the codes, the files, and which libraries can be loaded.
  What is left out: the log, the pauses between two attempts, and the functions that copy
  data back or ask for information on the device.
-/
import HwEfat.Main.RtsInfo

namespace HwEfat.Main

open HwEfat.Lib (PyError PyDict PyM pathJoin split)

namespace RtsApi

open RtsInfo

/-! ## §1. Calls. -/

/-- A call of the library, with what it is about. -/
inductive RtCall where
  | rtSetDevice (deviceId : Int)
  | rtCtxCreate (context : Nat)
  | rtCtxDestroy (context : Nat)
  | rtCtxSetCurrent (context : Nat)
  | rtStreamCreate (stream : Nat)
  | rtStreamDestroy (stream : Nat)
  | rtDevBinaryRegister (handle : Nat)
  | rtDevBinaryUnRegister (handle : Nat)
  | rtFunctionRegister (handle : Nat) (kernelName : String)
  | rtMalloc (p : Nat) (size : Int)
  | rtMemcpy (p : Nat) (size : Nat)
  | rtMemset (p : Nat) (size : Int)
  | rtFree (p : Nat)
  | rtMemGetInfoEx
  | rtKernelLaunch (stubFunc : String) (blockDim : Int) (args : List Nat)
  | rtStreamSynchronize (stream : Nat)
  | rtDeviceReset (deviceId : Int)
  | rtStartOnlineProf (stream : Nat) (count : Nat)
  | rtGetOnlineProfData (stream : Nat) (count : Nat)
  | rtStopOnlineProf (stream : Nat)
  deriving DecidableEq

structure RtsEnv where
  /-- The code of a call, by the number of the calls before it. -/
  code : Nat → UInt64
  /-- `file_util.read_file` -/
  readFile : String → Except PyError (List UInt8)
  pathExists : String → Bool
  realpath : String → String
  /-- Whether `ctypes.CDLL` loads a library. -/
  loads : String → Bool

/-- `AscendRTSApi`, with `os.environ['LD_LIBRARY_PATH']`. -/
structure Api where
  simulatorMode : Option String := none
  deviceId : Option Int := none
  context : Option Nat := none
  camodel : Bool := false
  kernelBinaryStorage : List (Nat × List UInt8) := []
  kernelNameStorage : List (Nat × List String) := []
  contextStorage : List Nat := []
  ldLibraryPath : Option String := none
  /-- The handles that were given out are those up to this one. -/
  handles : Nat := 0
  calls : List (RtCall × UInt64) := []

abbrev Rts : Type → Type := PyM Api

/-- `hex(n)` -/
def hex (n : Nat) : String := "0x" ++ String.ofList (Nat.toDigits 16 n)

/-- A new handle. -/
def newHandle : Rts Nat := do
  let api ← PyM.read
  PyM.modify fun api => { api with handles := api.handles + 1 }
  return api.handles + 1

/-- A call of the library: its code. -/
def callRuntime (env : RtsEnv) (call : RtCall) : Rts UInt64 := do
  let api ← PyM.read
  let code := env.code api.calls.length
  PyM.modify fun api => { api with calls := api.calls ++ [(call, code)] }
  return code

/-! ## §2. Codes. -/

/-- `_parse_error_code` -/
def parseErrorCode (camodel : Bool) (errorType errorCode : Nat) : Except PyError String :=
  if camodel && errorCode == 3 then .ok "CAMODEL_NULL_CONTEXT"
  else
    match RT_ERROR_CODE_DICT.lookup errorType with
    | none => .error (.keyError (toString errorType))
    | some names =>
        match names[errorCode]? with
        | some name => .ok name
        | none => .error (.runtimeError
            ("Received invalid runtime error code: " ++ hex (0x07000000 + errorType + errorCode)))

/-- `parse_error` -/
def parseError (camodel : Bool) (rtError : Nat) (extraInfo : String) : Except PyError Unit :=
  if rtError = 0 then .ok ()
  else if rtError &&& 0xFF000000 ≠ 0x07000000 ∧ camodel = false then
    .error (.runtimeError ("Received invalid runtime error code:" ++ hex rtError ++ extraInfo))
  else
    let rtErrorType := rtError &&& 0x00FF0000
    if (RT_ERROR_CODE_DICT.lookup rtErrorType).isNone ∧ camodel = false then
      .error (.runtimeError ("Received invalid runtime error type: " ++ hex rtError ++ extraInfo))
    else do
      let name ← parseErrorCode camodel rtErrorType (rtError &&& 0x0000FFFF)
      .error (.runtimeError ("Runtime API call () failed:" ++ name ++ extraInfo))

/-- A call of the library, and `parse_error` of its code. -/
def callChecked (env : RtsEnv) (call : RtCall) (extraInfo : String) : Rts Unit := do
  let code ← callRuntime env call
  let api ← PyM.read
  PyM.lift (parseError api.camodel code.toNat extraInfo)

/-! ## §3. Device, contexts and streams. -/

/-- `ctypes.c_int32(self.device_id)` -/
def cDeviceId (deviceId : Option Int) : Except PyError Int :=
  match deviceId with
  | some i => .ok i
  | none => .error (.typeError "an integer is required (got type NoneType)")

/-- `set_device` -/
def setDevice (env : RtsEnv) (deviceId : Int) : Rts Unit := do
  callChecked env (.rtSetDevice deviceId) ""
  PyM.modify fun api => { api with deviceId := some deviceId }

/-- `RT_CONTEXT_MODE[context_mode]` -/
def contextModeOf (contextMode : String) : Except PyError Nat :=
  match RT_CONTEXT_MODE.lookup contextMode with
  | some mode => .ok mode
  | none => .error (.keyError contextMode)

/-- `create_context` -/
def createContext (env : RtsEnv) (contextMode : String) : Rts Nat := do
  let _ ← PyM.lift (contextModeOf contextMode)
  let api ← PyM.read
  let _ ← PyM.lift (cDeviceId api.deviceId)
  let context ← newHandle
  callChecked env (.rtCtxCreate context) ""
  PyM.modify fun api =>
    { api with context := some context, contextStorage := api.contextStorage ++ [context] }
  return context

def unknownContext : PyError :=
  .valueError "Input context does not exist in current interface's context storage"

/-- `destroy_context` -/
def destroyContext (env : RtsEnv) (cContext : Option Nat) : Rts Unit := do
  let api ← PyM.read
  match (if cContext.isNone then api.context else cContext) with
  | none => PyM.lift (.error unknownContext)
  | some context => do
      if context ∉ api.contextStorage then PyM.lift (.error unknownContext)
      callChecked env (.rtCtxDestroy context) ""
      PyM.modify fun api => { api with context := none }

/-- `set_context` -/
def setContext (env : RtsEnv) (cContext : Nat) : Rts Unit := do
  let api ← PyM.read
  if cContext ∉ api.contextStorage then PyM.lift (.error unknownContext)
  callChecked env (.rtCtxSetCurrent cContext) ""
  PyM.modify fun api => { api with context := some cContext }

/-- `create_stream` -/
def createStream (env : RtsEnv) : Rts Nat := do
  let stream ← newHandle
  callChecked env (.rtStreamCreate stream) ""
  return stream

/-- `destroy_stream` -/
def destroyStream (env : RtsEnv) (stream : Nat) : Rts Unit :=
  callChecked env (.rtStreamDestroy stream) ""

/-! ## §4. Kernels. -/

/-- `MAGIC_MAP[magic]`, for the magic number of a kernel if there is one. -/
def magicOf (magic : Option String) : Except PyError Nat :=
  let magic := if magic.getD "" = "" then "RT_DEV_BINARY_MAGIC_ELF" else magic.getD ""
  match MAGIC_MAP.lookup magic with
  | some n => .ok n
  | none => .error (.keyError magic)

/-- A dictionary with another value for a key. -/
def setHandle {α : Type} (storage : List (Nat × α)) (handle : Nat) (a : α) : List (Nat × α) :=
  if (storage.lookup handle).isSome then
    storage.map fun e => if e.1 = handle then (handle, a) else e
  else storage ++ [(handle, a)]

/-- `register_device_binary_kernel` -/
def registerDeviceBinaryKernel (env : RtsEnv) (kernelPath : String) (magic : Option String) :
    Rts Nat := do
  let kernel ← PyM.lift (env.readFile kernelPath)
  let _ ← PyM.lift (magicOf magic)
  let handle ← newHandle
  callChecked env (.rtDevBinaryRegister handle) ""
  PyM.modify fun api =>
    { api with kernelBinaryStorage := setHandle api.kernelBinaryStorage handle kernel }
  return handle

/-- `unregister_device_binary_kernel` -/
def unregisterDeviceBinaryKernel (env : RtsEnv) (handle : Nat) : Rts Unit := do
  callChecked env (.rtDevBinaryUnRegister handle) ""
  let api ← PyM.read
  if (api.kernelBinaryStorage.lookup handle).isNone then
    PyM.lift (.error (.keyError (toString handle)))
  PyM.modify fun api =>
    { api with kernelBinaryStorage := api.kernelBinaryStorage.filter fun e => e.1 ≠ handle }
  PyM.modify fun api =>
    { api with kernelNameStorage := api.kernelNameStorage.filter fun e => e.1 ≠ handle }

/-- `register_function` -/
def registerFunction (env : RtsEnv) (handle : Nat) (kernelName : String) : Rts String := do
  let api ← PyM.read
  if (api.kernelNameStorage.lookup handle).isNone then
    PyM.modify fun api =>
      { api with kernelNameStorage := setHandle api.kernelNameStorage handle [] }
  callChecked env (.rtFunctionRegister handle kernelName) (", kernel_name is: " ++ kernelName)
  let api ← PyM.read
  let names := (api.kernelNameStorage.lookup handle).getD [] ++ [kernelName]
  PyM.modify fun api =>
    { api with kernelNameStorage := setHandle api.kernelNameStorage handle names }
  return kernelName

/-- `launch_kernel` -/
def launchKernel (env : RtsEnv) (stubFunc : String) (blockDim : Int) (args : List Nat) :
    Rts Unit :=
  callChecked env (.rtKernelLaunch stubFunc blockDim args) ""

/-- `synchronize_with_stream` -/
def synchronizeWithStream (env : RtsEnv) (stream : Nat) : Rts Unit :=
  callChecked env (.rtStreamSynchronize stream) ""

/-! ## §5. Memory. -/

def isRuntimeError : PyError → Bool
  | .runtimeError _ => true
  | _ => false

/-- An attempt of `memcpy`: how it ends. -/
def memcpyOnce (env : RtsEnv) (p size : Nat) : Rts (Except PyError Unit) := do
  let code ← callRuntime env (.rtMemcpy p size)
  let api ← PyM.read
  return parseError api.camodel code.toNat ""

/-- `memcpy`, with so many retries left; only a `RuntimeError` is tried again. -/
def memcpyRetries (env : RtsEnv) (p size : Nat) : Nat → Rts Unit
  | 0 => do
      match ← memcpyOnce env p size with
      | .ok () => return ()
      | .error e => PyM.lift (.error
          (if isRuntimeError e then .runtimeError "After three retrys,memcpy still fails" else e))
  | retries + 1 => do
      match ← memcpyOnce env p size with
      | .ok () => return ()
      | .error e =>
          if isRuntimeError e then memcpyRetries env p size retries else PyM.lift (.error e)

/-- `memcpy` -/
def memcpy (env : RtsEnv) (p size retryCount : Nat) : Rts Unit :=
  memcpyRetries env p size (3 - retryCount)

/-- `malloc` -/
def malloc (env : RtsEnv) (memorySize : Int) : Rts Nat := do
  let p ← newHandle
  callChecked env (.rtMalloc p memorySize)
    (", trying to allocate " ++ toString memorySize ++ " bytes")
  return p

/-- `memset` -/
def memset (env : RtsEnv) (p : Nat) (size : Int) : Rts Unit :=
  callChecked env (.rtMemset p size) ""

/-- `free` -/
def free (env : RtsEnv) (p : Nat) : Rts Unit :=
  callChecked env (.rtFree p) ""

/-- `get_memory_info_ex` of the memory of the device. -/
def getMemoryInfoEx (env : RtsEnv) : Rts Unit :=
  callChecked env .rtMemGetInfoEx ""

/-- The size of the buffer for data: whole blocks of 32 bytes, and one more. -/
def hbmSize (dataSize : Nat) : Nat := (dataSize + 31) / 32 * 32 + 32

/-- The `malloc` of `copy_bin_to_hbm`: if it raises, the log asks for the memory that is
left. -/
def hbmMalloc (env : RtsEnv) (dataSize : Nat) : Rts Nat := fun api =>
  match malloc env (hbmSize dataSize) api with
  | (.error e, api) => (do getMemoryInfoEx env; PyM.lift (.error e) : Rts Nat) api
  | result => result

/-- `copy_bin_to_hbm`, for data of this size -/
def copyBinToHbm (env : RtsEnv) (dataSize : Nat) : Rts Nat := do
  let p ← hbmMalloc env dataSize
  memcpy env p dataSize 0
  return p

/-! ## §6. Profiling. -/

/-- `start_online_profiling` -/
def startOnlineProfiling (env : RtsEnv) (stream count : Nat) : Rts Unit :=
  callChecked env (.rtStartOnlineProf stream count) ""

/-- `stop_online_profiling` -/
def stopOnlineProfiling (env : RtsEnv) (stream : Nat) : Rts Unit :=
  callChecked env (.rtStopOnlineProf stream) ""

/-- `get_online_profiling_data` -/
def getOnlineProfilingData (env : RtsEnv) (stream count : Nat) : Rts Unit :=
  callChecked env (.rtGetOnlineProfData stream count) ""

/-! ## §7. The library. -/

def MODEL_SO_LIST : List (String × List String) :=
  [("pv", ["lib_pvmodel.so", "libtsch.so", "libnpu_drv_pvmodel.so", "libruntime_cmodel.so"]),
    ("ca", ["libcamodel.so", "libtsch_camodel.so", "libnpu_drv_camodel.so",
      "libruntime_camodel.so"]),
    ("tm", ["libpem_davinci.so", "libtsch.so", "libnpu_drv_pvmodel.so", "libruntime_cmodel.so"]),
    ("esl", ["libnpu_drv_camodel.so", "libruntime_camodel.so"])]

/-- `os.environ['LD_LIBRARY_PATH']` -/
def getLdLibraryPath : Rts String := do
  let api ← PyM.read
  match api.ldLibraryPath with
  | some path => return path
  | none => PyM.lift (.error (.keyError "LD_LIBRARY_PATH"))

/-- `_clear_env` -/
def clearEnv : Rts Unit := do
  let api ← PyM.read
  if api.simulatorMode.getD "" ≠ "" then do
    let allLdPaths := split (← getLdLibraryPath) ":"
    let allLdPaths :=
      if 2 < allLdPaths.length then allLdPaths.take (allLdPaths.length - 2) else allLdPaths
    PyM.modify fun api => { api with ldLibraryPath := some (":".intercalate allLdPaths) }
  else return ()

/-- `_load_runtime_so` -/
def loadRuntimeSo (env : RtsEnv) : Rts Unit := do
  let ldLibPaths ← getLdLibraryPath
  if ldLibPaths = "" then
    PyM.lift (.error (.runtimeError "LD_LIBRARY_PATH is empty can't find runtime.so"))
  let paths := (split ldLibPaths ":").map fun path => pathJoin path "libruntime.so"
  match paths.find? env.pathExists with
  | none =>
      PyM.lift (.error
        (.runtimeError "Not found libruntime.so, please check your LD_LIBRARY_PATH"))
  | some path => PyM.lift (if env.loads path then .ok () else .error (.osError path))

/-- The first library that is not there. -/
def checkSoPaths (env : RtsEnv) (paths : List String) : Except PyError Unit :=
  match paths.find? fun path => !env.pathExists path with
  | some path => .error (.runtimeError ("Simulator so is not exist, path: " ++ path))
  | none => .ok ()

/-- The functions of `os.path` take no `None`. -/
def pathArgument (path : Option String) : Except PyError String :=
  match path with
  | some path => .ok path
  | none => .error (.typeError "expected str, bytes or os.PathLike object, not NoneType")

/-- `_init_simulator_so_path`: the libraries, and what is added to the library path. -/
def initSimulatorSoPath (env : RtsEnv) (soNames : List String)
    (socVersion simulatorLibPath : Option String) : Except PyError (List String × String) := do
  let realpath := env.realpath (← pathArgument simulatorLibPath)
  let libDir := pathJoin (pathJoin realpath (← pathArgument socVersion)) "lib"
  if env.pathExists libDir = false then
    throw (.runtimeError
      ("Simulator lib path([simulator_lib_path]/[soc_version]/lib) is not exist, path: "
        ++ libDir ++ "."))
  let soPaths := soNames.map (pathJoin libDir)
  checkSoPaths env soPaths
  let commonDataPath := pathJoin (pathJoin realpath "common") "data"
  if env.pathExists commonDataPath = false then
    throw (.runtimeError ("Simulator common data path is not exist, path: " ++ commonDataPath))
  return (soPaths, libDir ++ ":" ++ commonDataPath)

/-- The loading of the libraries; the message for the last one names the one before it. -/
def loadDlls (env : RtsEnv) (soPaths : List String) : Except PyError Unit :=
  let failed (path : String) : PyError := .runtimeError ("CDLL so failed, so_path: " ++ path)
  match soPaths.dropLast.find? fun path => !env.loads path, soPaths.getLast? with
  | some path, _ => .error (failed path)
  | none, some path =>
      if env.loads path then .ok () else .error (failed (soPaths.dropLast.getLast?.getD ""))
  | none, none => .error (.indexError "list index out of range")

/-- `_dll_simulator_so`: the paths are added before the libraries are loaded. -/
def dllSimulatorSo (env : RtsEnv) (soPaths : List String) (additionLdLibPaths : String) :
    Rts Unit := do
  let path ← getLdLibraryPath
  PyM.modify fun api =>
    { api with ldLibraryPath := some (path ++ (":" ++ additionLdLibPaths)) }
  PyM.lift (loadDlls env soPaths)

/-- `_load_simulator_so` -/
def loadSimulatorSo (env : RtsEnv) (simulatorMode : String)
    (socVersion simulatorLibPath : Option String) (simulatorDumpPath : String) : Rts Unit := do
  match MODEL_SO_LIST.lookup simulatorMode with
  | none =>
      PyM.lift (.error (.valueError ("simulator_mode need to be "
        ++ "/".intercalate (MODEL_SO_LIST.map Prod.fst) ++ ", actual is " ++ simulatorMode)))
  | some soNames => do
      if env.pathExists (env.realpath simulatorDumpPath) = false then
        PyM.lift (.error (.runtimeError "simulator_dump_path is not exist."))
      let (soPaths, additionLdPaths) ←
        PyM.lift (initSimulatorSoPath env soNames socVersion simulatorLibPath)
      dllSimulatorSo env soPaths additionLdPaths

/-- `AscendRTSApi(simulator_mode, soc_version, simulator_lib_path, simulator_dump_path)` -/
def init (env : RtsEnv) (simulatorMode socVersion simulatorLibPath : Option String)
    (simulatorDumpPath : String) : Rts Unit := do
  PyM.modify fun api => { api with simulatorMode }
  match simulatorMode with
  | none => loadRuntimeSo env
  | some mode => loadSimulatorSo env mode socVersion simulatorLibPath simulatorDumpPath
  PyM.modify fun api =>
    { api with
      deviceId := none
      context := none
      camodel := simulatorMode == some "ca"
      kernelBinaryStorage := []
      kernelNameStorage := []
      contextStorage := [] }

/-- `reset` -/
def reset (env : RtsEnv) (deviceId : Option Int) : Rts Unit := do
  let api ← PyM.read
  let deviceId ← PyM.lift (cDeviceId (if deviceId.isNone then api.deviceId else deviceId))
  callChecked env (.rtDeviceReset deviceId) ""
  clearEnv

end RtsApi

end HwEfat.Main
