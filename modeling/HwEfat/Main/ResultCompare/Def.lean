/-
  HwEfat.Main.ResultCompare.Def — `result_comparer.py`: reading `result.txt` and
  comparing the outputs of the cases that have run with the expected ones.

  What is outside the script is given by a `CompareEnv`: the files, the digits of
  Unicode, and the outcome of comparing two data files (`np.fromfile` and
  `CompareData`).  Log lines are left out, and so is `compare_by_path`, which writes
  nothing to the report.
-/
import HwEfat.Main.Utils
import HwEfat.Main.Report.Stages

namespace HwEfat.Main

open HwEfat.Lib (PyError PyFloat PyVal PyM pathJoin split isdigit)

/-! ## §1. The environment. -/

/-- The types of numpy that `_get_np_dtype` knows. -/
inductive NpType where
  | float64
  | float32
  | float16
  | int64
  | int32
  | int16
  | int8
  | double
  | uint64
  | uint32
  | uint16
  | uint8
  | bool
  | complex64
  | complex128
  deriving Repr, DecidableEq

/-- `result, error_percent, max_error` of a comparison. -/
structure CompareResult where
  result : String
  errorPercent : PyFloat
  maxError : PyFloat

structure CompareEnv where
  digit : Char → Bool
  pathExists : String → Bool
  /-- `os.access(path, os.R_OK)` -/
  readable : String → Bool
  readText : String → Except PyError String
  isfile : String → Bool
  /-- The comparison of a result file with an expected one, under the parameters and the
  error threshold of the case. -/
  compareFiles : PyVal → PyVal → String → String → NpType → Except PyError CompareResult

/-- `utils.read_file` -/
def readFile (env : CompareEnv) (opFile : String) : Except PyError String :=
  match env.readText opFile with
  | .error (.osError _) => .error (opTestGenException OP_TEST_GEN_OPEN_FILE_ERROR)
  | contentTxt => contentTxt

/-! ## §2. `ResultTxtParser`. -/

/-- The path of `result.txt`. -/
def resultTxtPath (runDir : String) : String :=
  pathJoin (pathJoin (pathJoin (pathJoin runDir "run") "out") "result_files") "result.txt"

/-- `_check_result_txt` -/
def checkResultTxt (env : CompareEnv) (runDir : String) : PyM ReportState String := do
  let resultTxt := resultTxtPath runDir
  if !env.pathExists resultTxt || !env.readable resultTxt then
    PyM.modify fun st => st.addToAll { status := FAILED, stageName := some "run_acl_code" }
    return ""
  else return resultTxt

/-- `_read_result_txt` -/
def readResultTxt (env : CompareEnv) (runDir : String) : PyM ReportState (List String) := do
  let resultTxt ← checkResultTxt env runDir
  if resultTxt.toList.isEmpty then return []
  else
    let txt ← PyM.lift (readFile env resultTxt)
    return split txt "\n"

/-- A line of `result.txt`: `index`, `case_name` and `result`. -/
structure ResultInfo where
  index : String
  caseName : String
  result : String
  deriving Repr, DecidableEq

/-- One turn of the loop of `parser_result_txt`: lines that are not well formed are passed
over. -/
def parseLine (digit : Char → Bool) (line : String) : Option ResultInfo :=
  match split line "  " with
  | [index, caseName, result] =>
      if isdigit digit index then some ⟨index, caseName, result⟩ else none
  | _ => none

/-- `parser_result_txt` -/
def parserResultTxt (env : CompareEnv) (runDir : String) : PyM ReportState (List ResultInfo) := do
  let runResultList ← readResultTxt env runDir
  return runResultList.filterMap (parseLine env.digit)

/-! ## §3. `ResultCompare`. -/

structure ResultCompare where
  errThr : PyVal
  runDir : String

/-- `_get_np_dtype` -/
def getNpDtype : PyVal → Except PyError (Option NpType)
  | .str typeStr => .ok <| match typeStr with
      | "fp64" => some .float64
      | "fp32" => some .float32
      | "float32" => some .float32
      | "float" => some .float32
      | "fp16" => some .float16
      | "float16" => some .float16
      | "int64" => some .int64
      | "int32" => some .int32
      | "int16" => some .int16
      | "int8" => some .int8
      | "double" => some .double
      | "uint64" => some .uint64
      | "uint32" => some .uint32
      | "uint16" => some .uint16
      | "uint8" => some .uint8
      | "bool" => some .bool
      | "complex64" => some .complex64
      | "complex128" => some .complex128
      | _ => none
  | .list _ => .error (.typeError "unhashable type: 'list'")
  | .dict _ => .error (.typeError "unhashable type: 'dict'")
  | _ => .ok none

namespace ResultCompare

/-- `_check_isfile` -/
def checkIsfile (env : CompareEnv) (resultFile expectFile : String) : Bool :=
  if !env.isfile resultFile then false
  else if !env.isfile expectFile then false
  else true

/-- `_get_data_type` -/
def getDataType (caseInfo : OpSTCase) (idx : Nat) : Except PyError (Option NpType) := do
  let outputConfigs ← caseInfo.opParams.get "output_desc"
  if !outputConfigs.truthy then return none
  else
    let config ← outputConfigs.item idx
    let strType ← config.get "type"
    getNpDtype strType

/-- `_get_err_thr` -/
def getErrThr (self : ResultCompare) (caseInfo : OpSTCase) : Except PyError PyVal := do
  if self.errThr.truthy then return self.errThr
  else
    let errThr ← caseInfo.opParams.get ERROR_THRESHOLD
    if errThr.truthy then return errThr else return DEFAULT_ERROR_THRESHOLD

/-- `case_info.planned_output_data_paths[idx]` -/
def plannedOutput (caseInfo : OpSTCase) (idx : Nat) : Except PyError String :=
  match caseInfo.plannedOutputDataPaths with
  | none => .error (.typeError "'NoneType' object is not subscriptable")
  | some paths =>
      match paths[idx]? with
      | some path => .ok path
      | none => .error (.indexError "list index out of range")

/-- One turn of the loop of `_get_compare_result_list`; nothing for a file that is
skipped. -/
def compareResult (env : CompareEnv) (self : ResultCompare) (caseInfo : OpSTCase)
    (expectFile : String) (idx : Nat) : Except PyError (Option CompareResult) := do
  let resultFile ← plannedOutput caseInfo idx
  if !checkIsfile env resultFile expectFile then return none
  else
    match ← getDataType caseInfo idx with
    | none => return none
    | some npType =>
        let errThr ← self.getErrThr caseInfo
        let result ← env.compareFiles caseInfo.opParams errThr resultFile expectFile npType
        return some result

/-- `_get_compare_result_list` -/
def getCompareResultList (env : CompareEnv) (self : ResultCompare) (caseInfo : OpSTCase) :
    Except PyError (List CompareResult) :=
  ((caseInfo.expectDataPaths.getD []).zipIdx).filterMapM fun (expectFile, idx) =>
    compareResult env self caseInfo expectFile idx

/-- The status of the stage `compare_data`. -/
def compareStatus (resultList : List CompareResult) : String :=
  if resultList.isEmpty then FAILED
  else if resultList.any (fun resultInfo => resultInfo.result == "Failed") then FAILED
  else SUCCESS

/-- `_add_op_st_stage_result`, for the case at position `i`. -/
def addOpStStageResult (i : Nat) (status stageName : String) : PyM ReportState Unit :=
  PyM.modify fun st => st.addTo [i] { status := status, stageName := some stageName }

/-- `_get_case_info`: nothing is returned if there is no expected data. -/
def getCaseInfo (caseReport : OpSTCaseReport) (i : Nat) : PyM ReportState (Option OpSTCase) := do
  addOpStStageResult i SUCCESS "run_acl_code"
  let caseInfo := caseReport.traceDetail.stCaseInfo
  if (caseInfo.expectDataPaths.getD []).isEmpty then
    addOpStStageResult i FAILED "compare_data"
    return none
  else return some caseInfo

/-- `_get_compare_stage_result` -/
def getCompareStageResult (env : CompareEnv) (self : ResultCompare) (result : String)
    (caseReport : OpSTCaseReport) (i : Nat) : PyM ReportState Unit := do
  if result = "[fail]" then addOpStStageResult i FAILED "run_acl_code"
  else if result = "[pass]" then
    match ← getCaseInfo caseReport i with
    | none => return ()
    | some caseInfo =>
        let resultList ← PyM.lift (self.getCompareResultList env caseInfo)
        addOpStStageResult i (compareStatus resultList) "compare_data"
  else return ()

/-- `_get_run_stage_result` -/
def getRunStageResult (result : String) (i : Nat) : PyM ReportState Unit :=
  if result = "[fail]" then addOpStStageResult i FAILED "run_acl_code"
  else if result = "[pass]" then addOpStStageResult i SUCCESS "run_acl_code"
  else return ()

/-- One turn of the loop of `compare`. -/
def compareLine (env : CompareEnv) (self : ResultCompare) (resultInfo : ResultInfo) :
    PyM ReportState Unit := do
  let st ← PyM.read
  match st.report.getCaseReport resultInfo.caseName with
  | none => return ()
  | some (caseReport, i) =>
      let withExpectFunc ← PyM.lift
        (caseReport.traceDetail.stCaseInfo.opParams.get "calc_expect_func_file_func")
      if withExpectFunc.truthy then
        self.getCompareStageResult env resultInfo.result caseReport i
      else getRunStageResult resultInfo.result i

/-- `compare` -/
def compare (env : CompareEnv) (self : ResultCompare) : PyM ReportState Unit := do
  let resultInfoList ← parserResultTxt env self.runDir
  resultInfoList.forM (self.compareLine env)

end ResultCompare

end HwEfat.Main
