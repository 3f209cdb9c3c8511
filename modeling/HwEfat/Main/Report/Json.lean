/-
  HwEfat.Main.Report.Json — the report as a JSON file: `to_json_obj` and
  `parser_json_obj` of the classes of `op_st_case_info.py` and `st_report.py`.

  The file is the JSON object that is written to it: `json.loads` of what `json.dumps`
  writes is the object.  The directory, the permissions and the errors of the file system
  are left out, and so is `ReportJsonEncoder`, which writes numpy's numbers as numbers.

  A field of the model has a type, where the source takes over whatever the file has.  So
  the readers here raise on a value of another type; no such value is ever written.
-/
import HwEfat.Main.Report.Counters

namespace HwEfat.Main

open HwEfat.Lib (Heap PyError PyVal)

/-! ## §1. Fields. -/

/-- A string or `None`. -/
def strVal : Option String → PyVal
  | some s => .str s
  | none => .none

/-- A list of strings or `None`. -/
def strsVal : Option (List String) → PyVal
  | some l => .list (l.map .str)
  | none => .none

/-- A string of a JSON object. -/
def readStr : PyVal → Except PyError String
  | .str s => .ok s
  | _ => .error (.typeError "not a string")

/-- A string of a JSON object, or `None`. -/
def readOptionalStr : PyVal → Except PyError (Option String)
  | .none => .ok none
  | v => return some (← readStr v)

/-- A list of strings of a JSON object, or `None`. -/
def readOptionalStrs : PyVal → Except PyError (Option (List String))
  | .none => .ok none
  | v => return some (← (← v.iter).mapM readStr)

@[simp] theorem readOptionalStr_strVal (s : Option String) :
    readOptionalStr (strVal s) = .ok s := by
  cases s <;> rfl

@[simp] theorem readOptionalStrs_strsVal (l : Option (List String)) :
    readOptionalStrs (strsVal l) = .ok l := by
  cases l with
  | none => rfl
  | some l =>
      have hread : (l.map PyVal.str).mapM readStr = .ok l := by
        rw [Lib.mapM_eq_ok]
        induction l with
        | nil => exact .nil
        | cons s l ih => exact .cons rfl ih
      show (do return some (← (l.map PyVal.str).mapM readStr)) = Except.ok (some l)
      rw [hread]
      rfl

/-! ## §2. Cases and stages. -/

/-- `to_json_obj` -/
def OpSTCase.toJsonObj (case : OpSTCase) : PyVal :=
  .dict [("case_name", .str case.caseName),
    ("op_params", case.opParams),
    ("input_data_path", strVal case.inputDataPaths),
    ("expect_data_paths", strsVal case.expectDataPaths),
    ("planned_output_data_paths", strsVal case.plannedOutputDataPaths)]

/-- `OpSTCase.parser_json_obj`; `none` is the empty string. -/
def OpSTCase.parserJsonObj (jsonObj : PyVal) : Except PyError (Option OpSTCase) := do
  if !jsonObj.truthy then return none
  let caseName ← readStr (← jsonObj.get "case_name")
  let opParams ← jsonObj.get "op_params"
  let expectDataPaths ← readOptionalStrs (← jsonObj.get "expect_data_paths")
  let plannedOutputDataPaths ← readOptionalStrs (← jsonObj.get "planned_output_data_paths")
  let inputDataPaths ← readOptionalStr (← jsonObj.getItem "input_data_path")
  return some { caseName, opParams, inputDataPaths, plannedOutputDataPaths, expectDataPaths }

/-- A case is read as it was written. -/
theorem OpSTCase.parserJsonObj_toJsonObj (case : OpSTCase) :
    OpSTCase.parserJsonObj case.toJsonObj = .ok (some case) := by
  unfold OpSTCase.parserJsonObj OpSTCase.toJsonObj
  simp [PyVal.truthy, PyVal.get, PyVal.getItem, readStr, List.lookup_cons, bind, Except.bind, pure,
    Except.pure]

/-- `to_json_obj`: `cmd` is written if there is one, and it is not empty. -/
def OpSTStageResult.toJsonObj (stage : OpSTStageResult) : PyVal :=
  if (strVal stage.cmd).truthy then
    .dict [("status", .str stage.status), ("result", stage.result),
      ("stage_name", strVal stage.stageName), ("cmd", strVal stage.cmd)]
  else
    .dict [("status", .str stage.status), ("result", stage.result),
      ("stage_name", strVal stage.stageName)]

/-- `OpSTStageResult.parser_json_obj` -/
def OpSTStageResult.parserJsonObj (jsonObj : PyVal) : Except PyError OpSTStageResult := do
  let status ← readStr (← jsonObj.get "status")
  let stageName ← readOptionalStr (← jsonObj.get "stage_name")
  let result ← jsonObj.get "result"
  if (← jsonObj.get "cmd").truthy then
    return { status, stageName, result, cmd := ← readOptionalStr (← jsonObj.get "cmd") }
  else return { status, stageName, result }

/-- A stage result without an empty command. -/
def OpSTStageResult.saved (stage : OpSTStageResult) : OpSTStageResult :=
  if stage.cmd = some "" then { stage with cmd := none } else stage

/-- An empty command is saved as no command; everything else is kept. -/
theorem OpSTStageResult.saved_eq_iff {stage : OpSTStageResult} :
    stage.saved = stage ↔ stage.cmd ≠ some "" := by
  unfold saved
  by_cases h : stage.cmd = some ""
  · rw [if_pos h]
    constructor
    · intro heq
      rw [← heq]
      exact nofun
    · exact fun hne => absurd h hne
  · simp [h]

/-- A string is taken as true if it is there and not empty. -/
theorem truthy_strVal (s : Option String) :
    (strVal s).truthy = true ↔ s ≠ none ∧ s ≠ some "" := by
  cases s with
  | none => simp [strVal, PyVal.truthy]
  | some s => simp [strVal, PyVal.truthy]

/-- A stage result is read as it was written, but for an empty command. -/
theorem OpSTStageResult.parserJsonObj_toJsonObj (stage : OpSTStageResult) :
    OpSTStageResult.parserJsonObj stage.toJsonObj = .ok stage.saved := by
  obtain ⟨status, stageName, result, cmd⟩ := stage
  unfold OpSTStageResult.toJsonObj
  dsimp only
  by_cases h : (strVal cmd).truthy = true
  · have hcmd : cmd ≠ some "" := ((truthy_strVal cmd).mp h).2
    rw [if_pos h, saved, if_neg hcmd]
    simp [OpSTStageResult.parserJsonObj, PyVal.get, List.lookup_cons, readStr, h, bind, Except.bind,
      pure, Except.pure]
  · have hsaved : OpSTStageResult.saved ⟨status, stageName, result, cmd⟩
        = ⟨status, stageName, result, none⟩ := by
      unfold saved
      cases cmd with
      | none => rfl
      | some s =>
          have hs : s = "" := by simpa [strVal, PyVal.truthy] using h
          simp [hs]
    rw [if_neg h, hsaved]
    simp [OpSTStageResult.parserJsonObj, PyVal.get, List.lookup_cons, List.lookup_nil, readStr,
      PyVal.truthy, bind, Except.bind, pure, Except.pure]

/-! ## §3. Traces and case reports. -/

/-- `to_json_obj` -/
def OpSTCaseTrace.toJsonObj (heap : Heap OpSTStageResult) (trace : OpSTCaseTrace) : PyVal :=
  .dict [("st_case_info", trace.stCaseInfo.toJsonObj),
    ("stage_result",
      .list ((trace.stageResult.filterMap heap.read).map OpSTStageResult.toJsonObj))]

/-- `OpSTCaseTrace.parser_json_obj`: the stage results are new objects.  `none` is the empty
string. -/
def OpSTCaseTrace.parserJsonObj (heap : Heap OpSTStageResult) (jsonObj : PyVal) :
    Except PyError (Option OpSTCaseTrace × Heap OpSTStageResult) := do
  if !jsonObj.truthy then return (none, heap)
  let stCaseInfo ← OpSTCase.parserJsonObj (← jsonObj.get "st_case_info")
  let stageObjs ← (← jsonObj.get "stage_result").iter
  let stageResult ← stageObjs.mapM OpSTStageResult.parserJsonObj
  match stCaseInfo with
  | some stCaseInfo =>
      return (some { stCaseInfo, stageResult := List.range' heap.size stageResult.length },
        heap.allocs stageResult)
  -- A trace of the empty string has no case name, which `OpSTCaseReport` needs.
  | none => .error (.attributeError "'str' object has no attribute 'case_name'")

/-- `to_json_obj`; there is always a trace. -/
def OpSTCaseReport.toJsonObj (heap : Heap OpSTStageResult) (case : OpSTCaseReport) : PyVal :=
  .dict [("case_name", .str case.caseName),
    ("status", .str case.status),
    ("expect", .str case.expect),
    ("trace_detail", case.traceDetail.toJsonObj heap)]

/-- `OpSTCaseReport.parser_json_obj`; `none` is the empty string. -/
def OpSTCaseReport.parserJsonObj (heap : Heap OpSTStageResult) (jsonObj : PyVal) :
    Except PyError (Option OpSTCaseReport × Heap OpSTStageResult) := do
  if !jsonObj.truthy then return (none, heap)
  match ← OpSTCaseTrace.parserJsonObj heap (← jsonObj.get "trace_detail") with
  | (some trace, heap) => return (some (OpSTCaseReport.ofTrace trace), heap)
  | (none, _) => .error (.attributeError "'str' object has no attribute 'st_case_info'")

/-! ## §4. The report. -/

namespace OpSTReport

/-- `_summary_to_json` -/
def summaryToJson (rpt : OpSTReport) : PyVal :=
  .dict [("test case count", .int rpt.totalCnt),
    ("success count", .int rpt.successCnt),
    ("failed count", .int rpt.failedCnt)]

/-- `_to_json_obj`, which `save` writes. -/
def toJsonObj (heap : Heap OpSTStageResult) (rpt : OpSTReport) : PyVal :=
  .dict [("run_cmd", strVal rpt.runCmd),
    ("report_list", .list (rpt.reportList.map (OpSTCaseReport.toJsonObj heap))),
    ("summary", rpt.summaryToJson)]

/-- A report that has been read: the report, and what was added to its list.  For an empty case
object that is the empty string, which is `none` here. -/
structure Loaded where
  report : OpSTReport
  added : List (Option OpSTCaseReport)

/-- The report with its list, if that is a list of cases. -/
def Loaded.plain (loaded : Loaded) : Option OpSTReport :=
  if loaded.added.all Option.isSome then
    some { loaded.report with
      reportList := loaded.report.reportList ++ loaded.added.filterMap id }
  else none

/-- One turn of the loop of `load` and of `parser_json_obj`. -/
def loadCase (s : List (Option OpSTCaseReport) × Heap OpSTStageResult) (caseObj : PyVal) :
    Except PyError (List (Option OpSTCaseReport) × Heap OpSTStageResult) := do
  let (caseRpt, heap) ← OpSTCaseReport.parserJsonObj s.2 caseObj
  return (s.1 ++ [caseRpt], heap)

/-- `load`, with the JSON object of the file. -/
def load (rpt : OpSTReport) (heap : Heap OpSTStageResult) (jsonObj : PyVal) :
    Except PyError (Loaded × Heap OpSTStageResult) := do
  let runCmd ← readOptionalStr (← jsonObj.get "run_cmd")
  let (added, heap) ← (← (← jsonObj.get "report_list").iter).foldlM loadCase ([], heap)
  return ({ report := { rpt with runCmd }, added }, heap)

/-- `OpSTReport.parser_json_obj` -/
def parserJsonObj (heap : Heap OpSTStageResult) (jsonObj : PyVal) :
    Except PyError (Loaded × Heap OpSTStageResult) := do
  let rpt : OpSTReport := { runCmd := ← readOptionalStr (← jsonObj.get "run_cmd") }
  let (added, heap) ← (← (← jsonObj.get "report_list").iter).foldlM loadCase ([], heap)
  return ({ report := rpt, added }, heap)

/-- Cases that were read are the list of the report. -/
theorem plain_map_some (rpt : OpSTReport) (cases : List OpSTCaseReport) :
    Loaded.plain ⟨rpt, cases.map some⟩
      = some { rpt with reportList := rpt.reportList ++ cases } := by
  have hall : (cases.map some).all Option.isSome = true := by
    rw [List.all_map, List.all_eq_true]
    exact fun _ _ => rfl
  have hcases : (cases.map some).filterMap id = cases := by
    rw [List.filterMap_map]
    exact List.filterMap_some
  unfold Loaded.plain
  rw [if_pos hall, hcases]

end OpSTReport

/-! ## §5. What is read of a case. -/

/-- The case that was read is new, and has the case info and the stages of the one that was
written. -/
structure Reloads (heap heap' : Heap OpSTStageResult) (case case' : OpSTCaseReport) :
    Prop where
  caseName : case'.caseName = case.traceDetail.stCaseInfo.caseName
  status : case'.status = SUCCESS
  expect : case'.expect = EXPECT_SUCCESS
  stCaseInfo : case'.traceDetail.stCaseInfo = case.traceDetail.stCaseInfo
  stages : case'.traceDetail.stageResult.map heap'.read
    = (case.traceDetail.stageResult.map heap.read).map (Option.map OpSTStageResult.saved)
  live : ∀ r ∈ case'.traceDetail.stageResult, r < heap'.size

/-- The objects of a trace, all of which exist. -/
theorem map_read_eq {heap : Heap OpSTStageResult} {refs : List Nat}
    (hlive : ∀ r ∈ refs, r < heap.size) :
    refs.map heap.read = (refs.filterMap heap.read).map some := by
  induction refs with
  | nil => rfl
  | cons r refs ih =>
      obtain ⟨x, hx⟩ := Heap.read_of_lt_size (hlive r (List.mem_cons_self ..))
      have hrest := ih fun r' hr' => hlive r' (List.mem_cons_of_mem r hr')
      rw [List.map_cons, List.filterMap_cons_some hx, List.map_cons, hx, hrest]

/-- Objects that are made later change nothing of a case that has been read. -/
theorem Reloads.mono {heap heap' : Heap OpSTStageResult} {case case' : OpSTCaseReport}
    (h : Reloads heap heap' case case') {stages : List OpSTStageResult} :
    Reloads heap (heap'.allocs stages) case case' where
  caseName := h.caseName
  status := h.status
  expect := h.expect
  stCaseInfo := h.stCaseInfo
  stages := by
    rw [← h.stages]
    exact List.map_congr_left fun r hr => Heap.read_allocs_old heap' stages (h.live r hr)
  live := by
    intro r hr
    rw [Heap.size_allocs]
    exact Nat.lt_add_right _ (h.live r hr)

/-- **One case**: it is read with new objects for its stages. -/
theorem OpSTCaseReport.parserJsonObj_toJsonObj {heap : Heap OpSTStageResult}
    (heap' : Heap OpSTStageResult) {case : OpSTCaseReport}
    (hlive : ∀ r ∈ case.traceDetail.stageResult, r < heap.size) :
    ∃ case' stages, OpSTCaseReport.parserJsonObj heap' (case.toJsonObj heap)
        = .ok (some case', heap'.allocs stages) ∧
      Reloads heap (heap'.allocs stages) case case' := by
  have hstages : ((case.traceDetail.stageResult.filterMap heap.read).map
      OpSTStageResult.toJsonObj).mapM OpSTStageResult.parserJsonObj
        = .ok ((case.traceDetail.stageResult.filterMap heap.read).map
          OpSTStageResult.saved) := by
    rw [Lib.mapM_eq_ok, List.forall₂_map_left_iff, List.forall₂_map_right_iff]
    exact List.forall₂_same.mpr fun stage _ =>
      OpSTStageResult.parserJsonObj_toJsonObj stage
  set stages := (case.traceDetail.stageResult.filterMap heap.read).map
    OpSTStageResult.saved with hdef
  -- The stages are new objects, in the order of the file.
  have htrace : OpSTCaseTrace.parserJsonObj heap' (case.traceDetail.toJsonObj heap)
      = .ok (some ⟨case.traceDetail.stCaseInfo, List.range' heap'.size stages.length⟩,
          heap'.allocs stages) := by
    simp [OpSTCaseTrace.parserJsonObj, OpSTCaseTrace.toJsonObj, PyVal.truthy, PyVal.get,
      PyVal.iter, List.lookup_cons, OpSTCase.parserJsonObj_toJsonObj, hstages, bind, Except.bind,
      pure, Except.pure]
  refine ⟨OpSTCaseReport.ofTrace
    ⟨case.traceDetail.stCaseInfo, List.range' heap'.size stages.length⟩, stages, ?_, ?_⟩
  · simp [OpSTCaseReport.parserJsonObj, OpSTCaseReport.toJsonObj, PyVal.truthy, PyVal.get,
      List.lookup_cons, htrace, bind, Except.bind, pure, Except.pure]
  · refine ⟨rfl, rfl, rfl, rfl, ?_, ?_⟩
    · show (List.range' heap'.size stages.length).map (heap'.allocs stages).read = _
      rw [Heap.read_allocs_fresh, map_read_eq hlive, hdef, List.map_map, List.map_map]
      rfl
    · intro r hr
      have hrange := List.mem_range'_1.mp hr
      rw [Heap.size_allocs]
      exact hrange.2

/-- **All cases are read, in order.** -/
theorem OpSTReport.loadCases_toJsonObj {heap : Heap OpSTStageResult}
    (cases : List OpSTCaseReport)
    (hlive : ∀ case ∈ cases, ∀ r ∈ case.traceDetail.stageResult, r < heap.size) :
    ∀ (added : List (Option OpSTCaseReport)) (heap' : Heap OpSTStageResult), ∃ cases' stages,
      (cases.map (OpSTCaseReport.toJsonObj heap)).foldlM OpSTReport.loadCase (added, heap')
        = .ok (added ++ cases'.map some, heap'.allocs stages) ∧
      List.Forall₂ (Reloads heap (heap'.allocs stages)) cases cases' := by
  induction cases with
  | nil =>
      intro added heap'
      refine ⟨[], [], ?_, .nil⟩
      simp [Heap.allocs, pure, Except.pure]
  | cons case cases ih =>
      intro added heap'
      obtain ⟨case', stages, hparse, hcase⟩ := OpSTCaseReport.parserJsonObj_toJsonObj heap'
        (hlive case (List.mem_cons_self ..))
      obtain ⟨cases', stages', hload, hcases⟩ :=
        ih (fun c hc => hlive c (List.mem_cons_of_mem case hc))
          (added ++ [some case']) (heap'.allocs stages)
      -- The stages of the later cases are allocated behind those of this one.
      have hallocs : (heap'.allocs stages).allocs stages' = heap'.allocs (stages ++ stages') := by
        unfold Heap.allocs
        rw [List.append_assoc]
      refine ⟨case' :: cases', stages ++ stages', ?_, ?_⟩
      · have hone : OpSTReport.loadCase (added, heap') (case.toJsonObj heap)
            = .ok (added ++ [some case'], heap'.allocs stages) := by
          unfold OpSTReport.loadCase
          rw [hparse]
          rfl
        rw [List.map_cons, List.foldlM_cons, hone, ← hallocs]
        refine hload.trans ?_
        rw [List.map_cons, List.append_assoc, List.singleton_append]
      · rw [← hallocs]
        exact .cons hcase.mono hcases

end HwEfat.Main
