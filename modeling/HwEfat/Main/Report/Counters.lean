/-
  HwEfat.Main.Report.Counters — the counters of the report.

  `_summary_txt` counts the cases, and `console_print` is the call that makes it do so.  It
  counts on from what the counters are, and it never sets the status of a case back, so a
  second summary counts all cases a second time.  `save` writes the counters as they are.

  Main result: `counters_iff`.
-/
import HwEfat.Main.Report.Calls

namespace HwEfat.Main

open HwEfat.Lib (Heap run run_induct)

/-! ## §1. What the summary counts. -/

namespace OpSTReport

/-- Every case is counted. -/
theorem totalCnt_updateCnt (rpt : OpSTReport) (case : OpSTCaseReport) :
    (rpt.updateCnt case).totalCnt = rpt.totalCnt + 1 := by
  unfold updateCnt
  dsimp only
  split <;> rfl

/-- A case that ended as expected counts as a success. -/
theorem successCnt_updateCnt (rpt : OpSTReport) (case : OpSTCaseReport) :
    (rpt.updateCnt case).successCnt
      = rpt.successCnt + if case.status = case.expect then 1 else 0 := by
  unfold updateCnt
  dsimp only
  split <;> rfl

/-- A case that did not counts as a failure. -/
theorem failedCnt_updateCnt (rpt : OpSTReport) (case : OpSTCaseReport) :
    (rpt.updateCnt case).failedCnt
      = rpt.failedCnt + if case.status = case.expect then 0 else 1 := by
  unfold updateCnt
  dsimp only
  split <;> rfl

variable (updated : List OpSTCaseReport) (rpt : OpSTReport)

/-- Over several cases, the total grows by their number. -/
theorem totalCnt_updateCnts :
    (updated.foldl updateCnt rpt).totalCnt = rpt.totalCnt + updated.length := by
  induction updated generalizing rpt with
  | nil => rfl
  | cons case updated ih =>
      rw [List.foldl_cons, ih, totalCnt_updateCnt, List.length_cons]
      omega

/-- The successes grow by the number of cases that ended as expected. -/
theorem successCnt_updateCnts :
    (updated.foldl updateCnt rpt).successCnt
      = rpt.successCnt + updated.countP (fun case => case.status = case.expect) := by
  induction updated generalizing rpt with
  | nil => rfl
  | cons case updated ih =>
      rw [List.foldl_cons, ih, successCnt_updateCnt, List.countP_cons]
      simp only [decide_eq_true_eq]
      omega

/-- A case is counted as a success or as a failure. -/
theorem cnt_updateCnts (h : rpt.totalCnt = rpt.successCnt + rpt.failedCnt) :
    (updated.foldl updateCnt rpt).totalCnt
      = (updated.foldl updateCnt rpt).successCnt
        + (updated.foldl updateCnt rpt).failedCnt := by
  induction updated generalizing rpt with
  | nil => exact h
  | cons case updated ih =>
      rw [List.foldl_cons]
      apply ih
      rw [totalCnt_updateCnt, successCnt_updateCnt, failedCnt_updateCnt, h]
      split <;> omega

end OpSTReport

/-- The status of a case by its stages. -/
def OpSTCaseReport.statusOfStages (heap : Heap OpSTStageResult) (case : OpSTCaseReport) :
    String :=
  if case.hasFailure heap then FAILED else SUCCESS

/-- What the case is expected to end with. -/
def OpSTCaseReport.expectation (expectDict : List (String × String)) (case : OpSTCaseReport) :
    String :=
  if expectDict.lookup case.parentCaseName = some EXPECT_FAILED then EXPECT_FAILED
  else EXPECT_SUCCESS

namespace ReportState

variable {st st' : ReportState}

/-! ## §2. Calls on a report. -/

/-- `add_case_report(OpSTCaseReport(case_run_trace))` -/
def addCaseReport (st : ReportState) (caseRunTrace : OpSTCaseTrace)
    (hlive : ∀ r ∈ caseRunTrace.stageResult, r < st.heap.size) : ReportState where
  report := { st.report with
    reportList := st.report.reportList ++ [OpSTCaseReport.ofTrace caseRunTrace] }
  heap := st.heap
  live := by
    intro i r hr
    unfold Main.refs at hr
    rcases Nat.lt_trichotomy i st.report.reportList.length with hlt | heq | hgt
    · rw [List.getElem?_append_left hlt] at hr
      exact st.live i r hr
    · subst heq
      rw [List.getElem?_concat_length] at hr
      exact hlive r hr
    · rw [List.getElem?_eq_none (by simp only [List.length_append, List.length_singleton]; omega)]
        at hr
      cases hr

/-- The calls that the report's makers and users make. -/
inductive Call where
  | addCaseReport (caseRunTrace : OpSTCaseTrace)
  | addStageResult (c : StageCall)
  | consolePrint
  | save

/-- One call.  `save` reads the report only. -/
def callStep (st : ReportState) : Call → Option ReportState
  | .addCaseReport caseRunTrace =>
      if h : ∀ r ∈ caseRunTrace.stageResult, r < st.heap.size then
        some (st.addCaseReport caseRunTrace h)
      else none
  | .addStageResult c => st.stageStep c
  | .consolePrint => some st.summary
  | .save => some st

/-- `OpSTReport(run_cmd)`, with the expectations of `set_expect`, among any objects. -/
def fresh (runCmd : Option String) (expectDict : List (String × String))
    (heap : Heap OpSTStageResult) : ReportState where
  report := { runCmd, expectDict }
  heap := heap
  live := by
    intro i r hr
    cases hr

/-- **The counters are those of the cases.** -/
structure CountersRight (st : ReportState) : Prop where
  total_eq : st.report.totalCnt = st.report.successCnt + st.report.failedCnt
  total_length : st.report.totalCnt = st.cases.length
  success_eq : st.report.successCnt = st.cases.countP fun case =>
    case.statusOfStages st.heap = case.expectation st.report.expectDict

/-! ## §3. Reports whose cases have not been counted. -/

/-- No case has been counted, and none has got a status or an expectation. -/
structure Uncounted (st : ReportState) : Prop where
  total : st.report.totalCnt = 0
  success : st.report.successCnt = 0
  failed : st.report.failedCnt = 0
  initial : ∀ case ∈ st.cases, case.status = SUCCESS ∧ case.expect = EXPECT_SUCCESS

/-- A fresh report has counted nothing. -/
theorem uncounted_fresh (runCmd : Option String) (expectDict : List (String × String))
    (heap : Heap OpSTStageResult) : (fresh runCmd expectDict heap).Uncounted :=
  ⟨rfl, rfl, rfl, fun _ h => by cases h⟩

/-- Without cases `console_print` writes no summary. -/
theorem summary_of_nil (h : st.cases = []) : st.summary = st := by
  obtain ⟨report, heap, live⟩ := st
  have hempty : report.reportList.isEmpty = true := List.isEmpty_iff.mpr h
  have hreport : (report.summaryTxt heap).2 = report := by
    unfold OpSTReport.summaryTxt
    rw [if_pos hempty]
  simp only [summary, hreport]

/-- With cases the counters go on from what they were. -/
theorem report_summary (h : st.cases ≠ []) :
    st.summary.report = st.summary.cases.foldl OpSTReport.updateCnt
      { st.report with reportList := st.summary.cases } := by
  have hempty : ¬ st.report.reportList.isEmpty = true := by
    rw [List.isEmpty_iff]
    exact h
  have hcases : st.summary.cases = st.report.reportList.map fun caseReport =>
      (caseReport.updateCaseStatus st.heap).updateCaseExpect st.report.expectDict :=
    reportList_summaryTxt st.report
  rw [hcases]
  show (st.report.summaryTxt st.heap).2 = _
  unfold OpSTReport.summaryTxt
  rw [if_neg hempty]

/-- A summary keeps the cases. -/
theorem length_summary : st.summary.cases.length = st.cases.length := by
  show (st.report.summaryTxt st.heap).2.reportList.length = _
  rw [reportList_summaryTxt, List.length_map]

/-- A summary adds the number of cases to the total, whatever has been counted before. -/
theorem totalCnt_summary (h : st.cases ≠ []) :
    st.summary.report.totalCnt = st.report.totalCnt + st.cases.length := by
  rw [report_summary h, OpSTReport.totalCnt_updateCnts, length_summary]

/-- A call on a trace leaves the counters, and the status and expectation of every case. -/
theorem stageStep_counters {c : StageCall} (h : st.stageStep c = some st') :
    st'.report.totalCnt = st.report.totalCnt ∧ (st'.Uncounted ↔ st.Uncounted) := by
  rcases stageStep_cases h with ⟨res, _, hst'⟩ | ⟨i, ref, res, href, _, hi, _, hst'⟩
  · subst hst'
    exact ⟨rfl, ⟨fun h => ⟨h.1, h.2, h.3, h.4⟩, fun h => ⟨h.1, h.2, h.3, h.4⟩⟩⟩
  · subst hst'
    refine ⟨rfl, ?_⟩
    have hforget : (st.addStage i ref href).cases.map OpSTCaseReport.forget
        = st.cases.map OpSTCaseReport.forget := forget_addAt i
    -- A property of the cases apart from their stages.
    have hinitial : (∀ case ∈ (st.addStage i ref href).cases,
        case.status = SUCCESS ∧ case.expect = EXPECT_SUCCESS)
        ↔ ∀ case ∈ st.cases, case.status = SUCCESS ∧ case.expect = EXPECT_SUCCESS := by
      have hmap : ∀ cases : List OpSTCaseReport,
          (∀ case ∈ cases, case.status = SUCCESS ∧ case.expect = EXPECT_SUCCESS)
            ↔ ∀ case ∈ cases.map OpSTCaseReport.forget,
              case.status = SUCCESS ∧ case.expect = EXPECT_SUCCESS := by
        intro cases
        rw [List.forall_mem_map]
        exact Iff.rfl
      rw [hmap (st.addStage i ref href).cases, hforget, ← hmap]
    exact ⟨fun h => ⟨h.1, h.2, h.3, hinitial.mp h.4⟩,
      fun h => ⟨h.1, h.2, h.3, hinitial.mpr h.4⟩⟩

/-- **One call.**  Once a case is counted, some case stays counted; and the first to be
counted are those of the first summary of a report with cases. -/
theorem callStep_uncounted {c : Call} (hstep : st.callStep c = some st')
    (h : st.Uncounted ∨ 0 < st.report.totalCnt) :
    (st'.Uncounted ∨ 0 < st'.report.totalCnt) ∧
      (st'.Uncounted ↔ st.Uncounted ∧ (c = .consolePrint → st.cases = [])) := by
  match c with
  | .addCaseReport caseRunTrace =>
      by_cases hlive : ∀ r ∈ caseRunTrace.stageResult, r < st.heap.size
      · simp only [callStep, dif_pos hlive, Option.some.injEq] at hstep
        subst hstep
        have hiff : (st.addCaseReport caseRunTrace hlive).Uncounted ↔ st.Uncounted := by
          constructor
          · exact fun h => ⟨h.1, h.2, h.3, fun case hcase =>
              h.4 case (List.mem_append_left _ hcase)⟩
          · intro h
            refine ⟨h.1, h.2, h.3, ?_⟩
            intro case hcase
            rcases List.mem_append.mp hcase with hold | hnew
            · exact h.4 case hold
            · rw [List.mem_singleton.mp hnew]
              exact ⟨rfl, rfl⟩
        refine ⟨h.imp hiff.mpr id, ?_⟩
        simpa using hiff
      · simp only [callStep, dif_neg hlive, reduceCtorEq] at hstep
  | .addStageResult c =>
      obtain ⟨htotal, hiff⟩ := stageStep_counters hstep
      refine ⟨?_, by simpa using hiff⟩
      rw [htotal]
      exact h.imp hiff.mpr id
  | .save =>
      cases hstep
      exact ⟨h, by simp⟩
  | .consolePrint =>
      cases hstep
      -- A summary counts every case, and of no case it prints nothing.
      by_cases hnil : st.cases = []
      · rw [summary_of_nil hnil]
        exact ⟨h, by simp [hnil]⟩
      · have hlen : 0 < st.cases.length := List.length_pos_iff.mpr hnil
        have htotal := totalCnt_summary hnil
        refine ⟨Or.inr (by omega), ?_⟩
        refine iff_of_false (fun hcount => ?_) (fun hcount => hnil (hcount.2 rfl))
        have hzero := hcount.total
        omega

/-- No summary of the run was of a report with cases. -/
def NotPrinted (st : ReportState) (calls : List Call) : Prop :=
  ∀ pre, pre ++ [.consolePrint] <+: calls →
    ∀ s, run callStep st pre = some s → s.cases = []

/-- A run with one more call: only a print of a report with cases counts. -/
theorem notPrinted_snoc {calls : List Call} {c : Call} {st₀ : ReportState}
    (hrun : run callStep st₀ calls = some st) :
    st₀.NotPrinted (calls ++ [c])
      ↔ st₀.NotPrinted calls ∧ (c = .consolePrint → st.cases = []) := by
  unfold NotPrinted
  simp only [List.prefix_concat_iff]
  constructor
  · intro h
    refine ⟨fun pre hpre => h pre (Or.inr hpre), ?_⟩
    intro hc
    exact h calls (Or.inl (by rw [hc])) st hrun
  · rintro ⟨hold, hlast⟩ pre (heq | hpre) s hs
    · obtain ⟨hpre, hc⟩ := List.append_inj' heq rfl
      subst hpre
      rw [hrun] at hs
      cases hs
      exact hlast (List.singleton_inj.mp hc).symm
    · exact hold pre hpre s hs

/-- Along a run of a fresh report, its cases are uncounted until they are printed. -/
theorem uncounted_iff {runCmd : Option String} {expectDict : List (String × String)}
    {heap : Heap OpSTStageResult} {calls : List Call}
    (hrun : run callStep (fresh runCmd expectDict heap) calls = some st) :
    (st.Uncounted ∨ 0 < st.report.totalCnt) ∧
      (st.Uncounted ↔ (fresh runCmd expectDict heap).NotPrinted calls) := by
  refine run_induct (P := fun calls st => (st.Uncounted ∨ 0 < st.report.totalCnt) ∧
    (st.Uncounted ↔ (fresh runCmd expectDict heap).NotPrinted calls)) ?_ ?_ calls st hrun
  · have hfresh := uncounted_fresh runCmd expectDict heap
    refine ⟨Or.inl hfresh, iff_of_true hfresh ?_⟩
    intro pre hpre
    simp at hpre
  · intro calls s c s' hs ⟨hor, hiff⟩ hstep
    obtain ⟨hor', hiff'⟩ := callStep_uncounted hstep hor
    refine ⟨hor', ?_⟩
    rw [hiff', hiff, notPrinted_snoc hs]

/-! ## §4. The counters after a summary. -/

/-- What a summary writes into a case does not change its stages. -/
theorem hasFailure_summary (case : OpSTCaseReport) :
    ((case.updateCaseStatus st.heap).updateCaseExpect st.report.expectDict).hasFailure
        st.heap = case.hasFailure st.heap := by
  unfold OpSTCaseReport.hasFailure
  rw [OpSTCaseReport.traceDetail_updateCaseExpect,
    OpSTCaseReport.traceDetail_updateCaseStatus]

/-- The first summary gives a case the status of its stages. -/
theorem status_summary {case : OpSTCaseReport} (h : case.status = SUCCESS) :
    ((case.updateCaseStatus st.heap).updateCaseExpect st.report.expectDict).status
      = case.statusOfStages st.heap := by
  rw [OpSTCaseReport.status_updateCaseExpect, OpSTCaseReport.updateCaseStatus_eq]
  unfold OpSTCaseReport.statusOfStages
  split
  · rfl
  · exact h

/-- A status does not change the name under which the case is expected. -/
theorem parentCaseName_updateCaseStatus (case : OpSTCaseReport) :
    (case.updateCaseStatus st.heap).parentCaseName = case.parentCaseName := by
  unfold OpSTCaseReport.parentCaseName
  rw [OpSTCaseReport.caseName_updateCaseStatus]

/-- ... and the expectation of its parent. -/
theorem expect_summary {case : OpSTCaseReport} (h : case.expect = EXPECT_SUCCESS) :
    ((case.updateCaseStatus st.heap).updateCaseExpect st.report.expectDict).expect
      = case.expectation st.report.expectDict := by
  have hexpect : (case.updateCaseStatus st.heap).expect = case.expect := by
    rw [OpSTCaseReport.updateCaseStatus_eq]
    split <;> rfl
  unfold OpSTCaseReport.updateCaseExpect OpSTCaseReport.expectation
  rw [parentCaseName_updateCaseStatus]
  split
  · rfl
  · rw [hexpect, h]

/-- The summary leaves the stages and the parent of a case. -/
theorem statusOfStages_summary (case : OpSTCaseReport) :
    ((case.updateCaseStatus st.heap).updateCaseExpect
        st.report.expectDict).statusOfStages st.heap = case.statusOfStages st.heap := by
  unfold OpSTCaseReport.statusOfStages
  rw [hasFailure_summary]

/-- Nor does a summary change what is expected of a case. -/
theorem expectation_summary (case : OpSTCaseReport) :
    ((case.updateCaseStatus st.heap).updateCaseExpect
        st.report.expectDict).expectation st.report.expectDict
      = case.expectation st.report.expectDict := by
  unfold OpSTCaseReport.expectation OpSTCaseReport.parentCaseName
  rw [OpSTCaseReport.caseName_updateCaseExpect, OpSTCaseReport.caseName_updateCaseStatus]

/-- Counting leaves the expectations. -/
theorem expectDict_updateCnts (updated : List OpSTCaseReport) (rpt : OpSTReport) :
    (updated.foldl OpSTReport.updateCnt rpt).expectDict = rpt.expectDict := by
  induction updated generalizing rpt with
  | nil => rfl
  | cons case updated ih =>
      rw [List.foldl_cons, ih]
      unfold OpSTReport.updateCnt
      dsimp only
      split <;> rfl

/-- A summary leaves the expectations. -/
theorem expectDict_summary : st.summary.report.expectDict = st.report.expectDict := by
  by_cases hnil : st.cases = []
  · rw [summary_of_nil hnil]
  · rw [report_summary hnil, expectDict_updateCnts]

/-- As many cases as before are as expected. -/
theorem countP_summary :
    (st.summary.cases.countP fun case =>
        case.statusOfStages st.summary.heap = case.expectation st.summary.report.expectDict)
      = st.cases.countP fun case =>
        case.statusOfStages st.heap = case.expectation st.report.expectDict := by
  have hcases : st.summary.cases = st.cases.map fun caseReport =>
      (caseReport.updateCaseStatus st.heap).updateCaseExpect st.report.expectDict :=
    reportList_summaryTxt st.report
  have hheap : st.summary.heap = st.heap := rfl
  rw [hheap, expectDict_summary, hcases, List.countP_map]
  apply List.countP_congr
  intro case _
  simp only [Function.comp_apply, statusOfStages_summary, expectation_summary]

/-- The first summary counts the cases that are as expected. -/
theorem Uncounted.successCnt_summary (h : st.Uncounted) :
    st.summary.report.successCnt = st.cases.countP fun case =>
      case.statusOfStages st.heap = case.expectation st.report.expectDict := by
  by_cases hnil : st.cases = []
  · rw [summary_of_nil hnil, h.success, hnil]
    rfl
  · have hcases : st.summary.cases = st.cases.map fun caseReport =>
        (caseReport.updateCaseStatus st.heap).updateCaseExpect st.report.expectDict :=
      reportList_summaryTxt st.report
    have hcount : st.summary.report.successCnt
        = st.report.successCnt + st.summary.cases.countP fun case =>
          case.status = case.expect := by
      rw [report_summary hnil]
      exact OpSTReport.successCnt_updateCnts _ _
    rw [hcount, h.success, Nat.zero_add, hcases, List.countP_map]
    apply List.countP_congr
    intro case hcase
    obtain ⟨hstatus, hexpect⟩ := h.initial case hcase
    simp only [Function.comp_apply, status_summary hstatus, expect_summary hexpect]

/-- The first summary counts the cases right. -/
theorem Uncounted.countersRight (h : st.Uncounted) : st.summary.CountersRight where
  total_eq := by
    by_cases hnil : st.cases = []
    · rw [summary_of_nil hnil, h.total, h.success, h.failed]
    · rw [report_summary hnil]
      apply OpSTReport.cnt_updateCnts
      show st.report.totalCnt = st.report.successCnt + st.report.failedCnt
      rw [h.total, h.success, h.failed]
  total_length := by
    by_cases hnil : st.cases = []
    · rw [summary_of_nil hnil, h.total, hnil]
      rfl
    · rw [totalCnt_summary hnil, length_summary, h.total, Nat.zero_add]
  success_eq := by rw [h.successCnt_summary, countP_summary]

end ReportState

/-- **After calls that end with `console_print`, the counters are those of the cases exactly
if no earlier `console_print` found a case in the report.** -/
theorem counters_iff (runCmd : Option String) (expectDict : List (String × String))
    (heap : Heap OpSTStageResult) (calls : List ReportState.Call) (st : ReportState)
    (hrun : run ReportState.callStep (ReportState.fresh runCmd expectDict heap)
      (calls ++ [.consolePrint]) = some st) :
    st.CountersRight ↔ ∀ pre, pre ++ [.consolePrint] <+: calls →
      ∀ s, run ReportState.callStep (ReportState.fresh runCmd expectDict heap) pre = some s →
        s.cases = [] := by
  rw [Lib.run_snoc, Option.bind_eq_some_iff] at hrun
  obtain ⟨before, hbefore, hprint⟩ := hrun
  cases hprint
  obtain ⟨hor, hiff⟩ := ReportState.uncounted_iff hbefore
  show _ ↔ (ReportState.fresh runCmd expectDict heap).NotPrinted calls
  rw [← hiff]
  constructor
  · intro hright
    by_contra hcounted
    have hpos : 0 < before.report.totalCnt := hor.resolve_left hcounted
    -- The cases that are there now are counted on top of those.
    have htotal := hright.total_length
    by_cases hnil : before.cases = []
    · rw [ReportState.summary_of_nil hnil, hnil] at htotal
      exact absurd htotal (Nat.ne_of_gt hpos)
    · rw [ReportState.totalCnt_summary hnil, ReportState.length_summary] at htotal
      omega
  · exact ReportState.Uncounted.countersRight

/-- The trace of a case without stages. -/
def traceOf (caseName : String) : OpSTCaseTrace :=
  { stCaseInfo := { caseName, opParams := .dict [] } }

/-- Two cases, of which the first one passes a stage and the second one fails at it. -/
def stagedCalls : List ReportState.Call :=
  [.addCaseReport (traceOf "Test_Add_001_case_001"),
    .addCaseReport (traceOf "Test_Add_001_case_002"),
    .addStageResult (.create { status := SUCCESS, stageName := some "run" }),
    .addStageResult (.add 0 0),
    .addStageResult (.create { status := FAILED, stageName := some "run" }),
    .addStageResult (.add 1 1),
    .save]

/-- A run in which one of two cases has a failed stage. -/
theorem counters_iff_staged : ∃ st,
    run ReportState.callStep (ReportState.fresh none [] Heap.empty)
      (stagedCalls ++ [.consolePrint]) = some st ∧
    st.report.totalCnt = 2 ∧ st.report.successCnt = 1 ∧ st.report.failedCnt = 1 ∧
    st.CountersRight := by
  obtain ⟨st, hrun, hcnt⟩ := (Option.any_eq_true
    (fun st : ReportState => decide (st.report.totalCnt = 2 ∧ st.report.successCnt = 1 ∧
      st.report.failedCnt = 1)) (run ReportState.callStep (ReportState.fresh none [] Heap.empty)
      (stagedCalls ++ [.consolePrint]))).mp (by decide +kernel)
  obtain ⟨htotal, hsuccess, hfailed⟩ := of_decide_eq_true hcnt
  refine ⟨st, hrun, htotal, hsuccess, hfailed, (counters_iff none [] Heap.empty _ st hrun).mpr ?_⟩
  -- No call before the last one prints.
  intro pre hpre
  have hprint : ReportState.Call.consolePrint ∈ stagedCalls :=
    hpre.subset (List.mem_append_right pre (List.mem_singleton_self _))
  simp [stagedCalls] at hprint

/-- A case that is printed twice is two cases. -/
theorem not_countersRight :
    ¬ ∀ (calls : List ReportState.Call) (st : ReportState),
      run ReportState.callStep (ReportState.fresh none [] Heap.empty)
        (calls ++ [.consolePrint]) = some st → st.CountersRight := by
  intro h
  have hright := h [.addCaseReport (traceOf "Test_Add_001_case_001"), .consolePrint] _
    (by simp [run, ReportState.callStep, traceOf]; rfl)
  exact absurd hright.total_length (by decide)

end HwEfat.Main
