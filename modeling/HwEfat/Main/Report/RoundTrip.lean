/-
  HwEfat.Main.Report.RoundTrip — saving a report and loading it again.

  The readers make every case anew from its trace: the status and the expectation that
  were written are not read, the counters are not read either, and the expectations of the
  JSON file with the cases are never written.  So a report comes back as it was as long as
  nothing of this has been used.

  Main result: `roundTrips_iff`.
-/
import HwEfat.Main.Report.Json

namespace HwEfat.Main

open HwEfat.Lib (Heap PyError PyVal)

variable {heap heap' : Heap OpSTStageResult}

/-! ## §1. Lists of cases, one made from the other. -/

/-- What does not change for one case does not change for the list of them. -/
theorem map_eq_of_reloads {α : Type} {cases cases' : List OpSTCaseReport}
    (h : List.Forall₂ (Reloads heap heap') cases cases') {f f' : OpSTCaseReport → α}
    (hf : ∀ case case', Reloads heap heap' case case' → f' case' = f case) :
    cases'.map f' = cases.map f := by
  induction h with
  | nil => rfl
  | cons hcase _ ih => rw [List.map_cons, List.map_cons, hf _ _ hcase, ih]

/-- Counts of what does not change for one case do not change. -/
theorem countP_eq_of_reloads {cases cases' : List OpSTCaseReport}
    (h : List.Forall₂ (Reloads heap heap') cases cases') {p p' : OpSTCaseReport → Bool}
    (hp : ∀ case case', Reloads heap heap' case case' → p' case' = p case) :
    cases'.countP p' = cases.countP p := by
  have hcount : ∀ (l : List OpSTCaseReport) (q : OpSTCaseReport → Bool),
      l.countP q = (l.map q).countP id := by
    intro l q
    rw [List.countP_map]
    rfl
  rw [hcount, hcount, map_eq_of_reloads h hp]

/-- The stage results of a case. -/
def OpSTCaseReport.stages (heap : Heap OpSTStageResult) (case : OpSTCaseReport) :
    List (Option OpSTStageResult) :=
  case.traceDetail.stageResult.map heap.read

/-- A case has failed if one of its stages is no success. -/
theorem OpSTCaseReport.hasFailure_eq (case : OpSTCaseReport) :
    case.hasFailure heap = (case.stages heap).any fun x => x.any (!·.isSuccess) := by
  unfold hasFailure stages
  rw [List.any_map]
  rfl

/-- A stage fails for the case that was read exactly if it failed for the one written. -/
theorem Reloads.hasFailure_eq {case case' : OpSTCaseReport}
    (h : Reloads heap heap' case case') : case'.hasFailure heap' = case.hasFailure heap := by
  have hstages : case'.stages heap' = (case.stages heap).map (Option.map (·.saved)) := h.stages
  rw [OpSTCaseReport.hasFailure_eq, OpSTCaseReport.hasFailure_eq, hstages, List.any_map]
  apply congrArg fun p => (case.stages heap).any p
  funext x
  cases x with
  | none => rfl
  | some stage =>
      unfold OpSTStageResult.saved OpSTStageResult.isSuccess
      by_cases hcmd : stage.cmd = some "" <;> simp [hcmd]

/-! ## §2. The same report. -/

/-- The counters after a summary. -/
def OpSTReport.printedSummary (heap : Heap OpSTStageResult) (rpt : OpSTReport) : PyVal :=
  (rpt.summaryTxt heap).2.summaryToJson

/-- The same names, status, expectations and stage results, case by case, and the same
counts in the summary that is saved and in the one that is printed. -/
structure SameReport (a b : OpSTReport × Heap OpSTStageResult) : Prop where
  names : b.1.reportList.map (·.caseName) = a.1.reportList.map (·.caseName)
  status : b.1.reportList.map (·.status) = a.1.reportList.map (·.status)
  expect : b.1.reportList.map (·.expect) = a.1.reportList.map (·.expect)
  stages : b.1.reportList.map (·.stages b.2) = a.1.reportList.map (·.stages a.2)
  saved : b.1.summaryToJson = a.1.summaryToJson
  printed : b.1.printedSummary b.2 = a.1.printedSummary a.2

/-- The report that was saved comes back: through `load` into any new report, and through
`parser_json_obj`, whatever objects there are. -/
def RoundTrips (st : ReportState) : Prop :=
  ∀ (runCmd : Option String) (heap' : Heap OpSTStageResult),
    (∃ loaded heap'' rpt, OpSTReport.load { runCmd } heap' (st.report.toJsonObj st.heap)
        = .ok (loaded, heap'') ∧ loaded.plain = some rpt ∧
      SameReport (st.report, st.heap) (rpt, heap'')) ∧
    ∃ loaded heap'' rpt, OpSTReport.parserJsonObj heap' (st.report.toJsonObj st.heap)
        = .ok (loaded, heap'') ∧ loaded.plain = some rpt ∧
      SameReport (st.report, st.heap) (rpt, heap'')

/-- The case is expected to fail. -/
def expectsFailure (st : ReportState) (case : OpSTCaseReport) : Bool :=
  case.expectation st.report.expectDict = EXPECT_FAILED

/-- **What a report must be like to come back**: no summary has been made of it, its cases
have the names of their case infos, no stage has an empty command, and of the cases that are
expected to fail as many have a failed stage as have none. -/
structure Restorable (st : ReportState) : Prop where
  uncounted : st.Uncounted
  named : ∀ case ∈ st.cases, case.caseName = case.traceDetail.stCaseInfo.caseName
  commands : ∀ case ∈ st.cases, ∀ r ∈ case.traceDetail.stageResult, ∀ x,
    st.heap.read r = some x → x.cmd ≠ some ""
  balanced : (st.cases.countP fun case => expectsFailure st case && case.hasFailure st.heap)
    = st.cases.countP fun case => expectsFailure st case && !case.hasFailure st.heap

/-! ## §3. What is loaded. -/

/-- The stage results of a case of the report exist. -/
theorem live_of_mem {st : ReportState} {case : OpSTCaseReport} (hcase : case ∈ st.cases) :
    ∀ r ∈ case.traceDetail.stageResult, r < st.heap.size := by
  intro r hr
  obtain ⟨i, hi⟩ := List.mem_iff_getElem?.mp hcase
  refine st.live i r ?_
  unfold refs
  rw [hi]
  exact hr

/-- **Both ways of loading** make the same cases. -/
theorem load_toJsonObj (st : ReportState) (heap' : Heap OpSTStageResult) :
    ∃ cases' stages,
      (∀ runCmd, OpSTReport.load { runCmd } heap' (st.report.toJsonObj st.heap)
        = .ok (⟨{ runCmd := st.report.runCmd }, cases'.map some⟩, heap'.allocs stages)) ∧
      OpSTReport.parserJsonObj heap' (st.report.toJsonObj st.heap)
        = .ok (⟨{ runCmd := st.report.runCmd }, cases'.map some⟩, heap'.allocs stages) ∧
      List.Forall₂ (Reloads st.heap (heap'.allocs stages)) st.cases cases' := by
  obtain ⟨cases', stages, hload, hcases⟩ := OpSTReport.loadCases_toJsonObj st.cases
    (fun case hcase => live_of_mem hcase) [] heap'
  have hjson : (OpSTReport.toJsonObj st.heap st.report).get "run_cmd"
      = .ok (strVal st.report.runCmd) := rfl
  have hlist : (OpSTReport.toJsonObj st.heap st.report).get "report_list"
      = .ok (.list (st.cases.map (OpSTCaseReport.toJsonObj st.heap))) := rfl
  rw [List.nil_append] at hload
  refine ⟨cases', stages, ?_, ?_, hcases⟩
  · intro runCmd
    unfold OpSTReport.load
    rw [hjson, hlist]
    simp [bind, Except.bind, PyVal.iter, hload, pure, Except.pure]
  · unfold OpSTReport.parserJsonObj
    rw [hjson, hlist]
    simp [bind, Except.bind, PyVal.iter, hload, pure, Except.pure]

/-- Every loaded case comes from a saved one. -/
theorem exists_reloads {cases cases' : List OpSTCaseReport}
    (h : List.Forall₂ (Reloads heap heap') cases cases') {case' : OpSTCaseReport}
    (hmem : case' ∈ cases') : ∃ case ∈ cases, Reloads heap heap' case case' := by
  induction h with
  | nil => cases hmem
  | @cons case first cases _ hcase _ ih =>
      rcases List.mem_cons.mp hmem with rfl | hrest
      · exact ⟨case, List.mem_cons_self .., hcase⟩
      · obtain ⟨old, hold, hreloads⟩ := ih hrest
        exact ⟨old, List.mem_cons_of_mem case hold, hreloads⟩

/-- The report that is loaded, with its objects. -/
def reloaded (runCmd : Option String) {cases cases' : List OpSTCaseReport}
    (h : List.Forall₂ (Reloads heap heap') cases cases') : ReportState where
  report := { runCmd, reportList := cases' }
  heap := heap'
  live := by
    intro i r hr
    cases hi : cases'[i]? with
    | none =>
        rw [refs, hi] at hr
        cases hr
    | some case' =>
        rw [refs, hi] at hr
        obtain ⟨case, _, hcase⟩ := exists_reloads h (List.mem_of_getElem? hi)
        exact hcase.live r hr

/-- A loaded report has counted nothing: the summary is not read. -/
theorem uncounted_reloaded (runCmd : Option String) {cases cases' : List OpSTCaseReport}
    (h : List.Forall₂ (Reloads heap heap') cases cases') :
    (reloaded runCmd h).Uncounted where
  total := rfl
  success := rfl
  failed := rfl
  initial := by
    intro case' hmem
    obtain ⟨case, _, hcase⟩ := exists_reloads h hmem
    exact ⟨hcase.status, hcase.expect⟩

/-! ## §4. What the two summaries print. -/

/-- Two summaries are the same object if the three counters are. -/
theorem summaryToJson_eq_iff {a b : OpSTReport} :
    a.summaryToJson = b.summaryToJson
      ↔ a.totalCnt = b.totalCnt ∧ a.successCnt = b.successCnt ∧ a.failedCnt = b.failedCnt := by
  unfold OpSTReport.summaryToJson
  simp only [PyVal.dict.injEq, List.cons.injEq, Prod.mk.injEq, PyVal.int.injEq, Int.natCast_inj,
    true_and, and_true]

/-- Cases that are as expected, counted by what is expected. -/
theorem countP_expected (cases : List OpSTCaseReport) (expected failed : OpSTCaseReport → Bool) :
    (cases.countP fun case => failed case == expected case)
        + (cases.countP fun case => expected case && !failed case)
      = (cases.countP fun case => !failed case)
        + cases.countP fun case => expected case && failed case := by
  induction cases with
  | nil => rfl
  | cons case cases ih =>
      simp only [List.countP_cons]
      cases expected case <;> cases failed case <;> simp <;> omega

/-- A case ended as expected exactly if it has failed where that is expected, and only there. -/
theorem isExpected_eq (st : ReportState) (case : OpSTCaseReport) :
    decide (case.statusOfStages st.heap = case.expectation st.report.expectDict)
      = (case.hasFailure st.heap == expectsFailure st case) := by
  unfold OpSTCaseReport.statusOfStages expectsFailure OpSTCaseReport.expectation
  by_cases hdict : st.report.expectDict.lookup case.parentCaseName = some EXPECT_FAILED
  · rw [if_pos hdict]
    cases case.hasFailure st.heap <;> rfl
  · rw [if_neg hdict]
    cases case.hasFailure st.heap <;> rfl

/-- The summaries print the same exactly if the expected failures are balanced. -/
theorem printedSummary_eq_iff {st : ReportState} (hst : st.Uncounted) (runCmd : Option String)
    {cases' : List OpSTCaseReport}
    (h : List.Forall₂ (Reloads st.heap heap') st.cases cases') :
    OpSTReport.printedSummary heap' { runCmd, reportList := cases' }
        = st.report.printedSummary st.heap
      ↔ (st.cases.countP fun case => expectsFailure st case && case.hasFailure st.heap)
        = st.cases.countP fun case => expectsFailure st case && !case.hasFailure st.heap := by
  have hloaded := uncounted_reloaded runCmd h
  -- The loaded report expects no case to fail.
  have hsuccess' : (reloaded runCmd h).summary.report.successCnt
      = st.cases.countP fun case => !case.hasFailure st.heap := by
    rw [hloaded.successCnt_summary]
    refine countP_eq_of_reloads h fun case case' hcase => ?_
    rw [isExpected_eq]
    show (case'.hasFailure heap' == expectsFailure (reloaded runCmd h) case') = _
    have hexpects : expectsFailure (reloaded runCmd h) case' = false := rfl
    rw [hexpects, hcase.hasFailure_eq, beq_false]
  have hsuccess : st.summary.report.successCnt
      = st.cases.countP fun case => case.hasFailure st.heap == expectsFailure st case := by
    rw [hst.successCnt_summary]
    simp only [isExpected_eq]
  have htotal : (reloaded runCmd h).summary.report.totalCnt = st.summary.report.totalCnt := by
    rw [hloaded.countersRight.total_length, hst.countersRight.total_length,
      ReportState.length_summary, ReportState.length_summary]
    exact h.length_eq.symm
  have hsum' := hloaded.countersRight.total_eq
  have hsum := hst.countersRight.total_eq
  have hbalance := countP_expected st.cases (expectsFailure st) (·.hasFailure st.heap)
  have hprinted : OpSTReport.printedSummary heap' { runCmd, reportList := cases' }
      = (reloaded runCmd h).summary.report.summaryToJson := rfl
  have hprinted' : st.report.printedSummary st.heap
      = st.summary.report.summaryToJson := rfl
  rw [hprinted, hprinted', summaryToJson_eq_iff]
  constructor
  · intro ⟨_, heq, _⟩
    omega
  · intro heq
    refine ⟨htotal, ?_, ?_⟩ <;> omega

/-! ## §5. The round trip. -/

/-- **A report that has been loaded is the same exactly if it is one that comes back.** -/
theorem sameReport_iff {st : ReportState} {cases' : List OpSTCaseReport}
    (h : List.Forall₂ (Reloads st.heap heap') st.cases cases') :
    SameReport (st.report, st.heap) ({ runCmd := st.report.runCmd, reportList := cases' }, heap')
      ↔ Restorable st := by
  -- What is read of the cases, in terms of the cases that were written.
  have hnames : cases'.map (·.caseName)
      = st.cases.map fun case => case.traceDetail.stCaseInfo.caseName :=
    map_eq_of_reloads h fun _ _ hcase => hcase.caseName
  have hstatus : cases'.map (·.status) = st.cases.map fun _ => SUCCESS :=
    map_eq_of_reloads h fun _ _ hcase => hcase.status
  have hexpect : cases'.map (·.expect) = st.cases.map fun _ => EXPECT_SUCCESS :=
    map_eq_of_reloads h fun _ _ hcase => hcase.expect
  have hstages : cases'.map (·.stages heap')
      = st.cases.map fun case => (case.stages st.heap).map (Option.map (·.saved)) :=
    map_eq_of_reloads h fun _ _ hcase => hcase.stages
  have hcommands : (st.cases.map fun case => (case.stages st.heap).map (Option.map (·.saved)))
      = st.cases.map (·.stages st.heap) ↔
        ∀ case ∈ st.cases, ∀ r ∈ case.traceDetail.stageResult, ∀ x,
          st.heap.read r = some x → x.cmd ≠ some "" := by
    rw [List.map_inj_left]
    refine forall₂_congr fun case hcase => ?_
    unfold OpSTCaseReport.stages
    rw [List.map_map, List.map_inj_left]
    refine forall₂_congr fun r hr => ?_
    obtain ⟨x, hx⟩ := Heap.read_of_lt_size (live_of_mem hcase r hr)
    simp [hx, OpSTStageResult.saved_eq_iff]
  have hzero : OpSTReport.summaryToJson { runCmd := st.report.runCmd, reportList := cases' }
      = st.report.summaryToJson ↔
        st.report.totalCnt = 0 ∧ st.report.successCnt = 0 ∧ st.report.failedCnt = 0 := by
    rw [summaryToJson_eq_iff]
    simp only [eq_comm]
  constructor
  · intro ⟨names, status, expect, stages, saved, printed⟩
    dsimp only at names status expect stages saved printed
    obtain ⟨htotal, hsuccess, hfailed⟩ := hzero.mp saved
    have huncounted : st.Uncounted := by
      refine ⟨htotal, hsuccess, hfailed, fun case hcase => ⟨?_, ?_⟩⟩
      · exact (List.map_inj_left.mp (hstatus.symm.trans status) case hcase).symm
      · exact (List.map_inj_left.mp (hexpect.symm.trans expect) case hcase).symm
    refine ⟨huncounted, ?_, hcommands.mp (hstages.symm.trans stages),
      (printedSummary_eq_iff huncounted _ h).mp printed⟩
    intro case hcase
    exact (List.map_inj_left.mp (hnames.symm.trans names) case hcase).symm
  · intro ⟨huncounted, named, commands, balanced⟩
    refine ⟨?_, ?_, ?_, ?_, ?_, ?_⟩
    · exact hnames.trans (List.map_inj_left.mpr fun case hcase => (named case hcase).symm)
    · exact hstatus.trans (List.map_inj_left.mpr fun case hcase =>
        (huncounted.initial case hcase).1.symm)
    · exact hexpect.trans (List.map_inj_left.mpr fun case hcase =>
        (huncounted.initial case hcase).2.symm)
    · exact hstages.trans (hcommands.mpr commands)
    · exact hzero.mpr ⟨huncounted.total, huncounted.success, huncounted.failed⟩
    · exact (printedSummary_eq_iff huncounted _ h).mpr balanced

/-- **What a round trip keeps** shows what the report must have been. -/
theorem RoundTrips.restorable {st : ReportState} (h : RoundTrips st) : Restorable st := by
  obtain ⟨cases', stages, hload, _, hcases⟩ := load_toJsonObj st Heap.empty
  obtain ⟨⟨loaded, heap'', rpt, hloaded, hplain, hsame⟩, _⟩ := h none Heap.empty
  rw [hload none] at hloaded
  cases hloaded
  rw [OpSTReport.plain_map_some] at hplain
  cases hplain
  exact (sameReport_iff hcases).mp hsame

/-- **A saved report comes back exactly if no summary has been made of it, its cases have
the names of their case infos, no stage has an empty command, and of the cases that are
expected to fail as many have a failed stage as have none.** -/
theorem roundTrips_iff (st : ReportState) : RoundTrips st ↔ Restorable st := by
  constructor
  · exact RoundTrips.restorable
  · intro h runCmd heap'
    obtain ⟨cases', stages, hload, hparse, hcases⟩ := load_toJsonObj st heap'
    have hsame := (sameReport_iff hcases).mpr h
    have hplain := OpSTReport.plain_map_some { runCmd := st.report.runCmd } cases'
    exact ⟨⟨_, _, _, hload runCmd, hplain, hsame⟩, ⟨_, _, _, hparse, hplain, hsame⟩⟩

/-- A report whose one case has failed, as `console_print` leaves it. -/
def ReportState.printedFailure : ReportState :=
  (ReportState.oneCase.addTo [0] { status := FAILED, stageName := some "run_acl_code" }).summary

/-- The case that has failed is a success when the report is loaded. -/
theorem not_roundTrips : ¬ ∀ st : ReportState, RoundTrips st := by
  intro h
  have hinitial := (h ReportState.printedFailure).restorable.uncounted.initial
  have hstatus : ReportState.printedFailure.cases.all (·.status = SUCCESS) = true := by
    rw [List.all_eq_true]
    intro case hmem
    exact decide_eq_true (hinitial case hmem).1
  exact absurd hstatus (by decide)

end HwEfat.Main
