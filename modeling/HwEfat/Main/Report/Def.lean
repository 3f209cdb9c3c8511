/-
  HwEfat.Main.Report.Def — the test report: `op_st_case_info.py` and `st_report.py`.

  Every case of the report has a trace, a list of stage results.  A stage result is an
  object, and one object can be in the traces of several cases: it is added to all of
  them, and a later result of its stage is written into it through any one of them.  So
  a trace holds references, and `ReportState` is the report together with the objects.

  What is left out: the printed warnings, and reading and writing the report's file.  The
  cases of a JSON file are those that `json.load` returns.
-/
import HwEfat.Lib.Heap
import HwEfat.Main.Utils
import Mathlib.Data.List.Nodup

namespace HwEfat.Main

open HwEfat.Lib (Heap PyError PyVal PyDict beforeLast contains)

/-! ## §1. `op_status` and `ConstManager`. -/

def SUCCESS : String := "success"
def FAILED : String := "failed"

def EXPECT_SUCCESS : String := "success"
def EXPECT_FAILED : String := "failed"

/-! ## §2. Cases and their stages. -/

/-- A case that is tested: its name, its parameters and the files of its data. -/
structure OpSTCase where
  caseName : String
  opParams : PyVal
  inputDataPaths : Option String := none
  plannedOutputDataPaths : Option (List String) := none
  expectDataPaths : Option (List String) := none

/-- The result of one stage: its name, its status, its output and the command. -/
structure OpSTStageResult where
  status : String := FAILED
  stageName : Option String := none
  result : PyVal := .none
  cmd : Option String := none

/-- `is_success` -/
def OpSTStageResult.isSuccess (stage : OpSTStageResult) : Bool := stage.status == SUCCESS

/-- The stage results are references. -/
structure OpSTCaseTrace where
  stCaseInfo : OpSTCase
  stageResult : List Nat := []

namespace OpSTCaseTrace

/-- One turn of the loop of `add_stage_result`: the object behind `result` takes over
the fields of the one behind `stageRes`, if both are of one stage. -/
def overwrite (stageRes : Nat) (heap : Heap OpSTStageResult) (result : Nat) :
    Heap OpSTStageResult :=
  match heap.read result, heap.read stageRes with
  | some old, some res =>
      if old.stageName = res.stageName then
        heap.write result
          { old with result := res.result, cmd := res.cmd, status := res.status }
      else heap
  | _, _ => heap

/-- `add_stage_result` -/
def addStageResult (trace : OpSTCaseTrace) (heap : Heap OpSTStageResult) (stageRes : Nat) :
    OpSTCaseTrace × Heap OpSTStageResult :=
  ({ trace with stageResult := trace.stageResult ++ [stageRes] },
    trace.stageResult.foldl (overwrite stageRes) heap)

end OpSTCaseTrace

/-- The report of one case: its trace, and the status that is shown. -/
structure OpSTCaseReport where
  caseName : String
  status : String := SUCCESS
  traceDetail : OpSTCaseTrace
  expect : String := EXPECT_SUCCESS

namespace OpSTCaseReport

/-- `OpSTCaseReport(case_run_trace)` -/
def ofTrace (caseRunTrace : OpSTCaseTrace) : OpSTCaseReport :=
  { caseName := caseRunTrace.stCaseInfo.caseName, traceDetail := caseRunTrace }

/-- `update_case_status` -/
def updateCaseStatus (heap : Heap OpSTStageResult) (case : OpSTCaseReport) : OpSTCaseReport :=
  case.traceDetail.stageResult.foldl (fun case ref =>
    match heap.read ref with
    | some stageRes => if stageRes.isSuccess then case else { case with status := FAILED }
    | none => case) case

/-- The name of the case in the JSON file that a sub-case was made from. -/
def parentCaseName (case : OpSTCaseReport) : String :=
  if contains case.caseName "_sub_case" then beforeLast case.caseName "_sub_case"
  else if contains case.caseName "_fuzz_case" then beforeLast case.caseName "_fuzz_case"
  else beforeLast case.caseName "_case"

/-- `update_case_expect` -/
def updateCaseExpect (expectDict : List (String × String)) (case : OpSTCaseReport) :
    OpSTCaseReport :=
  if expectDict.lookup case.parentCaseName = some EXPECT_FAILED then
    { case with expect := EXPECT_FAILED }
  else case

end OpSTCaseReport

/-! ## §3. The report. -/

/-- The report of a run: counters, the reports of the cases, and what is expected of them. -/
structure OpSTReport where
  runCmd : Option String := none
  totalCnt : Nat := 0
  failedCnt : Nat := 0
  successCnt : Nat := 0
  reportList : List OpSTCaseReport := []
  expectDict : List (String × String) := []

namespace OpSTReport

/-- `expect_dict[name] = value`, for a name from a JSON file; only strings are looked up. -/
def setNamed (expectDict : PyDict String) (name : PyVal) (value : String) :
    Except PyError (PyDict String) :=
  match name with
  | .str s => .ok (expectDict.set s value)
  | .list _ => .error (.typeError "unhashable type: 'list'")
  | .dict _ => .error (.typeError "unhashable type: 'dict'")
  | _ => .ok expectDict

/-- The body of the loop of `set_expect`. -/
def setExpectCase (expectDict : PyDict String) (opCase : PyVal) :
    Except PyError (PyDict String) := do
  let opCaseName ← opCase.get CASE_NAME
  let expectDict ← setNamed expectDict opCaseName EXPECT_SUCCESS
  match ← opCase.get "expect" with
  | .str expectValue =>
      if expectValue = EXPECT_SUCCESS ∨ expectValue = EXPECT_FAILED then
        setNamed expectDict opCaseName expectValue
      else return expectDict
  -- No value, or one that is not supported.
  | _ => return expectDict

/-- `set_expect`, with the cases of the file. -/
def setExpect (rpt : OpSTReport) (opCaseList : PyVal) : Except PyError OpSTReport := do
  let expectDict ← (← opCaseList.iter).foldlM setExpectCase rpt.expectDict
  return { rpt with expectDict }

/-- `update_cnt` -/
def updateCnt (rpt : OpSTReport) (case : OpSTCaseReport) : OpSTReport :=
  let rpt := { rpt with totalCnt := rpt.totalCnt + 1 }
  if case.status = case.expect then { rpt with successCnt := rpt.successCnt + 1 }
  else { rpt with failedCnt := rpt.failedCnt + 1 }

/-- `get_case_report`, with the position of the case: no case is found if several have
the name. -/
def getCaseReport (rpt : OpSTReport) (caseName : String) : Option (OpSTCaseReport × Nat) :=
  match rpt.reportList.zipIdx.filter (fun x => x.1.caseName == caseName) with
  | [x] => some x
  | _ => none

/-- What `_summary_txt` writes once the cases are counted. -/
def totalTxt (rpt : OpSTReport) : String :=
  "========================================================================\n" ++
  "run command: " ++ rpt.runCmd.getD "None" ++ "\n" ++
  "------------------------------------------------------------------------\n" ++
  "- test case count: " ++ toString rpt.totalCnt ++ "\n" ++
  "- success count: " ++ toString rpt.successCnt ++ "\n" ++
  "- failed count: " ++ toString rpt.failedCnt ++ "\n" ++
  "------------------------------------------------------------------------\n" ++
  "========================================================================\n"

/-- `_summary_txt`: every case is updated and counted. -/
def summaryTxt (heap : Heap OpSTStageResult) (rpt : OpSTReport) : String × OpSTReport :=
  if rpt.reportList.isEmpty then ("", rpt)
  else
    let updated := rpt.reportList.map fun caseReport =>
      (caseReport.updateCaseStatus heap).updateCaseExpect rpt.expectDict
    let rpt := updated.foldl updateCnt { rpt with reportList := updated }
    (rpt.totalTxt, rpt)

end OpSTReport

/-- The case that is found is the only one with its name. -/
theorem getCaseReport_eq_some_iff {rpt : OpSTReport} {caseName : String}
    {found : OpSTCaseReport × Nat} :
    rpt.getCaseReport caseName = some found ↔
      rpt.reportList[found.2]? = some found.1 ∧ found.1.caseName = caseName ∧
        ∀ i caseReport, rpt.reportList[i]? = some caseReport →
          caseReport.caseName = caseName → i = found.2 := by
  have hmem : ∀ x, x ∈ rpt.reportList.zipIdx.filter (fun x => x.1.caseName == caseName) ↔
      rpt.reportList[x.2]? = some x.1 ∧ x.1.caseName = caseName := by
    intro x
    rw [List.mem_filter, List.mem_zipIdx_iff_getElem?, beq_iff_eq]
  -- The positions tell the entries apart.
  have hnodup : (rpt.reportList.zipIdx.filter (fun x => x.1.caseName == caseName)).Nodup := by
    refine List.Nodup.filter _ (List.Nodup.of_map Prod.snd ?_)
    rw [List.zipIdx_map_snd]
    exact List.nodup_range'
  unfold OpSTReport.getCaseReport
  constructor
  · intro h
    split at h
    · next x hfilter =>
        cases h
        rw [hfilter] at hmem
        obtain ⟨hat, hname⟩ := (hmem found).mp (List.mem_singleton_self _)
        refine ⟨hat, hname, fun i caseReport hi hcase => ?_⟩
        exact congrArg Prod.snd (List.mem_singleton.mp ((hmem (caseReport, i)).mpr ⟨hi, hcase⟩))
    · cases h
  · intro ⟨hat, hname, hall⟩
    have hsingle : rpt.reportList.zipIdx.filter (fun x => x.1.caseName == caseName) = [found] := by
      refine List.perm_singleton.mp ?_
      rw [List.perm_ext_iff_of_nodup hnodup (List.nodup_singleton _)]
      intro x
      rw [hmem, List.mem_singleton]
      constructor
      · intro ⟨hx, hxname⟩
        have hpos := hall x.2 x.1 hx hxname
        rw [hpos, hat] at hx
        exact Prod.ext (Option.some.inj hx).symm hpos
      · rintro rfl
        exact ⟨hat, hname⟩
    rw [hsingle]

/-- Only the case itself has its name. -/
theorem getCaseReport_eq_some {rpt : OpSTReport} {caseName : String}
    {found : OpSTCaseReport × Nat} (h : rpt.getCaseReport caseName = some found) :
    rpt.reportList[found.2]? = some found.1 ∧ found.1.caseName = caseName ∧
      ∀ i caseReport, rpt.reportList[i]? = some caseReport → caseReport.caseName = caseName →
        i = found.2 :=
  getCaseReport_eq_some_iff.mp h

section SetReport

variable {rpt : OpSTReport} {caseName : String} {i : Nat} {old caseReport : OpSTCaseReport}

/-- The report with another entry at a position. -/
def OpSTReport.setAt (rpt : OpSTReport) (i : Nat) (caseReport : OpSTCaseReport) : OpSTReport :=
  { rpt with reportList := rpt.reportList.set i caseReport }

/-- A case that is found is found again when it has changed under its name. -/
theorem getCaseReport_setAt (h : rpt.getCaseReport caseName = some (old, i))
    (hname : caseReport.caseName = caseName) :
    (rpt.setAt i caseReport).getCaseReport caseName = some (caseReport, i) := by
  obtain ⟨hat, _, hall⟩ := getCaseReport_eq_some h
  have hi : i < rpt.reportList.length := (List.getElem?_eq_some_iff.mp hat).1
  refine getCaseReport_eq_some_iff.mpr ⟨List.getElem?_set_self hi, hname, fun j c hj hc => ?_⟩
  by_contra hne
  change (rpt.reportList.set i caseReport)[j]? = some c at hj
  rw [List.getElem?_set_ne fun heq => hne heq.symm] at hj
  exact hne (hall j c hj hc)

/-- The cases of other names are found as before. -/
theorem getCaseReport_setAt_of_ne (hat : rpt.reportList[i]? = some old)
    (hold : old.caseName ≠ caseName) (hname : caseReport.caseName ≠ caseName) :
    (rpt.setAt i caseReport).getCaseReport caseName = rpt.getCaseReport caseName := by
  have hi : i < rpt.reportList.length := (List.getElem?_eq_some_iff.mp hat).1
  have hsame : ∀ (j : Nat) (c : OpSTCaseReport), c.caseName = caseName →
      ((rpt.setAt i caseReport).reportList[j]? = some c ↔ rpt.reportList[j]? = some c) := by
    intro j c hc
    show (rpt.reportList.set i caseReport)[j]? = some c ↔ _
    by_cases hj : i = j
    · subst hj
      rw [List.getElem?_set_self hi, hat]
      refine iff_of_false (fun h => hname ?_) fun h => hold ?_
      · rw [Option.some.inj h, hc]
      · rw [Option.some.inj h, hc]
    · rw [List.getElem?_set_ne hj]
  ext found
  rw [getCaseReport_eq_some_iff, getCaseReport_eq_some_iff]
  constructor
  · intro ⟨hat', hname', hall⟩
    exact ⟨(hsame _ _ hname').mp hat', hname', fun j c hj hc => hall j c ((hsame j c hc).mpr hj) hc⟩
  · intro ⟨hat', hname', hall⟩
    exact ⟨(hsame _ _ hname').mpr hat', hname', fun j c hj hc => hall j c ((hsame j c hc).mp hj) hc⟩

end SetReport

/-! ## §4. The report and the stage results. -/

/-- `case_report.trace_detail.add_stage_result(stage_res)` for the case at position `i`. -/
def addAt (stageRes : Nat) (s : List OpSTCaseReport × Heap OpSTStageResult) (i : Nat) :
    List OpSTCaseReport × Heap OpSTStageResult :=
  match s.1[i]? with
  | some caseReport =>
      let added := caseReport.traceDetail.addStageResult s.2 stageRes
      (s.1.set i { caseReport with traceDetail := added.1 }, added.2)
  | none => s

/-- What the trace of the case at position `i` refers to. -/
def refs (cases : List OpSTCaseReport) (i : Nat) : List Nat :=
  match cases[i]? with
  | some caseReport => caseReport.traceDetail.stageResult
  | none => []

/-- A report and the stage results of its traces; every result that a trace refers to
exists. -/
structure ReportState where
  report : OpSTReport
  heap : Heap OpSTStageResult
  live : ∀ i, ∀ r ∈ refs report.reportList i, r < heap.size

namespace ReportState

/-- The cases of the report. -/
abbrev cases (st : ReportState) : List OpSTCaseReport := st.report.reportList

/-- What the trace of the case at position `i` refers to. -/
abbrev refs (st : ReportState) (i : Nat) : List Nat := Main.refs st.cases i

end ReportState

end HwEfat.Main
