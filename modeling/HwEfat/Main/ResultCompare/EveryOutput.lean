/-
  HwEfat.Main.ResultCompare.EveryOutput — what a successful `compare_data` stage says about
  the outputs of its case.

  A file of the expected data that cannot be compared, because it or the planned output
  file is missing or its type is not known, is passed over, and the stage is decided by the
  files that are left.

  Main result: `every_output_iff`.
-/
import HwEfat.Main.CompareData.Verdict
import HwEfat.Main.ResultCompare.Evidence

namespace HwEfat.Main

open HwEfat.Lib (Extended Heap PyError PyVal bind_eq_ok filterMapM_eq_ok)

/-! ## §1. The entries of a stage. -/

namespace ReportState

variable {st : ReportState} {i : Nat}

/-- The case at position `i` has a stage of the name with the status. -/
def HasStage (st : ReportState) (i : Nat) (name status : String) : Prop :=
  ∃ r ∈ st.refs i, ∃ x, st.heap.read r = some x ∧ x.stageName = some name ∧ x.status = status

/-- Every addition to a case leaves it with an entry of its stage. -/
theorem exists_entry_of_write (ws : List StageWrite) {w : StageWrite} (hw : w ∈ ws)
    (hpos : w.pos < st.cases.length) :
    ∃ r ∈ (ws.foldl applyWrite st).refs w.pos,
      stageOf (ws.foldl applyWrite st).heap r = some w.res.stageName := by
  induction ws using List.reverseRecOn with
  | nil => cases hw
  | append_singleton ws last ih =>
      rw [List.foldl_append, List.foldl_cons, List.foldl_nil]
      have hlen : (ws.foldl applyWrite st).cases.length = st.cases.length := by
        simpa using congrArg List.length (After.foldl st ws).forget
      rcases List.mem_append.mp hw with hold | hnew
      · obtain ⟨r, hr, hstage⟩ := ih hold
        refine ⟨r, mem_refs_applyWrite.mpr (Or.inl hr), ?_⟩
        -- A write never changes the stage of a result.
        exact (stageOf_addTo ((ws.foldl applyWrite st).live _ r hr)).trans hstage
      · rw [List.mem_singleton] at hnew
        subst hnew
        refine ⟨(ws.foldl applyWrite st).heap.size,
          mem_refs_applyWrite.mpr (Or.inr ⟨rfl, rfl, by omega⟩), ?_⟩
        exact stageOf_eq_some.mpr ⟨w.res, read_addTo_new, rfl⟩

/-- **A stage that is new to a case ends with the status of the additions to it**, if all of
them have the same. -/
theorem hasStage_writes {ws : List StageWrite} {name : String} (status : String)
    (hi : i < st.cases.length)
    (hnone : ∀ r ∈ st.refs i, stageOf st.heap r ≠ some (some name))
    (hsame : ∀ w ∈ ws, w.pos = i → w.res.stageName = some name → w.res.status = status)
    (goal : String) :
    (ws.foldl applyWrite st).HasStage i name goal
      ↔ (∃ w ∈ ws, w.pos = i ∧ w.res.stageName = some name) ∧ status = goal := by
  have hafter := After.foldl st ws
  -- An entry of the stage is not one of before.
  have hnew : ∀ r ∈ (ws.foldl applyWrite st).refs i,
      stageOf (ws.foldl applyWrite st).heap r = some (some name) →
        ∃ w ∈ ws, w.pos = i ∧ w.res.stageName = some name ∧
          (ws.foldl applyWrite st).heap.read r = some w.res := by
    intro r hr hstage
    by_cases hlt : r < st.heap.size
    · obtain ⟨x, hx⟩ := Heap.read_of_lt_size hlt
      obtain ⟨x', hx', hname, _⟩ := hafter.oldRead r x hx
      have hold : stageOf st.heap r = some (some name) := by
        rw [stageOf_eq_some] at hstage ⊢
        obtain ⟨y, hy, hyname⟩ := hstage
        rw [hx'] at hy
        cases hy
        exact ⟨x, hx, hname.symm.trans hyname⟩
      exact absurd hold (hnone r ((hafter.oldRefs i r hlt).mp hr))
    · obtain ⟨w, hw, hpos, hread⟩ := hafter.newRead i r (by omega) hr
      rw [stageOf_eq_some, hread] at hstage
      obtain ⟨y, hy, hyname⟩ := hstage
      cases hy
      exact ⟨w, hw, hpos, hyname, hread⟩
  constructor
  · intro ⟨r, hr, x, hx, hname, hgoal⟩
    obtain ⟨w, hw, hpos, hstage, hread⟩ := hnew r hr (stageOf_eq_some.mpr ⟨x, hx, hname⟩)
    rw [hx] at hread
    cases hread
    exact ⟨⟨w, hw, hpos, hstage⟩, (hsame w hw hpos hstage).symm.trans hgoal⟩
  · rintro ⟨⟨w, hw, hpos, hstage⟩, hgoal⟩
    subst hpos
    obtain ⟨r, hr, hentry⟩ := exists_entry_of_write ws hw hi
    rw [hstage] at hentry
    obtain ⟨w', hw', hpos', hstage', hread⟩ := hnew r hr hentry
    exact ⟨r, hr, w'.res, hread, hstage', (hsame w' hw' hpos' hstage').trans hgoal⟩

end ReportState

namespace ResultCompare

variable {env : CompareEnv} {self : ResultCompare} {st st' : ReportState}

/-! ## §2. The files of a case. -/

/-- The files that are expected of a case, with their positions. -/
def expectFiles (caseInfo : OpSTCase) : List (String × Nat) :=
  (caseInfo.expectDataPaths.getD []).zipIdx

/-- The expected file was compared with the planned output file, with this result. -/
def Compares (env : CompareEnv) (self : ResultCompare) (caseInfo : OpSTCase)
    (file : String × Nat) (r : CompareResult) : Prop :=
  ∃ resultFile npType errThr, plannedOutput caseInfo file.2 = .ok resultFile ∧
    env.isfile resultFile = true ∧ env.isfile file.1 = true ∧
    getDataType caseInfo file.2 = .ok (some npType) ∧ self.getErrThr caseInfo = .ok errThr ∧
    env.compareFiles caseInfo.opParams errThr resultFile file.1 npType = .ok r

theorem checkIsfile_eq (resultFile expectFile : String) :
    checkIsfile env resultFile expectFile = (env.isfile resultFile && env.isfile expectFile) := by
  unfold checkIsfile
  cases env.isfile resultFile <;> cases env.isfile expectFile <;> rfl

/-- A turn of the loop that keeps a result has compared the files. -/
theorem compareResult_eq_some {caseInfo : OpSTCase} {file : String × Nat}
    {r : CompareResult} :
    compareResult env self caseInfo file.1 file.2 = .ok (some r)
      ↔ Compares env self caseInfo file r := by
  unfold compareResult Compares
  rw [bind_eq_ok]
  refine exists_congr fun resultFile => ?_
  cases hfiles : checkIsfile env resultFile file.1 with
  | false =>
      rw [checkIsfile_eq] at hfiles
      simp only [Bool.not_false, if_true, pure, Except.pure, Except.ok.injEq, reduceCtorEq,
        and_false, false_iff]
      rintro ⟨npType, errThr, _, hresult, hexpect, _⟩
      rw [hresult, hexpect] at hfiles
      cases hfiles
  | true =>
      rw [checkIsfile_eq, Bool.and_eq_true] at hfiles
      simp only [Bool.not_true, Bool.false_eq_true, if_false, bind_eq_ok]
      constructor
      · rintro ⟨hplanned, npType, htype, h⟩
        cases npType with
        | none => cases h
        | some npType =>
            obtain ⟨errThr, hthr, r', hr', heq⟩ := by simpa only [bind_eq_ok] using h
            cases heq
            exact ⟨npType, errThr, hplanned, hfiles.1, hfiles.2, htype, hthr, hr'⟩
      · rintro ⟨npType, errThr, hplanned, _, _, htype, hthr, hr⟩
        refine ⟨hplanned, some npType, htype, ?_⟩
        simp only [bind_eq_ok]
        exact ⟨errThr, hthr, r, hr, rfl⟩

/-- `CompareData.compare` returns one of two verdicts. -/
def Verdicts (env : CompareEnv) : Prop :=
  ∀ opParams errThr resultFile expectFile npType r,
    env.compareFiles opParams errThr resultFile expectFile npType = .ok r →
      r.result = "Pass" ∨ r.result = "Failed"

/-- What `CompareData` is given: the thresholds of a case, and the numbers in a file. -/
structure DataFiles where
  errThr : PyVal → Except PyError (ℚ × ℚ)
  fromfile : String → NpType → Except PyError (List (Extended ℚ))

/-- The comparison of two files by `CompareData`. -/
def compareData (files : DataFiles) (errThr : PyVal) (resultFile expectFile : String)
    (npType : NpType) : Except PyError CompareResult := do
  let npuOutput ← files.fromfile resultFile npType
  let cpuOutput ← files.fromfile expectFile npType
  let verdict := CompareData.compare (← files.errThr errThr) npuOutput cpuOutput
  return ⟨verdict.result, .finite verdict.errorPercent, .finite verdict.maxError⟩

/-- **`CompareData` keeps to its verdicts**, whatever the files are. -/
theorem verdicts_compareData {files : DataFiles}
    (h : ∀ opParams, env.compareFiles opParams = compareData files) : Verdicts env := by
  intro opParams errThr resultFile expectFile npType r hr
  rw [h] at hr
  obtain ⟨npuOutput, _, hr⟩ := bind_eq_ok.mp hr
  obtain ⟨cpuOutput, _, hr⟩ := bind_eq_ok.mp hr
  obtain ⟨thresholds, _, hr⟩ := bind_eq_ok.mp hr
  cases hr
  exact CompareData.compare_verdict thresholds npuOutput cpuOutput

theorem Compares.verdict {caseInfo : OpSTCase} {file : String × Nat} {r : CompareResult}
    (h : Compares env self caseInfo file r) (hverdict : Verdicts env) :
    r.result = "Pass" ∨ r.result = "Failed" := by
  obtain ⟨_, _, _, _, _, _, _, _, hresult⟩ := h
  exact hverdict _ _ _ _ _ _ hresult

theorem compareStatus_eq_success {resultList : List CompareResult} :
    compareStatus resultList = SUCCESS
      ↔ resultList ≠ [] ∧ ∀ r ∈ resultList, r.result ≠ "Failed" := by
  have hne : FAILED ≠ SUCCESS := by decide
  unfold compareStatus
  cases resultList with
  | nil => simp [hne]
  | cons r rest =>
      by_cases hfailed : (r :: rest).any (fun r => r.result == "Failed") = true
      · rw [if_neg (by simp), if_pos hfailed]
        simp only [List.any_eq_true, beq_iff_eq] at hfailed
        obtain ⟨x, hx, hresult⟩ := hfailed
        exact iff_of_false hne fun h => h.2 x hx hresult
      · rw [if_neg (by simp), if_neg hfailed]
        simp only [List.any_eq_true, beq_iff_eq, not_exists, not_and] at hfailed
        exact iff_of_true rfl ⟨by simp, hfailed⟩

/-- **Every expected file was compared, and passed.** -/
def AllPassed (env : CompareEnv) (self : ResultCompare) (caseInfo : OpSTCase) : Prop :=
  ∀ file ∈ expectFiles caseInfo, ∃ r, Compares env self caseInfo file r ∧ r.result = "Pass"

/-- Some of the expected files can be compared, and pass, while others cannot. -/
structure PartlyCompared (env : CompareEnv) (self : ResultCompare) (caseInfo : OpSTCase) :
    Prop where
  skipped : ∃ file ∈ expectFiles caseInfo, ¬ ∃ r, Compares env self caseInfo file r
  compared : ∃ file ∈ expectFiles caseInfo, ∃ r, Compares env self caseInfo file r
  passed : ∀ file ∈ expectFiles caseInfo, ∀ r, Compares env self caseInfo file r →
    r.result = "Pass"

/-- A list of results without a failure: some file was compared, and all that were passed. -/
theorem success_resultList {caseInfo : OpSTCase} {resultList : List CompareResult}
    (hverdict : Verdicts env)
    (h : self.getCompareResultList env caseInfo = .ok resultList) :
    compareStatus resultList = SUCCESS
      ↔ (∃ file ∈ expectFiles caseInfo, ∃ r, Compares env self caseInfo file r) ∧
        ∀ file ∈ expectFiles caseInfo, ∀ r, Compares env self caseInfo file r →
          r.result = "Pass" := by
  have hmem : ∀ r, r ∈ resultList ↔
      ∃ file ∈ expectFiles caseInfo, Compares env self caseInfo file r := by
    intro r
    rw [(filterMapM_eq_ok h).2]
    exact exists_congr fun file => and_congr_right fun _ => compareResult_eq_some
  rw [compareStatus_eq_success]
  constructor
  · rintro ⟨hne, hfailed⟩
    obtain ⟨r, hr⟩ := List.exists_mem_of_ne_nil _ hne
    obtain ⟨file, hfile, hcompares⟩ := (hmem r).mp hr
    refine ⟨⟨file, hfile, r, hcompares⟩, fun file hfile r hcompares => ?_⟩
    exact (hcompares.verdict hverdict).resolve_right
      (hfailed r ((hmem r).mpr ⟨file, hfile, hcompares⟩))
  · rintro ⟨⟨file, hfile, r, hcompares⟩, hpass⟩
    have hr : r ∈ resultList := (hmem r).mpr ⟨file, hfile, hcompares⟩
    refine ⟨List.ne_nil_of_mem hr, fun r hr => ?_⟩
    obtain ⟨file, hfile, hcompares⟩ := (hmem r).mp hr
    rw [hpass file hfile r hcompares]
    decide

/-! ## §3. The lines of a case. -/

/-- The status of the stage `compare_data` that a `[pass]` line adds. -/
def dataStatus (env : CompareEnv) (self : ResultCompare) (caseInfo : OpSTCase) :
    Except PyError String :=
  if (caseInfo.expectDataPaths.getD []).isEmpty then .ok FAILED
  else do
    let resultList ← self.getCompareResultList env caseInfo
    return compareStatus resultList

theorem passWrites_eq (caseInfo : OpSTCase) (i : Nat) :
    self.passWrites env caseInfo i = do
      let status ← self.dataStatus env caseInfo
      return [stageWrite i SUCCESS "run_acl_code", stageWrite i status "compare_data"] := by
  unfold passWrites dataStatus
  split
  · rfl
  · cases self.getCompareResultList env caseInfo <;> rfl

/-- A successful stage: some file was compared, and all that were passed. -/
theorem dataStatus_eq_success {caseInfo : OpSTCase} {status : String}
    (hverdict : Verdicts env) (h : self.dataStatus env caseInfo = .ok status) :
    status = SUCCESS
      ↔ (∃ file ∈ expectFiles caseInfo, ∃ r, Compares env self caseInfo file r) ∧
        ∀ file ∈ expectFiles caseInfo, ∀ r, Compares env self caseInfo file r →
          r.result = "Pass" := by
  unfold dataStatus at h
  split at h
  · next hempty =>
      cases h
      have hnil : expectFiles caseInfo = [] := by
        unfold expectFiles
        rw [List.isEmpty_iff.mp hempty]
        rfl
      have hne : FAILED ≠ SUCCESS := by decide
      refine iff_of_false hne fun hall => ?_
      obtain ⟨⟨file, hfile, _⟩, _⟩ := hall
      rw [hnil] at hfile
      cases hfile
  · obtain ⟨resultList, hlist, h⟩ := bind_eq_ok.mp h
    cases h
    exact success_resultList hverdict hlist

section Case

variable {rpt : OpSTReport} {caseReport : OpSTCaseReport} {i : Nat} (resultInfo : ResultInfo)
  {lineWs : List StageWrite} {withExpectFunc : PyVal}

/-- What a line of the case adds for the comparison, which only a `[pass]` line does. -/
theorem compareData_of_line
    (hfound : rpt.getCaseReport resultInfo.caseName = some (caseReport, i))
    (hfunc : caseReport.traceDetail.stCaseInfo.opParams.get "calc_expect_func_file_func"
      = .ok withExpectFunc) (htrue : withExpectFunc.truthy = true)
    (h : self.lineWrites env rpt resultInfo = .ok lineWs) :
    (resultInfo.result = "[pass]" → ∃ status,
      self.dataStatus env caseReport.traceDetail.stCaseInfo = .ok status ∧
        stageWrite i status "compare_data" ∈ lineWs) ∧
    ∀ w ∈ lineWs, w.res.stageName = some "compare_data" →
      resultInfo.result = "[pass]" ∧
        self.dataStatus env caseReport.traceDetail.stCaseInfo = .ok w.res.status := by
  unfold lineWrites caseInfoOf at h
  simp only [hfound, Option.map_some, hfunc, bind_eq_ok, Except.ok.injEq, exists_eq_left',
    htrue, if_true] at h
  split at h
  · next hfail =>
      cases h
      refine ⟨fun hpass => absurd (hfail.symm.trans hpass) (by decide), fun w hw hstage => ?_⟩
      rw [List.mem_singleton] at hw
      subst hw
      simp [stageWrite] at hstage
  · split at h
    · next hpass =>
        rw [passWrites_eq] at h
        obtain ⟨status, hstatus, h⟩ := bind_eq_ok.mp h
        cases h
        refine ⟨fun _ => ⟨status, hstatus, by simp⟩, fun w hw hstage => ?_⟩
        -- Of the two writes of a pass, the second one is about the data.
        rcases List.mem_pair.mp hw with heq | heq
        · subst heq
          simp [stageWrite] at hstage
        · subst heq
          exact ⟨hpass, hstatus⟩
    · next hpass =>
        cases h
        exact ⟨fun hcontra => absurd hcontra hpass, fun w hw => by cases hw⟩

end Case

/-! ## §4. The stage after a comparison. -/

/-- Without `result.txt` the comparison adds the stage of the run only. -/
theorem not_hasStage_missing {i : Nat} (hmissing : ResultMissing env self)
    (h : self.compare env st = (.ok (), st'))
    (hnone : ∀ r ∈ st.refs i, stageOf st.heap r ≠ some (some "compare_data")) :
    ¬ st'.HasStage i "compare_data" SUCCESS := by
  rw [compare_missing hmissing] at h
  cases h
  rintro ⟨r, hr, x, hx, hstage, _⟩
  unfold ReportState.addToAll at hr hx
  rcases ReportState.mem_refs_addTo.mp hr with hold | ⟨hnew, _⟩
  · refine hnone r hold ?_
    rw [← ReportState.stageOf_addTo (st.live i r hold)]
    exact stageOf_eq_some.mpr ⟨x, hx, hstage⟩
  · subst hnew
    rw [ReportState.read_addTo_new] at hx
    cases hx
    exact absurd hstage (by decide)

section Lines

variable {caseName : String} {caseReport : OpSTCaseReport} {i : Nat} {withExpectFunc : PyVal}
  {ws : List StageWrite}

/-- **What is added to a case for the comparison** comes from its `[pass]` lines. -/
theorem line_of_dataWrite (hfound : st.report.getCaseReport caseName = some (caseReport, i))
    (hfunc : caseReport.traceDetail.stCaseInfo.opParams.get "calc_expect_func_file_func"
      = .ok withExpectFunc) (htrue : withExpectFunc.truthy = true)
    (hws : self.writesOf env st.report (resultLines env self) = .ok ws) {w : StageWrite}
    (hw : w ∈ ws) (hpos : w.pos = i) (hstage : w.res.stageName = some "compare_data") :
    HasLine env self caseName "[pass]" ∧
      self.dataStatus env caseReport.traceDetail.stCaseInfo = .ok w.res.status := by
  obtain ⟨hat, hname, _⟩ := getCaseReport_eq_some hfound
  obtain ⟨resultInfo, hinfo, lineWs, hlineWs, hmem⟩ := exists_line_of_mem hws hw
  obtain ⟨⟨found, hfound'⟩, _⟩ := of_mem_lineWrites hlineWs hmem
  obtain ⟨hat', hname', _⟩ := getCaseReport_eq_some hfound'
  rw [hpos, hat] at hat'
  cases hat'
  -- The line is about the case at this position, so it has its name.
  have hsame : caseName = resultInfo.caseName := hname.symm.trans hname'
  rw [hsame] at hfound
  obtain ⟨hpass, hstatus⟩ :=
    (compareData_of_line resultInfo hfound hfunc htrue hlineWs).2 w hmem hstage
  refine ⟨⟨resultInfo.index, ?_⟩, hstatus⟩
  rw [hsame, ← hpass]
  exact hinfo

/-- A `[pass]` line adds the stage of the comparison. -/
theorem dataWrite_of_line (hfound : st.report.getCaseReport caseName = some (caseReport, i))
    (hfunc : caseReport.traceDetail.stCaseInfo.opParams.get "calc_expect_func_file_func"
      = .ok withExpectFunc) (htrue : withExpectFunc.truthy = true)
    (hws : self.writesOf env st.report (resultLines env self) = .ok ws)
    (hline : HasLine env self caseName "[pass]") :
    ∃ status, self.dataStatus env caseReport.traceDetail.stCaseInfo = .ok status ∧
      ∃ w ∈ ws, w.pos = i ∧ w.res.stageName = some "compare_data" := by
  obtain ⟨index, hinfo⟩ := hline
  obtain ⟨lineWs, hlineWs, hsub⟩ := lineWrites_subset hws hinfo
  obtain ⟨status, hstatus, hmem⟩ :=
    (compareData_of_line ⟨index, caseName, "[pass]"⟩ hfound hfunc htrue hlineWs).1 rfl
  exact ⟨status, hstatus, _, hsub hmem, rfl, rfl⟩

end Lines

/-- **The stage `compare_data` of a case with an expected-output function ends as a success
exactly if the case has a `[pass]` line, some of its files were compared, and all of those
passed.** -/
theorem hasStage_compare {caseName : String} {caseReport : OpSTCaseReport} {i : Nat}
    {withExpectFunc : PyVal} (hverdict : Verdicts env)
    (h : self.compare env st = (.ok (), st'))
    (hfound : st.report.getCaseReport caseName = some (caseReport, i))
    (hfunc : caseReport.traceDetail.stCaseInfo.opParams.get "calc_expect_func_file_func"
      = .ok withExpectFunc) (htrue : withExpectFunc.truthy = true)
    (hnone : ∀ r ∈ st.refs i, stageOf st.heap r ≠ some (some "compare_data")) :
    st'.HasStage i "compare_data" SUCCESS
      ↔ HasLine env self caseName "[pass]" ∧
        (∃ file ∈ expectFiles caseReport.traceDetail.stCaseInfo, ∃ r,
          Compares env self caseReport.traceDetail.stCaseInfo file r) ∧
        ∀ file ∈ expectFiles caseReport.traceDetail.stCaseInfo, ∀ r,
          Compares env self caseReport.traceDetail.stCaseInfo file r → r.result = "Pass" := by
  obtain ⟨hat, _, _⟩ := getCaseReport_eq_some hfound
  have hi : i < st.cases.length := (List.getElem?_eq_some_iff.mp hat).1
  by_cases hmissing : ResultMissing env self
  · refine iff_of_false (not_hasStage_missing hmissing h hnone) fun hright => ?_
    obtain ⟨⟨index, hline⟩, _⟩ := hright
    have hlines : resultLines env self = [] := by
      unfold resultLines
      rw [if_pos]
      rcases hmissing with h | h <;> simp [h]
    rw [hlines] at hline
    cases hline
  · obtain ⟨ws, hws, hst'⟩ := compareLines_writes (compare_present hmissing h)
    subst hst'
    have hwrite : ∀ w ∈ ws, w.pos = i → w.res.stageName = some "compare_data" →
        HasLine env self caseName "[pass]" ∧
          self.dataStatus env caseReport.traceDetail.stCaseInfo = .ok w.res.status :=
      fun w => line_of_dataWrite hfound hfunc htrue hws
    -- All `[pass]` lines of the case give one status.
    have hsame : ∀ status, self.dataStatus env caseReport.traceDetail.stCaseInfo = .ok status →
        ∀ w ∈ ws, w.pos = i → w.res.stageName = some "compare_data" →
          w.res.status = status := by
      intro status hstatus w hw hpos hdata
      have heq := (hwrite w hw hpos hdata).2
      rw [hstatus] at heq
      exact (Except.ok.inj heq).symm
    constructor
    · intro hstage
      by_cases hpass : HasLine env self caseName "[pass]"
      · obtain ⟨status, hstatus, _⟩ := dataWrite_of_line hfound hfunc htrue hws hpass
        have hiff := ReportState.hasStage_writes status hi hnone (hsame status hstatus) SUCCESS
        exact ⟨hpass, (dataStatus_eq_success hverdict hstatus).mp (hiff.mp hstage).2⟩
      · -- Without such a line nothing is added for the comparison.
        have hiff := ReportState.hasStage_writes FAILED hi hnone
          (fun w hw hpos hdata => absurd (hwrite w hw hpos hdata).1 hpass) SUCCESS
        obtain ⟨w, hw, hpos, hdata⟩ := (hiff.mp hstage).1
        exact absurd (hwrite w hw hpos hdata).1 hpass
    · rintro ⟨hpass, hfiles⟩
      obtain ⟨status, hstatus, hw⟩ := dataWrite_of_line hfound hfunc htrue hws hpass
      have hiff := ReportState.hasStage_writes status hi hnone (hsame status hstatus) SUCCESS
      exact hiff.mpr ⟨hw, (dataStatus_eq_success hverdict hstatus).mpr hfiles⟩

/-- **A success says that every expected file was compared and passed, exactly if it is not
that the case has a `[pass]` line and is compared in part, with all comparisons passing.** -/
theorem every_output_iff {caseName : String} {caseReport : OpSTCaseReport} {i : Nat}
    {withExpectFunc : PyVal} (hverdict : Verdicts env)
    (h : self.compare env st = (.ok (), st'))
    (hfound : st.report.getCaseReport caseName = some (caseReport, i))
    (hfunc : caseReport.traceDetail.stCaseInfo.opParams.get "calc_expect_func_file_func"
      = .ok withExpectFunc) (htrue : withExpectFunc.truthy = true)
    (hnone : ∀ r ∈ st.refs i, stageOf st.heap r ≠ some (some "compare_data")) :
    (st'.HasStage i "compare_data" SUCCESS →
        AllPassed env self caseReport.traceDetail.stCaseInfo)
      ↔ ¬ (HasLine env self caseName "[pass]" ∧
        PartlyCompared env self caseReport.traceDetail.stCaseInfo) := by
  have hstage := hasStage_compare hverdict h hfound hfunc htrue hnone
  constructor
  · rintro hall ⟨hpass, ⟨file, hfile, hskipped⟩, hcompared, hpassed⟩
    obtain ⟨r, hr, _⟩ := hall (hstage.mpr ⟨hpass, hcompared, hpassed⟩) file hfile
    exact hskipped ⟨r, hr⟩
  · intro hnot hsuccess file hfile
    obtain ⟨hpass, hcompared, hpassed⟩ := hstage.mp hsuccess
    by_contra hnone
    -- A file that did not pass was not compared, so the case is compared in part.
    refine hnot ⟨hpass, ⟨file, hfile, ?_⟩, hcompared, hpassed⟩
    rintro ⟨r, hr⟩
    exact hnone ⟨r, hr, hpassed file hfile r hr⟩

/-! ## §5. A case with two outputs. -/

/-- Files with the number 1. -/
def oneNumber : DataFiles where
  errThr := fun _ => .ok (1 / 1000, 1 / 1000)
  fromfile := fun _ _ => .ok [.fin 1]

/-- The first of the two planned output files is there and passes, the second is missing. -/
def oneOutput : CompareEnv where
  digit := Char.isDigit
  pathExists := fun _ => true
  readable := fun _ => true
  readText := fun _ => .ok "1  Test_Add_001_case_001  [pass]"
  isfile := fun path => path != "out_1.bin"
  compareFiles := fun _ => compareData oneNumber

/-- A case with two outputs and an expected-output function. -/
def twoOutputs : OpSTCase where
  caseName := "Test_Add_001_case_001"
  opParams := .dict [("calc_expect_func_file_func", .str "calc"),
    ("output_desc", .list [.dict [("type", .str "float16")], .dict [("type", .str "float16")]])]
  plannedOutputDataPaths := some ["out_0.bin", "out_1.bin"]
  expectDataPaths := some ["expect_0.bin", "expect_1.bin"]

/-- The report of that case. -/
def twoOutputsReport : ReportState where
  report := { reportList := [OpSTCaseReport.ofTrace { stCaseInfo := twoOutputs }] }
  heap := Heap.empty
  live := by
    intro i r hr
    match i with
    | 0 => cases hr
    | _ + 1 => cases hr

/-- The comparison returns, so that the condition applies to it. -/
theorem every_output_iff_twoOutputs :
    ((compare oneOutput ⟨.none, "/out/Add"⟩ twoOutputsReport).2.HasStage 0 "compare_data"
        SUCCESS → AllPassed oneOutput ⟨.none, "/out/Add"⟩ twoOutputs)
      ↔ ¬ (HasLine oneOutput ⟨.none, "/out/Add"⟩ "Test_Add_001_case_001" "[pass]" ∧
        PartlyCompared oneOutput ⟨.none, "/out/Add"⟩ twoOutputs) := by
  have hok : (compare oneOutput ⟨.none, "/out/Add"⟩ twoOutputsReport).1 = .ok () := by
    decide +kernel
  have hfound : twoOutputsReport.report.getCaseReport "Test_Add_001_case_001"
      = some (OpSTCaseReport.ofTrace { stCaseInfo := twoOutputs }, 0) := rfl
  have hnone : ∀ r ∈ twoOutputsReport.refs 0,
      stageOf twoOutputsReport.heap r ≠ some (some "compare_data") := by
    intro r hr
    cases hr
  exact every_output_iff (verdicts_compareData fun _ => rfl) (Prod.ext hok rfl) hfound rfl
    (by decide) hnone

/-- One of the two outputs is missing, and the comparison is a success. -/
theorem success_with_missing_output :
    (compare oneOutput ⟨.none, "/out/Add"⟩ twoOutputsReport).1 = .ok () ∧
      (compare oneOutput ⟨.none, "/out/Add"⟩ twoOutputsReport).2.HasStage 0 "compare_data"
        SUCCESS ∧
      ¬ AllPassed oneOutput ⟨.none, "/out/Add"⟩ twoOutputs := by
  refine ⟨by decide +kernel, ?_, fun hall => ?_⟩
  · unfold ReportState.HasStage
    decide +kernel
  · obtain ⟨r, ⟨resultFile, _, _, hplanned, hisfile, _⟩, _⟩ :=
      hall ("expect_1.bin", 1) (by decide)
    have hpath : plannedOutput twoOutputs 1 = .ok "out_1.bin" := rfl
    rw [hpath] at hplanned
    cases hplanned
    exact absurd hisfile (by decide)

end ResultCompare

end HwEfat.Main
