/-
  HwEfat.Main.ResultCompare.Evidence — on what evidence a case is reported successful.

  A comparison adds stage results to the cases that `result.txt` names (`writesOf`), one
  after the other; a later result of a stage replaces the earlier ones in the traces it
  is added to, also where another case shares them.  `After` describes the report after
  a list of such additions, `compare_writes` that a comparison makes just these.

  `pass_evidence_iff` says when every case that ends as a success has a `[pass]` line:
  a case without one is a success unless something else has left it a failed stage.
-/
import Mathlib.Data.List.Induction
import HwEfat.Main.ResultCompare.Def

namespace HwEfat.Main

open HwEfat.Lib (Heap PyError PyM bind_eq_ok pathJoin split)

/-! ## §1. Adding stage results one after the other. -/

/-- A new stage result for the case at `pos`. -/
structure StageWrite where
  pos : Nat
  res : OpSTStageResult

namespace ReportState

def applyWrite (st : ReportState) (w : StageWrite) : ReportState := st.addTo [w.pos] w.res

/-- What the status of a result becomes: the last addition of its stage counts, to any
case that has the result in its trace. -/
def lastStatus (st : ReportState) (ws : List StageWrite) (r : Nat) (x : OpSTStageResult) :
    String :=
  ws.foldl (fun status w =>
    if r ∈ st.refs w.pos ∧ w.res.stageName = x.stageName then w.res.status else status) x.status

/-- The report `st'` after the additions `ws` to `st`. -/
structure After (st st' : ReportState) (ws : List StageWrite) : Prop where
  forget : st'.cases.map OpSTCaseReport.forget = st.cases.map OpSTCaseReport.forget
  grown : st.heap.size ≤ st'.heap.size
  oldRefs : ∀ i r, r < st.heap.size → (r ∈ st'.refs i ↔ r ∈ st.refs i)
  oldRead : ∀ r x, st.heap.read r = some x → ∃ x', st'.heap.read r = some x' ∧
    x'.stageName = x.stageName ∧ x'.status = st.lastStatus ws r x
  /-- A case has new results exactly if something was added to it. -/
  newRefs : ∀ i, i < st.cases.length →
    ((∃ r ∈ st'.refs i, st.heap.size ≤ r) ↔ ∃ w ∈ ws, w.pos = i)
  /-- A new result is in one trace only ... -/
  newOwn : ∀ i j r, st.heap.size ≤ r → r ∈ st'.refs i → r ∈ st'.refs j → i = j
  /-- ... and is what some addition to that case says. -/
  newRead : ∀ i r, st.heap.size ≤ r → r ∈ st'.refs i →
    ∃ w ∈ ws, w.pos = i ∧ st'.heap.read r = some w.res

theorem After.nil (st : ReportState) : After st st [] where
  forget := rfl
  grown := Nat.le_refl _
  oldRefs := fun _ _ _ => Iff.rfl
  oldRead := fun _ x hx => ⟨x, hx, rfl, rfl⟩
  newRefs := by
    intro i _
    constructor
    · intro ⟨r, hr, hle⟩
      exact absurd (st.live i r hr) (Nat.not_lt.mpr hle)
    · intro ⟨w, hw, _⟩
      cases hw
  newOwn := fun i _ r hle hr _ => absurd (st.live i r hr) (Nat.not_lt.mpr hle)
  newRead := fun i r hle hr => absurd (st.live i r hr) (Nat.not_lt.mpr hle)

theorem lastStatus_snoc (st : ReportState) (ws : List StageWrite) (w : StageWrite) (r : Nat)
    (x : OpSTStageResult) :
    st.lastStatus (ws ++ [w]) r x
      = if r ∈ st.refs w.pos ∧ w.res.stageName = x.stageName then w.res.status
        else st.lastStatus ws r x := by
  unfold lastStatus
  rw [List.foldl_append]
  rfl

variable {st st' : ReportState} {ws : List StageWrite}

theorem mem_refs_applyWrite {w : StageWrite} {r i : Nat} :
    r ∈ (st.applyWrite w).refs i
      ↔ r ∈ st.refs i ∨ (r = st.heap.size ∧ i = w.pos ∧ i < st.cases.length) := by
  unfold applyWrite
  rw [mem_refs_addTo, List.mem_singleton]

/-- A write reaches the results of its case with its stage. -/
theorem read_applyWrite {w : StageWrite} {r : Nat} (hr : r < st.heap.size) :
    (st.applyWrite w).heap.read r
      = if r ∈ st.refs w.pos ∧ stageOf st.heap r = some w.res.stageName then some w.res
        else st.heap.read r := by
  unfold applyWrite
  rw [read_addTo hr]
  simp only [List.mem_singleton, exists_eq_left]

theorem After.snoc_oldRead (h : After st st' ws) (w : StageWrite) {r : Nat}
    {x : OpSTStageResult} (hx : st.heap.read r = some x) :
    ∃ x', (st'.applyWrite w).heap.read r = some x' ∧ x'.stageName = x.stageName ∧
      x'.status = st.lastStatus (ws ++ [w]) r x := by
  have hr : r < st.heap.size := Heap.lt_size_of_read hx
  obtain ⟨x', hx', hname, hstatus⟩ := h.oldRead r x hx
  have hstage : stageOf st'.heap r = some x.stageName :=
    stageOf_eq_some.mpr ⟨x', hx', hname⟩
  have hreached : r ∈ st'.refs w.pos ∧ stageOf st'.heap r = some w.res.stageName
      ↔ r ∈ st.refs w.pos ∧ w.res.stageName = x.stageName := by
    rw [h.oldRefs w.pos r hr, hstage, Option.some.injEq, eq_comm (a := x.stageName)]
  rw [read_applyWrite (Nat.lt_of_lt_of_le hr h.grown), lastStatus_snoc]
  by_cases hw : r ∈ st.refs w.pos ∧ w.res.stageName = x.stageName
  · rw [if_pos hw, if_pos (hreached.mpr hw)]
    exact ⟨w.res, rfl, hw.2, rfl⟩
  · rw [if_neg hw, if_neg fun hc => hw (hreached.mp hc)]
    exact ⟨x', hx', hname, hstatus⟩

theorem After.snoc_newRefs (h : After st st' ws) (w : StageWrite) {i : Nat}
    (hi : i < st.cases.length) :
    (∃ r ∈ (st'.applyWrite w).refs i, st.heap.size ≤ r) ↔ ∃ w' ∈ ws ++ [w], w'.pos = i := by
  have hlen : st'.cases.length = st.cases.length := by
    simpa using congrArg List.length h.forget
  constructor
  · intro ⟨r, hr, hle⟩
    rcases mem_refs_applyWrite.mp hr with hold | ⟨_, hpos, _⟩
    · obtain ⟨w', hw', hpos⟩ := (h.newRefs i hi).mp ⟨r, hold, hle⟩
      exact ⟨w', List.mem_append_left _ hw', hpos⟩
    · exact ⟨w, by simp, hpos.symm⟩
  · intro ⟨w', hw', hpos⟩
    rcases List.mem_append.mp hw' with hmem | hlast
    · obtain ⟨r, hr, hle⟩ := (h.newRefs i hi).mpr ⟨w', hmem, hpos⟩
      exact ⟨r, mem_refs_applyWrite.mpr (Or.inl hr), hle⟩
    · rw [List.mem_singleton] at hlast
      subst hlast
      exact ⟨st'.heap.size, mem_refs_applyWrite.mpr (Or.inr ⟨rfl, hpos.symm, by omega⟩),
        h.grown⟩

theorem After.snoc_newOwn (h : After st st' ws) (w : StageWrite) {i j r : Nat}
    (hle : st.heap.size ≤ r) (hi : r ∈ (st'.applyWrite w).refs i)
    (hj : r ∈ (st'.applyWrite w).refs j) : i = j := by
  -- What the write has added lies behind all that was there.
  rcases mem_refs_applyWrite.mp hi with hi | ⟨hnew, hi, _⟩
  · rcases mem_refs_applyWrite.mp hj with hj | ⟨hnew, _⟩
    · exact h.newOwn i j r hle hi hj
    · exact absurd hnew (Nat.ne_of_lt (st'.live i r hi))
  · rcases mem_refs_applyWrite.mp hj with hj | ⟨_, hj, _⟩
    · exact absurd hnew (Nat.ne_of_lt (st'.live j r hj))
    · rw [hi, hj]

theorem After.snoc_newRead (h : After st st' ws) (w : StageWrite) {i r : Nat}
    (hle : st.heap.size ≤ r) (hi : r ∈ (st'.applyWrite w).refs i) :
    ∃ w' ∈ ws ++ [w], w'.pos = i ∧ (st'.applyWrite w).heap.read r = some w'.res := by
  rcases mem_refs_applyWrite.mp hi with hi | ⟨hnew, hpos, _⟩
  · rw [read_applyWrite (st'.live i r hi)]
    split
    · -- The new result is written into one that is new itself, so both are the case's.
      next hw => exact ⟨w, by simp, h.newOwn w.pos i r hle hw.1 hi, rfl⟩
    · obtain ⟨w', hw', hpos, hr⟩ := h.newRead i r hle hi
      exact ⟨w', List.mem_append_left _ hw', hpos, hr⟩
  · subst hnew
    exact ⟨w, by simp, hpos.symm, read_addTo_new⟩

theorem After.snoc (h : After st st' ws) (w : StageWrite) :
    After st (st'.applyWrite w) (ws ++ [w]) where
  forget := (forget_addTo st' [w.pos] w.res).trans h.forget
  grown := by
    unfold applyWrite
    rw [size_addTo]
    exact Nat.le_succ_of_le h.grown
  oldRefs := by
    intro i r hr
    have hne : r ≠ st'.heap.size := by have := h.grown; omega
    rw [mem_refs_applyWrite, ← h.oldRefs i r hr]
    simp [hne]
  oldRead := fun _ _ hx => h.snoc_oldRead w hx
  newRefs := fun _ hi => h.snoc_newRefs w hi
  newOwn := fun _ _ _ hle hi hj => h.snoc_newOwn w hle hi hj
  newRead := fun _ _ hle hi => h.snoc_newRead w hle hi

theorem After.foldl (st : ReportState) (ws : List StageWrite) :
    After st (ws.foldl applyWrite st) ws := by
  induction ws using List.reverseRecOn with
  | nil => exact After.nil st
  | append_singleton ws w ih =>
      rw [List.foldl_append]
      exact ih.snoc w

/-- **A case to which only failures were added has a failed stage exactly if something
was added to it, or a result that it had from before ends as a failure.** -/
theorem After.hasFailure_iff (h : After st st' ws) {i : Nat} {caseReport : OpSTCaseReport}
    (hi : st'.cases[i]? = some caseReport)
    (honly : ∀ w ∈ ws, w.pos = i → w.res.status ≠ SUCCESS) :
    caseReport.hasFailure st'.heap = true
      ↔ (∃ w ∈ ws, w.pos = i) ∨
        ∃ r ∈ st.refs i, ∃ x, st.heap.read r = some x ∧ st.lastStatus ws r x ≠ SUCCESS := by
  have hlen : i < st.cases.length := by
    have hlen' := (List.getElem?_eq_some_iff.mp hi).1
    have heq := congrArg List.length h.forget
    simp only [List.length_map] at heq
    omega
  rw [ReportState.hasFailure_iff hi]
  constructor
  · intro ⟨r, hr, x', hx', hfail⟩
    -- A stage that fails was added by the run, or was there and has its last status.
    by_cases hnew : st.heap.size ≤ r
    · left
      obtain ⟨w, hw, hpos, _⟩ := h.newRead i r hnew hr
      exact ⟨w, hw, hpos⟩
    · right
      have hlt : r < st.heap.size := Nat.not_le.mp hnew
      obtain ⟨x, hx⟩ := Heap.read_of_lt_size hlt
      obtain ⟨x'', hx'', _, hstatus⟩ := h.oldRead r x hx
      refine ⟨r, (h.oldRefs i r hlt).mp hr, x, hx, ?_⟩
      rw [hx'] at hx''
      cases hx''
      rwa [← hstatus]
  · intro hor
    rcases hor with hadded | ⟨r, hr, x, hx, hfail⟩
    · obtain ⟨r, hr, hle⟩ := (h.newRefs i hlen).mpr hadded
      obtain ⟨w, hw, hpos, hread⟩ := h.newRead i r hle hr
      exact ⟨r, hr, w.res, hread, honly w hw hpos⟩
    · obtain ⟨x', hx', _, hstatus⟩ := h.oldRead r x hx
      refine ⟨r, (h.oldRefs i r (st.live i r hr)).mpr hr, x', hx', ?_⟩
      rwa [hstatus]

end ReportState

/-! ## §2. The case that a name stands for. -/

/-- The case that `get_case_report` finds, as far as it matters to a comparison. -/
def caseInfoOf (rpt : OpSTReport) (caseName : String) : Option (OpSTCase × Nat) :=
  (rpt.getCaseReport caseName).map fun found => (found.1.traceDetail.stCaseInfo, found.2)

/-- The cases of that name, with their positions. -/
theorem getCaseReport_forget (rpt : OpSTReport) (caseName : String) :
    ({ rpt with reportList := rpt.reportList.map OpSTCaseReport.forget } :
        OpSTReport).getCaseReport caseName
      = (rpt.getCaseReport caseName).map fun found => (found.1.forget, found.2) := by
  unfold OpSTReport.getCaseReport
  have hfilter : ((rpt.reportList.map OpSTCaseReport.forget).zipIdx).filter
        (fun found => found.1.caseName == caseName)
      = (rpt.reportList.zipIdx.filter (fun found => found.1.caseName == caseName)).map
          (fun found => (found.1.forget, found.2)) := by
    rw [List.zipIdx_map, List.filter_map]
    rfl
  dsimp only
  rw [hfilter]
  cases rpt.reportList.zipIdx.filter (fun found => found.1.caseName == caseName) with
  | nil => rfl
  | cons found rest =>
      cases rest with
      | nil => rfl
      | cons found' rest => rfl

theorem caseInfoOf_congr {rpt rpt' : OpSTReport}
    (h : rpt'.reportList.map OpSTCaseReport.forget = rpt.reportList.map OpSTCaseReport.forget)
    (caseName : String) : caseInfoOf rpt' caseName = caseInfoOf rpt caseName := by
  have hinfo : ∀ rpt : OpSTReport, caseInfoOf rpt caseName
      = (({ rpt with reportList := rpt.reportList.map OpSTCaseReport.forget } :
          OpSTReport).getCaseReport caseName).map
            fun found => (found.1.traceDetail.stCaseInfo, found.2) := by
    intro rpt
    rw [getCaseReport_forget, Option.map_map]
    rfl
  rw [hinfo rpt', hinfo rpt]
  unfold OpSTReport.getCaseReport
  dsimp only
  rw [h]

/-! ## §3. What a comparison adds. -/

namespace ResultCompare

/-- `_add_op_st_stage_result` -/
def stageWrite (i : Nat) (status stageName : String) : StageWrite :=
  ⟨i, { status := status, stageName := some stageName }⟩

/-- What a `[pass]` line adds to a case with an expected-output function. -/
def passWrites (env : CompareEnv) (self : ResultCompare) (caseInfo : OpSTCase) (i : Nat) :
    Except PyError (List StageWrite) :=
  if (caseInfo.expectDataPaths.getD []).isEmpty then
    .ok [stageWrite i SUCCESS "run_acl_code", stageWrite i FAILED "compare_data"]
  else do
    let resultList ← self.getCompareResultList env caseInfo
    return [stageWrite i SUCCESS "run_acl_code",
      stageWrite i (compareStatus resultList) "compare_data"]

/-- What a line of `result.txt` adds. -/
def lineWrites (env : CompareEnv) (self : ResultCompare) (rpt : OpSTReport)
    (resultInfo : ResultInfo) : Except PyError (List StageWrite) :=
  match caseInfoOf rpt resultInfo.caseName with
  | none => .ok []
  | some (caseInfo, i) => do
      let withExpectFunc ← caseInfo.opParams.get "calc_expect_func_file_func"
      if resultInfo.result = "[fail]" then return [stageWrite i FAILED "run_acl_code"]
      else if resultInfo.result = "[pass]" then
        if withExpectFunc.truthy then self.passWrites env caseInfo i
        else return [stageWrite i SUCCESS "run_acl_code"]
      else return []

/-- What the lines of `result.txt` add. -/
def writesOf (env : CompareEnv) (self : ResultCompare) (rpt : OpSTReport) :
    List ResultInfo → Except PyError (List StageWrite)
  | [] => .ok []
  | resultInfo :: resultInfoList => do
      let ws ← self.lineWrites env rpt resultInfo
      let ws' ← self.writesOf env rpt resultInfoList
      return ws ++ ws'

variable {env : CompareEnv} {self : ResultCompare} {st st' : ReportState} {u : Unit}

theorem getCompareStageResult_writes {result : String} {caseReport : OpSTCaseReport} {i : Nat}
    (h : self.getCompareStageResult env result caseReport i st = (.ok u, st')) :
    ∃ ws, (if result = "[fail]" then .ok [stageWrite i FAILED "run_acl_code"]
        else if result = "[pass]" then self.passWrites env caseReport.traceDetail.stCaseInfo i
        else .ok []) = Except.ok ws
      ∧ st' = ws.foldl ReportState.applyWrite st := by
  unfold getCompareStageResult at h
  by_cases hfail : result = "[fail]"
  · rw [if_pos hfail] at h ⊢
    cases h
    exact ⟨_, rfl, rfl⟩
  · rw [if_neg hfail] at h ⊢
    by_cases hpass : result = "[pass]"
    · rw [if_pos hpass] at h ⊢
      unfold passWrites
      obtain ⟨info, st₁, hinfo, h⟩ := PyM.bind_eq_ok.mp h
      unfold getCaseInfo at hinfo
      obtain ⟨_, st₂, hadd, hinfo⟩ := PyM.bind_eq_ok.mp hinfo
      cases hadd
      dsimp only at hinfo
      -- Without expected data there is nothing to compare with, and the stage is a failure.
      by_cases hempty :
          (caseReport.traceDetail.stCaseInfo.expectDataPaths.getD []).isEmpty = true
      · rw [if_pos hempty] at hinfo ⊢
        obtain ⟨_, st₃, hadd, hinfo⟩ := PyM.bind_eq_ok.mp hinfo
        cases hadd
        cases hinfo
        cases h
        exact ⟨_, rfl, rfl⟩
      · rw [if_neg hempty] at hinfo ⊢
        cases hinfo
        obtain ⟨resultList, st₃, hlist, h⟩ := PyM.bind_eq_ok.mp h
        obtain ⟨hok, hst⟩ := PyM.lift_eq_ok.mp hlist
        cases hst
        cases h
        exact ⟨_, bind_eq_ok.mpr ⟨resultList, hok, rfl⟩, rfl⟩
    · rw [if_neg hpass] at h ⊢
      cases h
      exact ⟨[], rfl, rfl⟩

theorem getRunStageResult_writes {result : String} {i : Nat}
    (h : getRunStageResult result i st = (.ok u, st')) :
    ∃ ws, (if result = "[fail]" then .ok [stageWrite i FAILED "run_acl_code"]
        else if result = "[pass]" then .ok [stageWrite i SUCCESS "run_acl_code"]
        else .ok []) = (Except.ok ws : Except PyError (List StageWrite))
      ∧ st' = ws.foldl ReportState.applyWrite st := by
  unfold getRunStageResult at h
  by_cases hfail : result = "[fail]"
  · rw [if_pos hfail] at h ⊢
    cases h
    exact ⟨_, rfl, rfl⟩
  · rw [if_neg hfail] at h ⊢
    by_cases hpass : result = "[pass]"
    · rw [if_pos hpass] at h ⊢
      cases h
      exact ⟨_, rfl, rfl⟩
    · rw [if_neg hpass] at h ⊢
      cases h
      exact ⟨[], rfl, rfl⟩

/-- One line adds what `lineWrites` says. -/
theorem compareLine_writes {resultInfo : ResultInfo}
    (h : self.compareLine env resultInfo st = (.ok u, st')) :
    ∃ ws, self.lineWrites env st.report resultInfo = .ok ws
      ∧ st' = ws.foldl ReportState.applyWrite st := by
  unfold compareLine at h
  obtain ⟨st₁, st₂, hread, h⟩ := PyM.bind_eq_ok.mp h
  cases hread
  unfold lineWrites caseInfoOf
  cases hfound : st.report.getCaseReport resultInfo.caseName with
  | none =>
      rw [hfound] at h
      cases h
      exact ⟨[], rfl, rfl⟩
  | some found =>
      obtain ⟨caseReport, i⟩ := found
      rw [hfound] at h
      obtain ⟨withExpectFunc, st₃, hfunc, h⟩ := PyM.bind_eq_ok.mp h
      obtain ⟨hok, hst⟩ := PyM.lift_eq_ok.mp hfunc
      cases hst
      by_cases htruthy : withExpectFunc.truthy = true
      · rw [if_pos htruthy] at h
        obtain ⟨ws, hws, hst'⟩ := getCompareStageResult_writes h
        refine ⟨ws, bind_eq_ok.mpr ⟨withExpectFunc, hok, ?_⟩, hst'⟩
        rw [if_pos htruthy]
        exact hws
      · rw [if_neg htruthy] at h
        obtain ⟨ws, hws, hst'⟩ := getRunStageResult_writes h
        refine ⟨ws, bind_eq_ok.mpr ⟨withExpectFunc, hok, ?_⟩, hst'⟩
        rw [if_neg htruthy]
        exact hws

theorem caseInfoOf_writes (ws : List StageWrite) (caseName : String) :
    caseInfoOf (ws.foldl ReportState.applyWrite st).report caseName
      = caseInfoOf st.report caseName :=
  caseInfoOf_congr (ReportState.After.foldl st ws).forget caseName

/-- The report in which the lines are looked up may be the one before the comparison. -/
theorem writesOf_congr {rpt rpt' : OpSTReport}
    (h : ∀ caseName, caseInfoOf rpt' caseName = caseInfoOf rpt caseName)
    (resultInfoList : List ResultInfo) :
    self.writesOf env rpt' resultInfoList = self.writesOf env rpt resultInfoList := by
  induction resultInfoList with
  | nil => rfl
  | cons resultInfo resultInfoList ih =>
      unfold writesOf lineWrites
      rw [ih, h]

/-- **A comparison adds what the lines of `result.txt` say, in their order.** -/
theorem compareLines_writes {resultInfoList : List ResultInfo}
    (h : resultInfoList.forM (self.compareLine env) st = (.ok u, st')) :
    ∃ ws, self.writesOf env st.report resultInfoList = .ok ws
      ∧ st' = ws.foldl ReportState.applyWrite st := by
  induction resultInfoList generalizing st with
  | nil =>
      cases h
      exact ⟨[], rfl, rfl⟩
  | cons resultInfo resultInfoList ih =>
      obtain ⟨_, st₁, hline, h⟩ := PyM.bind_eq_ok.mp h
      obtain ⟨ws, hws, hst₁⟩ := compareLine_writes hline
      obtain ⟨ws', hws', hst'⟩ := ih h
      have hsame : self.writesOf env st₁.report resultInfoList
          = self.writesOf env st.report resultInfoList := by
        rw [hst₁]
        exact writesOf_congr (caseInfoOf_writes ws) resultInfoList
      refine ⟨ws ++ ws', ?_, ?_⟩
      · unfold writesOf
        rw [hws, ← hsame, hws']
        rfl
      · rw [List.foldl_append, ← hst₁]
        exact hst'

/-! ## §4. Which lines the additions come from. -/

/-- Every addition comes from a line ... -/
theorem exists_line_of_mem {rpt : OpSTReport} {resultInfoList : List ResultInfo}
    {ws : List StageWrite} (h : self.writesOf env rpt resultInfoList = .ok ws) {w : StageWrite}
    (hw : w ∈ ws) :
    ∃ resultInfo ∈ resultInfoList, ∃ lineWs,
      self.lineWrites env rpt resultInfo = .ok lineWs ∧ w ∈ lineWs := by
  induction resultInfoList generalizing ws with
  | nil =>
      cases h
      cases hw
  | cons resultInfo resultInfoList ih =>
      obtain ⟨lineWs, hline, h⟩ := bind_eq_ok.mp h
      obtain ⟨ws', hws', h⟩ := bind_eq_ok.mp h
      cases h
      rcases List.mem_append.mp hw with hmem | hmem
      · exact ⟨resultInfo, List.mem_cons_self, lineWs, hline, hmem⟩
      · obtain ⟨info, hinfo, rest⟩ := ih hws' hmem
        exact ⟨info, List.mem_cons_of_mem _ hinfo, rest⟩

/-- ... and every line makes its additions. -/
theorem lineWrites_subset {rpt : OpSTReport} {resultInfoList : List ResultInfo}
    {ws : List StageWrite} (h : self.writesOf env rpt resultInfoList = .ok ws)
    {resultInfo : ResultInfo} (hinfo : resultInfo ∈ resultInfoList) :
    ∃ lineWs, self.lineWrites env rpt resultInfo = .ok lineWs ∧ lineWs ⊆ ws := by
  induction resultInfoList generalizing ws with
  | nil => cases hinfo
  | cons info resultInfoList ih =>
      obtain ⟨lineWs, hline, h⟩ := bind_eq_ok.mp h
      obtain ⟨ws', hws', h⟩ := bind_eq_ok.mp h
      cases h
      rcases List.mem_cons.mp hinfo with heq | hmem
      · subst heq
        exact ⟨lineWs, hline, List.subset_append_left _ _⟩
      · obtain ⟨lineWs', hline', hsub⟩ := ih hws' hmem
        exact ⟨lineWs', hline', fun w hw => List.mem_append_right _ (hsub hw)⟩

/-- A line adds to the case of its name, a failure if it is a `[fail]` line and else only
if it is a `[pass]` line. -/
theorem of_mem_lineWrites {rpt : OpSTReport} {resultInfo : ResultInfo} {ws : List StageWrite}
    (h : self.lineWrites env rpt resultInfo = .ok ws) {w : StageWrite} (hw : w ∈ ws) :
    (∃ caseReport, rpt.getCaseReport resultInfo.caseName = some (caseReport, w.pos)) ∧
      ((resultInfo.result = "[fail]" ∧ w.res.status = FAILED) ∨
        resultInfo.result = "[pass]") := by
  unfold lineWrites caseInfoOf at h
  cases hfound : rpt.getCaseReport resultInfo.caseName with
  | none =>
      rw [hfound] at h
      cases h
      cases hw
  | some found =>
      obtain ⟨caseReport, i⟩ := found
      rw [hfound] at h
      obtain ⟨withExpectFunc, _, h⟩ := bind_eq_ok.mp h
      by_cases hfail : resultInfo.result = "[fail]"
      · rw [if_pos hfail] at h
        cases h
        rw [List.mem_singleton] at hw
        subst hw
        exact ⟨⟨caseReport, rfl⟩, Or.inl ⟨hfail, rfl⟩⟩
      · rw [if_neg hfail] at h
        by_cases hpass : resultInfo.result = "[pass]"
        · rw [if_pos hpass] at h
          refine ⟨?_, Or.inr hpass⟩
          -- Whatever a `[pass]` line adds, it adds to this case.
          have hpos : w.pos = i := by
            unfold passWrites at h
            split at h
            · split at h
              · cases h
                simp only [List.mem_cons, List.not_mem_nil, or_false] at hw
                rcases hw with hw | hw <;> rw [hw] <;> rfl
              · obtain ⟨_, _, h⟩ := bind_eq_ok.mp h
                cases h
                simp only [List.mem_cons, List.not_mem_nil, or_false] at hw
                rcases hw with hw | hw <;> rw [hw] <;> rfl
            · cases h
              rw [List.mem_singleton] at hw
              rw [hw]
              rfl
          exact ⟨caseReport, by rw [hpos]⟩
        · rw [if_neg hpass] at h
          cases h
          cases hw

/-- A `[fail]` line adds something to the case of its name. -/
theorem fail_lineWrites {rpt : OpSTReport} {index caseName : String} {ws : List StageWrite}
    (h : self.lineWrites env rpt ⟨index, caseName, "[fail]"⟩ = .ok ws)
    {found : OpSTCaseReport × Nat} (hfound : rpt.getCaseReport caseName = some found) :
    ∃ w ∈ ws, w.pos = found.2 := by
  unfold lineWrites caseInfoOf at h
  dsimp only at h
  rw [hfound] at h
  obtain ⟨_, _, h⟩ := bind_eq_ok.mp h
  rw [if_pos rfl] at h
  cases h
  exact ⟨_, List.mem_singleton.mpr rfl, rfl⟩

/-! ## §5. The evidence for a success. -/

/-- There is no `result.txt`, or it may not be read. -/
def ResultMissing (env : CompareEnv) (self : ResultCompare) : Prop :=
  env.pathExists (resultTxtPath self.runDir) = false ∨
    env.readable (resultTxtPath self.runDir) = false

/-- The well-formed lines of `result.txt`. -/
def resultLines (env : CompareEnv) (self : ResultCompare) : List ResultInfo :=
  if !env.pathExists (resultTxtPath self.runDir) || !env.readable (resultTxtPath self.runDir)
  then []
  else
    match readFile env (resultTxtPath self.runDir) with
    | .ok txt => (split txt "\n").filterMap (parseLine env.digit)
    | .error _ => []

/-- There is a well-formed line for the case with this result. -/
def HasLine (env : CompareEnv) (self : ResultCompare) (caseName result : String) : Prop :=
  ∃ index, (⟨index, caseName, result⟩ : ResultInfo) ∈ resultLines env self

/-- After the summary, every case that is a success has a `[pass]` line. -/
def SuccessOnEvidence (env : CompareEnv) (self : ResultCompare) (st' : ReportState) : Prop :=
  ∀ caseReport ∈ st'.summary.cases, caseReport.status = SUCCESS →
    HasLine env self caseReport.caseName "[pass]"

/-- A stage result that the case at position `i` has from before the comparison ends as a
failure: it was one and no line has made it a success through another case that shares
it, or a line has made it one. -/
def LeftFailed (env : CompareEnv) (self : ResultCompare) (st : ReportState) (i : Nat) : Prop :=
  ∃ ws, self.writesOf env st.report (resultLines env self) = .ok ws ∧
    ∃ r ∈ st.refs i, ∃ x, st.heap.read r = some x ∧ st.lastStatus ws r x ≠ SUCCESS

theorem resultTxtPath_ne_empty (runDir : String) :
    (resultTxtPath runDir).toList.isEmpty = false := by
  unfold resultTxtPath
  generalize pathJoin (pathJoin (pathJoin runDir "run") "out") "result_files" = dir
  unfold pathJoin
  split
  · rfl
  · split
    · simp [String.toList_append]
    · simp [String.toList_append]

/-- Without `result.txt` every case gets a failed stage. -/
theorem compare_missing (hmissing : ResultMissing env self) :
    self.compare env st
      = (.ok (), st.addToAll { status := FAILED, stageName := some "run_acl_code" }) := by
  have hcheck : (!env.pathExists (resultTxtPath self.runDir) ||
      !env.readable (resultTxtPath self.runDir)) = true := by
    rcases hmissing with h | h <;> simp [h]
  unfold compare parserResultTxt readResultTxt checkResultTxt
  simp only [PyM.bind_apply, hcheck, if_true, PyM.modify_apply, PyM.pure_apply]
  rfl

/-- With `result.txt`, the comparison is the loop over its lines. -/
theorem compare_present (hpresent : ¬ ResultMissing env self)
    (h : self.compare env st = (.ok u, st')) :
    (resultLines env self).forM (self.compareLine env) st = (.ok u, st') := by
  have hcheck : (!env.pathExists (resultTxtPath self.runDir) ||
      !env.readable (resultTxtPath self.runDir)) = false := by
    unfold ResultMissing at hpresent
    simpa using hpresent
  unfold compare parserResultTxt readResultTxt checkResultTxt at h
  unfold resultLines
  simp only [PyM.bind_apply, hcheck, Bool.false_eq_true, if_false, PyM.pure_apply,
    resultTxtPath_ne_empty, PyM.lift_apply] at h ⊢
  cases hread : readFile env (resultTxtPath self.runDir) with
  | error e =>
      rw [hread] at h
      cases h
  | ok txt =>
      rw [hread] at h
      exact h

/-- The cases after the comparison and the summary. -/
theorem mem_summary_cases {caseReport : OpSTCaseReport} :
    caseReport ∈ st'.summary.cases
      ↔ ∃ (i : Nat) (before : OpSTCaseReport), st'.cases[i]? = some before ∧
        (before.updateCaseStatus st'.heap).updateCaseExpect st'.report.expectDict
          = caseReport := by
  have hcases : st'.summary.cases = st'.cases.map fun caseReport =>
      (caseReport.updateCaseStatus st'.heap).updateCaseExpect st'.report.expectDict :=
    ReportState.reportList_summaryTxt st'.report
  rw [hcases, List.mem_map]
  constructor
  · intro ⟨before, hmem, heq⟩
    obtain ⟨i, hi⟩ := List.mem_iff_getElem?.mp hmem
    exact ⟨i, before, hi, heq⟩
  · intro ⟨i, before, hi, heq⟩
    exact ⟨before, List.mem_iff_getElem?.mpr ⟨i, hi⟩, heq⟩

/-- Adding stage results keeps the position, the name and the status of a case. -/
theorem same_case (h : st'.cases.map OpSTCaseReport.forget = st.cases.map OpSTCaseReport.forget)
    {i : Nat} {before : OpSTCaseReport} (hi : st'.cases[i]? = some before) :
    ∃ caseReport, st.cases[i]? = some caseReport ∧ before.caseName = caseReport.caseName ∧
      before.status = caseReport.status := by
  have heq : (st.cases.map OpSTCaseReport.forget)[i]? = some before.forget := by
    rw [← h, List.getElem?_map, hi]
    rfl
  rw [List.getElem?_map, Option.map_eq_some_iff] at heq
  obtain ⟨caseReport, hcase, hforget⟩ := heq
  exact ⟨caseReport, hcase, (congrArg OpSTCaseReport.caseName hforget).symm,
    (congrArg OpSTCaseReport.status hforget).symm⟩

/-- What a case without a `[pass]` line ends with, when `result.txt` is there. -/
theorem hasFailure_of_no_pass {ws : List StageWrite}
    (hws : self.writesOf env st.report (resultLines env self) = .ok ws) {i : Nat}
    {caseReport before : OpSTCaseReport} (hi : st.cases[i]? = some caseReport)
    (hbefore : (ws.foldl ReportState.applyWrite st).cases[i]? = some before)
    (hpass : ¬ HasLine env self caseReport.caseName "[pass]") :
    before.hasFailure (ws.foldl ReportState.applyWrite st).heap = true
      ↔ ((st.report.getCaseReport caseReport.caseName).isSome = true ∧
          HasLine env self caseReport.caseName "[fail]") ∨ LeftFailed env self st i := by
  -- An addition to this case comes from a line of its name, which is no `[pass]` line.
  have hline : ∀ w ∈ ws, w.pos = i →
      w.res.status = FAILED ∧ (st.report.getCaseReport caseReport.caseName).isSome = true ∧
        HasLine env self caseReport.caseName "[fail]" := by
    intro w hw hpos
    obtain ⟨info, hinfo, lineWs, hlineWs, hmem⟩ := exists_line_of_mem hws hw
    obtain ⟨⟨found, hfound⟩, hresult⟩ := of_mem_lineWrites hlineWs hmem
    obtain ⟨hat, hname, _⟩ := getCaseReport_eq_some hfound
    rw [hpos] at hat
    dsimp only at hat hname
    rw [hi, Option.some.injEq] at hat
    rw [← hat] at hname
    obtain ⟨index, caseName, result⟩ := info
    dsimp only at hname hfound hresult
    subst hname
    rcases hresult with ⟨hfail, hstatus⟩ | hpassed
    · subst hfail
      exact ⟨hstatus, by rw [hfound]; rfl, index, hinfo⟩
    · subst hpassed
      exact absurd ⟨index, hinfo⟩ hpass
  have honly : ∀ w ∈ ws, w.pos = i → w.res.status ≠ SUCCESS := by
    intro w hw hpos
    rw [(hline w hw hpos).1]
    decide
  have hadded : (∃ w ∈ ws, w.pos = i)
      ↔ (st.report.getCaseReport caseReport.caseName).isSome = true ∧
        HasLine env self caseReport.caseName "[fail]" := by
    constructor
    · intro ⟨w, hw, hpos⟩
      exact (hline w hw hpos).2
    · intro ⟨hsome, index, hinfo⟩
      obtain ⟨found, hfound⟩ := Option.isSome_iff_exists.mp hsome
      obtain ⟨lineWs, hlineWs, hsub⟩ := lineWrites_subset hws hinfo
      obtain ⟨w, hw, hpos⟩ := fail_lineWrites hlineWs hfound
      obtain ⟨_, _, honce⟩ := getCaseReport_eq_some hfound
      exact ⟨w, hsub hw, by rw [hpos, ← honce i caseReport hi rfl]⟩
  rw [(ReportState.After.foldl st ws).hasFailure_iff hbefore honly, hadded]
  apply or_congr_right
  unfold LeftFailed
  constructor
  · intro hleft
    exact ⟨ws, hws, hleft⟩
  · intro ⟨ws', hws', hleft⟩
    rw [hws] at hws'
    cases hws'
    exact hleft

/-- **A case is reported successful only on evidence, exactly if every case without a
`[pass]` line has failed already, or `result.txt` is missing, or the case is the only one
of its name and has a `[fail]` line, or some earlier stage of it is left failed.** -/
theorem success_on_evidence_iff (h : self.compare env st = (.ok (), st')) :
    SuccessOnEvidence env self st'
      ↔ ∀ i caseReport, st.cases[i]? = some caseReport →
        ¬ HasLine env self caseReport.caseName "[pass]" →
          caseReport.status ≠ SUCCESS ∨ ResultMissing env self ∨
          ((st.report.getCaseReport caseReport.caseName).isSome = true ∧
            HasLine env self caseReport.caseName "[fail]") ∨
          LeftFailed env self st i := by
  by_cases hmissing : ResultMissing env self
  · -- Every case has failed.
    rw [compare_missing hmissing] at h
    cases h
    refine ⟨fun _ _ _ _ _ => Or.inr (Or.inl hmissing), fun _ caseReport hmem hstatus => ?_⟩
    obtain ⟨i, before, hi, heq⟩ := mem_summary_cases.mp hmem
    have hfailed := (ReportState.stageIs_addToAll st
      { status := FAILED, stageName := some "run_acl_code" }).updateCaseStatus
        (List.mem_iff_getElem?.mpr ⟨i, hi⟩)
    rw [← heq, OpSTCaseReport.status_updateCaseExpect, hfailed] at hstatus
    exact absurd hstatus (by decide)
  · obtain ⟨ws, hws, hst'⟩ := compareLines_writes (compare_present hmissing h)
    subst hst'
    have hforget := (ReportState.After.foldl st ws).forget
    constructor
    · intro hevidence i caseReport hi hpass
      by_contra hnone
      simp only [not_or, not_not] at hnone
      obtain ⟨hstatus, _, hfail, hleft⟩ := hnone
      obtain ⟨before, hbefore⟩ :
          ∃ before, (ws.foldl ReportState.applyWrite st).cases[i]? = some before := by
        have hlen := congrArg List.length hforget
        have hlt := (List.getElem?_eq_some_iff.mp hi).1
        simp only [List.length_map] at hlen
        exact ⟨_, List.getElem?_eq_getElem (by omega)⟩
      -- The summary reports the case under its name, so that a success asks for its line.
      obtain ⟨caseReport', hi', hname, hsame⟩ := same_case hforget hbefore
      rw [hi] at hi'
      cases hi'
      have hok : before.hasFailure (ws.foldl ReportState.applyWrite st).heap = false := by
        rw [← Bool.not_eq_true, hasFailure_of_no_pass hws hi hbefore hpass]
        simp only [not_or]
        exact ⟨hfail, hleft⟩
      have hsuccess := (OpSTCaseReport.status_updateCaseStatus before).mpr
        ⟨hsame.trans hstatus, hok⟩
      have hline := hevidence _ (mem_summary_cases.mpr ⟨i, before, hbefore, rfl⟩)
        (by rw [OpSTCaseReport.status_updateCaseExpect]; exact hsuccess)
      rw [OpSTCaseReport.caseName_updateCaseExpect, OpSTCaseReport.caseName_updateCaseStatus,
        hname] at hline
      exact hpass hline
    · intro hall reported hmem hstatus
      obtain ⟨i, before, hbefore, heq⟩ := mem_summary_cases.mp hmem
      obtain ⟨caseReport, hi, hname, hsame⟩ := same_case hforget hbefore
      rw [← heq, OpSTCaseReport.status_updateCaseExpect,
        OpSTCaseReport.status_updateCaseStatus] at hstatus
      rw [← heq, OpSTCaseReport.caseName_updateCaseExpect,
        OpSTCaseReport.caseName_updateCaseStatus, hname]
      by_contra hpass
      rcases hall i caseReport hi hpass with hbad | hmiss | hrest
      · exact hbad (hsame.symm.trans hstatus.1)
      · exact hmissing hmiss
      · have hfailure := (hasFailure_of_no_pass hws hi hbefore hpass).mpr hrest
        rw [hstatus.2] at hfailure
        cases hfailure

/-! ## §6. An empty `result.txt`. -/

/-- `result.txt` is there and empty. -/
def emptyResultTxt : CompareEnv where
  digit := Char.isDigit
  pathExists := fun _ => true
  readable := fun _ => true
  readText := fun _ => .ok ""
  isfile := fun _ => false
  compareFiles := fun _ _ _ _ _ => .ok ⟨"Pass", .finite 0, .finite 0⟩

/-- The condition at a report of one case: its name is in no line. -/
theorem success_on_evidence_iff_oneCase :
    (compare emptyResultTxt ⟨.none, "/out/Add"⟩ ReportState.oneCase).1 = .ok () ∧
      (SuccessOnEvidence emptyResultTxt ⟨.none, "/out/Add"⟩
          (compare emptyResultTxt ⟨.none, "/out/Add"⟩ ReportState.oneCase).2
        ↔ ∀ i caseReport, ReportState.oneCase.cases[i]? = some caseReport →
          ¬ HasLine emptyResultTxt ⟨.none, "/out/Add"⟩ caseReport.caseName "[pass]" →
            caseReport.status ≠ SUCCESS ∨ ResultMissing emptyResultTxt ⟨.none, "/out/Add"⟩ ∨
            ((ReportState.oneCase.report.getCaseReport caseReport.caseName).isSome = true ∧
              HasLine emptyResultTxt ⟨.none, "/out/Add"⟩ caseReport.caseName "[fail]") ∨
            LeftFailed emptyResultTxt ⟨.none, "/out/Add"⟩ ReportState.oneCase i) := by
  have hok : (compare emptyResultTxt ⟨.none, "/out/Add"⟩ ReportState.oneCase).1 = .ok () := by
    decide +kernel
  exact ⟨hok, success_on_evidence_iff (Prod.ext hok rfl)⟩

/-- Nothing was run, and the case is reported successful. -/
theorem success_without_line :
    (compare emptyResultTxt ⟨.none, "/out/Add"⟩ ReportState.oneCase).1 = .ok () ∧
      (compare emptyResultTxt ⟨.none, "/out/Add"⟩ ReportState.oneCase).2.summary.cases.map
        OpSTCaseReport.status = [SUCCESS] ∧
      ¬ SuccessOnEvidence emptyResultTxt ⟨.none, "/out/Add"⟩
        (compare emptyResultTxt ⟨.none, "/out/Add"⟩ ReportState.oneCase).2 := by
  have hlines : resultLines emptyResultTxt ⟨.none, "/out/Add"⟩ = [] := by decide +kernel
  have hstatus : (compare emptyResultTxt ⟨.none, "/out/Add"⟩
      ReportState.oneCase).2.summary.cases.map OpSTCaseReport.status = [SUCCESS] := by
    decide +kernel
  refine ⟨by decide +kernel, hstatus, fun hevidence => ?_⟩
  have hmem : SUCCESS ∈ [SUCCESS] := List.mem_singleton.mpr rfl
  rw [← hstatus] at hmem
  obtain ⟨caseReport, hcase, hsuccess⟩ := List.mem_map.mp hmem
  obtain ⟨index, hline⟩ := hevidence caseReport hcase hsuccess
  rw [hlines] at hline
  cases hline

end ResultCompare

end HwEfat.Main
