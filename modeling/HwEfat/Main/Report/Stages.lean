/-
  HwEfat.Main.Report.Stages — what adding a stage result does to a report.

  `ReportState` is a report with the stage results its traces refer to.  One new result
  can be added to the traces of several cases (`addTo`).  `read_addTo` says which of the
  earlier results it is written into, `mem_refs_addTo` which traces grow, and
  `forget_addTo` that nothing else of the report changes.
-/
import HwEfat.Main.Report.Def

namespace HwEfat.Main

open HwEfat.Lib (Heap)

variable {heap : Heap OpSTStageResult} {res : OpSTStageResult} {ref : Nat}

/-! ## §1. One trace. -/

/-- The stage of a result. -/
def stageOf (heap : Heap OpSTStageResult) (r : Nat) : Option (Option String) :=
  (heap.read r).map (·.stageName)

/-- The stage of a result that exists. -/
theorem stageOf_eq_some {r : Nat} {name : Option String} :
    stageOf heap r = some name ↔ ∃ x, heap.read r = some x ∧ x.stageName = name := by
  unfold stageOf
  simp

@[simp] theorem size_overwrite (result : Nat) :
    (OpSTCaseTrace.overwrite ref heap result).size = heap.size := by
  unfold OpSTCaseTrace.overwrite
  split
  · split <;> simp
  · rfl

/-- Overwriting changes the result that is looked at only, and only if it is of the same stage. -/
theorem read_overwrite (hres : heap.read ref = some res) (result r : Nat) :
    (OpSTCaseTrace.overwrite ref heap result).read r
      = if r = result ∧ stageOf heap r = some res.stageName then some res
        else heap.read r := by
  unfold OpSTCaseTrace.overwrite stageOf
  rw [hres]
  cases hold : heap.read result with
  | none =>
      by_cases hr : r = result
      · subst hr
        simp [hold]
      · simp [hr]
  | some old =>
      by_cases hstage : old.stageName = res.stageName
      · by_cases hr : r = result
        · subst hr
          -- The stage is the same, so the object becomes the new one altogether.
          have hall : { old with result := res.result, cmd := res.cmd, status := res.status }
              = res := by
            cases res
            simp_all
          simp only [hold, hstage, if_true, true_and, Option.map_some]
          exact Heap.read_write_self (Heap.lt_size_of_read hold) res
        · simp only [hstage, hr, if_true, false_and, if_false]
          exact Heap.read_write_ne heap hr _
      · by_cases hr : r = result
        · subst hr
          simp [hold, hstage]
        · simp [hr, hstage]

@[simp] theorem size_overwrites (results : List Nat) :
    (results.foldl (OpSTCaseTrace.overwrite ref) heap).size = heap.size := by
  induction results generalizing heap with
  | nil => rfl
  | cons result results ih => rw [List.foldl_cons, ih, size_overwrite]

/-- The loop of `add_stage_result` writes the new result into those of its stage. -/
theorem read_overwrites (hres : heap.read ref = some res) (results : List Nat) (r : Nat) :
    (results.foldl (OpSTCaseTrace.overwrite ref) heap).read r
      = if r ∈ results ∧ stageOf heap r = some res.stageName then some res
        else heap.read r := by
  induction results generalizing heap with
  | nil => simp
  | cons result results ih =>
      have hread := read_overwrite hres result
      have hres' : (OpSTCaseTrace.overwrite ref heap result).read ref = some res := by
        rw [hread]
        split
        · rfl
        · exact hres
      -- A turn of the loop leaves the stage of every object as it was.
      have hstage : stageOf (OpSTCaseTrace.overwrite ref heap result) r
          = stageOf heap r := by
        unfold stageOf
        rw [hread]
        split
        · next h => exact h.2.symm
        · rfl
      rw [List.foldl_cons, ih hres', hstage, hread]
      simp only [List.mem_cons]
      by_cases hs : stageOf heap r = some res.stageName
      · by_cases hr : r = result
        · subst hr
          simp [hs]
        · simp [hs, hr]
      · simp [hs]

/-! ## §2. The cases of a report. -/

/-- A case apart from its stage results. -/
def OpSTCaseReport.forget (caseReport : OpSTCaseReport) : OpSTCaseReport :=
  { caseReport with traceDetail := { caseReport.traceDetail with stageResult := [] } }

section AddAt

variable {s : List OpSTCaseReport × Heap OpSTStageResult}

@[simp] theorem size_addAt (i : Nat) : (addAt ref s i).2.size = s.2.size := by
  unfold addAt
  split
  · exact size_overwrites _
  · rfl

/-- Adding a result changes nothing of a case but its stage results. -/
theorem forget_addAt (i : Nat) :
    (addAt ref s i).1.map OpSTCaseReport.forget = s.1.map OpSTCaseReport.forget := by
  unfold addAt
  split
  · next caseReport h =>
      apply List.ext_getElem?
      intro j
      by_cases hj : i = j
      · subst hj
        obtain ⟨hlt, _⟩ := List.getElem?_eq_some_iff.mp h
        simp only [List.getElem?_map, List.getElem?_set_self hlt, h]
        rfl
      · simp only [List.getElem?_map, List.getElem?_set_ne hj]
  · rfl

/-- The new reference stands at the end of the trace of the case that is asked for. -/
theorem refs_addAt (i j : Nat) :
    refs (addAt ref s i).1 j
      = if j = i ∧ i < s.1.length then refs s.1 j ++ [ref] else refs s.1 j := by
  unfold addAt
  cases h : s.1[i]? with
  | none =>
      have hle : s.1.length ≤ i := List.getElem?_eq_none_iff.mp h
      simp [Nat.not_lt.mpr hle]
  | some caseReport =>
      have hlt : i < s.1.length := (List.getElem?_eq_some_iff.mp h).1
      by_cases hj : j = i
      · subst hj
        simp only [refs, h, hlt, List.getElem?_set_self, and_self, if_true]
        rfl
      · simp [refs, hj, List.getElem?_set_ne (Ne.symm hj)]

/-- **What becomes of the results** when one more is added to a trace: those of the trace that are
of the same stage are overwritten. -/
theorem read_addAt (hres : s.2.read ref = some res) (i r : Nat) :
    (addAt ref s i).2.read r
      = if r ∈ refs s.1 i ∧ stageOf s.2 r = some res.stageName then some res
        else s.2.read r := by
  unfold addAt refs
  cases h : s.1[i]? with
  | none => simp
  | some caseReport => exact read_overwrites hres _ r

/-- The new result stays what it is while it is added. -/
theorem read_addAt_self (hres : s.2.read ref = some res) (i : Nat) :
    (addAt ref s i).2.read ref = some res := by
  rw [read_addAt hres]
  split
  · rfl
  · exact hres

/-- No result changes its stage. -/
theorem stageOf_addAt (hres : s.2.read ref = some res) (i r : Nat) :
    stageOf (addAt ref s i).2 r = stageOf s.2 r := by
  unfold stageOf
  rw [read_addAt hres]
  split
  · next h => exact h.2.symm
  · rfl

@[simp] theorem length_addAt (i : Nat) : (addAt ref s i).1.length = s.1.length := by
  unfold addAt
  split
  · simp
  · rfl

end AddAt

/-! ## §3. Several cases.

`for case_report in cases: case_report.trace_detail.add_stage_result(stage_res)`, where
the cases are given by their positions. -/

section AddEach

variable {s : List OpSTCaseReport × Heap OpSTStageResult}

@[simp] theorem size_addEach (positions : List Nat) :
    (positions.foldl (addAt ref) s).2.size = s.2.size := by
  induction positions generalizing s with
  | nil => rfl
  | cons i positions ih => rw [List.foldl_cons, ih, size_addAt]

/-- Adding a result to several cases changes nothing of them but their stage results. -/
theorem forget_addEach (positions : List Nat) :
    (positions.foldl (addAt ref) s).1.map OpSTCaseReport.forget
      = s.1.map OpSTCaseReport.forget := by
  induction positions generalizing s with
  | nil => rfl
  | cons i positions ih => rw [List.foldl_cons, ih, forget_addAt]

/-- After a result has been added to several cases, each of them refers to it. -/
theorem mem_refs_addEach (positions : List Nat) (r j : Nat) :
    r ∈ refs (positions.foldl (addAt ref) s).1 j
      ↔ r ∈ refs s.1 j ∨ (r = ref ∧ j ∈ positions ∧ j < s.1.length) := by
  induction positions generalizing s with
  | nil => simp
  | cons i positions ih =>
      rw [List.foldl_cons, ih, length_addAt, refs_addAt, List.mem_cons]
      by_cases hj : j = i
      · subst hj
        by_cases hlt : j < s.1.length
        · simp only [hlt, and_self, if_true, List.mem_append, List.mem_singleton]
          tauto
        · simp [hlt]
      · simp [hj]

/-- The results that are overwritten: those of the same stage in one of the traces. -/
theorem read_addEach (hres : s.2.read ref = some res) (positions : List Nat) (r : Nat) :
    (positions.foldl (addAt ref) s).2.read r
      = if (∃ i ∈ positions, r ∈ refs s.1 i) ∧ stageOf s.2 r = some res.stageName then
          some res
        else s.2.read r := by
  induction positions generalizing s with
  | nil => simp
  | cons i positions ih =>
      rw [List.foldl_cons, ih (read_addAt_self hres i), stageOf_addAt hres, read_addAt hres]
      by_cases href : r = ref
      · -- The new result may be in a trace already; it is written into itself.
        subst href
        rw [hres]
        simp
      · have hrefs : ∀ k, r ∈ refs (addAt ref s i).1 k ↔ r ∈ refs s.1 k := by
          intro k
          rw [refs_addAt]
          split
          · simp [href]
          · exact Iff.rfl
        simp only [hrefs, List.exists_mem_cons_iff]
        by_cases hs : stageOf s.2 r = some res.stageName
        · by_cases hi : r ∈ refs s.1 i
          · simp [hs, hi]
          · simp [hs, hi]
        · simp [hs]

end AddEach

/-! ## §4. Reports. -/

namespace ReportState

/-- The new result `res` is added to the traces of the cases at `positions`. -/
def addTo (st : ReportState) (positions : List Nat) (res : OpSTStageResult) : ReportState :=
  let added := positions.foldl (addAt st.heap.size) (st.report.reportList, st.heap.alloc res)
  { report := { st.report with reportList := added.1 }
    heap := added.2
    live := by
      intro i r hr
      rw [size_addEach, Heap.size_alloc]
      rcases (mem_refs_addEach positions r i).mp hr with hold | ⟨hnew, _⟩
      · exact Nat.lt_succ_of_lt (st.live i r hold)
      · omega }

/-- The new result `res` is added to the traces of all cases. -/
def addToAll (st : ReportState) (res : OpSTStageResult) : ReportState :=
  st.addTo (List.range st.report.reportList.length) res

variable {st : ReportState} {positions : List Nat}

/-- Creating a result and adding it changes nothing of the cases but their stage results. -/
theorem forget_addTo (st : ReportState) (positions : List Nat) (res : OpSTStageResult) :
    (st.addTo positions res).cases.map OpSTCaseReport.forget
      = st.cases.map OpSTCaseReport.forget :=
  forget_addEach positions

@[simp] theorem size_addTo (st : ReportState) (positions : List Nat) (res : OpSTStageResult) :
    (st.addTo positions res).heap.size = st.heap.size + 1 := by
  unfold addTo
  rw [size_addEach, Heap.size_alloc]

@[simp] theorem length_addTo (st : ReportState) (positions : List Nat)
    (res : OpSTStageResult) : (st.addTo positions res).cases.length = st.cases.length := by
  have hforget := congrArg List.length (forget_addTo st positions res)
  simpa only [List.length_map] using hforget

/-- The only new reference is to the new result. -/
theorem mem_refs_addTo {r i : Nat} :
    r ∈ (st.addTo positions res).refs i
      ↔ r ∈ st.refs i ∨ (r = st.heap.size ∧ i ∈ positions ∧ i < st.cases.length) :=
  mem_refs_addEach positions r i

/-- The new result is as it was created. -/
theorem read_addTo_new :
    (st.addTo positions res).heap.read st.heap.size = some res := by
  unfold addTo
  rw [read_addEach (Heap.read_alloc_fresh st.heap res)]
  split
  · rfl
  · exact Heap.read_alloc_fresh st.heap res

/-- **The earlier results of the same stage, in the traces that the new result is added
to, take over what it says, in whichever trace they are also seen.** -/
theorem read_addTo {r : Nat} (hr : r < st.heap.size) :
    (st.addTo positions res).heap.read r
      = if (∃ i ∈ positions, r ∈ st.refs i) ∧ stageOf st.heap r = some res.stageName then
          some res
        else st.heap.read r := by
  have hstage : stageOf (st.heap.alloc res) r = stageOf st.heap r := by
    unfold stageOf
    rw [Heap.read_alloc_old st.heap res hr]
  unfold addTo
  rw [read_addEach (Heap.read_alloc_fresh st.heap res), hstage,
    Heap.read_alloc_old st.heap res hr]

/-- Results that exist already keep their stage. -/
theorem stageOf_addTo {r : Nat} (hr : r < st.heap.size) :
    stageOf (st.addTo positions res).heap r = stageOf st.heap r := by
  unfold stageOf
  rw [read_addTo hr]
  split
  · next h => exact h.2.symm
  · rfl

end ReportState

/-! ## §5. The summary. -/

namespace OpSTCaseReport

/-- Some stage of the case is not a success. -/
def hasFailure (heap : Heap OpSTStageResult) (caseReport : OpSTCaseReport) : Bool :=
  caseReport.traceDetail.stageResult.any fun r => (heap.read r).any (!·.isSuccess)

/-- A case with a failed stage has failed; the others keep the status they have. -/
theorem updateCaseStatus_eq (caseReport : OpSTCaseReport) :
    caseReport.updateCaseStatus heap
      = if caseReport.hasFailure heap then { caseReport with status := FAILED }
        else caseReport := by
  unfold updateCaseStatus hasFailure
  generalize caseReport.traceDetail.stageResult = results
  induction results generalizing caseReport with
  | nil => rfl
  | cons r results ih =>
      rw [List.foldl_cons, ih, List.any_cons]
      cases hread : heap.read r with
      | none => simp
      | some x =>
          cases hx : x.isSuccess
          · simp [hx]
          · simp [hx]

@[simp] theorem traceDetail_updateCaseStatus (caseReport : OpSTCaseReport) :
    (caseReport.updateCaseStatus heap).traceDetail = caseReport.traceDetail := by
  rw [updateCaseStatus_eq]
  split <;> rfl

@[simp] theorem caseName_updateCaseStatus (caseReport : OpSTCaseReport) :
    (caseReport.updateCaseStatus heap).caseName = caseReport.caseName := by
  rw [updateCaseStatus_eq]
  split <;> rfl

section Expect

variable (expectDict : List (String × String)) (caseReport : OpSTCaseReport)

@[simp] theorem traceDetail_updateCaseExpect :
    (caseReport.updateCaseExpect expectDict).traceDetail = caseReport.traceDetail := by
  unfold updateCaseExpect
  split <;> rfl

@[simp] theorem caseName_updateCaseExpect :
    (caseReport.updateCaseExpect expectDict).caseName = caseReport.caseName := by
  unfold updateCaseExpect
  split <;> rfl

@[simp] theorem status_updateCaseExpect :
    (caseReport.updateCaseExpect expectDict).status = caseReport.status := by
  unfold updateCaseExpect
  split <;> rfl

end Expect

/-- The status of a case ends as a success exactly when it was one and no stage failed. -/
theorem status_updateCaseStatus (caseReport : OpSTCaseReport) :
    (caseReport.updateCaseStatus heap).status = SUCCESS
      ↔ caseReport.status = SUCCESS ∧ caseReport.hasFailure heap = false := by
  rw [updateCaseStatus_eq]
  split
  · next h =>
      have hne : FAILED ≠ SUCCESS := by decide
      simp [h, hne]
  · next h => simp [h]

end OpSTCaseReport

namespace ReportState

variable {st : ReportState}

/-- Counting leaves the list of cases. -/
theorem reportList_updateCnts (updated : List OpSTCaseReport) (rpt : OpSTReport) :
    (updated.foldl OpSTReport.updateCnt rpt).reportList = rpt.reportList := by
  induction updated generalizing rpt with
  | nil => rfl
  | cons caseReport updated ih =>
      rw [List.foldl_cons, ih]
      unfold OpSTReport.updateCnt
      dsimp only
      split <;> rfl

/-- The cases after the summary. -/
theorem reportList_summaryTxt (rpt : OpSTReport) :
    (rpt.summaryTxt heap).2.reportList = rpt.reportList.map fun caseReport =>
      (caseReport.updateCaseStatus heap).updateCaseExpect rpt.expectDict := by
  unfold OpSTReport.summaryTxt
  split
  · next h =>
      have hnil : rpt.reportList = [] := by simpa using h
      rw [hnil]
      rfl
  · exact reportList_updateCnts _ _

/-- A summary leaves the traces. -/
theorem refs_summaryTxt (rpt : OpSTReport) (i : Nat) :
    Main.refs (rpt.summaryTxt heap).2.reportList i = Main.refs rpt.reportList i := by
  unfold Main.refs
  rw [reportList_summaryTxt, List.getElem?_map]
  cases rpt.reportList[i]? with
  | none => rfl
  | some caseReport => simp

/-- `console_print` -/
def summary (st : ReportState) : ReportState where
  report := (st.report.summaryTxt st.heap).2
  heap := st.heap
  live := by
    intro i r hr
    rw [refs_summaryTxt] at hr
    exact st.live i r hr

/-- The failures of a case, by the references of its trace. -/
theorem hasFailure_iff {i : Nat} {caseReport : OpSTCaseReport}
    (hi : st.cases[i]? = some caseReport) :
    caseReport.hasFailure st.heap = true
      ↔ ∃ r ∈ st.refs i, ∃ x, st.heap.read r = some x ∧ x.status ≠ SUCCESS := by
  have hrefs : st.refs i = caseReport.traceDetail.stageResult := by
    unfold ReportState.refs Main.refs
    rw [hi]
  rw [hrefs]
  unfold OpSTCaseReport.hasFailure
  simp only [List.any_eq_true, Option.any_eq_true, OpSTStageResult.isSuccess,
    Bool.not_eq_true', beq_eq_false_iff_ne]

/-! ## §6. A stage of all cases. -/

/-- Every case has the stage `name`, with this status. -/
def StageIs (st : ReportState) (name : Option String) (status : String) : Prop :=
  ∀ i, i < st.cases.length →
    (∃ r ∈ st.refs i, stageOf st.heap r = some name) ∧
      ∀ r ∈ st.refs i, ∀ x, st.heap.read r = some x → x.stageName = name → x.status = status

/-- A result that is added to all cases decides its stage. -/
theorem stageIs_addToAll (st : ReportState) (res : OpSTStageResult) :
    (st.addToAll res).StageIs res.stageName res.status := by
  intro i hi
  have hlen : i < st.cases.length := by
    have heq := length_addTo st (List.range st.report.reportList.length) res
    unfold addToAll at hi
    omega
  have hmem : i ∈ List.range st.report.reportList.length := List.mem_range.mpr hlen
  constructor
  · refine ⟨st.heap.size, mem_refs_addTo.mpr (Or.inr ⟨rfl, hmem, hlen⟩), ?_⟩
    exact stageOf_eq_some.mpr ⟨res, read_addTo_new, rfl⟩
  · intro r hr x hx hname
    rcases mem_refs_addTo.mp hr with hold | ⟨hnew, _⟩
    · -- An earlier result of the stage has been overwritten.
      have hlt : r < st.heap.size := st.live i r hold
      have hstage : stageOf st.heap r = some res.stageName := by
        rw [← stageOf_addTo hlt]
        exact stageOf_eq_some.mpr ⟨x, hx, hname⟩
      unfold addToAll at hx
      rw [read_addTo hlt, if_pos ⟨⟨i, hmem, hold⟩, hstage⟩] at hx
      cases hx
      rfl
    · subst hnew
      have hread : some res = some x := read_addTo_new.symm.trans hx
      cases hread
      rfl

/-- Results of other stages leave a stage alone. -/
theorem StageIs.addTo {name : Option String} {status : String} (h : st.StageIs name status)
    (positions : List Nat) (hother : res.stageName ≠ name) :
    (st.addTo positions res).StageIs name status := by
  intro i hi
  rw [length_addTo] at hi
  obtain ⟨⟨r₀, hr₀, hstage₀⟩, hall⟩ := h i hi
  constructor
  · refine ⟨r₀, mem_refs_addTo.mpr (Or.inl hr₀), ?_⟩
    rw [stageOf_addTo (st.live i r₀ hr₀)]
    exact hstage₀
  · intro r hr x hx hname
    rcases mem_refs_addTo.mp hr with hold | ⟨hnew, _⟩
    · have hlt : r < st.heap.size := st.live i r hold
      have hstage : stageOf st.heap r = some name := by
        rw [← stageOf_addTo hlt]
        exact stageOf_eq_some.mpr ⟨x, hx, hname⟩
      -- A result of another stage is not overwritten.
      have hne : stageOf st.heap r ≠ some res.stageName := by
        rw [hstage]
        simp [Ne.symm hother]
      rw [read_addTo hlt, if_neg (fun hc => hne hc.2)] at hx
      exact hall r hold x hx hname
    · subst hnew
      have hread : some res = some x := read_addTo_new.symm.trans hx
      cases hread
      exact absurd hname hother

/-- A stage that has a status keeps it in a summary. -/
theorem StageIs.summary {name : Option String} {status : String} (h : st.StageIs name status) :
    st.summary.StageIs name status := by
  have hlen : st.summary.cases.length = st.cases.length := by
    show (st.report.summaryTxt st.heap).2.reportList.length = _
    rw [reportList_summaryTxt, List.length_map]
  have hrefs : ∀ i, st.summary.refs i = st.refs i := refs_summaryTxt st.report
  intro i hi
  rw [hrefs i]
  exact h i (by omega)

/-- A failed stage of all cases makes every case fail. -/
theorem StageIs.updateCaseStatus {name : Option String} (h : st.StageIs name FAILED)
    {caseReport : OpSTCaseReport} (hmem : caseReport ∈ st.cases) :
    (caseReport.updateCaseStatus st.heap).status = FAILED := by
  obtain ⟨i, hi⟩ := List.mem_iff_getElem?.mp hmem
  obtain ⟨⟨r, hr, hstage⟩, hall⟩ := h i (List.getElem?_eq_some_iff.mp hi).1
  obtain ⟨x, hx, hname⟩ := stageOf_eq_some.mp hstage
  have hfail : caseReport.hasFailure st.heap = true := by
    refine (hasFailure_iff hi).mpr ⟨r, hr, x, hx, ?_⟩
    rw [hall r hr x hx hname]
    decide
  rw [OpSTCaseReport.updateCaseStatus_eq, if_pos hfail]

/-- A report of one case, of which no stage is known. -/
def oneCase : ReportState where
  report :=
    { reportList := [OpSTCaseReport.ofTrace
        { stCaseInfo := { caseName := "Test_Add_001_case_001", opParams := .dict [] } }] }
  heap := Heap.empty
  live := by
    intro i r hr
    match i with
    | 0 => cases hr
    | _ + 1 => cases hr

end ReportState

end HwEfat.Main
