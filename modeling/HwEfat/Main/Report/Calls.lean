/-
  HwEfat.Main.Report.Calls — single calls of `add_stage_result`.

  A stage result is made first and then added to one trace, or to the traces of several
  cases, one call after the other.  `StageCall` has the two as steps of their own, so that
  calls that share an object and calls that do not can follow each other in any order.

  Main results: `read_addStage` and `refs_addStage` say all that one call does, and
  `addTo_eq_run` that adding a new result to several cases is a run of such calls.
-/
import HwEfat.Lib.Run
import HwEfat.Main.Report.Stages

namespace HwEfat.Main

open HwEfat.Lib (Heap run)

/-! ## §1. The calls. -/

/-- What a run on the traces of a report consists of. -/
inductive StageCall where
  /-- `OpSTStageResult(status, stage_name, result, cmd)` -/
  | create (res : OpSTStageResult)
  /-- `add_stage_result(stage_res)` on the trace of the case at position `i`, with the
  object behind the reference. -/
  | add (i stageRes : Nat)

namespace ReportState

variable {st st' : ReportState} {res : OpSTStageResult} {i j r ref : Nat}

/-- `OpSTStageResult(…)`: the new object's reference is the size of the heap. -/
def create (st : ReportState) (res : OpSTStageResult) : ReportState where
  report := st.report
  heap := st.heap.alloc res
  live := by
    intro i r hr
    rw [Heap.size_alloc]
    exact Nat.lt_succ_of_lt (st.live i r hr)

/-- `add_stage_result` on the trace at position `i`. -/
def addStage (st : ReportState) (i ref : Nat) (href : ref < st.heap.size) : ReportState where
  report := { st.report with reportList := (addAt ref (st.report.reportList, st.heap) i).1 }
  heap := (addAt ref (st.report.reportList, st.heap) i).2
  live := by
    intro j r hr
    rw [size_addAt]
    rw [refs_addAt] at hr
    split at hr
    · rcases List.mem_append.mp hr with hold | hnew
      · exact st.live j r hold
      · rw [List.mem_singleton.mp hnew]
        exact href
    · exact st.live j r hr

/-- One call; there is none for a case or an object that does not exist. -/
def stageStep (st : ReportState) : StageCall → Option ReportState
  | .create res => some (st.create res)
  | .add i ref =>
      if h : i < st.cases.length ∧ ref < st.heap.size then some (st.addStage i ref h.2)
      else none

/-! ## §2. What a call does. -/

@[simp] theorem refs_create (j : Nat) : (st.create res).refs j = st.refs j := rfl

/-- The results that exist already keep their content. -/
theorem read_create (hr : r < st.heap.size) :
    (st.create res).heap.read r = st.heap.read r :=
  Heap.read_alloc_old st.heap res hr

@[simp] theorem length_addStage (href : ref < st.heap.size) :
    (st.addStage i ref href).cases.length = st.cases.length :=
  length_addAt i

/-- The trace at the position gets the reference, and no other trace. -/
theorem refs_addStage (hi : i < st.cases.length) (href : ref < st.heap.size) (j : Nat) :
    (st.addStage i ref href).refs j = if j = i then st.refs j ++ [ref] else st.refs j := by
  have h : (st.addStage i ref href).refs j
      = if j = i ∧ i < st.cases.length then st.refs j ++ [ref] else st.refs j :=
    refs_addAt i j
  rw [h]
  simp only [hi, and_true]

/-- The objects of the same stage in that trace take over what the call's object says. -/
theorem read_addStage (href : ref < st.heap.size) (hres : st.heap.read ref = some res)
    (r : Nat) :
    (st.addStage i ref href).heap.read r
      = if r ∈ st.refs i ∧ stageOf st.heap r = some res.stageName then some res
        else st.heap.read r :=
  read_addAt (s := (st.report.reportList, st.heap)) hres i r

/-- **All that a call can do.** -/
theorem stageStep_cases {c : StageCall} (h : st.stageStep c = some st') :
    (∃ res, c = .create res ∧ st' = st.create res) ∨
      ∃ i ref res, ∃ href : ref < st.heap.size, c = .add i ref ∧ i < st.cases.length ∧
        st.heap.read ref = some res ∧ st' = st.addStage i ref href := by
  cases c with
  | create res => exact Or.inl ⟨res, rfl, (Option.some.inj h).symm⟩
  | add i ref =>
      by_cases hlt : i < st.cases.length ∧ ref < st.heap.size
      · obtain ⟨res, hres⟩ := Heap.read_of_lt_size hlt.2
        have hst' : st' = st.addStage i ref hlt.2 := by
          simpa only [stageStep, dif_pos hlt, Option.some.injEq, eq_comm] using h
        exact Or.inr ⟨i, ref, res, hlt.2, rfl, hlt.1, hres, hst'⟩
      · simp only [stageStep, dif_neg hlt, reduceCtorEq] at h

/-- A call with a case and a result that exist is a step. -/
theorem stageStep_add (hi : i < st.cases.length) (href : ref < st.heap.size) :
    st.stageStep (.add i ref) = some (st.addStage i ref href) := by
  have hlt : i < st.cases.length ∧ ref < st.heap.size := ⟨hi, href⟩
  simp only [stageStep, dif_pos hlt]

/-! ## §3. One result for several cases. -/

/-- The calls of a loop that adds one object to several traces. -/
theorem run_adds (positions : List Nat) :
    ∀ st : ReportState, ref < st.heap.size → (∀ i ∈ positions, i < st.cases.length) →
      ∃ st', run stageStep st (positions.map (.add · ref)) = some st' ∧
        st'.report = { st.report with
          reportList := (positions.foldl (addAt ref) (st.report.reportList, st.heap)).1 } ∧
        st'.heap = (positions.foldl (addAt ref) (st.report.reportList, st.heap)).2 := by
  induction positions with
  | nil => exact fun st _ _ => ⟨st, rfl, rfl, rfl⟩
  | cons i positions ih =>
      intro st href hlen
      have hi : i < st.cases.length := hlen i (List.mem_cons_self ..)
      have hsize : ref < (st.addStage i ref href).heap.size := by
        show ref < (addAt ref (st.report.reportList, st.heap) i).2.size
        rw [size_addAt]
        exact href
      have hrest : ∀ k ∈ positions, k < (st.addStage i ref href).cases.length := by
        intro k hk
        rw [length_addStage]
        exact hlen k (List.mem_cons_of_mem _ hk)
      obtain ⟨st', hrun, hreport, hheap⟩ := ih (st.addStage i ref href) hsize hrest
      refine ⟨st', ?_, hreport, hheap⟩
      show (st.stageStep (.add i ref)).bind _ = some st'
      rw [stageStep_add hi href]
      exact hrun

/-- **A result for several cases is one object and a call for each of them**, as in
`add_op_st_stage_result` and `_check_result_txt`. -/
theorem addTo_eq_run (st : ReportState) (positions : List Nat) (res : OpSTStageResult)
    (hlen : ∀ i ∈ positions, i < st.cases.length) :
    run stageStep st (.create res :: positions.map (.add · st.heap.size))
      = some (st.addTo positions res) := by
  have hnew : st.heap.size < (st.create res).heap.size := by
    show st.heap.size < (st.heap.alloc res).size
    rw [Heap.size_alloc]
    omega
  obtain ⟨st', hrun, hreport, hheap⟩ := run_adds positions (st.create res) hnew hlen
  have heq : st' = st.addTo positions res := by
    cases st'
    simp only at hreport hheap
    subst hreport hheap
    rfl
  show run stageStep (st.create res) _ = _
  rw [hrun, heq]

end ReportState

end HwEfat.Main
