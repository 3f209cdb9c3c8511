/-
  HwEfat.Main.Report.Bookkeeping — the stage results of the traces over a run of calls.

  `add_stage_result` looks for a result of the same stage, writes the new one into it, and
  appends the new one all the same.  So a second call for a stage leaves two entries, and
  where the first of them is in other traces too, it changes in those as well.

  `Session` carries next to the report what the last call for every trace and stage said.

  Main result: `bookkeeping_iff`.
-/
import HwEfat.Main.Report.Calls
import Mathlib.Data.List.Nodup

namespace HwEfat.Main

open HwEfat.Lib (Heap run run_always_iff)

/-! ## §1. Reports with one entry for a stage. -/

namespace ReportState

variable {st st' : ReportState} {i j r ref : Nat}

/-- The entries of the trace at position `i`. -/
def entries (st : ReportState) (i : Nat) : List (Option OpSTStageResult) :=
  (st.refs i).map st.heap.read

/-- No trace has two entries of one stage. -/
def OneEach (st : ReportState) : Prop :=
  ∀ i, ((st.refs i).map (stageOf st.heap)).Nodup

/-- The call is for a stage that its trace has an entry of. -/
def Repeats (st : ReportState) : StageCall → Prop
  | .create _ => False
  | .add i ref =>
      i < st.cases.length ∧ ref < st.heap.size ∧
        stageOf st.heap ref ∈ (st.refs i).map (stageOf st.heap)

/-- Creating a stage result changes no stage of another one. -/
theorem stageOf_create {res : OpSTStageResult} (hr : r < st.heap.size) :
    stageOf (st.create res).heap r = stageOf st.heap r := by
  unfold stageOf
  rw [read_create hr]

/-- Adding a result may overwrite others, but only by results of the same stage. -/
theorem stageOf_addStage (href : ref < st.heap.size) (r : Nat) :
    stageOf (st.addStage i ref href).heap r = stageOf st.heap r := by
  obtain ⟨res, hres⟩ := Heap.read_of_lt_size href
  exact stageOf_addAt (s := (st.report.reportList, st.heap)) hres i r

/-- A call for a new stage writes into no object. -/
theorem read_addStage_of_new (hi : i < st.cases.length) (href : ref < st.heap.size)
    (hnew : ¬ st.Repeats (.add i ref)) (r : Nat) :
    (st.addStage i ref href).heap.read r = st.heap.read r := by
  obtain ⟨res, hres⟩ := Heap.read_of_lt_size href
  rw [read_addStage href hres, if_neg]
  rintro ⟨hmem, hstage⟩
  -- An object that is written into is an entry of the stage.
  have hsame : stageOf st.heap ref = stageOf st.heap r := by
    rw [hstage]
    exact stageOf_eq_some.mpr ⟨res, hres, rfl⟩
  apply hnew
  refine ⟨hi, href, ?_⟩
  rw [hsame]
  exact List.mem_map_of_mem hmem

/-- The stages of the entries after a call. -/
theorem stages_addStage (hi : i < st.cases.length) (href : ref < st.heap.size) (j : Nat) :
    ((st.addStage i ref href).refs j).map (stageOf (st.addStage i ref href).heap)
      = (st.refs j).map (stageOf st.heap) ++
          if j = i then [stageOf st.heap ref] else [] := by
  have hstage : stageOf (st.addStage i ref href).heap = stageOf st.heap :=
    funext (stageOf_addStage href)
  rw [hstage, refs_addStage hi href]
  split
  · rw [List.map_append, List.map_singleton]
  · rw [List.append_nil]

/-- **A call keeps one entry for each stage exactly if its stage is new in the trace.** -/
theorem oneEach_addStage (hi : i < st.cases.length) (href : ref < st.heap.size)
    (hone : st.OneEach) :
    (st.addStage i ref href).OneEach ↔ ¬ st.Repeats (.add i ref) := by
  unfold OneEach
  simp only [stages_addStage hi href]
  constructor
  · rintro hnodup ⟨_, _, hmem⟩
    have hself := hnodup i
    rw [if_pos rfl] at hself
    exact (List.nodup_append.mp hself).2.2 _ hmem _ (List.mem_singleton_self _) rfl
  · intro hnew j
    split
    · next hj =>
        subst hj
        refine List.nodup_append.mpr ⟨hone j, List.nodup_singleton _, ?_⟩
        intro a ha b hb hab
        rw [List.mem_singleton.mp hb] at hab
        rw [hab] at ha
        exact hnew ⟨hi, href, ha⟩
    · rw [List.append_nil]
      exact hone j

/-- A result that no trace refers to does not count. -/
theorem oneEach_create {res : OpSTStageResult} :
    (st.create res).OneEach ↔ st.OneEach := by
  unfold OneEach
  have hstages : ∀ i, ((st.create res).refs i).map (stageOf (st.create res).heap)
      = (st.refs i).map (stageOf st.heap) := by
    intro i
    rw [refs_create]
    exact List.map_congr_left fun r hr => stageOf_create (st.live i r hr)
  simp only [hstages]

/-- Creating a result adds nothing to a trace. -/
theorem entries_create {res : OpSTStageResult} (i : Nat) :
    (st.create res).entries i = st.entries i := by
  unfold entries
  rw [refs_create]
  exact List.map_congr_left fun r hr => read_create (st.live i r hr)

/-- A call for a new stage leaves the entries of the other traces. -/
theorem entries_addStage_of_new (hi : i < st.cases.length) (href : ref < st.heap.size)
    (hnew : ¬ st.Repeats (.add i ref)) (hj : j ≠ i) :
    (st.addStage i ref href).entries j = st.entries j := by
  unfold entries
  rw [refs_addStage hi href, if_neg hj]
  exact List.map_congr_left fun r _ => read_addStage_of_new hi href hnew r

end ReportState

/-! ## §2. Sessions. -/

/-- A report and, for every trace and stage, what the object of the last call said. -/
structure Session where
  st : ReportState
  last : Nat → Option String → Option OpSTStageResult

namespace Session

variable {s s' : Session}

/-- No call has been made. -/
def start (st : ReportState) : Session := ⟨st, fun _ _ => none⟩

/-- `last` after a call. -/
def lastAfter (s : Session) : StageCall → Nat → Option String → Option OpSTStageResult
  | .create _ => s.last
  | .add i ref => fun j name =>
      match s.st.heap.read ref with
      | some res => if j = i ∧ name = res.stageName then some res else s.last j name
      | none => s.last j name

/-- One call of a session: the report as it is then, and the last call for each trace. -/
def step (s : Session) (c : StageCall) : Option Session :=
  (s.st.stageStep c).map fun st' => ⟨st', s.lastAfter c⟩

/-- **The entries are those of the last calls**: there is one entry at most for each stage
of a trace, and where calls were made for a stage, it says what the last of them said. -/
structure Bookkept (s : Session) : Prop where
  oneEach : s.st.OneEach
  lastCall : ∀ i name res, s.last i name = some res →
    ∃ r ∈ s.st.refs i, s.st.heap.read r = some res ∧ res.stageName = name

/-- The call changes the entries of no trace but its own. -/
def Spares (s : Session) (c : StageCall) : Prop :=
  ∀ s', s.step c = some s' → ∀ j, (∀ i ref, c = .add i ref → j ≠ i) →
    s'.st.entries j = s.st.entries j

/-- The two shapes of a step. -/
theorem step_cases {c : StageCall} (h : s.step c = some s') :
    (∃ res, c = .create res ∧ s' = ⟨s.st.create res, s.last⟩) ∨
      ∃ i ref res, ∃ href : ref < s.st.heap.size, c = .add i ref ∧ i < s.st.cases.length ∧
        s.st.heap.read ref = some res ∧
        s' = ⟨s.st.addStage i ref href,
          fun j name => if j = i ∧ name = res.stageName then some res else s.last j name⟩ := by
  obtain ⟨st', hst', hs'⟩ := Option.map_eq_some_iff.mp h
  rcases ReportState.stageStep_cases hst' with
    ⟨res, hc, hcreate⟩ | ⟨i, ref, res, href, hc, hi, hres, hadd⟩
  · subst hc hcreate hs'
    exact Or.inl ⟨res, rfl, rfl⟩
  · subst hc hadd hs'
    refine Or.inr ⟨i, ref, res, href, rfl, hi, hres, ?_⟩
    simp only [lastAfter, hres]

/-! ## §3. Steps. -/

/-- A created result is in no trace, so that all last calls stay what they are. -/
theorem lastCall_create {res : OpSTStageResult} (h : s.Bookkept) :
    (Session.mk (s.st.create res) s.last).Bookkept := by
  refine ⟨ReportState.oneEach_create.mpr h.oneEach, ?_⟩
  intro i name res' hlast
  obtain ⟨r, hr, hread, hname⟩ := h.lastCall i name res' hlast
  refine ⟨r, hr, ?_, hname⟩
  show (s.st.create res).heap.read r = some res'
  rw [ReportState.read_create (s.st.live i r hr)]
  exact hread

/-- A call keeps the books exactly if its stage is new in the trace. -/
theorem bookkept_step {c : StageCall} (h : s.Bookkept) (hstep : s.step c = some s') :
    s'.Bookkept ↔ ¬ s.st.Repeats c := by
  rcases step_cases hstep with ⟨res, hc, hs'⟩ | ⟨i, ref, res, href, hc, hi, hres, hs'⟩
  · subst hc hs'
    exact iff_of_true (lastCall_create h) not_false
  · subst hc hs'
    rw [← ReportState.oneEach_addStage hi href h.oneEach]
    constructor
    · exact Bookkept.oneEach
    · intro hone
      refine ⟨hone, ?_⟩
      -- Nothing is written, so that all earlier entries say what they said.
      have hnew := (ReportState.oneEach_addStage hi href h.oneEach).mp hone
      have hread := ReportState.read_addStage_of_new hi href hnew
      intro j name res' hlast
      simp only at hlast
      split at hlast
      · next hcall =>
          cases hlast
          refine ⟨ref, ?_, (hread ref).trans hres, hcall.2.symm⟩
          show ref ∈ (s.st.addStage i ref href).refs j
          rw [ReportState.refs_addStage hi href, if_pos hcall.1]
          simp
      · obtain ⟨r, hr, hold, hname⟩ := h.lastCall j name res' hlast
        refine ⟨r, ?_, (hread r).trans hold, hname⟩
        show r ∈ (s.st.addStage i ref href).refs j
        rw [ReportState.refs_addStage hi href]
        split
        · exact List.mem_append_left _ hr
        · exact hr

/-- A call for a new stage only adds to its own trace. -/
theorem spares_of_new {c : StageCall} (hnew : ¬ s.st.Repeats c) : s.Spares c := by
  intro s' hstep j hj
  rcases step_cases hstep with ⟨res, hc, hs'⟩ | ⟨i, ref, res, href, hc, hi, _, hs'⟩
  · subst hc hs'
    exact ReportState.entries_create j
  · subst hc hs'
    exact ReportState.entries_addStage_of_new hi href hnew (hj i ref rfl)

/-- A repeated call is a call. -/
theorem step_of_repeats {c : StageCall} (h : s.st.Repeats c) : ∃ s', s.step c = some s' := by
  cases c with
  | create res => cases h
  | add i ref =>
      obtain ⟨hi, href, _⟩ := h
      refine ⟨⟨s.st.addStage i ref href, s.lastAfter (.add i ref)⟩, ?_⟩
      unfold step
      rw [ReportState.stageStep_add hi href]
      rfl

end Session

/-! ## §4. Runs. -/

/-- The books are kept in every state of the run, and no call of it changes the entries of
another trace. -/
def BooksKept (st : ReportState) (calls : List StageCall) : Prop :=
  (∀ pre, pre <+: calls → ∀ s, run Session.step (Session.start st) pre = some s →
      s.Bookkept) ∧
    ∀ pre c, pre ++ [c] <+: calls →
      ∀ s, run Session.step (Session.start st) pre = some s → s.Spares c

/-- **The books of a run of `add_stage_result` calls, with shared objects or not, are kept
exactly if they are kept at first and no call is for a stage that its trace has already.**
A result that is added to several cases is such a run: one object and a call for each. -/
theorem bookkeeping_iff (st : ReportState) (calls : List StageCall) :
    (BooksKept st calls ↔
      st.OneEach ∧ ∀ pre c, pre ++ [c] <+: calls →
        ∀ s, run Session.step (Session.start st) pre = some s → ¬ s.st.Repeats c) ∧
    ∀ positions res, (∀ i ∈ positions, i < st.cases.length) →
      run ReportState.stageStep st (.create res :: positions.map (.add · st.heap.size))
        = some (st.addTo positions res) := by
  refine ⟨?_, st.addTo_eq_run⟩
  have hrule : st.OneEach →
      ((∀ pre, pre <+: calls → ∀ s, run Session.step (Session.start st) pre = some s →
          s.Bookkept) ↔
        ∀ pre c, pre ++ [c] <+: calls →
          ∀ s, run Session.step (Session.start st) pre = some s → ¬ s.st.Repeats c) := by
    intro hone
    have hstart : (Session.start st).Bookkept := ⟨hone, fun _ _ _ h => by cases h⟩
    exact run_always_iff (I := fun _ => True) (B := fun s c => s.st.Repeats c)
      ⟨trivial, hstart⟩
      (fun s c s' _ hstep => ⟨trivial, fun h => Session.bookkept_step h hstep⟩)
      (fun s c h => Session.step_of_repeats h) calls
  constructor
  · intro ⟨hbooks, _⟩
    have hone : st.OneEach := (hbooks [] (List.nil_prefix) _ rfl).oneEach
    exact ⟨hone, (hrule hone).mp hbooks⟩
  · intro ⟨hone, hnew⟩
    exact ⟨(hrule hone).mpr hnew, fun pre c hpre s hs =>
      Session.spares_of_new (hnew pre c hpre s hs)⟩

/-- A report of two cases, of which no stage is known. -/
def ReportState.twoCases : ReportState where
  report :=
    { reportList := ["Test_Add_001_case_001", "Test_Add_001_case_002"].map fun caseName =>
        OpSTCaseReport.ofTrace { stCaseInfo := { caseName, opParams := .dict [] } } }
  heap := Heap.empty
  live := by
    intro i r hr
    match i with
    | 0 => cases hr
    | 1 => cases hr
    | _ + 2 => cases hr

/-- The run of all cases failed, which `_check_result_txt` writes into both traces, and then
the one of the first case succeeded: its trace has two entries of the stage. -/
theorem not_booksKept :
    ¬ ∀ (st : ReportState) (calls : List StageCall), st.OneEach → BooksKept st calls := by
  intro h
  have hone : ReportState.twoCases.OneEach := by
    intro i
    match i with
    | 0 => exact List.nodup_nil
    | 1 => exact List.nodup_nil
    | _ + 2 => exact List.nodup_nil
  have hbooks := (h ReportState.twoCases
    [.create { status := FAILED, stageName := some "run_acl_code" }, .add 0 0, .add 1 0,
      .create { status := SUCCESS, stageName := some "run_acl_code" }, .add 0 1] hone).1
    _ (List.prefix_refl _) _ rfl
  have htwice : ¬ [some (some "run_acl_code"), some (some "run_acl_code")].Nodup := by decide
  exact htwice (hbooks.oneEach 0)

end HwEfat.Main
