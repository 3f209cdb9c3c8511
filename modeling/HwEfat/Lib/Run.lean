/-
  HwEfat.Lib.Run — finite runs of a partial step function.

  `run step s l` feeds the inputs `l` to `step` from `s`; `none` is a run that
  got stuck (undefined behaviour, a step that does not return).  An invariant is
  proved once per step and then holds after every run: `run_induct` also gives
  the inputs consumed so far, `run_total` shows that no run gets stuck.

  A step that is always defined is fed by `foldl`.  What is asked of its runs is
  asked place by place: of every input with the inputs in front of it.
-/
import Mathlib.Data.List.Induction

namespace HwEfat.Lib

variable {σ α : Type}

/-- Feed the inputs one by one. -/
def run (step : σ → α → Option σ) (s : σ) : List α → Option σ
  | [] => some s
  | a :: l => (step s a).bind fun s' => run step s' l

/-- A run of two parts. -/
theorem run_append (step : σ → α → Option σ) (s : σ) (l₁ l₂ : List α) :
    run step s (l₁ ++ l₂) = (run step s l₁).bind fun s' => run step s' l₂ := by
  induction l₁ generalizing s with
  | nil => rfl
  | cons a l ih =>
      simp only [List.cons_append, run]
      cases step s a with
      | none => rfl
      | some s' => exact ih s'

/-- A run with one more step. -/
theorem run_snoc (step : σ → α → Option σ) (s : σ) (l : List α) (a : α) :
    run step s (l ++ [a]) = (run step s l).bind fun s' => step s' a := by
  rw [run_append]
  congr 1
  funext s'
  simp [run]

/-- **The run rule**: what the initial state has and every step keeps holds
after every run, together with the inputs it consumed. -/
theorem run_induct {step : σ → α → Option σ} {s₀ : σ} {P : List α → σ → Prop}
    (init : P [] s₀)
    (next : ∀ l s a s', run step s₀ l = some s → P l s → step s a = some s' →
      P (l ++ [a]) s') :
    ∀ l s, run step s₀ l = some s → P l s := by
  intro l
  induction l using List.reverseRecOn with
  | nil =>
      intro s h
      cases h
      exact init
  | append_singleton l a ih =>
      intro s' h
      rw [run_snoc, Option.bind_eq_some_iff] at h
      obtain ⟨s, hs, hstep⟩ := h
      exact next l s a s' hs (ih s hs) hstep

/-- **The rule of a property that only bad steps break.**  Under an invariant `I`, a
step from a state with `P` leaves `P` exactly if it is not bad; then `P` holds in
every state of a run exactly if no step of the run is bad. -/
theorem run_always_iff {step : σ → α → Option σ} {I P : σ → Prop} {B : σ → α → Prop} {s₀ : σ}
    (init : I s₀ ∧ P s₀)
    (next : ∀ s a s', I s → step s a = some s' → I s' ∧ (P s → (P s' ↔ ¬ B s a)))
    (defined : ∀ s a, B s a → ∃ s', step s a = some s') (l : List α) :
    (∀ pre, pre <+: l → ∀ s, run step s₀ pre = some s → P s) ↔
      ∀ pre a, pre ++ [a] <+: l → ∀ s, run step s₀ pre = some s → ¬ B s a := by
  have hI : ∀ l s, run step s₀ l = some s → I s :=
    run_induct (P := fun _ s => I s) init.1 fun _ s a s' _ hs hstep => (next s a s' hs hstep).1
  constructor
  · intro h pre a hpre s hs hbad
    obtain ⟨s', hstep⟩ := defined s a hbad
    have hs' : run step s₀ (pre ++ [a]) = some s' := by
      rw [run_snoc, hs, Option.bind_some]
      exact hstep
    have hP : P s := h pre ((List.prefix_append pre [a]).trans hpre) s hs
    have hP' : P s' := h (pre ++ [a]) hpre s' hs'
    exact ((next s a s' (hI pre s hs) hstep).2 hP).mp hP' hbad
  · intro h
    have hall : ∀ pre s, run step s₀ pre = some s → pre <+: l → P s := by
      refine run_induct (P := fun pre s => pre <+: l → P s) (fun _ => init.2) ?_
      intro pre s a s' hs ih hstep hpre
      have hshort : pre <+: l := (List.prefix_append pre [a]).trans hpre
      exact ((next s a s' (hI pre s hs) hstep).2 (ih hshort)).mpr (h pre a hpre s hs)
    exact fun pre hpre s hs => hall pre s hs hpre

/-- An invariant under which every step is defined lets every run finish. -/
theorem run_total {step : σ → α → Option σ} {I : σ → Prop}
    (next : ∀ s a, I s → ∃ s', step s a = some s' ∧ I s') :
    ∀ (l : List α) (s : σ), I s → ∃ s', run step s l = some s' ∧ I s'
  | [], s, hs => ⟨s, rfl, hs⟩
  | a :: l, s, hs => by
      obtain ⟨s₁, h₁, hI₁⟩ := next s a hs
      obtain ⟨s', h', hI'⟩ := run_total next l s₁ hI₁
      exact ⟨s', by rw [run, h₁]; exact h', hI'⟩

/-! ## Places of a run. -/

/-- **The rule of a run that is always defined**: what the initial state has and the step
at every place keeps holds after the run. -/
theorem foldl_induct {step : σ → α → σ} {s₀ : σ} {P : σ → Prop} {l : List α} (init : P s₀)
    (next : ∀ before a after, l = before ++ a :: after →
      P (before.foldl step s₀) → P (step (before.foldl step s₀) a)) :
    P (l.foldl step s₀) := by
  induction l using List.reverseRecOn with
  | nil => exact init
  | append_singleton l a ih =>
      have hbefore : P (l.foldl step s₀) := by
        refine ih fun before b after hl => next before b (after ++ [a]) ?_
        rw [hl, List.append_assoc, List.cons_append]
      rw [List.foldl_append]
      exact next l a [] rfl hbefore

section Places

variable {P : List α → α → Prop} {a : α} {l : List α}

/-- There is no place in the empty list. -/
theorem forall_place_nil : ∀ before b after, ([] : List α) = before ++ b :: after → P before b := by
  intro before b after h
  exact absurd h.symm (List.append_ne_nil_of_right_ne_nil before (List.cons_ne_nil b after))

/-- What is asked of every place: it holds of the first one, and of the others behind it. -/
theorem forall_place_cons :
    (∀ before b after, a :: l = before ++ b :: after → P before b) ↔
      P [] a ∧ ∀ before b after, l = before ++ b :: after → P (a :: before) b := by
  constructor
  · intro h
    refine ⟨h [] a l rfl, fun before b after hl => h (a :: before) b after ?_⟩
    rw [hl, List.cons_append]
  · rintro ⟨hfirst, hrest⟩ before b after hl
    cases before with
    | nil =>
        obtain ⟨rfl, -⟩ := List.cons.inj hl
        exact hfirst
    | cons c before =>
        obtain ⟨rfl, htail⟩ := List.cons.inj hl
        exact hrest before b after htail

end Places

end HwEfat.Lib
