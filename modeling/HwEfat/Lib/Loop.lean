/-
  HwEfat.Lib.Loop — `while` loops that may run forever, with a log.

  A loop is given by what one pass through its test and body comes to: `exit`
  with a result, or `next` with the state of the next pass.  `loop` runs it with
  fuel and collects what the passes log; `none` says that the fuel ran out.

  The facts about a loop are facts about the states it visits:

    * `terminates_of_measure` — a measure that every pass lowers bounds the passes,
      `loop_isSome_of_measure` says how many are enough,
    * `not_terminates_of_cycle` — a state that comes back is never left,
    * `loop_eq_some_iff` — the result is that of the one visited pass that exits,
    * `mem_log_iff` — the log holds what the visited passes log, nothing else.
-/
import Mathlib.Logic.Relation

namespace HwEfat.Lib

/-! ## §1. Values with a log. -/

/-- A value and the log of its computation, oldest entry first. -/
@[ext]
structure Logged (ω α : Type) where
  val : α
  log : List ω

namespace Logged

variable {ω α β : Type}

instance : Monad (Logged ω) where
  pure a := ⟨a, []⟩
  bind x f := ⟨(f x.val).val, x.log ++ (f x.val).log⟩

@[simp] theorem val_pure (a : α) : (pure a : Logged ω α).val = a := rfl
@[simp] theorem log_pure (a : α) : (pure a : Logged ω α).log = [] := rfl
@[simp] theorem val_bind (x : Logged ω α) (f : α → Logged ω β) :
    (x >>= f).val = (f x.val).val := rfl
@[simp] theorem log_bind (x : Logged ω α) (f : α → Logged ω β) :
    (x >>= f).log = x.log ++ (f x.val).log := rfl

/-- A counted loop computes the fold of its steps ... -/
theorem val_foldlM (f : β → α → Logged ω β) : ∀ (l : List α) (b : β),
    (l.foldlM f b).val = l.foldl (fun b a => (f b a).val) b
  | [], _ => rfl
  | a :: l, b => by
      rw [List.foldlM_cons, val_bind, val_foldlM f l]
      rfl

/-- ... and logs what each step logs, where that does not depend on the state. -/
theorem log_foldlM {f : β → α → Logged ω β} {g : α → List ω} (hf : ∀ b a, (f b a).log = g a) :
    ∀ (l : List α) (b : β), (l.foldlM f b).log = l.flatMap g
  | [], _ => rfl
  | a :: l, b => by
      rw [List.foldlM_cons, log_bind, log_foldlM hf l, hf, List.flatMap_cons]

end Logged

/-! ## §2. Loops. -/

/-- What one pass through a loop comes to. -/
inductive Pass (σ β : Type) where
  | exit (result : β)
  | next (s : σ)
  deriving Repr, DecidableEq

section Loop

variable {σ β ω : Type} {pass : σ → Logged ω (Pass σ β)}

/-- Run a loop for at most `fuel` passes. -/
def loop (pass : σ → Logged ω (Pass σ β)) : Nat → σ → Logged ω (Option β)
  | 0, _ => ⟨none, []⟩
  | fuel + 1, s =>
      match (pass s).val with
      | .exit b => ⟨some b, (pass s).log⟩
      | .next s' => ⟨(loop pass fuel s').val, (pass s).log ++ (loop pass fuel s').log⟩

/-- One pass goes on from `s` to `s'`. -/
def Next (pass : σ → Logged ω (Pass σ β)) (s s' : σ) : Prop := (pass s).val = .next s'

/-- Started in `s`, the loop comes to a pass in `s'`. -/
def Visits (pass : σ → Logged ω (Pass σ β)) : σ → σ → Prop := Relation.ReflTransGen (Next pass)

/-- Some number of passes is enough. -/
def Terminates (pass : σ → Logged ω (Pass σ β)) (s : σ) : Prop :=
  ∃ fuel b, (loop pass fuel s).val = some b

/-- A pass that ends the loop. -/
theorem loop_succ_exit {s : σ} {b : β} (h : (pass s).val = .exit b) (fuel : Nat) :
    loop pass (fuel + 1) s = ⟨some b, (pass s).log⟩ := by
  rw [loop, h]

/-- A pass after which it goes on. -/
theorem loop_succ_next {s s' : σ} (h : Next pass s s') (fuel : Nat) :
    loop pass (fuel + 1) s =
      ⟨(loop pass fuel s').val, (pass s).log ++ (loop pass fuel s').log⟩ := by
  have h' : (pass s).val = .next s' := h
  rw [loop, h']

/-- The next state is determined. -/
theorem next_rightUnique : Relator.RightUnique (Next pass) := by
  intro s s₁ s₂ h₁ h₂
  have h : (Pass.next s₁ : Pass σ β) = .next s₂ := h₁.symm.trans h₂
  exact Pass.next.inj h

/-- Of two visited states one comes after the other. -/
theorem visits_total {s s₁ s₂ : σ} (h₁ : Visits pass s s₁) (h₂ : Visits pass s s₂) :
    Visits pass s₁ s₂ ∨ Visits pass s₂ s₁ :=
  Relation.ReflTransGen.total_of_right_unique next_rightUnique h₁ h₂

/-- Nothing is visited after a pass that exits. -/
theorem visits_of_exit {s s' : σ} {b : β} (h : (pass s).val = .exit b) (hv : Visits pass s s') :
    s' = s := by
  rcases Relation.ReflTransGen.cases_head hv with rfl | ⟨s₁, h₁, -⟩
  · rfl
  · have h₁' : (pass s).val = .next s₁ := h₁
    rw [h] at h₁'
    cases h₁'

/-- Every visited state leads to the exit. -/
theorem visits_exit {s s' e : σ} {b : β} (hv : Visits pass s s') (he : Visits pass s e)
    (hexit : (pass e).val = .exit b) : Visits pass s' e := by
  rcases visits_total hv he with h | h
  · exact h
  · rw [visits_of_exit hexit h]
    exact .refl

/-- **The result of a loop** is that of the visited pass that exits. -/
theorem loop_eq_some_iff {s : σ} {b : β} :
    (∃ fuel, (loop pass fuel s).val = some b) ↔ ∃ s', Visits pass s s' ∧ (pass s').val = .exit b := by
  constructor
  · intro ⟨fuel, h⟩
    induction fuel generalizing s with
    | zero => cases h
    | succ fuel ih =>
        cases hp : (pass s).val with
        | exit b' =>
            rw [loop_succ_exit hp, Option.some.injEq] at h
            exact ⟨s, .refl, by rw [hp, h]⟩
        | next s' =>
            rw [loop_succ_next hp] at h
            obtain ⟨t, hv, ht⟩ := ih h
            exact ⟨t, hv.head hp, ht⟩
  · intro ⟨s', hv, hs'⟩
    -- backwards along the walk: each pass before the exit costs one unit of fuel
    induction hv using Relation.ReflTransGen.head_induction_on with
    | refl => exact ⟨1, by rw [loop_succ_exit hs']⟩
    | head hnext _ ih =>
        obtain ⟨fuel, h⟩ := ih
        exact ⟨fuel + 1, by rw [loop_succ_next hnext]; exact h⟩

/-- A loop ends if it visits a state in which it does. -/
theorem terminates_iff {s : σ} :
    Terminates pass s ↔ ∃ s' b, Visits pass s s' ∧ (pass s').val = .exit b := by
  constructor
  · intro ⟨fuel, b, h⟩
    obtain ⟨s', hs'⟩ := loop_eq_some_iff.mp ⟨fuel, h⟩
    exact ⟨s', b, hs'⟩
  · intro ⟨s', b, hs'⟩
    obtain ⟨fuel, h⟩ := loop_eq_some_iff.mpr ⟨s', hs'⟩
    exact ⟨fuel, b, h⟩

/-- **The measure rule.** -/
theorem terminates_of_measure {s : σ} (μ : σ → Nat)
    (hμ : ∀ t t', Visits pass s t → Next pass t t' → μ t' < μ t) : Terminates pass s := by
  rw [terminates_iff]
  -- strong induction on the measure of a visited state
  have main : ∀ n t, μ t = n → Visits pass s t →
      ∃ s' b, Visits pass t s' ∧ (pass s').val = .exit b := by
    intro n
    induction n using Nat.strongRecOn with
    | ind n ih =>
        intro t ht hv
        cases hp : (pass t).val with
        | exit b => exact ⟨t, b, .refl, hp⟩
        | next t' =>
            have hlt : μ t' < n := ht ▸ hμ t t' hv hp
            obtain ⟨s', b, hv', hs'⟩ := ih (μ t') hlt t' rfl (hv.tail hp)
            exact ⟨s', b, hv'.head hp, hs'⟩
  exact main (μ s) s rfl .refl

/-- A measure that every pass lowers also bounds the fuel. -/
theorem loop_isSome_of_measure (μ : σ → Nat) :
    ∀ {fuel : Nat} {s : σ}, (∀ t t', Visits pass s t → Next pass t t' → μ t' < μ t) →
      μ s < fuel → (loop pass fuel s).val.isSome
  | 0, _, _, h => absurd h (Nat.not_lt_zero _)
  | fuel + 1, s, hμ, h => by
      cases hp : (pass s).val with
      | exit b =>
          rw [loop_succ_exit hp]
          rfl
      | next s' =>
          rw [loop_succ_next hp]
          have hlower : μ s' < μ s := hμ s s' .refl hp
          exact loop_isSome_of_measure μ (fun t t' hv => hμ t t' (hv.head hp)) (by omega)

/-- **A loop that comes back to a state never ends.** -/
theorem not_terminates_of_cycle {s t : σ} (hv : Visits pass s t)
    (hcycle : Relation.TransGen (Next pass) t t) : ¬ Terminates pass s := by
  intro hterm
  obtain ⟨e, b, he, hexit⟩ := terminates_iff.mp hterm
  have hte : Visits pass t e := visits_exit hv he hexit
  clear hv he hterm
  -- the cycle moves along with the state, up to the exit, which has no next state
  induction hte using Relation.ReflTransGen.head_induction_on with
  | refl =>
      obtain ⟨t', hnext, -⟩ := Relation.TransGen.head'_iff.mp hcycle
      have hnext' : (pass e).val = .next t' := hnext
      rw [hexit] at hnext'
      cases hnext'
  | head hnext _ ih =>
      obtain ⟨t', hnext', hrest⟩ := Relation.TransGen.head'_iff.mp hcycle
      obtain rfl := next_rightUnique hnext hnext'
      exact ih (Relation.TransGen.tail' hrest hnext)

/-- **What a loop logs** is what its visited passes log. -/
theorem mem_log_iff {s : σ} {w : ω} :
    (∃ fuel, w ∈ (loop pass fuel s).log) ↔ ∃ s', Visits pass s s' ∧ w ∈ (pass s').log := by
  constructor
  · intro ⟨fuel, h⟩
    induction fuel generalizing s with
    | zero => cases h
    | succ fuel ih =>
        cases hp : (pass s).val with
        | exit b =>
            rw [loop_succ_exit hp] at h
            exact ⟨s, .refl, h⟩
        | next s' =>
            rw [loop_succ_next hp] at h
            rcases List.mem_append.mp h with h | h
            · exact ⟨s, .refl, h⟩
            · obtain ⟨t, hv, ht⟩ := ih h
              exact ⟨t, hv.head hp, ht⟩
  · intro ⟨s', hv, hs'⟩
    induction hv using Relation.ReflTransGen.head_induction_on with
    | refl =>
        -- the first pass logs, whether it exits or not
        refine ⟨1, ?_⟩
        cases hp : (pass s').val with
        | exit b => rw [loop_succ_exit hp]; exact hs'
        | next t => rw [loop_succ_next hp]; exact List.mem_append_left _ hs'
    | head hnext _ ih =>
        obtain ⟨fuel, h⟩ := ih
        exact ⟨fuel + 1, by rw [loop_succ_next hnext]; exact List.mem_append_right _ h⟩

end Loop

end HwEfat.Lib
