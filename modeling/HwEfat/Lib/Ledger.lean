/-
  HwEfat.Lib.Ledger — accounting for what a program obtains and gives back.

  Of everything that was obtained there is an account: it was released, it has an owner who
  will release it, or it is loose (`Ledger.Inv s loose`).  What is loose when a step raises is
  loose for ever.  So a step leaves nothing loose exactly if it returns, or raises before it
  has obtained anything (`Ledger.Clean`), and a program exactly if all its steps do
  (`Ledger.Accounts.bind`, `Ledger.Accounts.collect`).

  Releases may fail; what is said here is about the runs in which they have not (`sound`).
-/
import Mathlib.Algebra.Order.Group.Multiset
import HwEfat.Lib.Collect

namespace HwEfat.Lib

/-- What was obtained; the accounts, with what is loose; and whether all releases so far
have succeeded. -/
structure Ledger (σ ρ : Type) where
  obtained : σ → Multiset ρ
  Inv : σ → Multiset ρ → Prop
  sound : σ → Prop

namespace Ledger

variable {σ ρ α β : Type} {L : Ledger σ ρ}

/-! ## §1. Programs that obtain. -/

/-- A program does not make good a release that has failed. -/
def Back (L : Ledger σ ρ) (x : PyM σ α) : Prop := ∀ s, L.sound (x s).2 → L.sound s

/-- What the program obtains is loose; if it returns, `R` says what that is. -/
structure Opens (L : Ledger σ ρ) (x : PyM σ α) (R : α → Multiset ρ → Prop) : Prop where
  back : L.Back x
  opens : ∀ s loose, L.Inv s loose → L.sound (x s).2 →
    ∃ extra, L.Inv (x s).2 (loose + extra) ∧ L.obtained (x s).2 = L.obtained s + extra ∧
      ∀ a, (x s).1 = .ok a → R a extra

/-- What was sound at the end was so between two programs. -/
theorem sound_first {x : PyM σ α} {f : α → PyM σ β} {s : σ} (hf : ∀ a, L.Back (f a))
    (h : L.sound ((x >>= f) s).2) : L.sound (x s).2 := by
  rw [PyM.bind_apply] at h
  cases hrun : x s with
  | mk r s₁ =>
      rw [hrun] at h
      cases r with
      | ok a => exact hf a s₁ h
      | error e => exact h

/-- Two programs, one after the other. -/
theorem Back.bind {x : PyM σ α} {f : α → PyM σ β} (hx : L.Back x) (hf : ∀ a, L.Back (f a)) :
    L.Back (x >>= f) :=
  fun s hsound => hx s (sound_first hf hsound)

theorem back_lift (x : Except PyError α) : L.Back (PyM.lift x) := fun _ h => h

/-- Less may be said of what is obtained. -/
theorem Opens.mono {x : PyM σ α} {R R' : α → Multiset ρ → Prop} (h : L.Opens x R)
    (hR : ∀ a extra, R a extra → R' a extra) : L.Opens x R' := by
  refine ⟨h.back, fun s loose hinv hsound => ?_⟩
  obtain ⟨extra, hinv', hobtained, hR'⟩ := h.opens s loose hinv hsound
  exact ⟨extra, hinv', hobtained, fun a ha => hR a extra (hR' a ha)⟩

/-- What does not touch the state obtains nothing. -/
theorem opens_lift (x : Except PyError α) :
    L.Opens (PyM.lift x) fun a extra => x = .ok a ∧ extra = 0 := by
  refine ⟨back_lift x, fun s loose hinv _ => ⟨0, ?_, ?_, fun a ha => ⟨ha, rfl⟩⟩⟩
  · rw [add_zero]
    exact hinv
  · rw [add_zero]
    rfl

theorem opens_pure (a : α) : L.Opens (pure a : PyM σ α) fun b extra => b = a ∧ extra = 0 := by
  refine (opens_lift (.ok a)).mono fun b extra h => ?_
  cases h.1
  exact ⟨rfl, h.2⟩

theorem opens_read : L.Opens (PyM.read : PyM σ σ) fun _ extra => extra = 0 := by
  refine ⟨fun _ h => h, fun s loose hinv _ => ⟨0, ?_, ?_, fun _ _ => rfl⟩⟩
  · rw [add_zero]
    exact hinv
  · rw [add_zero]
    rfl

/-- **One program after the other** obtains what both do. -/
theorem Opens.bind {x : PyM σ α} {f : α → PyM σ β} {R : α → Multiset ρ → Prop}
    {R₂ : α → β → Multiset ρ → Prop} {R' : β → Multiset ρ → Prop} (hx : L.Opens x R)
    (hf : ∀ a, L.Opens (f a) (R₂ a))
    (hR : ∀ a b e₁ e₂, R a e₁ → R₂ a b e₂ → R' b (e₁ + e₂)) : L.Opens (x >>= f) R' := by
  refine ⟨hx.back.bind fun a => (hf a).back, fun s loose hinv hsound => ?_⟩
  have hfirst := hx.opens s loose hinv
  rw [PyM.bind_apply] at hsound ⊢
  cases hrun : x s with
  | mk r s₁ =>
      rw [hrun] at hfirst hsound
      cases r with
      | error e =>
          obtain ⟨extra, hinv₁, hobtained, _⟩ := hfirst hsound
          exact ⟨extra, hinv₁, hobtained, fun b hb => (by cases hb)⟩
      | ok a =>
          dsimp only at hsound hfirst ⊢
          obtain ⟨e₁, hinv₁, hobtained₁, hR₁⟩ := hfirst ((hf a).back s₁ hsound)
          obtain ⟨e₂, hinv₂, hobtained₂, hR₂⟩ := (hf a).opens s₁ (loose + e₁) hinv₁ hsound
          refine ⟨e₁ + e₂, ?_, ?_, fun b hb => hR a b e₁ e₂ (hR₁ a rfl) (hR₂ b hb)⟩
          · rw [← add_assoc]
            exact hinv₂
          · rw [hobtained₂, hobtained₁, add_assoc]

/-- Either branch. -/
theorem opens_ite {c : Prop} [Decidable c] {x y : PyM σ α} {R : α → Multiset ρ → Prop}
    (hx : c → L.Opens x R) (hy : ¬ c → L.Opens y R) : L.Opens (if c then x else y) R := by
  by_cases hc : c
  · rw [if_pos hc]
    exact hx hc
  · rw [if_neg hc]
    exact hy hc

/-- A program that obtains nothing. -/
abbrev Neutral (L : Ledger σ ρ) (x : PyM σ α) : Prop := L.Opens x fun _ extra => extra = 0

/-- Two neutral programs, one after the other. -/
theorem Neutral.bind {x : PyM σ α} {f : α → PyM σ β} (hx : L.Neutral x)
    (hf : ∀ a, L.Neutral (f a)) : L.Neutral (x >>= f) :=
  Opens.bind hx hf fun _ _ _ _ h₁ h₂ => by rw [h₁, h₂, add_zero]

/-- What is obtained behind a neutral program. -/
theorem Neutral.opens_bind {x : PyM σ α} {f : α → PyM σ β} {R : β → Multiset ρ → Prop}
    (hx : L.Neutral x) (hf : ∀ a, L.Opens (f a) R) : L.Opens (x >>= f) R :=
  Opens.bind hx hf fun _ _ _ _ h₁ h₂ => by rw [h₁, zero_add]; exact h₂

theorem neutral_lift (x : Except PyError α) : L.Neutral (PyM.lift x : PyM σ α) :=
  (opens_lift x).mono fun _ _ h => h.2

theorem neutral_pure (a : α) : L.Neutral (pure a : PyM σ α) :=
  (opens_pure a).mono fun _ _ h => h.2

/-! ## §2. Programs that settle. -/

/-- The program returns, or has obtained nothing. -/
def Clean (L : Ledger σ ρ) (x : PyM σ α) (s : σ) : Prop :=
  (∃ a, (x s).1 = .ok a) ∨ L.obtained (x s).2 = L.obtained s

/-- Nothing is left loose by the program exactly if `P`. -/
structure Accounts (L : Ledger σ ρ) (x : PyM σ α) (P : σ → Prop) : Prop where
  back : L.Back x
  settles : ∀ s loose, L.Inv s loose → L.sound (x s).2 →
    ∃ extra, L.Inv (x s).2 (loose + extra) ∧ (extra = 0 ↔ P s)

/-- A program that gives an owner to what it obtains if it returns, and what it has obtained is
loose if it raises. -/
theorem accounts_of_cases {x : PyM σ α} (hback : L.Back x)
    (hcases : ∀ s loose, L.Inv s loose → L.sound (x s).2 →
      (∃ e s' extra, x s = (.error e, s') ∧ L.Inv s' (loose + extra) ∧
        L.obtained s' = L.obtained s + extra) ∨
      ∃ a s', x s = (.ok a, s') ∧ L.Inv s' loose) : L.Accounts x (L.Clean x) := by
  refine ⟨hback, fun s loose hinv hsound => ?_⟩
  rcases hcases s loose hinv hsound with ⟨e, s', extra, hrun, hinv', hobtained⟩ |
    ⟨a, s', hrun, hinv'⟩
  · unfold Clean
    rw [hrun]
    dsimp only
    refine ⟨extra, hinv', ?_⟩
    rw [hobtained]
    constructor
    · rintro rfl
      exact Or.inr (add_zero _)
    · rintro (⟨a, ha⟩ | h)
      · cases ha
      · exact left_eq_add.mp h.symm
  · rw [hrun]
    refine ⟨0, ?_, iff_of_true rfl (Or.inl ⟨a, by rw [hrun]⟩)⟩
    rw [add_zero]
    exact hinv'

/-- **A program that obtains, and one that releases all of it** without raising. -/
theorem Opens.accounts_bind {x : PyM σ α} {f : α → PyM σ β} {R : α → Multiset ρ → Prop}
    (hx : L.Opens x R) (hback : ∀ a, L.Back (f a))
    (hf : ∀ a extra s loose, R a extra → L.Inv s (loose + extra) → L.sound (f a s).2 →
      ∃ b s', f a s = (.ok b, s') ∧ L.Inv s' loose) :
    L.Accounts (x >>= f) (L.Clean (x >>= f)) := by
  refine accounts_of_cases (hx.back.bind hback) fun s loose hinv hsound => ?_
  have hfirst := hx.opens s loose hinv
  rw [PyM.bind_apply] at hsound ⊢
  cases hrun : x s with
  | mk r s₁ =>
      rw [hrun] at hfirst hsound
      cases r with
      | error e =>
          obtain ⟨extra, hinv₁, hobtained, _⟩ := hfirst hsound
          exact Or.inl ⟨e, s₁, extra, rfl, hinv₁, hobtained⟩
      | ok a =>
          obtain ⟨extra, hinv₁, _, hR⟩ := hfirst (hback a s₁ hsound)
          exact Or.inr (hf a extra s₁ loose (hR a rfl) hinv₁ hsound)

/-- The condition may be put in other words. -/
theorem Accounts.congr {x : PyM σ α} {P Q : σ → Prop} (h : L.Accounts x P)
    (hPQ : ∀ s, P s ↔ Q s) : L.Accounts x Q := by
  refine ⟨h.back, fun s loose hinv hsound => ?_⟩
  obtain ⟨extra, hinv', hP⟩ := h.settles s loose hinv hsound
  exact ⟨extra, hinv', hP.trans (hPQ s)⟩

/-- What does not touch the state leaves nothing loose. -/
theorem accounts_lift (x : Except PyError α) : L.Accounts (PyM.lift x) fun _ => True := by
  refine ⟨back_lift x, fun s loose hinv _ => ⟨0, ?_, iff_of_true rfl trivial⟩⟩
  rw [add_zero]
  exact hinv

/-- **One program after the other** settles if both do. -/
theorem Accounts.bind {x : PyM σ α} {f : α → PyM σ β} {P : σ → Prop} {Q : α → σ → Prop}
    (hx : L.Accounts x P) (hf : ∀ a, L.Accounts (f a) (Q a)) :
    L.Accounts (x >>= f) fun s => P s ∧ ∀ a s₁, x s = (.ok a, s₁) → Q a s₁ := by
  refine ⟨hx.back.bind fun a => (hf a).back, fun s loose hinv hsound => ?_⟩
  have hfirst := hx.settles s loose hinv
  rw [PyM.bind_apply] at hsound ⊢
  cases hrun : x s with
  | mk r s₁ =>
      rw [hrun] at hfirst hsound
      cases r with
      | error e =>
          obtain ⟨extra, hinv₁, hP⟩ := hfirst hsound
          refine ⟨extra, hinv₁, hP.trans (iff_self_and.mpr fun _ a s' h => (by cases h))⟩
      | ok a =>
          dsimp only at hsound hfirst ⊢
          obtain ⟨e₁, hinv₁, hP⟩ := hfirst ((hf a).back s₁ hsound)
          obtain ⟨e₂, hinv₂, hQ⟩ := (hf a).settles s₁ (loose + e₁) hinv₁ hsound
          refine ⟨e₁ + e₂, by rw [← add_assoc]; exact hinv₂, ?_⟩
          rw [← Multiset.card_eq_zero, Multiset.card_add, Nat.add_eq_zero_iff,
            Multiset.card_eq_zero, Multiset.card_eq_zero, hP, hQ]
          refine and_congr_right fun _ => ⟨fun h a' s' heq => ?_, fun h => h a s₁ rfl⟩
          cases heq
          exact h

/-! ## §3. Loops. -/

/-- A loop of steps that obtain. -/
theorem Opens.collect {step : α → PyM σ β} {R : β → Multiset ρ → Prop}
    {R' : List β → Multiset ρ → Prop} (hstep : ∀ a, L.Opens (step a) R) (hnil : R' [] 0)
    (hcons : ∀ b bs e₁ e₂, R b e₁ → R' bs e₂ → R' (b :: bs) (e₁ + e₂)) (l : List α) :
    L.Opens (PyM.collect step l) R' := by
  induction l with
  | nil =>
      refine (opens_pure []).mono fun bs extra h => ?_
      rw [h.1, h.2]
      exact hnil
  | cons a l ih =>
      have hrest : ∀ b, L.Opens (PyM.collect step l >>= fun bs => pure (b :: bs))
          fun cs e => ∃ bs, cs = b :: bs ∧ R' bs e := fun b =>
        ih.bind (fun bs => opens_pure (b :: bs)) fun bs cs e₁ e₂ h₁ h₂ =>
          ⟨bs, h₂.1, by rw [h₂.2, add_zero]; exact h₁⟩
      refine (hstep a).bind hrest fun b cs e₁ e₂ h₁ h₂ => ?_
      obtain ⟨bs, rfl, hR'⟩ := h₂
      exact hcons b bs e₁ e₂ h₁ hR'

/-- **A loop settles** if all steps that are reached do. -/
theorem Accounts.collect {step : α → PyM σ β} {P : α → σ → Prop}
    (hstep : ∀ a, L.Accounts (step a) (P a)) (l : List α) :
    L.Accounts (PyM.collect step l) (PyM.EachStep step P l) := by
  induction l with
  | nil => exact accounts_lift (.ok [])
  | cons a l ih =>
      refine ((hstep a).bind fun b => ih.bind fun bs => accounts_lift (.ok (b :: bs))).congr ?_
      intro s
      exact and_congr_right fun _ => forall₃_congr fun b s₁ _ =>
        and_iff_left fun _ _ _ => trivial

end Ledger

end HwEfat.Lib
