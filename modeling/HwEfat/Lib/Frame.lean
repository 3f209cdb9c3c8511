/-
  HwEfat.Lib.Frame — what a program leaves alone, and what it does not see.

  A program keeps a relation between the objects before and after it (`PyM.Keeps`) whether
  it returns or raises.  For a reflexive and transitive relation, as that of
  the objects outside a part, every composition of such programs does.

  Two runs of a program from objects that are alike end in the same way, and alike
  (`PyM.Alike`), if the program sees nothing in which they may differ.
-/
import HwEfat.Lib.Python

namespace HwEfat.Lib

namespace PyM

variable {σ α β : Type} {R R' : σ → σ → Prop}

/-! ## §1. What is left alone. -/

/-- The objects after the program are related to those before it. -/
def Keeps (R : σ → σ → Prop) (x : PyM σ α) : Prop := ∀ s, R s (x s).2

/-- A program that keeps one relation keeps a wider one. -/
theorem Keeps.mono {x : PyM σ α} (h : Keeps R x) (hsub : ∀ s s', R s s' → R' s s') :
    Keeps R' x := fun s => hsub _ _ (h s)

/-- What does not look at the state keeps it. -/
theorem keeps_lift (hrefl : ∀ s, R s s) (x : Except PyError α) : Keeps R (lift x) :=
  fun s => hrefl s

theorem keeps_pure (hrefl : ∀ s, R s s) (a : α) : Keeps R (pure a : PyM σ α) := fun s => hrefl s

theorem keeps_read (hrefl : ∀ s, R s s) : Keeps R (read : PyM σ σ) := fun s => hrefl s

/-- A change that keeps the relation. -/
theorem keeps_modify {f : σ → σ} (h : ∀ s, R s (f s)) : Keeps R (modify f) := h

/-- Two programs, one after the other. -/
theorem Keeps.bind (htrans : ∀ s₁ s₂ s₃, R s₁ s₂ → R s₂ s₃ → R s₁ s₃) {x : PyM σ α}
    {f : α → PyM σ β} (hx : Keeps R x) (hf : ∀ a, Keeps R (f a)) : Keeps R (x >>= f) := by
  intro s
  have hfirst := hx s
  rw [bind_apply]
  split
  · next a s₁ hrun =>
      rw [hrun] at hfirst
      exact htrans _ _ _ hfirst (hf a s₁)
  · next e s₁ hrun =>
      rw [hrun] at hfirst
      exact hfirst

/-- A step that leaves the objects alone hands on what it has found. -/
theorem keeps_lift_bind (hrefl : ∀ s, R s s) {x : Except PyError α} {f : α → PyM σ β}
    (h : ∀ a, x = .ok a → Keeps R (f a)) : Keeps R (lift x >>= f) := by
  intro s
  cases x with
  | error e => exact hrefl s
  | ok a => exact h a rfl s

/-- Both branches keep it. -/
theorem keeps_ite {c : Prop} [Decidable c] {x y : PyM σ α} (hx : c → Keeps R x)
    (hy : ¬ c → Keeps R y) : Keeps R (if c then x else y) := by
  by_cases hc : c
  · rw [if_pos hc]
    exact hx hc
  · rw [if_neg hc]
    exact hy hc

/-! ## §2. Two runs. -/

/-- Two runs that start alike end in the same way, and alike. -/
def Alike (I : σ → σ → Prop) (x : PyM σ α) : Prop :=
  ∀ s₀ s, I s₀ s → (x s).1 = (x s₀).1 ∧ I (x s₀).2 (x s).2

section Alike

variable {I : σ → σ → Prop}

theorem alike_lift (x : Except PyError α) : Alike I (lift x) := fun _ _ h => ⟨rfl, h⟩

theorem alike_pure (a : α) : Alike I (pure a : PyM σ α) := fun _ _ h => ⟨rfl, h⟩

/-- A change that keeps two states alike. -/
theorem alike_modify {f : σ → σ} (h : ∀ s₀ s, I s₀ s → I (f s₀) (f s)) : Alike I (modify f) :=
  fun s₀ s hI => ⟨rfl, h s₀ s hI⟩

/-- Two programs, one after the other. -/
theorem Alike.bind {x : PyM σ α} {f : α → PyM σ β} (hx : Alike I x) (hf : ∀ a, Alike I (f a)) :
    Alike I (x >>= f) := by
  intro s₀ s hI
  obtain ⟨hsame, hI'⟩ := hx s₀ s hI
  rw [bind_apply, bind_apply]
  generalize x s = r at hsame hI'
  generalize x s₀ = r₀ at hsame hI'
  obtain ⟨result, s'⟩ := r
  obtain ⟨result₀, s₀'⟩ := r₀
  obtain rfl : result = result₀ := hsame
  cases result with
  | error e => exact ⟨rfl, hI'⟩
  | ok a => exact hf a _ _ hI'

/-- A look at the objects that sees the same in both runs. -/
theorem alike_read_bind {f : σ → PyM σ β} (hsame : ∀ s₀ s, I s₀ s → f s = f s₀)
    (hf : ∀ s, Alike I (f s)) : Alike I (read >>= f) := by
  intro s₀ s hI
  show (f s s).1 = (f s₀ s₀).1 ∧ I (f s₀ s₀).2 (f s s).2
  rw [hsame s₀ s hI]
  exact hf s₀ s₀ s hI

/-- What comes before may raise; then nothing comes behind it. -/
theorem alike_lift_bind {x : Except PyError α} {f : α → PyM σ β}
    (h : ∀ a, x = .ok a → Alike I (f a)) : Alike I (lift x >>= f) := by
  cases x with
  | error e => exact fun _ _ hI => ⟨rfl, hI⟩
  | ok a => exact h a rfl

/-- A branch on what both states agree on. -/
theorem alike_ite {c : Prop} [Decidable c] {x y : PyM σ α} (hx : c → Alike I x)
    (hy : ¬ c → Alike I y) : Alike I (if c then x else y) := by
  by_cases hc : c
  · rw [if_pos hc]
    exact hx hc
  · rw [if_neg hc]
    exact hy hc

/-- A return is matched. -/
theorem Alike.exists_ok {x : PyM σ α} (h : Alike I x) {s₀ s s₀' : σ} {a : α} (hI : I s₀ s)
    (hrun : x s₀ = (.ok a, s₀')) : ∃ s', x s = (.ok a, s') ∧ I s₀' s' := by
  obtain ⟨hsame, hI'⟩ := h s₀ s hI
  rw [hrun] at hsame hI'
  exact ⟨(x s).2, Prod.ext hsame rfl, hI'⟩

end Alike

/-! ## §3. Raising. -/

/-- A program that raises before it comes to the last step leaves what that step would do. -/
theorem bind_error {x : PyM σ α} {f : α → PyM σ β} {s s' : σ} {e : PyError}
    (h : (x >>= f) s = (.error e, s')) :
    x s = (.error e, s') ∨ ∃ a s₁, x s = (.ok a, s₁) ∧ f a s₁ = (.error e, s') := by
  rw [bind_apply] at h
  split at h
  · next a s₁ hrun => exact Or.inr ⟨a, s₁, hrun, h⟩
  · next e' s₁ hrun =>
      cases h
      exact Or.inl hrun

end PyM

end HwEfat.Lib
