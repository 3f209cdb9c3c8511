/-
  HwEfat.Lib.Extremum — folds with an operation that always returns one of its two
  arguments, such as `min` and `max`.

  The result of such a fold is an element of the list, and the best one: it is in
  relation `R` to every other.  There is at most one best value, so two folds agree as
  soon as the elements they see have the same best one (`Best.unique`).
-/
import Mathlib.Order.Lattice
import Mathlib.Order.MinMax

namespace HwEfat.Lib

variable {α : Type}

/-- `f` returns one of its arguments, the one that `R` prefers. -/
structure Chooses (f : α → α → α) (R : α → α → Prop) : Prop where
  choice : ∀ a b, f a b = a ∨ f a b = b
  left : ∀ a b, R (f a b) a
  right : ∀ a b, R (f a b) b
  refl : ∀ a, R a a
  trans : ∀ a b c, R a b → R b c → R a c
  antisymm : ∀ a b, R a b → R b a → a = b

/-- The smaller one is chosen by `min`, -/
theorem chooses_min [LinearOrder α] : Chooses (α := α) min (fun a b => a ≤ b) where
  choice := min_choice
  left := min_le_left
  right := min_le_right
  refl := le_refl
  trans _ _ _ := le_trans
  antisymm _ _ := le_antisymm

/-- the greater one by `max`. -/
theorem chooses_max [LinearOrder α] : Chooses (α := α) max (fun a b => b ≤ a) where
  choice := max_choice
  left := le_max_left
  right := le_max_right
  refl := le_refl
  trans _ _ _ hab hbc := le_trans hbc hab
  antisymm _ _ hab hba := le_antisymm hba hab

/-- An element of the list that `R` prefers to all of it. -/
structure Best (R : α → α → Prop) (l : List α) (v : α) : Prop where
  mem : v ∈ l
  best : ∀ a ∈ l, R v a

section Choice

variable {f : α → α → α} {R : α → α → Prop}

/-- There is one best value at most. -/
theorem Best.unique (hf : Chooses f R) {l : List α} {v w : α} (hv : Best R l v)
    (hw : Best R l w) : v = w :=
  hf.antisymm v w (hv.best w hw.mem) (hw.best v hv.mem)

/-- **A fold that chooses finds the best element.** -/
theorem Chooses.foldl (hf : Chooses f R) : ∀ (l : List α) (a : α), Best R (a :: l) (l.foldl f a)
  | [], a => ⟨List.mem_singleton.mpr rfl, fun b hb => List.mem_singleton.mp hb ▸ hf.refl a⟩
  | b :: l, a => by
      have ih : Best R (f a b :: l) (l.foldl f (f a b)) := Chooses.foldl hf l (f a b)
      show Best R (a :: b :: l) (l.foldl f (f a b))
      have hfirst : R (l.foldl f (f a b)) (f a b) := ih.best _ List.mem_cons_self
      refine ⟨?_, fun c hc => ?_⟩
      · rcases List.mem_cons.mp ih.mem with heq | hmem
        · rw [heq]
          rcases hf.choice a b with ha | hb
          · rw [ha]
            exact List.mem_cons_self
          · rw [hb]
            exact List.mem_cons_of_mem _ List.mem_cons_self
        · exact List.mem_cons_of_mem _ (List.mem_cons_of_mem _ hmem)
      · rcases List.mem_cons.mp hc with rfl | hc
        · exact hf.trans _ _ _ hfirst (hf.left c b)
        · rcases List.mem_cons.mp hc with rfl | hc
          · exact hf.trans _ _ _ hfirst (hf.right a c)
          · exact ih.best c (List.mem_cons_of_mem _ hc)

/-- The order of the arguments does not matter. -/
theorem Chooses.flip (hf : Chooses f R) : Chooses (fun a b => f b a) R where
  choice a b := (hf.choice b a).symm
  left a b := hf.right b a
  right a b := hf.left b a
  refl := hf.refl
  trans := hf.trans
  antisymm := hf.antisymm

end Choice

end HwEfat.Lib
