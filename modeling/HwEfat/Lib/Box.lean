/-
  HwEfat.Lib.Box — sums over boxes of indices.

  A box is given by its extents, and an index of it is a list with one entry below each
  extent.  `sumOver` is the sum over a box, one axis after the other.  An axis that the
  summand does not look at multiplies the sum by its extent (`sumOver_take`), and a sum of
  what is nowhere negative is positive as soon as one term is (`sumOver_pos`).  A box is
  known from the sums over it (`eq_of_sums`).
-/
import Mathlib.Algebra.BigOperators.Group.List.Basic
import Mathlib.Algebra.Order.BigOperators.Group.Finset
import Mathlib.Algebra.Order.BigOperators.Group.List
import Mathlib.Algebra.Module.Basic
import Mathlib.Algebra.Order.Ring.Rat

namespace HwEfat.Lib.Box

/-- `ks` is an index of the box. -/
def InBox (ks es : List Nat) : Prop := List.Forall₂ (· < ·) ks es

section Sum

variable {M : Type*} [AddCommMonoid M]

/-- The sum over a box: one index for each extent. -/
def sumOver : List Nat → (List Nat → M) → M
  | [], f => f []
  | e :: es, f => ∑ k ∈ Finset.range e, sumOver es fun ks => f (k :: ks)

/-- Only the values in the box count. -/
theorem sumOver_congr {es : List Nat} {f g : List Nat → M}
    (h : ∀ ks, InBox ks es → f ks = g ks) : sumOver es f = sumOver es g := by
  induction es generalizing f g with
  | nil => exact h [] .nil
  | cons e es ih =>
      unfold sumOver
      refine Finset.sum_congr rfl fun k hk => ih fun ks hks => h (k :: ks) ?_
      exact .cons (Finset.mem_range.mp hk) hks

/-- A constant is summed once for each cell. -/
theorem sumOver_const (es : List Nat) (a : M) : sumOver es (fun _ => a) = es.prod • a := by
  induction es with
  | nil => exact (one_nsmul a).symm
  | cons e es ih =>
      show (∑ k ∈ Finset.range e, sumOver es fun _ => a) = _
      rw [ih, Finset.sum_const, Finset.card_range, List.prod_cons, mul_nsmul']

/-- **An axis that is not looked at multiplies the sum.** -/
theorem sumOver_take (es es' : List Nat) (g : List Nat → M) :
    sumOver (es ++ es') (fun ks => g (ks.take es.length)) = es'.prod • sumOver es g := by
  induction es generalizing g with
  | nil => exact sumOver_const es' (g [])
  | cons e es ih =>
      rw [List.cons_append]
      unfold sumOver
      rw [← Finset.sum_nsmul]
      exact Finset.sum_congr rfl fun k _ => ih fun ks => g (k :: ks)

/-- A sum is taken in the coordinates. -/
theorem map_sumOver {N : Type*} [AddCommMonoid N] (φ : M →+ N) (es : List Nat)
    (f : List Nat → M) : φ (sumOver es f) = sumOver es fun ks => φ (f ks) := by
  induction es generalizing f with
  | nil => rfl
  | cons e es ih =>
      unfold sumOver
      rw [map_sum]
      exact Finset.sum_congr rfl fun k _ => ih fun ks => f (k :: ks)

end Sum

section Order

variable {M : Type*} [AddCommMonoid M] [PartialOrder M] [IsOrderedCancelAddMonoid M]

/-- A sum of what is not negative is not negative. -/
theorem sumOver_nonneg {es : List Nat} {f : List Nat → M} (h : ∀ ks, 0 ≤ f ks) :
    0 ≤ sumOver es f := by
  induction es generalizing f with
  | nil => exact h []
  | cons e es ih =>
      unfold sumOver
      exact Finset.sum_nonneg fun k _ => ih fun ks => h (k :: ks)

/-- A sum without negative terms is positive if some term is. -/
theorem sumOver_pos {es ks : List Nat} {f : List Nat → M} (h : ∀ ks, 0 ≤ f ks)
    (hks : InBox ks es) (hpos : 0 < f ks) : 0 < sumOver es f := by
  induction es generalizing ks f with
  | nil =>
      cases hks
      exact hpos
  | cons e es ih =>
      cases hks with
      | @cons k _ ks _ hk hks =>
          unfold sumOver
          refine Finset.sum_pos' (fun k' _ => sumOver_nonneg fun ks => h (k' :: ks))
            ⟨k, Finset.mem_range.mpr hk, ?_⟩
          exact ih (fun ks => h (k :: ks)) hks hpos

end Order

/-! ## Boxes with the same sums. -/

/-- A wider box has more cells. -/
theorem prod_le_of_le {es es' : List Nat} (h : List.Forall₂ (· ≤ ·) es es') :
    es.prod ≤ es'.prod := by
  induction h with
  | nil => exact le_refl _
  | cons hle _ ih =>
      rw [List.prod_cons, List.prod_cons]
      exact Nat.mul_le_mul hle ih

/-- Extents that are nowhere smaller and have the same product are the same. -/
theorem eq_of_prod_eq {es es' : List Nat} (h : List.Forall₂ (· ≤ ·) es es')
    (hpos : ∀ e ∈ es, 1 ≤ e) (hprod : es.prod = es'.prod) : es = es' := by
  induction h with
  | nil => rfl
  | @cons e e' es es' hle hrest ih =>
      rw [List.prod_cons, List.prod_cons] at hprod
      have hpos' : ∀ e ∈ es, 1 ≤ e := fun x hx => hpos x (List.mem_cons_of_mem e hx)
      have he : 1 ≤ e := hpos e (List.mem_cons_self ..)
      have hes : 1 ≤ es.prod := List.one_le_prod_of_one_le hpos'
      have hprods : es.prod ≤ es'.prod := prod_le_of_le hrest
      -- Neither factor can grow.
      have hfirst : e' ≤ e := by
        have hmul : e' * es.prod ≤ e * es.prod := by
          rw [hprod]
          exact Nat.mul_le_mul_left e' hprods
        exact Nat.le_of_mul_le_mul_right hmul hes
      have heq : e = e' := le_antisymm hle hfirst
      subst heq
      rw [ih hpos' (Nat.eq_of_mul_eq_mul_left he hprod)]

/-- The last index of a box. -/
theorem inBox_last_iff {es es' : List Nat} (hpos : ∀ e ∈ es', 1 ≤ e) :
    InBox (es'.map (· - 1)) es ↔ List.Forall₂ (· ≤ ·) es' es := by
  unfold InBox
  rw [List.forall₂_map_left_iff]
  constructor
  · intro h
    exact h.imp fun e e' hlt => by omega
  · intro h
    induction h with
    | nil => exact .nil
    | @cons e e' es' es hle _ ih =>
        have he := hpos e (List.mem_cons_self ..)
        exact .cons (by omega) (ih fun x hx => hpos x (List.mem_cons_of_mem e hx))

/-- **A box whose sums are those of another, up to a factor, is the other, and the factor is
one.** -/
theorem eq_of_sums {es es' : List Nat} {c : Nat} (hes : ∀ e ∈ es, 1 ≤ e)
    (hes' : ∀ e ∈ es', 1 ≤ e) (hc : 1 ≤ c)
    (h : ∀ f : List Nat → ℚ, (∀ ks, f ks = 0 ∨ f ks = 1) →
      c • sumOver es f = sumOver es' f) :
    c = 1 ∧ es = es' := by
  classical
  -- The number of indices.
  have hcount : c * es.prod = es'.prod := by
    have hones := h (fun _ => 1) fun _ => Or.inr rfl
    rw [sumOver_const, sumOver_const, smul_smul] at hones
    simpa only [nsmul_eq_mul, mul_one, Nat.cast_inj] using hones
  -- The last index of the one box is in the other.
  have hle : List.Forall₂ (· ≤ ·) es' es := by
    have hself : InBox (es'.map (· - 1)) es' :=
      (inBox_last_iff hes').mpr (List.forall₂_same.mpr fun _ _ => le_refl _)
    have hlast := h (fun ks => if ks = es'.map (· - 1) then 1 else 0) fun ks => by
      by_cases hks : ks = es'.map (· - 1)
      · exact Or.inr (if_pos hks)
      · exact Or.inl (if_neg hks)
    have hpos : 0 < sumOver es' fun ks => if ks = es'.map (· - 1) then (1 : ℚ) else 0 := by
      refine sumOver_pos (fun ks => ?_) hself (by rw [if_pos rfl]; exact one_pos)
      split
      · exact zero_le_one
      · exact le_refl _
    rw [← inBox_last_iff hes']
    by_contra hnot
    have hzero : sumOver es (fun ks => if ks = es'.map (· - 1) then (1 : ℚ) else 0) = 0 := by
      rw [sumOver_congr (g := fun _ => 0), sumOver_const, smul_zero]
      intro ks hks
      rw [if_neg]
      intro heq
      exact hnot (heq ▸ hks)
    rw [← hlast, hzero, smul_zero] at hpos
    exact lt_irrefl 0 hpos
  have hprod := prod_le_of_le hle
  have hone := List.one_le_prod_of_one_le hes
  have hc1 : c = 1 := by
    refine le_antisymm ?_ hc
    refine Nat.le_of_mul_le_mul_right ?_ hone
    rw [hcount, one_mul]
    exact hprod
  subst hc1
  rw [one_mul] at hcount
  exact ⟨rfl, (eq_of_prod_eq hle hes' hcount.symm).symm⟩

end HwEfat.Lib.Box
