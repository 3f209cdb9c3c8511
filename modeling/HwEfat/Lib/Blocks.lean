/-
  HwEfat.Lib.Blocks — loops over blocks.

  A range of `c * n` numbers, cut into `c` blocks of `n`: a loop over the range is a loop over
  the blocks with a loop over each (`foldl_range_mul`), whatever is accumulated.  A range that
  was padded is looped over as without the padding if that leaves the accumulator alone
  (`foldl_range_padded`).
-/
import Mathlib.Algebra.BigOperators.Group.Finset.Basic
import Mathlib.Data.List.Range

namespace HwEfat.Lib

variable {σ : Type}

/-- The numbers of `m + n` are those of `m` and `n` more. -/
theorem foldl_range_add (f : σ → Nat → σ) (s : σ) (m n : Nat) :
    (List.range (m + n)).foldl f s
      = (List.range n).foldl (fun s j => f s (m + j)) ((List.range m).foldl f s) := by
  rw [List.range_add, List.foldl_append, List.foldl_map]

/-- **A loop over blocks.** -/
theorem foldl_range_mul (f : σ → Nat → σ) (s : σ) (c n : Nat) :
    (List.range (c * n)).foldl f s
      = (List.range c).foldl
          (fun s i => (List.range n).foldl (fun s j => f s (i * n + j)) s) s := by
  induction c with
  | zero =>
      rw [Nat.zero_mul]
      rfl
  | succ c ih =>
      rw [Nat.succ_mul, foldl_range_add, ih, List.range_succ, List.foldl_append]
      rfl

/-- **A loop over a padded range.** -/
theorem foldl_range_padded {f : σ → Nat → σ} {k m : Nat} (hkm : k ≤ m)
    (hpad : ∀ s i, k ≤ i → f s i = s) (s : σ) :
    (List.range m).foldl f s = (List.range k).foldl f s := by
  obtain ⟨n, rfl⟩ := Nat.exists_eq_add_of_le hkm
  rw [foldl_range_add]
  generalize (List.range k).foldl f s = t
  induction n with
  | zero => rfl
  | succ n ih =>
      rw [List.range_succ, List.foldl_append, ih (Nat.le_add_right k n)]
      exact hpad t (k + n) (Nat.le_add_right k n)

/-- A loop that adds up. -/
theorem foldl_range_sum {R : Type} [AddCommMonoid R] (f : Nat → R) (n : Nat) :
    (List.range n).foldl (fun s i => s + f i) 0 = ∑ i ∈ Finset.range n, f i := by
  induction n with
  | zero => rfl
  | succ n ih =>
      rw [List.range_succ, List.foldl_append, ih, Finset.sum_range_succ]
      rfl

end HwEfat.Lib
