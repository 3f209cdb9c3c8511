/-
  HwEfat.Lib.Windows — windows of one size that are laid along a line at a stride.

  The window at position `k` covers the cells from `k * s` on, and fits into `n` cells if
  it ends among them.  The positions are counted as a set; `count_eq` is the formula, and
  `le_count_iff` says when some number of windows fits, so that `isLeast_padding` gives the
  least extension of the line for it.
-/
import Mathlib.Data.Set.Card
import Mathlib.Order.Interval.Finset.Nat
import Mathlib.Tactic.Linarith

namespace HwEfat.Lib.Windows

variable {n f s : Int}

/-- Where a window of `f` cells fits into `n` cells at the stride `s`. -/
def positions (n f s : Int) : Set Nat := {k | (k : Int) * s + f ≤ n}

/-- How many windows fit. -/
noncomputable def count (n f s : Int) : Nat := (positions n f s).ncard

/-- A window fits from the first position on up to a last one. -/
theorem mem_positions (hs : 0 < s) (k : Nat) :
    k ∈ positions n f s ↔ k < ((n - f + s) / s).toNat := by
  have hquot : (k : Int) * s + f ≤ n ↔ (k : Int) + 1 ≤ (n - f + s) / s := by
    rw [Int.le_ediv_iff_mul_le hs]
    constructor
    · intro h
      linarith
    · intro h
      linarith
  show (k : Int) * s + f ≤ n ↔ _
  rw [hquot]
  omega

/-- How many windows there are. -/
theorem count_eq (hs : 0 < s) : count n f s = ((n - f + s) / s).toNat := by
  have hset : positions n f s = Set.Iio ((n - f + s) / s).toNat := by
    ext k
    exact mem_positions hs k
  unfold count
  rw [hset, ← Finset.coe_Iio, Set.ncard_coe_finset, Nat.card_Iio]

/-- As many windows fit as the last of them does. -/
theorem le_count_iff (hs : 0 < s) {m : Int} (hm : 1 ≤ m) :
    m ≤ count n f s ↔ (m - 1) * s + f ≤ n := by
  have hquot : (m - 1) * s + f ≤ n ↔ m ≤ (n - f + s) / s := by
    rw [Int.le_ediv_iff_mul_le hs]
    constructor
    · intro h
      linarith
    · intro h
      linarith
  rw [count_eq hs, hquot]
  omega

/-- **The least extension of the line into which `m` windows fit.** -/
theorem isLeast_padding (hs : 0 < s) {m : Int} (hm : 1 ≤ m) :
    IsLeast {p : Int | 0 ≤ p ∧ m ≤ count (n + p) f s} (max 0 ((m - 1) * s + f - n)) := by
  constructor
  · refine ⟨le_max_left .., (le_count_iff hs hm).mpr ?_⟩
    have hle : (m - 1) * s + f - n ≤ max 0 ((m - 1) * s + f - n) := le_max_right ..
    linarith
  · intro p ⟨hp, hcount⟩
    have hfits := (le_count_iff hs hm).mp hcount
    exact max_le hp (by linarith)

end HwEfat.Lib.Windows
