/-
  HwEfat.Lib.Binary — binary number formats.

  A format has the numbers `m * 2 ^ e` with a mantissa below `2 ^ precision` and an exponent
  between two bounds.  With the mantissa of a subnormal number as any other, the least
  exponent is that of the smallest positive number (`le_of_pos`).  Scaling by a power of two
  keeps a number in the format as long as the exponent stays in its bounds
  (`Representable.scale`).
-/
import Mathlib.Algebra.Order.Field.Power
import Mathlib.Algebra.Order.Ring.Rat
import Mathlib.Tactic.Linarith
import Mathlib.Tactic.Positivity

namespace HwEfat.Lib

/-- A binary format of numbers: the bits of the mantissa, and the least and the greatest exponent.
-/
structure BinaryFormat where
  precision : Nat
  minExp : Int
  maxExp : Int

/-- A number of the format. -/
def BinaryFormat.Representable (f : BinaryFormat) (x : ℚ) : Prop :=
  ∃ m e : Int, |m| < 2 ^ f.precision ∧ f.minExp ≤ e ∧ e ≤ f.maxExp ∧ x = m * 2 ^ e

namespace BinaryFormat

variable {f : BinaryFormat} {x y : ℚ}

theorem two_zpow_pos (e : Int) : (0 : ℚ) < 2 ^ e := zpow_pos two_pos e

/-- A power of two. -/
theorem representable_two_zpow {k : Nat} (hk : k < f.precision) {e : Int} (hmin : f.minExp ≤ e)
    (hmax : e ≤ f.maxExp) : f.Representable (2 ^ (k + e)) := by
  refine ⟨2 ^ k, e, ?_, hmin, hmax, ?_⟩
  · rw [abs_of_pos (by positivity)]
    exact pow_lt_pow_right₀ one_lt_two hk
  · rw [zpow_add₀ two_ne_zero, zpow_natCast, Int.cast_pow, Int.cast_ofNat]

/-- Zero is in every format. -/
theorem representable_zero (hbounds : f.minExp ≤ f.maxExp) : f.Representable 0 :=
  ⟨0, f.minExp, by rw [abs_zero]; positivity, le_refl _, hbounds, by rw [Int.cast_zero, zero_mul]⟩

/-- The smaller of two numbers of a format is in it, -/
theorem Representable.min (hx : f.Representable x) (hy : f.Representable y) :
    f.Representable (min x y) := by
  rcases min_choice x y with h | h
  · rwa [h]
  · rwa [h]

/-- and so is the greater one. -/
theorem Representable.max (hx : f.Representable x) (hy : f.Representable y) :
    f.Representable (max x y) := by
  rcases max_choice x y with h | h
  · rwa [h]
  · rwa [h]

/-- A positive number is at least the power of two of its exponent. -/
theorem two_zpow_le {m e : Int} (hx : 0 < (m : ℚ) * 2 ^ e) : (2 : ℚ) ^ e ≤ m * 2 ^ e := by
  have hm : (0 : ℚ) < m := pos_of_mul_pos_left hx (two_zpow_pos e).le
  have hone : (1 : ℚ) ≤ m := by exact_mod_cast (show 1 ≤ m by exact_mod_cast hm)
  exact le_mul_of_one_le_left (two_zpow_pos e).le hone

/-- **The smallest positive number.** -/
theorem le_of_pos (hx : f.Representable x) (hpos : 0 < x) : (2 : ℚ) ^ f.minExp ≤ x := by
  obtain ⟨m, e, _, hmin, _, rfl⟩ := hx
  exact (zpow_le_zpow_right₀ one_le_two hmin).trans (two_zpow_le hpos)

/-- **Scaling up a number that is small enough.** -/
theorem Representable.scale (hx : f.Representable x) {s t : Int} (hs : 0 ≤ s)
    (hbelow : |x| ≤ 2 ^ t) (ht : t + s ≤ f.maxExp) (hbounds : f.minExp ≤ f.maxExp) :
    f.Representable (x * 2 ^ s) := by
  obtain ⟨m, e, hm, hmin, hmax, rfl⟩ := hx
  by_cases hzero : m = 0
  · rw [hzero, Int.cast_zero, zero_mul, zero_mul]
    exact representable_zero hbounds
  · refine ⟨m, e + s, hm, by omega, ?_, by rw [mul_assoc, ← zpow_add₀ two_ne_zero]⟩
    -- The mantissa is not zero, so that the exponent is below that of the bound.
    have hone : (1 : ℚ) ≤ |(m : ℚ)| := by
      rw [← Int.cast_abs]
      exact_mod_cast Int.one_le_abs hzero
    have hle : (2 : ℚ) ^ e ≤ 2 ^ t := by
      calc (2 : ℚ) ^ e ≤ |(m : ℚ)| * 2 ^ e := le_mul_of_one_le_left (two_zpow_pos e).le hone
        _ = |(m : ℚ) * 2 ^ e| := by rw [abs_mul, abs_of_pos (two_zpow_pos e)]
        _ ≤ 2 ^ t := hbelow
    have hexp : e ≤ t := (zpow_le_zpow_iff_right₀ one_lt_two).mp hle
    omega

end BinaryFormat

end HwEfat.Lib
