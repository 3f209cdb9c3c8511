/-
  HwEfat.AutoSchedule.OneOrZero — `calculate_one_or_zero` of `auto_schedule/python/common.py`.

  A tensor is compared with zero without a comparison: it is cut off at the smallest positive
  number that the author takes the type to have, and scaled up to one in two or three steps,
  since the scale itself is out of range.  For `float32` that number is the smallest normal
  one, and the subnormal numbers below it come out between zero and one.

  The operations work on every element by itself.  A product that the type has is exact; what
  else a multiplication gives is left open.

  Main result: `one_or_zero_of_number`.
-/
import HwEfat.Lib.Binary
import HwEfat.Lib.Python
import Mathlib.Tactic.NormNum

namespace HwEfat.AutoSchedule.OneOrZero

open HwEfat.Lib HwEfat.Lib.BinaryFormat

/-! ## §1. The function. -/

/-- `help_min`, `help_rec_one` and `help_rec_sec` -/
structure HelpConstants where
  helpMin : ℚ
  helpRecOne : ℚ
  helpRecSec : ℚ

/-- The branches for the types; for any other, `help_min` is not bound. -/
def helpConstants (dtype : String) : Except PyError HelpConstants :=
  match dtype with
  | "float32" => .ok ⟨2 ^ (-126 : Int), 2 ^ (38 : Int), 2 ^ (44 : Int)⟩
  | "float16" => .ok ⟨2 ^ (-24 : Int), 2 ^ (12 : Int), 2 ^ (12 : Int)⟩
  | "int32" => .ok ⟨1, 1, 1⟩
  | _ => .error (.raised "UnboundLocalError" 0)

/-- `calculate_one_or_zero`, with `vmul` of the type. -/
def calculateOneOrZero (vmul : ℚ → ℚ → ℚ) (inputTensor : List Nat → ℚ) (dtype : String) :
    Except PyError (List Nat → ℚ) := do
  let help ← helpConstants dtype
  return fun indice =>
    let tmpMinY := min (inputTensor indice) help.helpMin
    let tmpMaxY := max tmpMinY 0
    let resultTmp := vmul tmpMaxY help.helpRecOne
    let resultTmp := if dtype = "float32" then vmul resultTmp help.helpRecSec else resultTmp
    vmul resultTmp help.helpRecSec

/-! ## §2. The numbers of a type. -/

/-- 24 bits of mantissa; subnormals go down to `2 ^ -149`. -/
def float32 : BinaryFormat := ⟨24, -149, 104⟩

/-- 11 bits of mantissa; subnormals go down to `2 ^ -24`. -/
def float16 : BinaryFormat := ⟨11, -24, 5⟩

/-- A finite number of the type. -/
def IsNumber (dtype : String) (x : ℚ) : Prop :=
  match dtype with
  | "float32" => float32.Representable x
  | "float16" => float16.Representable x
  | "int32" => ∃ i : Int, -2 ^ 31 ≤ i ∧ i < 2 ^ 31 ∧ x = i
  | _ => False

/-- A product of two numbers that is a number of the type is exact. -/
def ExactProducts (dtype : String) (vmul : ℚ → ℚ → ℚ) : Prop :=
  ∀ x y, IsNumber dtype x → IsNumber dtype y → IsNumber dtype (x * y) → vmul x y = x * y

/-! ## §3. The products. -/

section Floats

variable {vmul : ℚ → ℚ → ℚ} {x : ℚ}

/-- The part that is scaled: between zero and the smallest number. -/
theorem clamped_bounds {helpMin : ℚ} (hpos : 0 < helpMin) (x : ℚ) :
    0 ≤ max (min x helpMin) 0 ∧ max (min x helpMin) 0 ≤ helpMin :=
  ⟨le_max_right _ _, max_le (min_le_right _ _) hpos.le⟩

/-- One step of the scaling is exact for a float that stays small. -/
theorem vmul_two_zpow {dtype : String} {f : BinaryFormat}
    (hnumber : ∀ y, IsNumber dtype y ↔ f.Representable y) (hexact : ExactProducts dtype vmul)
    (hbounds : f.minExp ≤ f.maxExp) {s t : Int} (hpower : f.Representable (2 ^ s)) (hs : 0 ≤ s)
    (ht : t + s ≤ f.maxExp) (hx : f.Representable x) (hx0 : 0 ≤ x) (hxt : x ≤ 2 ^ t) :
    vmul x (2 ^ s) = x * 2 ^ s ∧ f.Representable (x * 2 ^ s) ∧ 0 ≤ x * 2 ^ s ∧
      x * 2 ^ s ≤ 2 ^ (t + s) := by
  have hscaled : f.Representable (x * 2 ^ s) :=
    hx.scale hs (by rwa [abs_of_nonneg hx0]) ht hbounds
  refine ⟨hexact x _ ((hnumber x).mpr hx) ((hnumber _).mpr hpower) ((hnumber _).mpr hscaled),
    hscaled, mul_nonneg hx0 (two_zpow_pos s).le, ?_⟩
  rw [zpow_add₀ two_ne_zero]
  exact mul_le_mul_of_nonneg_right hxt (two_zpow_pos s).le

/-- What is scaled is a number again. -/
theorem representable_clamped {f : BinaryFormat} (hbounds : f.minExp ≤ f.maxExp) {helpMin : ℚ}
    (hmin : f.Representable helpMin) (hx : f.Representable x) :
    f.Representable (max (min x helpMin) 0) :=
  (hx.min hmin).max (representable_zero hbounds)

/-- For float32, what is left of the input is scaled by `2 ^ 126`, without rounding. -/
theorem calculate_float32 (hexact : ExactProducts "float32" vmul) {inputTensor : List Nat → ℚ}
    {indice : List Nat} (hx : float32.Representable (inputTensor indice)) :
    ∃ result, calculateOneOrZero vmul inputTensor "float32" = .ok result ∧
      result indice = max (min (inputTensor indice) (2 ^ (-126 : Int))) 0 * 2 ^ (126 : Int) := by
  refine ⟨_, rfl, ?_⟩
  have hnumber : ∀ y, IsNumber "float32" y ↔ float32.Representable y := fun y => Iff.rfl
  have hmin : float32.Representable (2 ^ (-126 : Int)) :=
    representable_two_zpow (k := 0) (e := -126) (by decide) (by decide) (by decide)
  have hone : float32.Representable (2 ^ (38 : Int)) :=
    representable_two_zpow (k := 0) (e := 38) (by decide) (by decide) (by decide)
  have hsec : float32.Representable (2 ^ (44 : Int)) :=
    representable_two_zpow (k := 0) (e := 44) (by decide) (by decide) (by decide)
  have hclamped := representable_clamped (by decide) hmin hx
  obtain ⟨h0, h1⟩ := clamped_bounds (two_zpow_pos (-126)) (inputTensor indice)
  -- Three steps, to 2 ^ -88, 2 ^ -44 and 1.
  obtain ⟨heq₁, hr₁, hnonneg₁, hle₁⟩ :=
    vmul_two_zpow hnumber hexact (by decide) hone (by decide) (by decide) hclamped h0 h1
  obtain ⟨heq₂, hr₂, hnonneg₂, hle₂⟩ :=
    vmul_two_zpow hnumber hexact (by decide) hsec (by decide) (by decide) hr₁ hnonneg₁ hle₁
  obtain ⟨heq₃, _, _, _⟩ :=
    vmul_two_zpow hnumber hexact (by decide) hsec (by decide) (by decide) hr₂ hnonneg₂ hle₂
  show vmul (vmul (vmul _ (2 ^ (38 : Int))) (2 ^ (44 : Int))) (2 ^ (44 : Int)) = _
  rw [heq₁, heq₂, heq₃, mul_assoc, mul_assoc, ← zpow_add₀ two_ne_zero, ← zpow_add₀ two_ne_zero]
  rfl

/-- For float16, by `2 ^ 24`, again without rounding. -/
theorem calculate_float16 (hexact : ExactProducts "float16" vmul) {inputTensor : List Nat → ℚ}
    {indice : List Nat} (hx : float16.Representable (inputTensor indice)) :
    ∃ result, calculateOneOrZero vmul inputTensor "float16" = .ok result ∧
      result indice = max (min (inputTensor indice) (2 ^ (-24 : Int))) 0 * 2 ^ (24 : Int) := by
  refine ⟨_, rfl, ?_⟩
  have hnumber : ∀ y, IsNumber "float16" y ↔ float16.Representable y := fun y => Iff.rfl
  have hmin : float16.Representable (2 ^ (-24 : Int)) :=
    representable_two_zpow (k := 0) (e := -24) (by decide) (by decide) (by decide)
  -- The largest exponent is 5, and the mantissa has the other factors.
  have hrec : float16.Representable (2 ^ (12 : Int)) :=
    representable_two_zpow (k := 7) (e := 5) (by decide) (by decide) (by decide)
  have hclamped := representable_clamped (by decide) hmin hx
  obtain ⟨h0, h1⟩ := clamped_bounds (two_zpow_pos (-24)) (inputTensor indice)
  -- Two steps, to 2 ^ -12 and 1.
  obtain ⟨heq₁, hr₁, hnonneg₁, hle₁⟩ :=
    vmul_two_zpow hnumber hexact (by decide) hrec (by decide) (by decide) hclamped h0 h1
  obtain ⟨heq₂, _, _, _⟩ :=
    vmul_two_zpow hnumber hexact (by decide) hrec (by decide) (by decide) hr₁ hnonneg₁ hle₁
  show vmul (vmul _ (2 ^ (12 : Int))) (2 ^ (12 : Int)) = _
  rw [heq₁, heq₂, mul_assoc, ← zpow_add₀ two_ne_zero]
  rfl

end Floats

/-- For integers, the part that is scaled is the result already. -/
theorem calculate_int32 {vmul : ℚ → ℚ → ℚ} (hexact : ExactProducts "int32" vmul)
    {inputTensor : List Nat → ℚ} {indice : List Nat} {i : Int} (hx : inputTensor indice = i) :
    ∃ result, calculateOneOrZero vmul inputTensor "int32" = .ok result ∧
      result indice = max (min (inputTensor indice) 1) 0 * 1 := by
  refine ⟨_, rfl, ?_⟩
  have hone : IsNumber "int32" 1 := ⟨1, by decide, by decide, rfl⟩
  have hclamped : IsNumber "int32" (max (min (inputTensor indice) 1) 0) := by
    refine ⟨max (min i 1) 0, ?_, ?_, ?_⟩
    · omega
    · omega
    · rw [hx, Int.cast_max, Int.cast_min, Int.cast_one, Int.cast_zero]
  have hmul : vmul (max (min (inputTensor indice) 1) 0) 1
      = max (min (inputTensor indice) 1) 0 := by
    rw [hexact _ _ hclamped hone (by rwa [mul_one]), mul_one]
  show vmul (vmul _ 1) 1 = _
  rw [hmul, hmul, mul_one]

/-! ## §4. One or zero. -/

/-- What a scaled number tells. -/
theorem clamped_spec {helpMin scale : ℚ} (hpos : 0 < helpMin) (hscale : helpMin * scale = 1)
    (x : ℚ) :
    (max (min x helpMin) 0 * scale = 1 ↔ helpMin ≤ x) ∧
      (max (min x helpMin) 0 * scale = 0 ↔ x ≤ 0) ∧
      0 ≤ max (min x helpMin) 0 * scale ∧ max (min x helpMin) 0 * scale ≤ 1 := by
  have hscale_pos : 0 < scale := by
    by_contra hnot
    have := mul_nonpos_of_nonneg_of_nonpos hpos.le (not_lt.mp hnot)
    linarith
  obtain ⟨h0, h1⟩ := clamped_bounds hpos x
  refine ⟨?_, ?_, mul_nonneg h0 hscale_pos.le, ?_⟩
  · rw [← hscale]
    constructor
    · intro heq
      have heq := mul_right_cancel₀ hscale_pos.ne' heq
      by_contra hlt
      have hlt' := not_le.mp hlt
      have hmax : max (min x helpMin) 0 < helpMin := max_lt (min_lt_of_left_lt hlt') hpos
      linarith
    · intro hle
      rw [min_eq_right hle, max_eq_left hpos.le]
  · rw [mul_eq_zero, or_iff_left hscale_pos.ne', max_eq_right_iff, min_le_iff,
      or_iff_left (not_le.mpr hpos)]
  · rw [← hscale]
    exact mul_le_mul_of_nonneg_right h1 hscale_pos.le

/-- **One or zero.**  A number at which the type is cut off, or above, gives one, a number up
to zero gives zero, and what is between, which only `float32` has, gives neither. -/
theorem one_or_zero_of_number {vmul : ℚ → ℚ → ℚ} {inputTensor : List Nat → ℚ} {dtype : String}
    {indice : List Nat} (hexact : ExactProducts dtype vmul)
    (hx : IsNumber dtype (inputTensor indice)) :
    ∃ help result, helpConstants dtype = .ok help ∧
      calculateOneOrZero vmul inputTensor dtype = .ok result ∧
      (result indice = 1 ↔ help.helpMin ≤ inputTensor indice) ∧
      (result indice = 0 ↔ inputTensor indice ≤ 0) ∧
      0 ≤ result indice ∧ result indice ≤ 1 ∧
      (dtype ≠ "float32" → inputTensor indice ≤ 0 ∨ help.helpMin ≤ inputTensor indice) := by
  unfold IsNumber at hx
  split at hx
  · obtain ⟨result, hresult, heq⟩ := calculate_float32 hexact hx
    have hscale : (2 : ℚ) ^ (-126 : Int) * 2 ^ (126 : Int) = 1 := by
      rw [← zpow_add₀ two_ne_zero]
      rfl
    obtain ⟨hone, hzero, h0, h1⟩ := clamped_spec (two_zpow_pos (-126)) hscale (inputTensor indice)
    rw [← heq] at hone hzero h0 h1
    exact ⟨_, result, rfl, hresult, hone, hzero, h0, h1, fun hne => absurd rfl hne⟩
  · obtain ⟨result, hresult, heq⟩ := calculate_float16 hexact hx
    have hscale : (2 : ℚ) ^ (-24 : Int) * 2 ^ (24 : Int) = 1 := by
      rw [← zpow_add₀ two_ne_zero]
      rfl
    obtain ⟨hone, hzero, h0, h1⟩ := clamped_spec (two_zpow_pos (-24)) hscale (inputTensor indice)
    rw [← heq] at hone hzero h0 h1
    refine ⟨_, result, rfl, hresult, hone, hzero, h0, h1, fun _ => ?_⟩
    -- No positive number is below the smallest one, which is the help value.
    rcases le_or_gt (inputTensor indice) 0 with hle | hgt
    · exact .inl hle
    · exact .inr (le_of_pos hx hgt)
  · obtain ⟨i, _, _, hi⟩ := hx
    obtain ⟨result, hresult, heq⟩ := calculate_int32 hexact hi
    obtain ⟨hone, hzero, h0, h1⟩ := clamped_spec one_pos (mul_one 1) (inputTensor indice)
    rw [← heq] at hone hzero h0 h1
    refine ⟨_, result, rfl, hresult, hone, hzero, h0, h1, fun _ => ?_⟩
    rw [hi]
    rcases le_or_gt i 0 with hle | hgt
    · exact .inl (by exact_mod_cast hle)
    · right
      show (1 : ℚ) ≤ i
      exact_mod_cast Int.add_one_le_iff.mpr hgt
  · exact hx.elim

/-- The smallest positive number of `float32` is far below the smallest normal one. -/
theorem one_or_zero_of_number_subnormal :
    ∃ help result, helpConstants "float32" = .ok help ∧
      calculateOneOrZero (· * ·) (fun _ => 2 ^ (-149 : Int)) "float32" = .ok result ∧
      (result [0] = 1 ↔ help.helpMin ≤ 2 ^ (-149 : Int)) ∧
      (result [0] = 0 ↔ (2 : ℚ) ^ (-149 : Int) ≤ 0) ∧
      0 ≤ result [0] ∧ result [0] ≤ 1 ∧
      ("float32" ≠ "float32" → (2 : ℚ) ^ (-149 : Int) ≤ 0 ∨ help.helpMin ≤ 2 ^ (-149 : Int)) := by
  have hx : float32.Representable (2 ^ (-149 : Int)) :=
    representable_two_zpow (k := 0) (e := -149) (by decide) (by decide) (by decide)
  exact one_or_zero_of_number (fun _ _ _ _ _ => rfl) hx

end HwEfat.AutoSchedule.OneOrZero
