/-
  HwEfat.AutoSchedule.Windowed — output sizes of windowed operators: the functions
  `tf_get_windowed_output_size*` of `auto_schedule/python/common.py`.

  Python's `//` rounds down, as `/` on `Int` does for a positive divisor, and the stride is
  checked to be positive.  The formula of the mode VALID is not clamped: where the filter is
  wider than the input by more than a stride, it is below zero.

  Main result: `verbose_v2_right_iff`.
-/
import HwEfat.Lib.Windows
import HwEfat.Lib.Python
import Mathlib.Algebra.Order.Floor.Ring
import Mathlib.Data.Rat.Floor

namespace HwEfat.AutoSchedule.Windowed

open HwEfat.Lib

/-! ## §1. The source. -/

/-- `(filter_size - 1) * dilation_rate + 1` -/
def effectiveFilterSize (filterSize dilationRate : Int) : Int :=
  (filterSize - 1) * dilationRate + 1

/-- `output_size`, `padding_before` and `padding_after`. -/
structure WindowedSize where
  outputSize : Int
  paddingBefore : Int
  paddingAfter : Int
  deriving Repr, DecidableEq

/-- `tf_get_windowed_output_size_verbose_v2` -/
def tfGetWindowedOutputSizeVerboseV2 (inputSize filterSize dilationRate stride : Int)
    (paddingType : String) : Except PyError WindowedSize := do
  raiseIf (stride ≤ 0) (.runtimeError
    ("Stride must be > 0, but stride is [" ++ toString stride ++ "]"))
  raiseIf (dilationRate < 1) (.runtimeError
    ("dilation_rate must be >= 1, but dilation_rate is [" ++ toString dilationRate ++ "]"))
  let effectiveFilterSize := effectiveFilterSize filterSize dilationRate
  if paddingType = "VALID" then
    return { outputSize := (inputSize - effectiveFilterSize + stride) / stride
             paddingBefore := 0
             paddingAfter := 0 }
  else if paddingType = "SAME" then
    let outputSize := (inputSize + stride - 1) / stride
    let paddingNeeded := max 0 ((outputSize - 1) * stride + effectiveFilterSize - inputSize)
    let paddingBefore := paddingNeeded / 2
    return { outputSize, paddingBefore, paddingAfter := paddingNeeded - paddingBefore }
  else
    .error (.runtimeError ("Unsupported padding type [" ++ paddingType ++
      "], padding_type must be VALID or SAME"))

/-- `tf_get_windowed_output_size_verbose` -/
def tfGetWindowedOutputSizeVerbose (inputSize filterSize stride : Int) (paddingType : String) :
    Except PyError WindowedSize :=
  tfGetWindowedOutputSizeVerboseV2 inputSize filterSize 1 stride paddingType

/-- `tf_get_windowed_output_size` -/
def tfGetWindowedOutputSize (inputSize filterSize stride : Int) (paddingType : String) :
    Except PyError (Int × Int) := do
  raiseIf (paddingType = "EXPLICIT") (.runtimeError
    ("tf_get_windowed_output_size does not handle EXPLITCIT padding; " ++
      "call tf_get_windowed_output_size_verbose instead."))
  let size ← tfGetWindowedOutputSizeVerbose inputSize filterSize stride paddingType
  return (size.outputSize, size.paddingBefore)

/-! ## §2. Windows along the padded input. -/

/-- **The sizes are right**: the padding is split evenly, the output counts the windows of
VALID, and in SAME there is one output for each started stride, with the least padding into
which that many windows fit. -/
structure SizesRight (inputSize effectiveFilterSize stride : Int) (paddingType : String)
    (size : WindowedSize) : Prop where
  before_nonneg : 0 ≤ size.paddingBefore
  before_le_after : size.paddingBefore ≤ size.paddingAfter
  after_le : size.paddingAfter ≤ size.paddingBefore + 1
  output_nonneg : 0 ≤ size.outputSize
  valid : paddingType = "VALID" → size.outputSize
    = Windows.count (inputSize + size.paddingBefore + size.paddingAfter) effectiveFilterSize
      stride
  same_output : paddingType = "SAME" → size.outputSize = ⌈(inputSize : ℚ) / stride⌉
  same_padding : paddingType = "SAME" →
    IsLeast {p : Int | 0 ≤ p ∧
        size.outputSize ≤ Windows.count (inputSize + p) effectiveFilterSize stride}
      (size.paddingBefore + size.paddingAfter)

section Sizes

variable {inputSize filterSize dilationRate stride : Int}

/-- The rounding of the source. -/
theorem ceil_div_eq (hstride : 1 ≤ stride) :
    ⌈(inputSize : ℚ) / stride⌉ = (inputSize + stride - 1) / stride := by
  have hpos : (0 : ℚ) < stride := by exact_mod_cast hstride
  set q := (inputSize + stride - 1) / stride with hq
  have hlow : q * stride ≤ inputSize + stride - 1 := Int.ediv_mul_le _ (by omega)
  have hhigh : inputSize + stride - 1 < (q + 1) * stride :=
    Int.lt_ediv_add_one_mul_self _ (by omega)
  rw [Int.ceil_eq_iff]
  constructor
  · rw [lt_div_iff₀ hpos]
    have hlt : (q - 1) * stride < inputSize := by linarith
    exact_mod_cast hlt
  · rw [div_le_iff₀ hpos]
    have hle : inputSize ≤ q * stride := by
      have h : inputSize < q * stride + 1 := by linarith
      omega
    exact_mod_cast hle

/-- What VALID returns: a rounded quotient and no padding. -/
theorem verbose_v2_valid (hdilation : 1 ≤ dilationRate) (hstride : 1 ≤ stride) :
    tfGetWindowedOutputSizeVerboseV2 inputSize filterSize dilationRate stride "VALID"
      = .ok ⟨(inputSize - effectiveFilterSize filterSize dilationRate + stride) / stride,
        0, 0⟩ := by
  have hnot : ¬ stride ≤ 0 := by omega
  have hnot' : ¬ dilationRate < 1 := by omega
  simp [tfGetWindowedOutputSizeVerboseV2, raiseIf, hnot, hnot', bind, Except.bind, pure,
    Except.pure]

/-- **VALID is right exactly if the filter is wider than the input by a stride at most.** -/
theorem valid_right_iff (hstride : 1 ≤ stride) {effectiveFilterSize : Int} :
    SizesRight inputSize effectiveFilterSize stride "VALID"
        ⟨(inputSize - effectiveFilterSize + stride) / stride, 0, 0⟩
      ↔ effectiveFilterSize ≤ inputSize + stride := by
  have hquot : 0 ≤ (inputSize - effectiveFilterSize + stride) / stride
      ↔ effectiveFilterSize ≤ inputSize + stride := by
    rw [Int.le_ediv_iff_mul_le (by omega)]
    constructor
    · intro h
      linarith
    · intro h
      linarith
  rw [← hquot]
  constructor
  · exact SizesRight.output_nonneg
  · intro hnonneg
    refine ⟨le_refl _, le_refl _, by simp, hnonneg, fun _ => ?_, fun h => ?_, fun h => ?_⟩
    · rw [Int.add_zero, Int.add_zero, Windows.count_eq (by omega), Int.toNat_of_nonneg hnonneg]
    · exact absurd h (by decide)
    · exact absurd h (by decide)

/-- **SAME is right.** -/
theorem same_right (hinput : 1 ≤ inputSize) (hdilation : 1 ≤ dilationRate)
    (hstride : 1 ≤ stride) :
    ∃ size, tfGetWindowedOutputSizeVerboseV2 inputSize filterSize dilationRate stride "SAME"
        = .ok size ∧
      SizesRight inputSize (effectiveFilterSize filterSize dilationRate) stride "SAME" size := by
  set output := (inputSize + stride - 1) / stride with houtput
  set needed := max 0 ((output - 1) * stride + effectiveFilterSize filterSize dilationRate
    - inputSize) with hneeded
  have hout : 1 ≤ output := by
    rw [houtput, Int.le_ediv_iff_mul_le (by omega)]
    omega
  have hnonneg : 0 ≤ needed := le_max_left ..
  have hnot : ¬ stride ≤ 0 := by omega
  have hnot' : ¬ dilationRate < 1 := by omega
  refine ⟨⟨output, needed / 2, needed - needed / 2⟩, ?_, ?_⟩
  · simp [tfGetWindowedOutputSizeVerboseV2, raiseIf, hnot, hnot', bind, Except.bind, pure,
      Except.pure, ← houtput, ← hneeded]
  · refine ⟨by dsimp only; omega, by dsimp only; omega, by dsimp only; omega,
      by dsimp only; omega, fun h => ?_, fun _ => ?_, fun _ => ?_⟩
    · exact absurd h (by decide)
    · rw [ceil_div_eq hstride]
    · have hsum : needed / 2 + (needed - needed / 2) = needed := by omega
      dsimp only
      rw [hsum, hneeded]
      exact Windows.isLeast_padding (by omega) hout

/-- The size without dilation, with the padding before it alone. -/
theorem output_size_eq {paddingType : String} {size : WindowedSize}
    (hsize : tfGetWindowedOutputSizeVerboseV2 inputSize filterSize 1 stride paddingType
      = .ok size) :
    tfGetWindowedOutputSize inputSize filterSize stride paddingType
      = .ok (size.outputSize, size.paddingBefore) := by
  -- A mode that has a size is not EXPLICIT.
  have hexplicit : paddingType ≠ "EXPLICIT" := by
    intro h
    subst h
    simp [tfGetWindowedOutputSizeVerboseV2, bind_eq_ok] at hsize
  unfold tfGetWindowedOutputSize tfGetWindowedOutputSizeVerbose
  rw [hsize]
  simp [raiseIf, hexplicit, bind, Except.bind, pure, Except.pure]

end Sizes

/-- **The sizes for the modes VALID and SAME are right exactly if, in VALID, the effective
filter is wider than the input by a stride at most.**  The sizes without dilation are those
that `tf_get_windowed_output_size` returns. -/
theorem verbose_v2_right_iff {inputSize filterSize dilationRate stride : Int}
    {paddingType : String} (hinput : 1 ≤ inputSize) (hdilation : 1 ≤ dilationRate)
    (hstride : 1 ≤ stride) (htype : paddingType = "VALID" ∨ paddingType = "SAME") :
    (∃ size, tfGetWindowedOutputSizeVerboseV2 inputSize filterSize dilationRate stride
        paddingType = .ok size ∧
      (SizesRight inputSize (effectiveFilterSize filterSize dilationRate) stride paddingType
          size ↔
        (paddingType = "VALID" →
          effectiveFilterSize filterSize dilationRate ≤ inputSize + stride))) ∧
    ∀ size, tfGetWindowedOutputSizeVerboseV2 inputSize filterSize 1 stride paddingType = .ok size →
      tfGetWindowedOutputSize inputSize filterSize stride paddingType
        = .ok (size.outputSize, size.paddingBefore) := by
  refine ⟨?_, fun size => output_size_eq⟩
  rcases htype with rfl | rfl
  · refine ⟨_, verbose_v2_valid hdilation hstride, ?_⟩
    rw [valid_right_iff hstride]
    exact ⟨fun h _ => h, fun h => h rfl⟩
  · obtain ⟨size, hsize, hright⟩ := same_right hinput hdilation hstride
    exact ⟨size, hsize, iff_of_true hright fun h => absurd h (by decide)⟩

/-- A filter of 2 cells with dilation 2 on 5 cells, and without. -/
theorem verbose_v2_right_iff_dilated :
    (∃ size, tfGetWindowedOutputSizeVerboseV2 5 2 2 1 "VALID" = .ok size ∧
      (SizesRight 5 (effectiveFilterSize 2 2) 1 "VALID" size ↔
        ("VALID" = "VALID" → effectiveFilterSize 2 2 ≤ 5 + 1))) ∧
      ∀ size, tfGetWindowedOutputSizeVerboseV2 5 2 1 1 "VALID" = .ok size →
        tfGetWindowedOutputSize 5 2 1 "VALID" = .ok (size.outputSize, size.paddingBefore) :=
  verbose_v2_right_iff (by decide) (by decide) (by decide) (Or.inl rfl)

/-- A filter of 5 cells on one cell has -3 outputs. -/
theorem valid_output_negative :
    tfGetWindowedOutputSizeVerboseV2 1 5 1 1 "VALID" = .ok ⟨-3, 0, 0⟩ ∧
      ¬ SizesRight 1 (effectiveFilterSize 5 1) 1 "VALID" ⟨-3, 0, 0⟩ :=
  ⟨by decide, fun h => absurd h.output_nonneg (by decide)⟩

end HwEfat.AutoSchedule.Windowed
