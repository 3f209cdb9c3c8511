/-
  HwEfat.AutoSchedule.DimConv.Protogenes — the two reference conversions undo each other.

  A channel `c` is channel `c % 16` of block `c / 16`, and the last block may be filled in
  part.  The number of blocks comes from a division of floats, which is exact for every
  channel number that a float holds.

  Main result: `protogenes_inverse`, both compositions.
-/
import Mathlib.Algebra.Order.Floor.Ring
import Mathlib.Data.Rat.Floor
import Mathlib.Tactic.FieldSimp
import Mathlib.Tactic.NormNum
import HwEfat.AutoSchedule.DimConv.Def

namespace HwEfat.AutoSchedule.DimConv

open HwEfat.Lib

/-! ## §1. Division of two `int`s. -/

/-- A number that a `float` holds: 53 bits, and an exponent. -/
def IsDouble (q : ℚ) : Prop :=
  ∃ m e : ℤ, |m| < 2 ^ 53 ∧ -1074 ≤ e ∧ e ≤ 971 ∧ q = m * 2 ^ e

/-- The `/` of two `int`s, which rounds to a `float` what a `float` does not hold. -/
structure TrueDiv where
  div : Nat → Nat → ℚ
  exact : ∀ a b : Nat, 0 < b → IsDouble ((a : ℚ) / b) → div a b = (a : ℚ) / b

/-- `int(math.ceil(a / b))` -/
def TrueDiv.ceilDiv (op : TrueDiv) (a b : Nat) : Nat := ⌈op.div a b⌉.toNat

/-- A sixteenth of a small number is a double. -/
theorem isDouble_div_16 {a : Nat} (h : a < 2 ^ 53) : IsDouble ((a : ℚ) / (16 : Nat)) := by
  refine ⟨a, -4, ?_, by norm_num, by norm_num, ?_⟩
  · rw [Nat.abs_cast]
    exact_mod_cast h
  · norm_num [zpow_neg]
    ring

/-- The blocks of 16 channels. -/
theorem TrueDiv.ceilDiv_16 (op : TrueDiv) {a : Nat} (h : a < 2 ^ 53) :
    op.ceilDiv a 16 = (a + 16 - 1) / 16 := by
  unfold TrueDiv.ceilDiv
  rw [op.exact a 16 (by norm_num) (isDouble_div_16 h)]
  have hceil : ⌈(a : ℚ) / (16 : Nat)⌉ = (((a + 16 - 1) / 16 : Nat) : ℤ) := by
    rw [Int.ceil_eq_iff]
    -- The quotient by 16 rounded up, as an inequality between numbers.
    have hlow : 16 * ((a + 16 - 1) / 16) < a + 16 := by omega
    have hhigh : a ≤ 16 * ((a + 16 - 1) / 16) := by omega
    generalize (a + 16 - 1) / 16 = k at hlow hhigh
    have hlow' : 16 * (k : ℚ) < a + 16 := by exact_mod_cast hlow
    have hhigh' : (a : ℚ) ≤ 16 * k := by exact_mod_cast hhigh
    push_cast
    constructor <;> linarith
  rw [hceil]
  rfl

/-! ## §2. Tensors. -/

/-- A tensor with 4 axes: its shape, and its elements where the indices are in the shape. -/
structure Tensor4 where
  shape : Nat × Nat × Nat × Nat
  value : Nat → Nat → Nat → Nat → Fp16

/-- A tensor with 5 axes. -/
structure Tensor5 where
  shape : Nat × Nat × Nat × Nat × Nat
  value : Nat → Nat → Nat → Nat → Nat → Fp16

/-- The same shape, and the same elements in it. -/
def Tensor4.Same (t t' : Tensor4) : Prop :=
  t.shape = t'.shape ∧
    ∀ n c h w, n < t.shape.1 → c < t.shape.2.1 → h < t.shape.2.2.1 → w < t.shape.2.2.2 →
      t.value n c h w = t'.value n c h w

/-- The same shape, and the same values in it. -/
def Tensor5.Same (t t' : Tensor5) : Prop :=
  t.shape = t'.shape ∧
    ∀ n c1 h w c0, n < t.shape.1 → c1 < t.shape.2.1 → h < t.shape.2.2.1 →
      w < t.shape.2.2.2.1 → c0 < t.shape.2.2.2.2 → t.value n c1 h w c0 = t'.value n c1 h w c0

/-- The channels that fill up the last block are 0. -/
def Tensor5.PaddingZero (t : Tensor5) (shape : Shape4D) : Prop :=
  ∀ n c1 h w c0, n < t.shape.1 → c1 < t.shape.2.1 → h < t.shape.2.2.1 → w < t.shape.2.2.2.1 →
    c0 < t.shape.2.2.2.2 → shape.c ≤ c0 + c1 * 16 → t.value n c1 h w c0 = 0

/-- `raw_shape_4D`, as the shape of a tensor. -/
def Shape4D.raw (shape : Shape4D) : Nat × Nat × Nat × Nat :=
  (shape.n, shape.c, shape.h, shape.w)

/-- `out_shape` of `convert_4d_to_5d_for_protogenes` -/
def Shape4D.outShape (op : TrueDiv) (shape : Shape4D) : Nat × Nat × Nat × Nat × Nat :=
  (shape.n, op.ceilDiv shape.c 16, shape.h, shape.w, 16)

/-- The tensor that `convert_4d_to_5d_for_protogenes` computes. -/
def computeFour2five (op : TrueDiv) (shape : Shape4D) (inputTensor : Tensor4) : Tensor5 where
  shape := shape.outShape op
  value := convert4dTo5dForProtogenes shape inputTensor.value

/-- The tensor that `convert_5d_to_4d_for_protogenes` computes. -/
def computeFive2four (shape : Shape4D) (inputTensor : Tensor5) : Tensor4 where
  shape := shape.raw
  value := convert5dTo4dForProtogenes shape inputTensor.value

/-! ## §3. Both compositions. -/

variable {op : TrueDiv} {shape : Shape4D}

/-- The conversion reads elements of its input only. -/
theorem Tensor4.Same.computeFour2five {t t' : Tensor4} (hsame : t.Same t')
    (hshape : t.shape = shape.raw) :
    (computeFour2five op shape t).Same (computeFour2five op shape t') := by
  refine ⟨rfl, fun n c1 h w c0 hn _ hh hw _ => ?_⟩
  show convert4dTo5dForProtogenes shape t.value n c1 h w c0
    = convert4dTo5dForProtogenes shape t'.value n c1 h w c0
  unfold convert4dTo5dForProtogenes
  by_cases hc : c0 + c1 * 16 < shape.c
  · rw [if_pos hc, if_pos hc]
    apply hsame.2 <;> rw [hshape] <;> assumption
  · rw [if_neg hc, if_neg hc]

/-- So does the inverse one: a channel is in one of the blocks. -/
theorem Tensor5.Same.computeFive2four {t t' : Tensor5} (hsame : t.Same t')
    (hc53 : shape.c < 2 ^ 53) (hshape : t.shape = shape.outShape op) :
    (computeFive2four shape t).Same (computeFive2four shape t') := by
  refine ⟨rfl, fun n c h w hn hc hh hw => ?_⟩
  show convert5dTo4dForProtogenes shape t.value n c h w
    = convert5dTo4dForProtogenes shape t'.value n c h w
  have hc : c < shape.c := hc
  have hblock : c / 16 < op.ceilDiv shape.c 16 := by
    rw [op.ceilDiv_16 hc53]
    omega
  unfold convert5dTo4dForProtogenes
  rw [if_pos hc, if_pos hc]
  apply hsame.2 <;> rw [hshape]
  · exact hn
  · exact hblock
  · exact hh
  · exact hw
  · exact Nat.mod_lt c (by decide)

/-- There and back: a channel is joined from what it was split into. -/
theorem five2four_four2five {t : Tensor4} (hshape : t.shape = shape.raw) :
    (computeFive2four shape (computeFour2five op shape t)).Same t := by
  refine ⟨hshape.symm, fun n c h w _ hc _ _ => ?_⟩
  have hc : c < shape.c := hc
  show convert5dTo4dForProtogenes shape (convert4dTo5dForProtogenes shape t.value) n c h w
    = t.value n c h w
  have hjoin : c % 16 + c / 16 * 16 = c := by omega
  unfold convert5dTo4dForProtogenes convert4dTo5dForProtogenes
  rw [if_pos hc, hjoin, if_pos hc]

/-- What is added to fill the last block is zero. -/
theorem paddingZero_four2five (t : Tensor4) :
    (computeFour2five op shape t).PaddingZero shape := by
  intro n c1 h w c0 _ _ _ _ _ hpadding
  exact if_neg (Nat.not_lt.mpr hpadding)

/-- Back and there: a place of a block is split off from the channel it was joined to. -/
theorem four2five_five2four {t : Tensor5} (hshape : t.shape = shape.outShape op)
    (hpadding : t.PaddingZero shape) :
    (computeFour2five op shape (computeFive2four shape t)).Same t := by
  refine ⟨hshape.symm, fun n c1 h w c0 hn hc1 hh hw hc0 => ?_⟩
  show convert4dTo5dForProtogenes shape (convert5dTo4dForProtogenes shape t.value) n c1 h w c0
    = t.value n c1 h w c0
  unfold convert4dTo5dForProtogenes convert5dTo4dForProtogenes
  by_cases hc : c0 + c1 * 16 < shape.c
  · have hc0 : c0 < 16 := hc0
    have hdiv : (c0 + c1 * 16) / 16 = c1 := by omega
    have hmod : (c0 + c1 * 16) % 16 = c0 := by omega
    rw [if_pos hc, if_pos hc, hdiv, hmod]
  · rw [if_neg hc]
    symm
    apply hpadding <;> try rw [hshape]
    · exact hn
    · exact hc1
    · exact hh
    · exact hw
    · exact hc0
    · exact Nat.not_lt.mp hc

/-- **The conversions are mutually inverse**, where the padding channels of a tensor in blocks
are 0, as the first conversion leaves them. -/
theorem protogenes_inverse (op : TrueDiv) (shape : Shape4D) (hc : shape.c < 2 ^ 53) :
    (∀ t : Tensor4, t.shape = shape.raw →
      (computeFive2four shape (computeFour2five op shape t)).Same t ∧
        (computeFour2five op shape t).PaddingZero shape) ∧
      ∀ t : Tensor5, t.shape = (shape.n, (shape.c + 15) / 16, shape.h, shape.w, 16) →
        t.PaddingZero shape →
          (computeFour2five op shape (computeFive2four shape t)).Same t := by
  constructor
  · intro t hshape
    exact ⟨five2four_four2five hshape, paddingZero_four2five t⟩
  · intro t hshape hpadding
    have hout : t.shape = shape.outShape op := by
      rw [hshape]
      unfold Shape4D.outShape
      rw [op.ceilDiv_16 hc]
      rfl
    exact four2five_five2four hout hpadding

/-- Division without rounding, as of numbers whose quotient a `float` holds. -/
def exactDiv : TrueDiv where
  div a b := (a : ℚ) / b
  exact _ _ _ _ := rfl

/-- One full block and a channel. -/
def seventeenChannels : Shape4D where
  n := 1
  c := 17
  h := 1
  w := 1
  n_pos := Nat.one_pos
  c_pos := by decide
  h_pos := Nat.one_pos
  w_pos := Nat.one_pos

/-- Seventeen channels: there is padding. -/
theorem protogenes_inverse_17 :
    (∀ t : Tensor4, t.shape = (1, 17, 1, 1) →
      (computeFive2four seventeenChannels
        (computeFour2five exactDiv seventeenChannels t)).Same t ∧
        (computeFour2five exactDiv seventeenChannels t).PaddingZero seventeenChannels) ∧
      ∀ t : Tensor5, t.shape = (1, 2, 1, 1, 16) → t.PaddingZero seventeenChannels →
        (computeFour2five exactDiv seventeenChannels
          (computeFive2four seventeenChannels t)).Same t :=
  protogenes_inverse exactDiv seventeenChannels (by decide)

end HwEfat.AutoSchedule.DimConv
