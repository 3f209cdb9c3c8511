/-
  HwEfat.AutoSchedule.Mad — `mad` of `auto_schedule/python/common.py`.

  The multiplication of matrices in fractal layouts: rows in blocks of 16, columns in blocks
  of 16, and what is summed over in blocks of 16 elements, or 32 for integers of eight bits.
  `tvm.sum` adds along its axes in their order, from zero; `in_a` and `in_b` are functions of
  the indices, as tensors are to `tvm.compute`.

  Main result: `mad_of_fractal`, that from the layouts of two matrices the layout of their
  product is computed, whatever the left one is padded with.
-/
import HwEfat.Lib.Blocks
import Mathlib.Algebra.Ring.Defs
import Mathlib.Data.BitVec

namespace HwEfat.AutoSchedule.Mad

open HwEfat.Lib

/-! ## §1. The function. -/

/-- `_BLOCK_SIZE`, which is `BLOCK_REDUCE` of `tbe_common_utils_const.pyh`. -/
def blockSize : Nat := 16

/-- `_BLOCK_INT8_SIZE`, which is `BLOCK_REDUCE_INT8`. -/
def blockInt8Size : Nat := 32

/-- The extent of the axis `k0`. -/
def blockReduce (resType : String) : Nat :=
  if resType = "int32" ∨ resType = "uint32" then blockInt8Size else blockSize

section Mad

/-! `α` and `β` are the types of the elements of `in_a` and `in_b`, and `R` that of the
result, to which `astype` takes both. -/

variable {α β R : Type} [Sub α] [Zero α] [Zero R] [Add R] [Mul R]

/-- `offset_x if v200_flag else 0` -/
def offset (offsetX : α) (v200Flag : Bool) : α := if v200Flag then offsetX else 0

/-- `mad`, where `inBShape1` is `in_b.shape[1]`. -/
def mad (astypeA : α → R) (astypeB : β → R) (resType : String) (inBShape1 : Nat)
    (inA : Nat → Nat → Nat → Nat → Nat → Nat → α) (inB : Nat → Nat → Nat → Nat → Nat → β)
    (offsetX : α) (v200Flag : Bool) (n cg j1 i j0 : Nat) : R :=
  (List.range inBShape1).foldl
    (fun acc k1 => (List.range (blockReduce resType)).foldl
      (fun acc k0 =>
        acc + astypeA (inA n cg (i / blockSize) k1 (i % blockSize) k0 - offset offsetX v200Flag) *
          astypeB (inB cg k1 j1 j0 k0)) acc) 0

/-! ## §2. Fractal layouts. -/

/-- The layout of the left matrices, one for each batch and group. -/
def fractalA (reduce : Nat) (a : Nat → Nat → Nat → Nat → α) (n cg i1 k1 i0 k0 : Nat) : α :=
  a n cg (i1 * blockSize + i0) (k1 * reduce + k0)

/-- The layout of the right matrices, one for each group. -/
def fractalB (reduce : Nat) (b : Nat → Nat → Nat → β) (cg k1 j1 j0 k0 : Nat) : β :=
  b cg (k1 * reduce + k0) (j1 * blockSize + j0)

/-- **Blocks make no difference**: the sum runs over the elements of a row and a column, one
after the other, in any arithmetic. -/
theorem mad_blocks (astypeA : α → R) (astypeB : β → R) (resType : String) (inBShape1 : Nat)
    (a : Nat → Nat → Nat → Nat → α) (b : Nat → Nat → Nat → β) (offsetX : α) (v200Flag : Bool)
    (n cg i j : Nat) :
    mad astypeA astypeB resType inBShape1 (fractalA (blockReduce resType) a)
        (fractalB (blockReduce resType) b) offsetX v200Flag n cg (j / blockSize) i (j % blockSize)
      = (List.range (inBShape1 * blockReduce resType)).foldl
          (fun acc k => acc + astypeA (a n cg i k - offset offsetX v200Flag) *
            astypeB (b cg k j)) 0 := by
  unfold mad fractalA fractalB
  rw [foldl_range_mul, Nat.div_add_mod', Nat.div_add_mod']

end Mad

/-! ## §3. The product. -/

section Product

variable {α β R : Type} [Sub α] [Zero α] [NonUnitalNonAssocSemiring R]

/-- **The product of two matrices.**  The sum is that of the first `k` elements, for a right
matrix that is padded with what `astype` takes to zero, and any padding of the left one. -/
theorem mad_of_fractal {astypeA : α → R} {astypeB : β → R} {resType : String}
    {inBShape1 k : Nat} {b : Nat → Nat → Nat → β} (hk : k ≤ inBShape1 * blockReduce resType)
    (hpad : ∀ cg k' j, k ≤ k' → astypeB (b cg k' j) = 0) (a : Nat → Nat → Nat → Nat → α)
    (offsetX : α) (v200Flag : Bool) (n cg i j : Nat) :
    mad astypeA astypeB resType inBShape1 (fractalA (blockReduce resType) a)
        (fractalB (blockReduce resType) b) offsetX v200Flag n cg (j / blockSize) i (j % blockSize)
      = ∑ k' ∈ Finset.range k,
          astypeA (a n cg i k' - offset offsetX v200Flag) * astypeB (b cg k' j) := by
  rw [mad_blocks, ← foldl_range_sum]
  refine foldl_range_padded hk (fun acc k' hk' => ?_) 0
  rw [hpad cg k' j hk', mul_zero, add_zero]

/-- Rows of three elements of eight bits, with an offset of one, in one block of 32; the
padding of the left matrix is not zero. -/
theorem mad_of_fractal_int8 :
    mad (fun x : BitVec 8 => x.signExtend 32) (fun x : BitVec 8 => x.signExtend 32) "int32" 1
        (fractalA (blockReduce "int32") fun _ _ i k => if k < 3 then BitVec.ofNat 8 (i + k) else 7)
        (fractalB (blockReduce "int32") fun _ k j => if k < 3 then BitVec.ofNat 8 (j + 2) else 0)
        1 true 0 0 (17 / blockSize) 5 (17 % blockSize)
      = ∑ k' ∈ Finset.range 3,
          ((if k' < 3 then BitVec.ofNat 8 (5 + k') else 7) - offset 1 true).signExtend 32 *
            (if k' < 3 then BitVec.ofNat 8 (17 + 2) else 0).signExtend 32 := by
  refine mad_of_fractal (by decide) (fun cg k' j hk' => ?_) _ 1 true 0 0 5 17
  rw [if_neg (Nat.not_lt.mpr hk')]
  rfl

end Product

end HwEfat.AutoSchedule.Mad
