/-
  HwEfat.AutoSchedule.IrBuilder.Cast — the elements that `kernel_cast_to_fuc` converts.

  The instruction takes at most 255 repeats, so the full blocks are cut into rounds.
  There are `ceil(loop / 255)` of them, and the last one gets `loop % 255`: what is left
  over, unless nothing is, when it should be a full one and is an empty one.

  Main result: `cast_converts_iff` — every element is converted, once, exactly if the
  number of full blocks is zero or no multiple of 255.
-/
import Mathlib.Tactic.Ring
import HwEfat.AutoSchedule.IrBuilder.Elements

namespace HwEfat.AutoSchedule.IrBuilder

open HwEfat.Lib

variable {ν ε : Type} {alignLen : Nat}

/-! ## §1. The rounds. -/

/-- The repeats of round `i`. -/
def roundRepeats (loop i : Nat) : Nat :=
  if i = (loop + 255 - 1) / 255 - 1 then loop % 255 else 255

/-- The call of round `i`. -/
def roundCall (out input : Buffer × Int) (fucType : String) (strides : Nat × Nat)
    (alignLen loop i : Nat) : VectorCall ν ε :=
  castCall out input fucType strides (alignLen * 255 * i) (roundRepeats loop i)

/-- The rounds are executed in order, each with its repeats. -/
theorem executed_castRounds (out input : Buffer × Int) (fucType : String) (strides : Nat × Nat)
    (alignLen loop : Nat) :
    (castRounds out input fucType strides alignLen loop : Stmt ν ε).executed =
      ((List.range ((loop + 255 - 1) / 255)).map
        (roundCall out input fucType strides alignLen loop)).map .vector := by
  rw [List.map_map, ← List.flatMap_pure_eq_map]
  refine List.flatMap_congr fun i _ => ?_
  show (if i != (loop + 255 - 1) / 255 - 1 then _ else _) = [Instr.vector _]
  unfold roundCall roundRepeats
  -- The condition in the loop picks the repeats of the round.
  by_cases hlast : i = (loop + 255 - 1) / 255 - 1
  · rw [if_neg (by simpa using hlast), if_pos hlast]
    rfl
  · rw [if_pos (by simpa using hlast), if_neg hlast]
    rfl

/-- A conversion does the same at each element. -/
theorem shifts_castCall (out input : Buffer × Int) (fucType : String) (strides : Nat × Nat) :
    Shifts (castCall out input fucType strides : Nat → Nat → VectorCall ν ε)
      (elementOp fucType none out [input]) :=
  shifts_call out.1.dtype fucType none [1, 1, strides.1, strides.2] out [input]

/-- What round `i` works on. -/
theorem map_roundCall (out input : Buffer × Int) (fucType : String) (strides : Nat × Nat)
    (loop i : Nat) :
    (List.range (alignLen * (roundCall out input fucType strides alignLen loop i :
        VectorCall ν ε).repeats)).map
      (roundCall out input fucType strides alignLen loop i).at =
    ((List.range (alignLen * roundRepeats loop i)).map (alignLen * 255 * i + ·)).map
      (elementOp fucType none out [input] : Nat → ElementOp ν ε) := by
  have hcall : Shifts (castCall out input fucType strides : Nat → Nat → VectorCall ν ε) _ :=
    shifts_castCall out input fucType strides
  unfold roundCall
  rw [hcall.map_at, (hcall _ _).1]

/-- **The rounds**: all but the last one are full, and the last one takes the remainder,
whatever that is. -/
theorem run_castRounds (halign : alignLen ≤ 128) {u : VectorUnit ν ε} (hmask : u.mask = fullMask)
    (out input : Buffer × Int) (fucType : String) (strides : Nat × Nat) {loop : Nat}
    (hloop : loop ≠ 0) :
    u.run alignLen (castRounds out input fucType strides alignLen loop) =
      ⟨fullMask, u.log ++ (List.range (alignLen * (255 * ((loop - 1) / 255) + loop % 255))).map
        (elementOp fucType none out [input])⟩ := by
  show (castRounds out input fucType strides alignLen loop).executed.foldl _ u = _
  rw [executed_castRounds, VectorUnit.foldl_calls halign _ u hmask, List.flatMap_map]
  congr 2
  have hrounds : (loop + 255 - 1) / 255 = (loop - 1) / 255 + 1 := by omega
  -- the rounds before the last one ...
  have hfull : (List.range ((loop - 1) / 255)).flatMap (fun i =>
        (List.range (alignLen * roundRepeats loop i)).map (alignLen * 255 * i + ·)) =
      List.range (alignLen * 255 * ((loop - 1) / 255)) := by
    rw [← Lanes.range_blocks]
    refine List.flatMap_congr fun i hi => ?_
    have hi : i < (loop - 1) / 255 := List.mem_range.mp hi
    have hrep : roundRepeats loop i = 255 := if_neg (by omega)
    rw [hrep]
  -- ... and the last one
  have hlast : roundRepeats loop ((loop - 1) / 255) = loop % 255 := if_pos (by omega)
  simp only [map_roundCall]
  rw [← List.map_flatMap, hrounds, List.range_succ, List.flatMap_append, hfull,
    List.flatMap_singleton, hlast, ← List.range_add]
  congr 2
  ring

/-! ## §2. The whole. -/

/-- The blocks that are converted. -/
def convertedBlocks (loop : Nat) : Nat :=
  if loop = 0 then 0 else 255 * ((loop - 1) / 255) + loop % 255

/-- These are all of them, unless all rounds are full. -/
theorem convertedBlocks_eq_iff (loop : Nat) :
    convertedBlocks loop = loop ↔ (loop = 0 ∨ loop % 255 ≠ 0) := by
  unfold convertedBlocks
  by_cases h : loop = 0
  · simp [h]
  · rw [if_neg h]
    omega

/-- `kernel_cast_to_fuc` with the strides of a supported conversion. -/
def castCode (out input : Buffer × Int) (fucType : String) (strides : Nat × Nat)
    (dataLen alignLen : Nat) : Stmt ν ε :=
  .seq
    (when (dataLen / alignLen ≠ 0)
      (castRounds out input fucType strides alignLen (dataLen / alignLen)))
    (emitTail (getLoopnumAndMasklist dataLen alignLen)
      (castCall out input fucType strides (alignLen * (dataLen / alignLen)) 1))

/-- `kernel_cast_to_fuc` for a conversion that it supports. -/
theorem kernelCastToFuc_eq (out input : Buffer × Int) {fucType : String} {strides : Nat × Nat}
    (hstrides : castStrides fucType = some strides) (dataLen alignLen : Nat) :
    (kernelCastToFuc out input dataLen alignLen fucType : Option (Stmt ν ε)) =
      some (castCode out input fucType strides dataLen alignLen) := by
  unfold kernelCastToFuc castCode
  rw [hstrides]
  simp only [loop_paras]

/-- What the code works on: the converted blocks, and the rest where it is. -/
theorem run_castCode (hpos : 0 < alignLen) (halign : alignLen ≤ 128) {u : VectorUnit ν ε}
    (hmask : u.mask = fullMask) (out input : Buffer × Int) (fucType : String)
    (strides : Nat × Nat) (dataLen : Nat) :
    u.run alignLen (castCode out input fucType strides dataLen alignLen) =
      ⟨fullMask, u.log ++
        (List.range (alignLen * convertedBlocks (dataLen / alignLen)) ++
          (List.range (dataLen % alignLen)).map (alignLen * (dataLen / alignLen) + ·)).map
          (elementOp fucType none out [input])⟩ := by
  have hcall : Shifts (castCall out input fucType strides : Nat → Nat → VectorCall ν ε) _ :=
    shifts_castCall out input fucType strides
  have hrounds : u.run alignLen (when (dataLen / alignLen ≠ 0)
      (castRounds out input fucType strides alignLen (dataLen / alignLen))) =
      ⟨fullMask, u.log ++ (List.range (alignLen * convertedBlocks (dataLen / alignLen))).map
        (elementOp fucType none out [input])⟩ := by
    -- Without a full block there are no rounds.
    unfold when convertedBlocks
    by_cases hloop : dataLen / alignLen = 0
    · rw [if_neg (not_not_intro hloop), if_pos hloop, ← hmask]
      simp
    · rw [if_pos hloop, if_neg hloop, run_castRounds halign hmask _ _ _ _ hloop]
  unfold castCode
  rw [VectorUnit.run_seq, hrounds, run_emitTail dataLen hpos rfl (hcall _ _).1, hcall.map_at,
    List.append_assoc, ← List.map_append]

/-- The code applies `op` at the distances `0, …, data_len - 1`, at each of them once,
and nowhere else. -/
def ConvertsEach (alignLen dataLen : Nat) (code : Stmt ν ε) (op : Nat → ElementOp ν ε) : Prop :=
  ∀ u : VectorUnit ν ε, u.mask = fullMask → ∃ ops, (u.run alignLen code).log = u.log ++ ops ∧
    ops.Perm ((List.range dataLen).map op)

/-- **When `kernel_cast_to_fuc` converts every element once**: exactly if the number of
full blocks is zero, or no multiple of 255. -/
theorem cast_converts_iff (out input : Buffer × Int) {fucType : String}
    (hsupported : (castStrides fucType).isSome) (dataLen alignLen : Nat)
    (halign : alignLen = 64 ∨ alignLen = 128) :
    ∃ code : Stmt ν ε, kernelCastToFuc out input dataLen alignLen fucType = some code ∧
      (ConvertsEach alignLen dataLen code (elementOp fucType none out [input]) ↔
        (dataLen / alignLen = 0 ∨ dataLen / alignLen % 255 ≠ 0)) := by
  have hpos : 0 < alignLen := by omega
  have hle : alignLen ≤ 128 := by omega
  obtain ⟨strides, hstrides⟩ := Option.isSome_iff_exists.mp hsupported
  refine ⟨_, kernelCastToFuc_eq out input hstrides dataLen alignLen, ?_⟩
  rw [← convertedBlocks_eq_iff]
  constructor
  · intro h
    -- as many operations as elements are as many blocks
    obtain ⟨ops, hlog, hperm⟩ := h ⟨fullMask, []⟩ rfl
    rw [run_castCode hpos hle rfl] at hlog
    have hops : ops = _ := hlog.symm
    have hlength := hperm.length_eq
    rw [hops] at hlength
    simp only [List.nil_append, List.length_map, List.length_append, List.length_range] at hlength
    have hsplit : alignLen * (dataLen / alignLen) + dataLen % alignLen = dataLen :=
      Nat.div_add_mod dataLen alignLen
    exact Nat.eq_of_mul_eq_mul_left hpos (by omega)
  · intro hall u hmask
    refine ⟨(List.range dataLen).map (elementOp fucType none out [input]), ?_, .refl _⟩
    rw [run_castCode hpos hle hmask, hall, Lanes.range_div_add_mod]

/-! ## 255 blocks. -/

/-- `cast_converts_iff` on 200 elements in blocks of 64. -/
theorem cast_converts_iff_200 :
    ∃ code : Stmt Nat Nat, kernelCastToFuc outUb inputUb 200 64 "vconv_f162f32" = some code ∧
      (ConvertsEach 64 200 code (elementOp "vconv_f162f32" none outUb [inputUb]) ↔
        (200 / 64 = 0 ∨ 200 / 64 % 255 ≠ 0)) :=
  cast_converts_iff outUb inputUb (by decide) 200 64 (by decide)

/-- 255 blocks of 64: one round, and it is empty. -/
theorem full_round_unconverted :
    ¬ ∀ code : Stmt Nat Nat,
      kernelCastToFuc outUb inputUb (255 * 64) 64 "vconv_f162f32" = some code →
      ConvertsEach 64 (255 * 64) code (elementOp "vconv_f162f32" none outUb [inputUb]) := by
  intro h
  obtain ⟨ops, hlog, hperm⟩ := h _ (kernelCastToFuc_eq outUb inputUb rfl (255 * 64) 64)
    ⟨fullMask, []⟩ rfl
  rw [run_castCode (by decide) (by decide) rfl] at hlog
  have hnil : ops = [] := hlog.symm
  rw [hnil] at hperm
  have hlength := hperm.length_eq
  rw [List.length_map, List.length_range] at hlength
  exact absurd hlength (by decide)

end HwEfat.AutoSchedule.IrBuilder
