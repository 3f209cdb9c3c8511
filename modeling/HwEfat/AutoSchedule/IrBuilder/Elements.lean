/-
  HwEfat.AutoSchedule.IrBuilder.Elements — what the emitted code computes, element by
  element.

  Emitters and instructions work at distances from offsets: the operation at distance
  `j` of a call that is shifted by `shift` is the operation at distance `shift + j` of
  the whole (`Shifts`).  With that, an emitter is right if the distances its
  instructions work on are together `0, …, data_len - 1`.

  Main result: `emitters_write_each`, for the four emitters that emit one instruction
  for all full blocks, however many there are.
-/
import Mathlib.Tactic.SplitIfs
import HwEfat.AutoSchedule.IrBuilder.Def

namespace HwEfat.AutoSchedule.IrBuilder

open HwEfat.Lib

/-! ## §1. The mask. -/

/-- The loop makes a mask of `n` ones. -/
theorem pushOnes_eq (n : Nat) : pushOnes n = 2 ^ n - 1 := by
  unfold pushOnes
  induction n with
  | zero => rfl
  | succ n ih =>
      rw [List.range_succ, List.foldl_append, ih]
      show (2 ^ n - 1) * 2 + 1 = 2 ^ (n + 1) - 1
      have hpos : 0 < 2 ^ n := Nat.two_pow_pos n
      rw [Nat.pow_succ]
      omega

section Paras

variable {dataLen alignLen : Nat}

/-- No rest, ... -/
theorem paras_none (h : dataLen % alignLen = 0) :
    getLoopnumAndMasklist dataLen alignLen = ⟨dataLen / alignLen, 0, 0, 0⟩ := by
  unfold getLoopnumAndMasklist
  dsimp only
  rw [if_neg (not_not_intro h)]

/-- ... a rest within the low word, ... -/
theorem paras_low (h : dataLen % alignLen ≠ 0) (hlow : dataLen % alignLen < 64) :
    getLoopnumAndMasklist dataLen alignLen =
      ⟨dataLen / alignLen, 1, 2 ^ (dataLen % alignLen) - 1, 0⟩ := by
  unfold getLoopnumAndMasklist
  dsimp only
  rw [if_pos h, if_pos hlow, pushOnes_eq]

/-- ... and one that fills it. -/
theorem paras_high (hhigh : 64 ≤ dataLen % alignLen) :
    getLoopnumAndMasklist dataLen alignLen =
      ⟨dataLen / alignLen, 1, 2 ^ 64 - 1, 2 ^ (dataLen % alignLen - 64) - 1⟩ := by
  unfold getLoopnumAndMasklist
  dsimp only
  rw [if_pos (show dataLen % alignLen ≠ 0 by omega),
    if_neg (show ¬ dataLen % alignLen < 64 by omega), pushOnes_eq]
  rfl

/-- The number of whole blocks. -/
@[simp] theorem loop_paras (dataLen alignLen : Nat) :
    (getLoopnumAndMasklist dataLen alignLen).loop = dataLen / alignLen := by
  by_cases h : dataLen % alignLen = 0
  · rw [paras_none h]
  · by_cases hlow : dataLen % alignLen < 64
    · rw [paras_low h hlow]
    · rw [paras_high (Nat.not_lt.mp hlow)]

/-- A mask is needed exactly if elements are left over. -/
theorem isNeedMask_paras (dataLen alignLen : Nat) :
    (getLoopnumAndMasklist dataLen alignLen).isNeedMask =
      if dataLen % alignLen = 0 then 0 else 1 := by
  by_cases h : dataLen % alignLen = 0
  · rw [paras_none h, if_pos h]
  · rw [if_neg h]
    by_cases hlow : dataLen % alignLen < 64
    · rw [paras_low h hlow]
    · rw [paras_high (Nat.not_lt.mp hlow)]

/-- The two words as the register holds them. -/
def MaskParas.register (paras : MaskParas) : Nat := paras.mask1 * 2 ^ 64 + paras.mask0

/-- **The mask of the rest**: its lowest bits, of both words together. -/
theorem register_paras (dataLen alignLen : Nat) :
    (getLoopnumAndMasklist dataLen alignLen).register = 2 ^ (dataLen % alignLen) - 1 := by
  by_cases h : dataLen % alignLen = 0
  · rw [paras_none h, h]
    simp [MaskParas.register]
  · by_cases hlow : dataLen % alignLen < 64
    · rw [paras_low h hlow]
      show 0 * 2 ^ 64 + (2 ^ (dataLen % alignLen) - 1) = _
      omega
    · -- the ones above 64 go to the high word
      have hsplit : 2 ^ (dataLen % alignLen) = 2 ^ (dataLen % alignLen - 64) * 2 ^ 64 := by
        rw [← Nat.pow_add]
        congr 1
        omega
      have hpos : 0 < 2 ^ (dataLen % alignLen - 64) := Nat.two_pow_pos _
      rw [paras_high (Nat.not_lt.mp hlow), hsplit]
      show (2 ^ (dataLen % alignLen - 64) - 1) * 2 ^ 64 + (2 ^ 64 - 1) = _
      omega

/-- Each word fits its 64 bits. -/
theorem words_lt (hpos : 0 < alignLen) (halign : alignLen ≤ 128) :
    (getLoopnumAndMasklist dataLen alignLen).mask0 < 2 ^ 64 ∧
      (getLoopnumAndMasklist dataLen alignLen).mask1 < 2 ^ 64 := by
  have hrest : dataLen % alignLen < 128 := Nat.lt_of_lt_of_le (Nat.mod_lt _ hpos) halign
  by_cases h : dataLen % alignLen = 0
  · rw [paras_none h]
    show 0 < 2 ^ 64 ∧ 0 < 2 ^ 64
    omega
  · -- The mask ends in the low word, or fills it and ends in the high one.
    by_cases hlow : dataLen % alignLen < 64
    · have hlt : 2 ^ (dataLen % alignLen) ≤ 2 ^ 64 :=
        Nat.pow_le_pow_right (by decide) (Nat.le_of_lt hlow)
      have hone : 0 < 2 ^ (dataLen % alignLen) := Nat.two_pow_pos _
      rw [paras_low h hlow]
      show 2 ^ (dataLen % alignLen) - 1 < 2 ^ 64 ∧ 0 < 2 ^ 64
      omega
    · have hlt : 2 ^ (dataLen % alignLen - 64) ≤ 2 ^ 64 :=
        Nat.pow_le_pow_right (by decide) (by omega)
      have hone : 0 < 2 ^ (dataLen % alignLen - 64) := Nat.two_pow_pos _
      rw [paras_high (Nat.not_lt.mp hlow)]
      show 2 ^ 64 - 1 < 2 ^ 64 ∧ 2 ^ (dataLen % alignLen - 64) - 1 < 2 ^ 64
      omega

end Paras

/-! ## §2. Running emitted code. -/

section Run

variable {ν ε : Type} {alignLen : Nat}

namespace VectorUnit

/-- Nothing is done. -/
@[simp] theorem run_skip (u : VectorUnit ν ε) : u.run alignLen .skip = u := rfl

/-- One instruction is one step. -/
@[simp] theorem run_emit (u : VectorUnit ν ε) (i : Instr ν ε) :
    u.run alignLen (.emit i) = u.step alignLen i := rfl

/-- Code after code. -/
@[simp] theorem run_seq (u : VectorUnit ν ε) (first second : Stmt ν ε) :
    u.run alignLen (.seq first second) = (u.run alignLen first).run alignLen second := by
  show (first.executed ++ second.executed).foldl _ u = _
  rw [List.foldl_append]
  rfl

/-- A call under the full mask works on whole blocks. -/
theorem step_full {u : VectorUnit ν ε} (halign : alignLen ≤ 128) (hmask : u.mask = fullMask)
    (call : VectorCall ν ε) :
    u.step alignLen (.vector call) =
      ⟨fullMask, u.log ++ (List.range (alignLen * call.repeats)).map call.at⟩ := by
  show (⟨u.mask, u.log ++ (Lanes.elements u.mask alignLen call.repeats).map call.at⟩ :
    VectorUnit ν ε) = _
  rw [hmask]
  have helements : Lanes.elements fullMask alignLen call.repeats =
      List.range (alignLen * call.repeats) := Lanes.elements_full halign call.repeats
  rw [helements]

/-- A sequence of calls under the full mask. -/
theorem foldl_calls (halign : alignLen ≤ 128) (calls : List (VectorCall ν ε)) :
    ∀ u : VectorUnit ν ε, u.mask = fullMask →
      (calls.map Instr.vector).foldl (VectorUnit.step alignLen) u =
        ⟨fullMask, u.log ++ calls.flatMap fun call =>
          (List.range (alignLen * call.repeats)).map call.at⟩ := by
  induction calls with
  | nil =>
      intro u hmask
      rw [← hmask]
      simp
  | cons call calls ih =>
      intro u hmask
      rw [List.map_cons, List.foldl_cons, step_full halign hmask, ih _ rfl]
      simp

end VectorUnit

/-- The tail of an emitter works on the first `data_len % align_len` distances, and
leaves the full mask. -/
theorem run_emitTail {u : VectorUnit ν ε} (dataLen : Nat) (hpos : 0 < alignLen)
    (hmask : u.mask = fullMask) {call : VectorCall ν ε} (hone : call.repeats = 1) :
    u.run alignLen (emitTail (getLoopnumAndMasklist dataLen alignLen) call) =
      ⟨fullMask, u.log ++ (List.range (dataLen % alignLen)).map call.at⟩ := by
  unfold emitTail when
  rw [isNeedMask_paras]
  -- Without a rest nothing is emitted, and the mask is not touched.
  by_cases hrest : dataLen % alignLen = 0
  · rw [if_pos hrest, if_neg (by decide), hrest, ← hmask]
    simp
  · rw [if_neg hrest, if_pos rfl]
    simp only [VectorUnit.run_seq, setVectorMask, VectorUnit.run_emit]
    show (⟨fullMask, u.log ++ (Lanes.elements (getLoopnumAndMasklist dataLen alignLen).register
      alignLen call.repeats).map call.at⟩ : VectorUnit ν ε) = _
    rw [register_paras, hone, Lanes.elements_low (Nat.le_of_lt (Nat.mod_lt _ hpos))]

/-- The calls an emitter makes are shifted copies of one. -/
def Shifts (call : Nat → Nat → VectorCall ν ε) (op : Nat → ElementOp ν ε) : Prop :=
  ∀ shift repeats, (call shift repeats).repeats = repeats ∧
    ∀ j, (call shift repeats).at j = op (shift + j)

/-- A shifted call works on the distances from its shift on. -/
theorem Shifts.map_at {call : Nat → Nat → VectorCall ν ε} {op : Nat → ElementOp ν ε}
    (h : Shifts call op) (shift repeats n : Nat) :
    (List.range n).map (call shift repeats).at = ((List.range n).map (shift + ·)).map op := by
  rw [List.map_map]
  exact List.map_congr_left fun j _ => (h shift repeats).2 j

/-! ## §3. One instruction for all blocks. -/

/-- The code writes what `op` says at the distances `0, …, data_len - 1`, each once and
in order, and nothing else; and it leaves the full mask as it found it.  Different
distances are different places. -/
structure WritesEach (alignLen dataLen : Nat) (code : Stmt ν ε) (op : Nat → ElementOp ν ε) :
    Prop where
  log : ∀ u : VectorUnit ν ε, u.mask = fullMask →
    u.run alignLen code = ⟨fullMask, u.log ++ (List.range dataLen).map op⟩
  places : ∀ i j, (op i).dst = (op j).dst → i = j

/-- **The blocks and the tail** make up the length. -/
theorem writesEach_emitBlocksAndTail {dataLen : Nat} (hpos : 0 < alignLen)
    (halign : alignLen ≤ 128) {call : Nat → Nat → VectorCall ν ε} {op : Nat → ElementOp ν ε}
    (hcall : Shifts call op) (hplaces : ∀ i j, (op i).dst = (op j).dst → i = j) :
    WritesEach alignLen dataLen (emitBlocksAndTail dataLen alignLen call) op := by
  refine ⟨fun u hmask => ?_, hplaces⟩
  have hblocks : u.run alignLen (when ((dataLen / alignLen) ≠ 0)
      (.emit (.vector (call 0 (dataLen / alignLen))))) =
      ⟨fullMask, u.log ++ (List.range (alignLen * (dataLen / alignLen))).map op⟩ := by
    -- Without a full block there is no instruction for the blocks.
    unfold when
    by_cases hloop : dataLen / alignLen = 0
    · rw [if_neg (not_not_intro hloop), hloop, ← hmask]
      simp
    · rw [if_pos hloop, VectorUnit.run_emit, VectorUnit.step_full halign hmask, hcall.map_at,
        (hcall _ _).1]
      simp
  unfold emitBlocksAndTail
  dsimp only
  rw [VectorUnit.run_seq, loop_paras, hblocks, run_emitTail dataLen hpos rfl (hcall _ _).1,
    hcall.map_at, List.append_assoc, ← List.map_append, Lanes.range_div_add_mod]

/-- The operation on element `j` of the output, from elements `j` of the inputs; every
buffer is counted from its own offset. -/
def elementOp (name : String) (value : Option (Value ν ε)) (out : Buffer × Int)
    (inputs : List (Buffer × Int)) (j : Nat) : ElementOp ν ε where
  name := name
  value := value
  dst := (out.1, out.2 + j)
  srcs := inputs.map fun input => (input.1, input.2 + j)

/-- Different elements are different places. -/
theorem elementOp_dst_injective (name : String) (value : Option (Value ν ε)) (out : Buffer × Int)
    (inputs : List (Buffer × Int)) (i j : Nat)
    (h : (elementOp name value out inputs i).dst = (elementOp name value out inputs j).dst) :
    i = j := by
  have hplace : out.2 + (i : Int) = out.2 + (j : Int) := (Prod.mk.inj h).2
  omega

/-- A call is shifted through its pointers. -/
theorem shifts_call (dtype name : String) (value : Option (Value ν ε)) (strides : List Nat)
    (out : Buffer × Int) (inputs : List (Buffer × Int)) :
    Shifts (fun shift repeats =>
      { dtype := dtype
        name := name
        dst := out.1.accessPtr .rw (out.2 + shift)
        srcs := inputs.map fun input => input.1.accessPtr .r (input.2 + shift)
        value := value
        repeats := repeats
        strides := strides }) (elementOp name value out inputs) := by
  intro shift repeats
  refine ⟨rfl, fun j => ?_⟩
  have hassoc : ∀ offset : Int, offset + shift + j = offset + ((shift + j : Nat) : Int) := by
    intro offset
    omega
  unfold VectorCall.at elementOp
  simp only [Buffer.accessPtr, List.map_map, hassoc, ElementOp.mk.injEq, true_and]
  exact List.map_congr_left fun input _ => by simp only [Function.comp, hassoc]

/-- **The four emitters.**  The code they emit writes elements `0, …, data_len - 1` of
the output, each once, from the same elements of the inputs, and nothing else; it leaves
the full mask; and the mask of the rest has its lowest `data_len % align_len` bits set,
in two words of 64 bits. -/
theorem emitters_write_each (out input1 input2 : Buffer × Int) (fucType : String)
    (scalar : Scalar ν ε) (dataLen alignLen : Nat) (halign : alignLen = 64 ∨ alignLen = 128) :
    WritesEach alignLen dataLen
      (kernelTwoToOneCommonFuc out input1 input2 dataLen alignLen fucType : Stmt ν ε)
      (elementOp fucType none out [input1, input2]) ∧
    WritesEach alignLen dataLen
      (kernelOneToOneCommonFuc out input1 dataLen alignLen fucType : Stmt ν ε)
      (elementOp fucType none out [input1]) ∧
    WritesEach alignLen dataLen
      (kernelScalarToOneFuc out input1 dataLen alignLen fucType scalar)
      (elementOp fucType (some (scalar.toValue out.1.dtype)) out [input1]) ∧
    WritesEach alignLen dataLen (kernelVectorDupFuc out scalar dataLen alignLen)
      (elementOp "vector_dup" (some (scalar.toValue out.1.dtype)) out []) ∧
    ∀ paras, paras = getLoopnumAndMasklist dataLen alignLen →
      (paras.mask0 < 2 ^ 64 ∧ paras.mask1 < 2 ^ 64) ∧
        ∀ bit, paras.register.testBit bit = decide (bit < dataLen % alignLen) := by
  have hpos : 0 < alignLen := by omega
  have hle : alignLen ≤ 128 := by omega
  refine ⟨?_, ?_, ?_, ?_, ?_⟩
  · exact writesEach_emitBlocksAndTail hpos hle (shifts_call _ _ _ _ out [input1, input2])
      (elementOp_dst_injective _ _ out _)
  · exact writesEach_emitBlocksAndTail hpos hle (shifts_call _ _ _ _ out [input1])
      (elementOp_dst_injective _ _ out _)
  · exact writesEach_emitBlocksAndTail hpos hle (shifts_call _ _ _ _ out [input1])
      (elementOp_dst_injective _ _ out _)
  · exact writesEach_emitBlocksAndTail hpos hle (shifts_call _ _ _ _ out [])
      (elementOp_dst_injective _ _ out _)
  · rintro paras rfl
    refine ⟨words_lt hpos hle, fun bit => ?_⟩
    rw [register_paras, Nat.testBit_two_pow_sub_one]

/-! ## Two buffers. -/

/-- The output buffer of the example, from its start. -/
def outUb : Buffer × Int := (⟨"out_ub", "float32"⟩, 0)

/-- The input buffer of the example, from its second block on. -/
def inputUb : Buffer × Int := (⟨"input_ub", "float16"⟩, 16)

/-- `emitters_write_each` on three blocks of 64 and a rest of 8. -/
theorem emitters_write_each_200 :
    WritesEach 64 200
      (kernelTwoToOneCommonFuc outUb inputUb inputUb 200 64 "vadd" : Stmt Nat Nat)
      (elementOp "vadd" none outUb [inputUb, inputUb]) :=
  (emitters_write_each outUb inputUb inputUb "vadd" (.number 1) 200 64 (by decide)).1

end Run

end HwEfat.AutoSchedule.IrBuilder
