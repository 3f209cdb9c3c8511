/-
  HwEfat.AutoSchedule.IrBuilder.Repeats — the repeat counts of the emitted instructions.

  The count is a field of the instruction, and holds 1 to 255.  `kernel_cast_to_fuc`
  cuts its blocks into rounds on that account; the other emitters put the number of
  blocks into the field as it is.  So does the last round of the cast with its
  remainder, which is zero when nothing remains.

  Main result: `repeats_in_field_iff`, emitter by emitter.
-/
import HwEfat.AutoSchedule.IrBuilder.Cast

namespace HwEfat.AutoSchedule.IrBuilder

variable {ν ε : Type}

/-- Every vector instruction in the code has a count that the field can hold. -/
def RepeatsInField (code : Stmt ν ε) : Prop :=
  ∀ call, code.Emits call → 1 ≤ call.repeats ∧ call.repeats ≤ 255

/-- Code after code has repeats that fit if both parts have. -/
theorem repeatsInField_seq (first second : Stmt ν ε) :
    RepeatsInField (.seq first second) ↔ RepeatsInField first ∧ RepeatsInField second := by
  constructor
  · exact fun h => ⟨fun call hc => h call (Or.inl hc), fun call hc => h call (Or.inr hc)⟩
  · intro h call hc
    cases hc with
    | inl hc => exact h.1 call hc
    | inr hc => exact h.2 call hc

/-- The repeats of a single call. -/
theorem repeatsInField_emit (call : VectorCall ν ε) :
    RepeatsInField (.emit (.vector call)) ↔ 1 ≤ call.repeats ∧ call.repeats ≤ 255 := by
  constructor
  · exact fun h => h call rfl
  · intro h call' hc
    cases hc
    exact h

/-- Setting the mask repeats nothing. -/
theorem repeatsInField_setVectorMask (mask1 mask0 : Nat) :
    RepeatsInField (setVectorMask mask1 mask0 : Stmt ν ε) := by
  intro call hc
  cases hc

/-- Code under a Python condition is emitted only if it holds. -/
theorem repeatsInField_when (c : Prop) [Decidable c] (code : Stmt ν ε) :
    RepeatsInField (when c code) ↔ (c → RepeatsInField code) := by
  unfold when
  by_cases hc : c
  · rw [if_pos hc]
    exact ⟨fun h _ => h, fun h => h hc⟩
  · rw [if_neg hc]
    exact ⟨fun _ h => absurd h hc, fun _ _ h => h.elim⟩

/-- Both branches of an `if_scope` are emitted. -/
theorem repeatsInField_ifScope (condition : Bool) (thenScope elseScope : Stmt ν ε) :
    RepeatsInField (.ifScope condition thenScope elseScope) ↔
      RepeatsInField thenScope ∧ RepeatsInField elseScope :=
  repeatsInField_seq thenScope elseScope

/-- The body of a loop, for each of its indices. -/
theorem repeatsInField_forRange (extent : Nat) (body : Nat → Stmt ν ε) :
    RepeatsInField (.forRange extent body) ↔ ∀ i < extent, RepeatsInField (body i) := by
  constructor
  · exact fun h i hi call hc => h call ⟨i, hi, hc⟩
  · intro h call hc
    obtain ⟨i, hi, hc⟩ := hc
    exact h i hi call hc

/-- One instruction under a mask is always within the field. -/
theorem repeatsInField_emitTail (paras : MaskParas) {call : VectorCall ν ε}
    (hone : call.repeats = 1) : RepeatsInField (emitTail paras call) := by
  unfold emitTail
  rw [repeatsInField_when]
  intro _
  rw [repeatsInField_seq, repeatsInField_seq, repeatsInField_emit, hone]
  exact ⟨repeatsInField_setVectorMask _ _, ⟨by decide, by decide⟩, repeatsInField_setVectorMask _ _⟩

/-- One instruction for all blocks: as many as the field can hold. -/
theorem repeatsInField_emitBlocksAndTail (dataLen alignLen : Nat)
    {call : Nat → Nat → VectorCall ν ε}
    (hcall : ∀ shift repeats, (call shift repeats).repeats = repeats) :
    RepeatsInField (emitBlocksAndTail dataLen alignLen call) ↔ dataLen / alignLen ≤ 255 := by
  unfold emitBlocksAndTail
  dsimp only
  rw [repeatsInField_seq, repeatsInField_when, repeatsInField_emit, hcall, loop_paras]
  constructor
  · intro h
    by_cases hloop : dataLen / alignLen = 0
    · omega
    · exact (h.1 hloop).2
  · intro h
    exact ⟨fun hloop => ⟨Nat.pos_of_ne_zero hloop, h⟩, repeatsInField_emitTail _ (hcall _ _)⟩

/-- The rounds: 255 is within the field, the remainder unless it is zero. -/
theorem repeatsInField_castRounds (out input : Buffer × Int) (fucType : String)
    (strides : Nat × Nat) (alignLen : Nat) {loop : Nat} (hloop : loop ≠ 0) :
    RepeatsInField (castRounds out input fucType strides alignLen loop : Stmt ν ε) ↔
      loop % 255 ≠ 0 := by
  unfold castRounds
  dsimp only
  rw [repeatsInField_forRange]
  simp only [repeatsInField_ifScope, repeatsInField_emit, castCall]
  have hlt : loop % 255 < 255 := Nat.mod_lt _ (by decide)
  -- Both branches of the condition are emitted: 255 repeats, and the remainder.
  constructor
  · intro h
    have hlast := (h 0 (by omega)).2
    omega
  · intro h i _
    omega

/-- **Which emitters keep to the field.**  Those that emit one instruction for all full
blocks do exactly if there are at most 255 of them; `kernel_cast_to_fuc` does exactly if
their number is zero, or no multiple of 255. -/
theorem repeats_in_field_iff (out input1 input2 : Buffer × Int) (fucType : String)
    (scalar : Scalar ν ε) {castType : String} (hsupported : (castStrides castType).isSome)
    (dataLen alignLen : Nat) :
    (RepeatsInField (kernelTwoToOneCommonFuc out input1 input2 dataLen alignLen fucType :
        Stmt ν ε) ↔ dataLen / alignLen ≤ 255) ∧
    (RepeatsInField (kernelOneToOneCommonFuc out input1 dataLen alignLen fucType : Stmt ν ε) ↔
      dataLen / alignLen ≤ 255) ∧
    (RepeatsInField (kernelScalarToOneFuc out input1 dataLen alignLen fucType scalar) ↔
      dataLen / alignLen ≤ 255) ∧
    (RepeatsInField (kernelVectorDupFuc out scalar dataLen alignLen) ↔
      dataLen / alignLen ≤ 255) ∧
    ∃ code : Stmt ν ε, kernelCastToFuc out input1 dataLen alignLen castType = some code ∧
      (RepeatsInField code ↔ (dataLen / alignLen = 0 ∨ dataLen / alignLen % 255 ≠ 0)) := by
  obtain ⟨strides, hstrides⟩ := Option.isSome_iff_exists.mp hsupported
  refine ⟨repeatsInField_emitBlocksAndTail _ _ fun _ _ => rfl,
    repeatsInField_emitBlocksAndTail _ _ fun _ _ => rfl,
    repeatsInField_emitBlocksAndTail _ _ fun _ _ => rfl,
    repeatsInField_emitBlocksAndTail _ _ fun _ _ => rfl,
    _, kernelCastToFuc_eq out input1 hstrides dataLen alignLen, ?_⟩
  have htail : RepeatsInField (emitTail (getLoopnumAndMasklist dataLen alignLen)
      (castCall out input1 castType strides (alignLen * (dataLen / alignLen)) 1) : Stmt ν ε) :=
    repeatsInField_emitTail _ rfl
  unfold castCode
  rw [repeatsInField_seq, repeatsInField_when, and_iff_left htail]
  by_cases hloop : dataLen / alignLen = 0
  · exact ⟨fun _ => Or.inl hloop, fun _ h => absurd hloop h⟩
  · rw [forall_prop_of_true hloop, repeatsInField_castRounds _ _ _ _ _ hloop, or_iff_right hloop]

/-! ## 256 blocks. -/

/-- `repeats_in_field_iff` on 256 blocks of 64: the cast is within the field. -/
theorem repeats_in_field_iff_256 :
    ∃ code : Stmt Nat Nat, kernelCastToFuc outUb inputUb (256 * 64) 64 "vconv_f162f32" = some code ∧
      (RepeatsInField code ↔ (256 * 64 / 64 = 0 ∨ 256 * 64 / 64 % 255 ≠ 0)) :=
  (repeats_in_field_iff outUb inputUb inputUb "vadd" (.number 1) (by decide) (256 * 64) 64).2.2.2.2

/-- 256 blocks of 64 in one addition. -/
theorem repeats_beyond_field :
    ¬ RepeatsInField (kernelTwoToOneCommonFuc outUb inputUb inputUb (256 * 64) 64 "vadd" :
      Stmt Nat Nat) := by
  intro h
  have hfirst := (h _ (Or.inl rfl)).2
  exact absurd hfirst (by decide)

end HwEfat.AutoSchedule.IrBuilder
