/-
  HwEfat.Aicpu.CpuKernel.Descriptor — how many dims `UpdateTensor` copies out of
  the `RuntimeTensorDesc` of an unknown-shape input.

  `shape[0]` is an `int64_t`.  It is compared with `kMaxDimSize` as a signed number
  and then cast to `size_t`, so a negative one passes the check and becomes a length
  of nearly 2^64 (`toNat_of_neg`).  `UpdateTensor` stays inside `shape[]` exactly when
  no descriptor it gets to has a negative `shape[0]` (`descriptors_inside_iff`).
-/
import Mathlib.Algebra.Group.Int.Defs
import HwEfat.Aicpu.CpuKernel.UpdateTensor

namespace HwEfat.Aicpu

open HwEfat.Lib (Mem)

namespace CpuKernelCache

variable {AttrValue : Type}

/-! ## §1. The length of a descriptor. -/

/-- `tensor_desc->shape[0]` -/
def shape0 (A : FwkAdapter) (mem : Mem) (ioAddr : UInt64) : Int64 :=
  loadI64 mem (ioAddr.toNat + A.shapeOffset)

/-- The length passed to `GetDimsFromArrays`; `none` if the check before rejects
the descriptor. -/
def arraysLen (A : FwkAdapter) (mem : Mem) (ioAddr : UInt64) : Option Nat :=
  if ¬ shape0 A mem ioAddr ≤ Int64.ofNat A.kMaxDimSize then none
  else some (shape0 A mem ioAddr).toUInt64.toNat

/-- Input `i` is an unknown-shape input. -/
def indexed (msg : ExtInfoMsg) (i : Nat) : Bool :=
  (msg.unknownShapeInputIndexAddr[UInt32.ofNat i]?).isSome

variable {A : FwkAdapter} {P : Platform AttrValue} {mem : Mem}

/-- A turn of the input loop on such an input: the length decides which dims it
copies, and without a length it rejects. -/
theorem updateInput_of_indexed {msg : ExtInfoMsg} {i : Nat} (hi : indexed msg i = true)
    (ioAddr : UInt64) (input : Tensor) :
    updateInput A P mem i ioAddr msg input =
      let msg' := { msg with
        unknownShapeInputIndexAddr :=
          msg.unknownShapeInputIndexAddr.insert (UInt32.ofNat i) ioAddr }
      match arraysLen A mem ioAddr with
      | none => (KERNEL_STATUS_PARAM_INVALID, msg', input)
      | some len =>
          let (ret, input) := setShapeAndSize A P mem msg.unknownShape msg.inputShapeAndType
            (fun dims => 0 ≤ P.numElements dims) i
            { input with
              dims := getDimsFromArrays mem (ioAddr.toNat + A.shapeOffset + 8) len
              data := mem.load64 (ioAddr.toNat + A.dataAddrOffset) }
          (ret, msg', input) := by
  obtain ⟨v, hv⟩ := Option.isSome_iff_exists.mp hi
  unfold updateInput arraysLen shape0
  rw [hv]
  by_cases hle : loadI64 mem (ioAddr.toNat + A.shapeOffset) ≤ Int64.ofNat A.kMaxDimSize
  · simp only [hle, not_true_eq_false, if_false]
  · simp only [hle, not_false_eq_true, if_true]

/-! ## §2. Signed check, unsigned length. -/

/-- The two readings of 64 bits. -/
theorem toInt_eq_toNat (x : Int64) :
    x.toInt = if 2 * x.toUInt64.toNat < 2 ^ 64 then (x.toUInt64.toNat : Int)
      else (x.toUInt64.toNat : Int) - 2 ^ 64 := by
  show x.toBitVec.toInt = _
  rw [BitVec.toInt_eq_toNat_cond]
  rfl

/-- They agree on what is not negative ... -/
theorem toNat_of_nonneg {x : Int64} (h0 : 0 ≤ x) : (x.toUInt64.toNat : Int) = x.toInt := by
  rw [Int64.le_iff_toInt_le, Int64.toInt_zero] at h0
  have hlt := x.toUInt64.toNat_lt
  rw [toInt_eq_toNat] at h0 ⊢
  split at h0 <;> omega

/-- ... and a negative value is a length of at least 2^63. -/
theorem toNat_of_neg {x : Int64} (h0 : x < 0) : 2 ^ 63 ≤ x.toUInt64.toNat := by
  rw [Int64.lt_iff_toInt_lt, Int64.toInt_zero, toInt_eq_toNat] at h0
  split at h0 <;> omega

/-- A descriptor in range is copied at its own length. -/
theorem arraysLen_of_nonneg (hA : A.Layout) {ioAddr : UInt64} (h0 : 0 ≤ shape0 A mem ioAddr) :
    arraysLen A mem ioAddr = none ∨ ∃ len, arraysLen A mem ioAddr = some len ∧
      len ≤ A.kMaxDimSize := by
  unfold arraysLen
  by_cases hle : shape0 A mem ioAddr ≤ Int64.ofNat A.kMaxDimSize
  · right
    refine ⟨_, if_neg (fun h => h hle), ?_⟩
    have hlen := toNat_of_nonneg h0
    rw [Int64.le_iff_toInt_le, Int64.toInt_ofNat_of_lt hA.maxDimSize] at hle
    omega
  · exact Or.inl (if_pos hle)

/-- A negative one passes the check. -/
theorem arraysLen_of_neg (hA : A.Layout) {ioAddr : UInt64} (h0 : shape0 A mem ioAddr < 0) :
    ∃ len, arraysLen A mem ioAddr = some len ∧ A.kMaxDimSize < len := by
  have hle : shape0 A mem ioAddr ≤ Int64.ofNat A.kMaxDimSize := by
    rw [Int64.le_iff_toInt_le, Int64.toInt_ofNat_of_lt hA.maxDimSize]
    rw [Int64.lt_iff_toInt_lt, Int64.toInt_zero] at h0
    omega
  refine ⟨_, if_neg (fun h => h hle), ?_⟩
  have hlen := toNat_of_neg h0
  have hmax := hA.maxDimSize
  omega

/-! ## §3. How `UpdateTensor` fails. -/

/-- A status is `KERNEL_STATUS_OK` or `KERNEL_STATUS_PARAM_INVALID`. -/
def OkOrInvalid (ret : UInt32) : Prop :=
  ret = KERNEL_STATUS_OK ∨ ret = KERNEL_STATUS_PARAM_INVALID

/-- Setting a shape is fine or invalid. -/
theorem setShapeAndSize_status (unknownShape : Bool) (shapeAndType : List Nat)
    (accepts : List Int64 → Bool) (i : Nat) (t : Tensor) :
    OkOrInvalid (setShapeAndSize A P mem unknownShape shapeAndType accepts i t).1 := by
  rw [setShapeAndSize_eq unknownShape shapeAndType accepts i t rfl, apply_ite Prod.fst]
  exact ite_eq_or_eq _ _ _

/-- So is a turn of the loop over the inputs, -/
theorem updateInput_status (i : Nat) (ioAddr : UInt64) (msg : ExtInfoMsg) (input : Tensor) :
    OkOrInvalid (updateInput A P mem i ioAddr msg input).1 := by
  cases hi : indexed msg i with
  | true =>
      rw [updateInput_of_indexed hi]
      cases arraysLen A mem ioAddr with
      | none => exact Or.inr rfl
      | some len => exact setShapeAndSize_status _ _ _ _ _
  | false =>
      have hnone : msg.unknownShapeInputIndexAddr[UInt32.ofNat i]? = none :=
        Option.not_isSome_iff_eq_none.mp (by rw [← indexed, hi]; decide)
      unfold updateInput
      rw [hnone]
      exact setShapeAndSize_status _ _ _ _ _

/-- one of the loop over the outputs, -/
theorem updateOutput_status (noTiling : Bool) (i : Nat) (ioAddr : UInt64) (msg : ExtInfoMsg)
    (output : Tensor) : OkOrInvalid (updateOutput A P mem noTiling i ioAddr msg output).1 := by
  unfold updateOutput
  cases msg.unknownShapeOutputIndexAddr[UInt32.ofNat i]? with
  | none => exact setShapeAndSize_status _ _ _ _ _
  | some v => exact setShapeAndSize_status _ _ _ _ _

/-- and a whole loop. -/
theorem updateLoop_status
    {turn : Nat → UInt64 → ExtInfoMsg → Tensor → UInt32 × ExtInfoMsg × Tensor}
    (hturn : ∀ i a msg t, OkOrInvalid (turn i a msg t).1) (l : List (Tensor × UInt64)) :
    ∀ i msg, OkOrInvalid (updateLoop turn i msg l).1 := by
  induction l with
  | nil => exact fun _ _ => Or.inl rfl
  | cons p rest ih =>
      intro i msg
      by_cases hret : (turn i p.2 msg p.1).1 = KERNEL_STATUS_OK
      · rw [updateLoop_cons_of_ok hret]
        exact ih (i + 1) _
      · rw [updateLoop_cons_of_error hret]
        exact hturn i p.2 msg p.1

/-- `UpdateTensor` has one error code. -/
theorem updateTensor_status (ioAddrs : List UInt64) (msg : ExtInfoMsg)
    (ctx : CpuKernelContext AttrValue) : OkOrInvalid (updateTensor A P mem ioAddrs msg ctx).1 := by
  unfold updateTensor
  cases sizesAgree ioAddrs msg ctx with
  | false => exact Or.inr rfl
  | true =>
      have hin := updateLoop_status (@updateInput_status _ A P mem) (ctx.inputs.zip ioAddrs) 0 msg
      simp only [Bool.not_true, Bool.false_eq_true, if_false]
      split
      · exact hin
      · exact updateLoop_status (updateOutput_status _) _ 0 _

/-! ## §4. All descriptors. -/

/-- `UpdateTensor` passes its size checks and the turns of the inputs before `i`. -/
def ReachesInput (A : FwkAdapter) (P : Platform AttrValue) (mem : Mem) (ioAddrs : List UInt64)
    (msg : ExtInfoMsg) (ctx : CpuKernelContext AttrValue) (i : Nat) : Prop :=
  sizesAgree ioAddrs msg ctx = true ∧ i < ctx.inputs.length ∧
    (updateLoop (updateInput A P mem) 0 msg ((ctx.inputs.zip ioAddrs).take i)).1 = KERNEL_STATUS_OK

/-- The input whose descriptor is rejected makes `UpdateTensor` fail. -/
theorem updateTensor_of_rejected {ioAddrs : List UInt64} {msg : ExtInfoMsg}
    {ctx : CpuKernelContext AttrValue} {i : Nat} {ioAddr : UInt64} (hi : i < ctx.inputs.length)
    (hidx : indexed msg i = true) (ha : ioAddrs[i]? = some ioAddr)
    (hnone : arraysLen A mem ioAddr = none) :
    (updateTensor A P mem ioAddrs msg ctx).1 = KERNEL_STATUS_PARAM_INVALID := by
  rcases @updateTensor_status _ A P mem ioAddrs msg ctx with hok | hinvalid
  · obtain ⟨-, -, hiff, -⟩ := @updateTensor_spec _ A P mem ioAddrs msg ctx
    obtain ⟨t, ht⟩ : ∃ t, ctx.inputs[i]? = some t := ⟨_, List.getElem?_eq_getElem hi⟩
    have hdesc := ((hiff.mp hok).2.1 i t ioAddr ht ha).1
    -- the plan for this input asks for the check that failed
    unfold inputPlan at hdesc
    unfold indexed at hidx
    unfold arraysLen shape0 at hnone
    simp only [hidx, Bool.not_true, Bool.false_or, decide_eq_true_eq] at hdesc
    rw [if_neg (fun h => h hdesc)] at hnone
    cases hnone
  · exact hinvalid

/-- **`UpdateTensor` reads dims only from `shape[1..kMaxDimSize]`** -- every
descriptor it gets to is rejected or copied at a length in range -- exactly when none
of these descriptors has a negative `shape[0]`. -/
theorem descriptors_inside_iff (hA : A.Layout) (ioAddrs : List UInt64) (msg : ExtInfoMsg)
    (ctx : CpuKernelContext AttrValue) :
    (∀ i ioAddr, ReachesInput A P mem ioAddrs msg ctx i → indexed msg i = true →
      ioAddrs[i]? = some ioAddr →
        (arraysLen A mem ioAddr = none ∧
          (updateTensor A P mem ioAddrs msg ctx).1 = KERNEL_STATUS_PARAM_INVALID) ∨
        ∃ len, arraysLen A mem ioAddr = some len ∧ len ≤ A.kMaxDimSize) ↔
    ∀ i ioAddr, ReachesInput A P mem ioAddrs msg ctx i → indexed msg i = true →
      ioAddrs[i]? = some ioAddr → 0 ≤ shape0 A mem ioAddr := by
  refine forall_congr' (fun i => forall_congr' (fun ioAddr => ?_))
  refine forall_congr' (fun hreach => forall_congr' (fun hidx => forall_congr' (fun ha => ?_)))
  constructor
  · intro h
    by_contra hneg
    obtain ⟨len, hlen, hbig⟩ := arraysLen_of_neg hA (Int64.not_le.mp hneg)
    rcases h with ⟨hnone, -⟩ | ⟨len', hlen', hsmall⟩
    · rw [hlen] at hnone
      cases hnone
    · rw [hlen, Option.some.injEq] at hlen'
      omega
  · intro h0
    rcases arraysLen_of_nonneg hA h0 with hnone | hlen
    · exact Or.inl ⟨hnone, updateTensor_of_rejected hreach.2.1 hidx ha hnone⟩
    · exact Or.inr hlen

/-- A context of one input and no output, and the extend info that names this input. -/
def oneInput : CpuKernelContext Int where
  op := "Add"
  deviceType := .device
  inputs := [{ dataType := 0, dims := [], data := 0, dataSize := 0 }]
  outputs := []
  attrs := fun _ => none

/-- A message with an address for the index of input 0. -/
def firstIndexed : ExtInfoMsg :=
  { ExtInfoMsg.new with unknownShapeInputIndexAddr := (∅ : Std.ExtTreeMap UInt32 UInt64).insert 0 0 }

/-- A descriptor at address 4096 whose `shape[0]` has all bytes equal to `b`. -/
def descriptorOf (b : UInt8) : Mem := fun a => if 4096 + 24 ≤ a ∧ a < 4096 + 32 then b else 0

theorem indexed_firstIndexed : indexed firstIndexed 0 = true := by
  unfold indexed firstIndexed
  rw [show UInt32.ofNat 0 = 0 from rfl, Std.ExtTreeMap.getElem?_insert_self]
  rfl

/-- `descriptors_inside_iff` on a descriptor of rank 0. -/
theorem descriptors_inside_iff_rankZero :
    (∀ i ioAddr, ReachesInput .packed .bare (descriptorOf 0) [4096] firstIndexed oneInput i →
      indexed firstIndexed i = true → [4096][i]? = some ioAddr →
        (arraysLen .packed (descriptorOf 0) ioAddr = none ∧
          (updateTensor .packed .bare (descriptorOf 0) [4096] firstIndexed oneInput).1 =
            KERNEL_STATUS_PARAM_INVALID) ∨
        ∃ len, arraysLen .packed (descriptorOf 0) ioAddr = some len ∧
          len ≤ FwkAdapter.packed.kMaxDimSize) ↔
    ∀ i ioAddr, ReachesInput .packed .bare (descriptorOf 0) [4096] firstIndexed oneInput i →
      indexed firstIndexed i = true → [4096][i]? = some ioAddr →
        0 ≤ shape0 .packed (descriptorOf 0) ioAddr :=
  descriptors_inside_iff FwkAdapter.packed_layout [4096] firstIndexed oneInput

/-- A descriptor with `shape[0]` = -1 passes the check, and 2^64 - 1 dims are copied. -/
theorem negative_rank_copied :
    ¬ ∀ i ioAddr, ReachesInput .packed .bare (descriptorOf 255) [4096] firstIndexed oneInput i →
      indexed firstIndexed i = true → [4096][i]? = some ioAddr →
        (arraysLen .packed (descriptorOf 255) ioAddr = none ∧
          (updateTensor .packed .bare (descriptorOf 255) [4096] firstIndexed oneInput).1 =
            KERNEL_STATUS_PARAM_INVALID) ∨
        ∃ len, arraysLen .packed (descriptorOf 255) ioAddr = some len ∧
          len ≤ FwkAdapter.packed.kMaxDimSize := by
  intro h
  have hlen : arraysLen .packed (descriptorOf 255) 4096 = some (2 ^ 64 - 1) := by decide +kernel
  have hreach : ReachesInput .packed .bare (descriptorOf 255) [4096] firstIndexed oneInput 0 :=
    ⟨rfl, by decide, rfl⟩
  rcases h 0 4096 hreach indexed_firstIndexed rfl with ⟨hnone, -⟩ | ⟨len, hlen', hle⟩
  · rw [hlen] at hnone
    cases hnone
  · rw [hlen, Option.some.injEq] at hlen'
    rw [← hlen'] at hle
    exact absurd hle (by decide)

end CpuKernelCache

end HwEfat.Aicpu
