/-
  HwEfat.Aicpu.CpuKernel.DataSize — the data sizes `UpdateTensor` stores.

  `CalcDataSizeByShape` is negative when it has no size to give: a dim is unknown,
  the data type has none, or the product overflows.  The code clamps it,

      std::max(uint64_t(0), static_cast<uint64_t>(input->CalcDataSizeByShape()))

  but by then the number is unsigned, and there is nothing below zero to clamp.

  Main result: `data_sizes_clamped_iff` — in an accepted call all sizes are the
  clamped ones exactly if no tensor has a negative size under its final dims.
-/
import HwEfat.Aicpu.CpuKernel.Descriptor

namespace HwEfat.Aicpu

open HwEfat.Lib (Mem)

variable {AttrValue : Type}

/-! ## §1. The conversion. -/

/-- `static_cast<uint64_t>` of a signed number, by its sign. -/
theorem toNat_toUInt64 (x : Int64) :
    (x.toUInt64.toNat : Int) = if 0 ≤ x.toInt then x.toInt else x.toInt + 2 ^ 64 := by
  have hx := CpuKernelCache.toInt_eq_toNat x
  have hlt : x.toUInt64.toNat < 2 ^ 64 := x.toUInt64.toNat_lt
  split at hx <;> split <;> omega

/-- The clamp comes too late: it is the identity. -/
theorem max_zero_toUInt64 (x : Int64) : max (0 : UInt64) x.toUInt64 = x.toUInt64 := by
  show (if (0 : UInt64) ≤ x.toUInt64 then x.toUInt64 else 0) = x.toUInt64
  rw [if_pos (UInt64.le_iff_toNat_le.mpr (Nat.zero_le _))]

/-- The number clamped before the conversion and the number converted first are the
same exactly if there is nothing to clamp. -/
theorem toUInt64_eq_clamp_iff (x : Int64) :
    ((max (0 : UInt64) x.toUInt64).toNat : Int) = max 0 x.toInt ↔ 0 ≤ x.toInt := by
  rw [max_zero_toUInt64, toNat_toUInt64]
  -- A negative number becomes one from 2^63 on.
  have hlow : -(2 ^ 63) ≤ x.toInt := x.le_toInt
  constructor
  · intro h
    split at h <;> omega
  · intro h
    rw [if_pos h]
    omega

/-! ## §2. The sizes of a call. -/

/-- The data size is the clamped one. -/
def Tensor.SizeClamped (P : Platform AttrValue) (t : Tensor) : Prop :=
  (t.dataSize.toNat : Int) = max 0 (P.calcDataSizeByShape t.dataType t.dims).toInt

namespace CpuKernelCache

variable {A : FwkAdapter} {P : Platform AttrValue} {mem : Mem}

/-- A size is clamped as it should be unless the computed one is negative. -/
theorem sizeClamped_result_iff (plan : Plan) (t : Tensor) :
    (plan.result P t).SizeClamped P ↔
      0 ≤ (P.calcDataSizeByShape t.dataType (plan.dims t.dims)).toInt := by
  show ((max (0 : UInt64) (P.calcDataSizeByShape t.dataType (plan.dims t.dims)).toUInt64).toNat :
    Int) = max 0 (P.calcDataSizeByShape t.dataType (plan.dims t.dims)).toInt ↔ _
  exact toUInt64_eq_clamp_iff _

/-- Every tensor has a size under the dims its plan gives it. -/
def AllSized (P : Platform AttrValue) (plan : Nat → UInt64 → Plan) (ts : List Tensor)
    (ioAddrs : List UInt64) : Prop :=
  ∀ j t a, ts[j]? = some t → ioAddrs[j]? = some a →
    0 ≤ (P.calcDataSizeByShape t.dataType ((plan j a).dims t.dims)).toInt

/-- A loop that accepts all its tensors, size by size. -/
theorem sizeClamped_results_iff (plan : Nat → UInt64 → Plan) (ts : List Tensor)
    (ioAddrs : List UInt64) :
    (∀ t ∈ results P plan ts ioAddrs, t.SizeClamped P) ↔ AllSized P plan ts ioAddrs := by
  constructor
  · intro h j t a ht ha
    have hmem : (plan j a).result P t ∈ results P plan ts ioAddrs :=
      List.mem_of_getElem? (getElem?_results plan ht ha)
    exact (sizeClamped_result_iff _ _).mp (h _ hmem)
  · intro h t' hmem
    obtain ⟨j, hj⟩ := List.getElem?_of_mem hmem
    rw [results, List.getElem?_mapIdx, Option.map_eq_some_iff] at hj
    -- Tensor `j` of the result comes from turn `j`.
    obtain ⟨⟨t, a⟩, hzip, rfl⟩ := hj
    obtain ⟨ht, ha⟩ := List.getElem?_zip_eq_some.mp hzip
    show ((plan j a).result P t).SizeClamped P
    rw [sizeClamped_result_iff]
    exact h j t a ht ha

/-- **The sizes `UpdateTensor` stores** are the clamped ones exactly if every tensor
of the call has a size: no input and no output has a negative
`CalcDataSizeByShape()` under the dims that this call leaves it with. -/
theorem data_sizes_clamped_iff {ioAddrs : List UInt64} {msg : ExtInfoMsg}
    {ctx : CpuKernelContext AttrValue}
    (hok : (updateTensor A P mem ioAddrs msg ctx).1 = KERNEL_STATUS_OK) :
    (∀ t ∈ (updateTensor A P mem ioAddrs msg ctx).2.2.inputs ++
        (updateTensor A P mem ioAddrs msg ctx).2.2.outputs, t.SizeClamped P) ↔
      AllSized P (inputPlan A P mem msg) ctx.inputs ioAddrs ∧
        AllSized P (outputPlan A P mem (noTiling msg) msg) ctx.outputs
          (ioAddrs.drop ctx.inputs.length) := by
  obtain ⟨-, -, -, hresult⟩ := @updateTensor_spec _ A P mem ioAddrs msg ctx
  rw [hresult hok, ← sizeClamped_results_iff, ← sizeClamped_results_iff]
  exact List.forall_mem_append

/-! ## One output of unknown shape. -/

/-- An output of data type 0, with no dims yet. -/
def oneOutputCtx : CpuKernelContext Int where
  op := ""
  deviceType := .device
  inputs := []
  outputs := [{ dataType := 0, dims := [], data := 0, dataSize := 0 }]
  attrs := fun _ => none

/-- An unknown-shape call, the record of its output at address 4096. -/
def unknownOutput : ExtInfoMsg :=
  { ExtInfoMsg.new with unknownShape := true, outputShapeAndType := [4096] }

/-- A record with one dim, and the end flag behind it. -/
def recordOf (dim : List UInt8) : Mem :=
  Mem.ofBytes 4100 (dim ++ [0, 0, 0, 0, 0, 0, 0, 0x80])

/-- `data_sizes_clamped_iff` on an output of dims `[3]`. -/
theorem data_sizes_clamped_iff_three :
    (∀ t ∈ (updateTensor .packed .bare (recordOf [3, 0, 0, 0, 0, 0, 0, 0]) [0x30] unknownOutput
          oneOutputCtx).2.2.inputs ++
        (updateTensor .packed .bare (recordOf [3, 0, 0, 0, 0, 0, 0, 0]) [0x30] unknownOutput
          oneOutputCtx).2.2.outputs, t.SizeClamped .bare) ↔
      AllSized .bare (inputPlan .packed .bare (recordOf [3, 0, 0, 0, 0, 0, 0, 0]) unknownOutput)
          oneOutputCtx.inputs [0x30] ∧
        AllSized .bare (outputPlan .packed .bare (recordOf [3, 0, 0, 0, 0, 0, 0, 0])
          (noTiling unknownOutput) unknownOutput) oneOutputCtx.outputs [0x30] :=
  data_sizes_clamped_iff (by decide +kernel)

/-- With dims `[-1]` the call is accepted, and the size stored is `2 ^ 64 - 1`. -/
theorem unknown_dim_stores_huge_size :
    ¬ ((updateTensor .packed .bare (recordOf (List.replicate 8 0xff)) [0x30] unknownOutput
          oneOutputCtx).1 = KERNEL_STATUS_OK →
      ∀ t ∈ (updateTensor .packed .bare (recordOf (List.replicate 8 0xff)) [0x30] unknownOutput
          oneOutputCtx).2.2.inputs ++
        (updateTensor .packed .bare (recordOf (List.replicate 8 0xff)) [0x30] unknownOutput
          oneOutputCtx).2.2.outputs, t.SizeClamped .bare) := by
  have hstored : (2 ^ 64 - 1, -1) ∈ (updateTensor .packed .bare (recordOf (List.replicate 8 0xff))
        [0x30] unknownOutput oneOutputCtx).2.2.outputs.map (fun t => (t.dataSize.toNat,
          (Platform.bare.calcDataSizeByShape t.dataType t.dims).toInt)) := by
    decide +kernel
  obtain ⟨t, hmem, ht⟩ := List.mem_map.mp hstored
  obtain ⟨hsize, hcalc⟩ := Prod.mk.inj ht
  intro h
  have hclamped : (t.dataSize.toNat : Int) = max 0 (Platform.bare.calcDataSizeByShape t.dataType
      t.dims).toInt :=
    h (by decide +kernel) t (List.mem_append_right _ hmem)
  rw [hsize, hcalc] at hclamped
  exact absurd hclamped (by decide)

end CpuKernelCache

end HwEfat.Aicpu
