/-
  HwEfat.Aicpu.CpuKernel.WriteBack — the shapes that `UpdateFWKOutputShape` leaves
  in the `ShapeAndType` records, as `GetDimsFromShapeAndType` reads them back.

  The reader stops at LLONG_MIN or after `kMaxShapeDims` dims.  The writer stores
  the dims of the tensor from `dims[0]` on, stores no end flag, and does not compare
  the rank with `kMaxShapeDims` (for a `RuntimeTensorDesc` it stores the rank and
  does compare it).  What the reader finds behind a shorter shape is what the record
  held before the call, so shapes come back exactly when they fit and the record
  already ends where they do (`written_shapes_read_back_iff`).
-/
import Mathlib.Data.List.TakeWhile
import HwEfat.Aicpu.ExtInfo.Records
import HwEfat.Aicpu.CpuKernel.Addresses

namespace HwEfat.Aicpu

open HwEfat.Lib (Mem)

namespace CpuKernelCache

variable {AttrValue : Type} {A : FwkAdapter} {mem : Mem}

/-! ## §1. Reading a record. -/

/-- A list in front of others is what is taken exactly when all of it is accepted
and what follows is not. -/
theorem takeWhile_append_eq_left_iff {α : Type} {p : α → Bool} {l rest : List α} :
    (l ++ rest).takeWhile p = l ↔ (∀ x ∈ l, p x = true) ∧ ∀ x, rest[0]? = some x → p x = false := by
  constructor
  · intro h
    have hall : ∀ x ∈ l, p x = true := by
      intro x hx
      rw [← h] at hx
      exact List.mem_takeWhile_imp hx
    refine ⟨hall, fun x hx => ?_⟩
    rw [List.takeWhile_append_of_pos hall] at h
    have hnil : rest.takeWhile p = [] := List.append_cancel_left (h.trans (List.append_nil l).symm)
    cases rest with
    | nil => cases hx
    | cons y rest =>
        cases hx
        rw [List.takeWhile_cons] at hnil
        split at hnil
        · cases hnil
        · exact Bool.not_eq_true _ ▸ ‹_›
  · intro ⟨hall, hstop⟩
    rw [List.takeWhile_append_of_pos hall]
    cases rest with
    | nil => rw [List.takeWhile_nil, List.append_nil]
    | cons x rest => rw [List.takeWhile_cons_of_neg (by rw [hstop x rfl]; decide), List.append_nil]

/-- `shape_and_type->dims[index]` -/
def dimAt (A : FwkAdapter) (mem : Mem) (shapeAndType index : Nat) : Int64 :=
  loadI64 mem (shapeAndType + A.dimsOffset + 8 * index)

/-- The record ends where a shape of these dims does: it is full, or its next
`dims[]` is the end flag. -/
def Fits (A : FwkAdapter) (mem : Mem) (shapeAndType : Nat) (dims : List Int64) : Prop :=
  dims.length ≤ A.kMaxShapeDims ∧ (∀ dim ∈ dims, dim ≠ Int64.minValue) ∧
    (dims.length = A.kMaxShapeDims ∨ dimAt A mem shapeAndType dims.length = Int64.minValue)

/-- A record that starts with `dims` reads as `dims` exactly when it ends there. -/
theorem getDims_eq_iff {shapeAndType : Nat} {dims : List Int64}
    (hlen : dims.length ≤ A.kMaxShapeDims)
    (hdims : ∀ index dim, dims[index]? = some dim → dimAt A mem shapeAndType index = dim) :
    getDimsFromShapeAndType A mem shapeAndType = dims ↔ Fits A mem shapeAndType dims := by
  -- the record, split behind `dims`
  have hsplit : (List.range A.kMaxShapeDims).map (dimAt A mem shapeAndType) =
      dims ++ (List.range (A.kMaxShapeDims - dims.length)).map
        (fun index => dimAt A mem shapeAndType (dims.length + index)) := by
    obtain ⟨n, hn⟩ := Nat.exists_eq_add_of_le hlen
    rw [hn, Nat.add_sub_cancel_left, List.range_add, List.map_append, List.map_map]
    congr 1
    refine List.ext_getElem (by rw [List.length_map, List.length_range]) (fun index h₁ h₂ => ?_)
    rw [List.getElem_map, List.getElem_range]
    exact hdims index _ (List.getElem?_eq_getElem h₂)
  show ((List.range A.kMaxShapeDims).map (dimAt A mem shapeAndType)).takeWhile _ = dims ↔ _
  rw [hsplit, takeWhile_append_eq_left_iff]
  unfold Fits
  rw [and_iff_right hlen]
  refine and_congr (by simp) ?_
  rw [List.getElem?_map]
  by_cases hfull : dims.length = A.kMaxShapeDims
  · rw [hfull, Nat.sub_self]
    simp
  · rw [List.getElem?_range (by omega)]
    simp [hfull]

/-! ## §2. Writing the records. -/

/-- The records of the outputs and the arrays of the descriptors are different
objects: they do not overlap. -/
structure Separate (A : FwkAdapter) (msg : ExtInfoMsg) : Prop where
  records : ∀ (i j record record' : Nat), msg.outputShapeAndType[i]? = some record →
    msg.outputShapeAndType[j]? = some record' → i ≠ j →
      record + A.sizeofShapeAndType ≤ record' ∨ record' + A.sizeofShapeAndType ≤ record
  descriptors : ∀ record ∈ msg.outputShapeAndType,
    ∀ entry ∈ msg.unknownShapeOutputIndexAddr.toList,
    ∀ offset ∈ [A.shapeOffset, A.originalShapeOffset],
      record + A.sizeofShapeAndType ≤ entry.2.toNat + offset ∨
        entry.2.toNat + offset + 8 * (A.kMaxDimSize + 1) ≤ record

/-- The records that `ParseExtMsg` keeps of one shape record do not overlap: they are
the elements of an array. -/
theorem kept_records_apart {extInfo size : Nat} {kept : List Nat}
    (hlen : (mem.load32 (extInfo + 4)).toNat = size) (hmod : size % A.sizeofShapeAndType = 0)
    (hkept : (parseExtShapeAndType A mem true extInfo []).val = (KERNEL_STATUS_OK, kept)) {i j : Nat}
    {record record' : Nat} (hi : kept[i]? = some record) (hj : kept[j]? = some record')
    (hne : i ≠ j) :
    record + A.sizeofShapeAndType ≤ record' ∨ record' + A.sizeofShapeAndType ≤ record := by
  rw [parseExtShapeAndType_kept [] hlen hmod, List.nil_append, Prod.mk.injEq] at hkept
  rw [← hkept.2, List.getElem?_map, Option.map_eq_some_iff] at hi hj
  obtain ⟨index, hindex, rfl⟩ := hi
  obtain ⟨index', hindex', rfl⟩ := hj
  have heq := (List.getElem?_eq_some_iff.mp hindex).2
  have heq' := (List.getElem?_eq_some_iff.mp hindex').2
  rw [List.getElem_range] at heq heq'
  -- the later element starts at least one element behind the earlier one
  rcases Nat.lt_or_gt_of_ne (by omega : index ≠ index') with hlt | hgt
  · have hmul := Nat.mul_le_mul_right A.sizeofShapeAndType hlt
    rw [Nat.succ_mul] at hmul
    omega
  · have hmul := Nat.mul_le_mul_right A.sizeofShapeAndType hgt
    rw [Nat.succ_mul] at hmul
    omega

/-- The block written to a record. -/
theorem getElem?_shapeBlocks {msg : ExtInfoMsg} {ctx : CpuKernelContext AttrValue}
    (hunknown : msg.unknownShape = true) {i : Nat} {output : Tensor} {record : Nat}
    (ho : ctx.outputs[i]? = some output) (hr : msg.outputShapeAndType[i]? = some record) :
    (shapeBlocks A msg ctx)[i]? =
      some (record + A.dimsOffset, output.dims.map Int64.toUInt64) := by
  unfold shapeBlocks
  rw [if_pos hunknown, List.getElem?_map, List.getElem?_zipIdx, ho]
  show some (msg.outputShapeAndType.getD (0 + i) 0 + A.dimsOffset, _) = _
  rw [Nat.zero_add, List.getD_eq_getElem?_getD, hr]
  rfl

variable {msg : ExtInfoMsg} {ctx : CpuKernelContext AttrValue}

/-- When all ranks fit, only the block of a record touches its bytes. -/
theorem record_alone (hA : A.Layout) (hsep : Separate A msg)
    (hcount : msg.outputShapeAndType.length = ctx.outputs.length)
    (hunknown : msg.unknownShape = true)
    (hranks : ∀ output ∈ ctx.outputs, output.dims.length ≤ A.kMaxShapeDims) {i : Nat}
    {output : Tensor} {record : Nat} (ho : ctx.outputs[i]? = some output)
    (hr : msg.outputShapeAndType[i]? = some record) {b : Nat} (hb : record ≤ b)
    (hb' : b < record + A.sizeofShapeAndType) :
    (updateFWKOutputShape A mem msg ctx).2 b =
      mem.storeWords (record + A.dimsOffset) (output.dims.map Int64.toUInt64) b := by
  rw [updateFWKOutputShape_mem]
  have hblock := @getElem?_shapeBlocks _ A msg ctx hunknown i output record ho hr
  have hi : i < (shapeBlocks A msg ctx).length := (List.getElem?_eq_some_iff.mp hblock).1
  refine @Mem.storeBlocks_alone _ b mem i (record + A.dimsOffset, output.dims.map Int64.toUInt64)
    (by rw [List.getElem?_append_left hi, hblock]) (fun k block hk hne => ?_)
  by_cases hlt : k < (shapeBlocks A msg ctx).length
  · -- the block of another record
    rw [List.getElem?_append_left hlt] at hk
    have hlen : (shapeBlocks A msg ctx).length = ctx.outputs.length := by
      unfold shapeBlocks
      rw [if_pos hunknown, List.length_map, List.length_zipIdx]
    obtain ⟨output', ho'⟩ : ∃ o, ctx.outputs[k]? = some o :=
      ⟨_, List.getElem?_eq_getElem (by omega)⟩
    obtain ⟨record', hr'⟩ : ∃ r, msg.outputShapeAndType[k]? = some r :=
      ⟨_, List.getElem?_eq_getElem (by omega)⟩
    rw [getElem?_shapeBlocks hunknown ho' hr', Option.some.injEq] at hk
    have hrank := hranks output' (List.mem_of_getElem? ho')
    have hapart := hsep.records k i record' record hr' hr hne
    have hdims := hA.dims
    rw [← hk, List.length_map]
    omega
  · -- an array of a descriptor
    rw [List.getElem?_append_right (by omega)] at hk
    obtain ⟨desc, hdesc, hmem⟩ := List.mem_flatMap.mp (List.mem_of_getElem? hk)
    obtain ⟨index, hentry, -, hrank⟩ := of_mem_writtenDescs hdesc
    have hapart := hsep.descriptors record (List.mem_of_getElem? hr) _ hentry
    rcases List.mem_pair.mp hmem with rfl | rfl
    · have hoff := hapart A.shapeOffset (by simp)
      simp only [List.length_map, List.length_cons] at hoff ⊢
      omega
    · have hoff := hapart A.originalShapeOffset (by simp)
      simp only [List.length_map, List.length_cons] at hoff ⊢
      omega

/-- What `dims[index]` of a record is afterwards. -/
theorem dimAt_updateFWKOutputShape (hA : A.Layout) (hsep : Separate A msg)
    (hcount : msg.outputShapeAndType.length = ctx.outputs.length)
    (hunknown : msg.unknownShape = true)
    (hranks : ∀ output ∈ ctx.outputs, output.dims.length ≤ A.kMaxShapeDims) {i : Nat}
    {output : Tensor} {record : Nat} (ho : ctx.outputs[i]? = some output)
    (hr : msg.outputShapeAndType[i]? = some record) {index : Nat}
    (hindex : index < A.kMaxShapeDims) :
    dimAt A (updateFWKOutputShape A mem msg ctx).2 record index =
      (output.dims[index]?).getD (dimAt A mem record index) := by
  have hdims := hA.dims
  have hload : (updateFWKOutputShape A mem msg ctx).2.load64 (record + A.dimsOffset + 8 * index) =
      (mem.storeWords (record + A.dimsOffset) (output.dims.map Int64.toUInt64)).load64
        (record + A.dimsOffset + 8 * index) :=
    Mem.load64_congr (fun b hb hb' =>
      record_alone hA hsep hcount hunknown hranks ho hr (by omega) (by omega))
  unfold dimAt loadI64
  rw [hload]
  cases hdim : output.dims[index]? with
  | some dim =>
      rw [Mem.load64_storeWords (w := dim.toUInt64) (by rw [List.getElem?_map, hdim]; rfl)]
      exact dim.toInt64_toUInt64
  | none =>
      have hpast : output.dims.length ≤ index := List.getElem?_eq_none_iff.mp hdim
      rw [Mem.load64_congr (fun b hb hb' => Mem.storeWords_outside (by rw [List.length_map]; omega))]
      rfl

/-- **The shapes written back are read back**, and none is written beyond
`dims[kMaxShapeDims - 1]`, exactly when every shape fits its record. -/
theorem written_shapes_read_back_iff (hA : A.Layout) (hsep : Separate A msg)
    (hcount : msg.outputShapeAndType.length = ctx.outputs.length)
    (hunknown : msg.unknownShape = true) :
    (∀ (i : Nat) (output : Tensor) (record : Nat), ctx.outputs[i]? = some output →
      msg.outputShapeAndType[i]? = some record →
        getDimsFromShapeAndType A (updateFWKOutputShape A mem msg ctx).2 record = output.dims ∧
        ∀ block, (shapeBlocks A msg ctx)[i]? = some block →
          block.1 + 8 * block.2.length ≤ record + A.dimsOffset + 8 * A.kMaxShapeDims) ↔
    ∀ (i : Nat) (output : Tensor) (record : Nat), ctx.outputs[i]? = some output →
      msg.outputShapeAndType[i]? = some record → Fits A mem record output.dims := by
  -- the bound on a block is the bound on the rank
  have hbound : ∀ (i : Nat) (output : Tensor) (record : Nat), ctx.outputs[i]? = some output →
      msg.outputShapeAndType[i]? = some record →
      ((∀ block, (shapeBlocks A msg ctx)[i]? = some block →
        block.1 + 8 * block.2.length ≤ record + A.dimsOffset + 8 * A.kMaxShapeDims) ↔
      output.dims.length ≤ A.kMaxShapeDims) := by
    intro i output record ho hr
    rw [getElem?_shapeBlocks hunknown ho hr]
    simp only [Option.some.injEq, forall_eq', List.length_map]
    omega
  have hrecord : ∀ (i : Nat) (output : Tensor), ctx.outputs[i]? = some output →
      ∃ record, msg.outputShapeAndType[i]? = some record := by
    intro i output ho
    have hi := (List.getElem?_eq_some_iff.mp ho).1
    exact ⟨_, List.getElem?_eq_getElem (by omega)⟩
  -- given the ranks, record by record
  have heach : (∀ output ∈ ctx.outputs, output.dims.length ≤ A.kMaxShapeDims) →
      ∀ (i : Nat) (output : Tensor) (record : Nat), ctx.outputs[i]? = some output →
        msg.outputShapeAndType[i]? = some record →
        (getDimsFromShapeAndType A (updateFWKOutputShape A mem msg ctx).2 record = output.dims ↔
          Fits A mem record output.dims) := by
    intro hranks i output record ho hr
    have hlen := hranks output (List.mem_of_getElem? ho)
    have hafter := fun index hindex =>
      @dimAt_updateFWKOutputShape _ A mem msg ctx hA hsep hcount hunknown hranks i output record
        ho hr index hindex
    rw [getDims_eq_iff hlen (fun index dim hdim => ?_)]
    · unfold Fits
      rcases Nat.lt_or_eq_of_le hlen with hlt | hfull
      · rw [hafter _ hlt, List.getElem?_eq_none (Nat.le_refl _)]
        rfl
      · simp only [hfull, true_or]
    · have hlt := (List.getElem?_eq_some_iff.mp hdim).1
      rw [hafter index (by omega), hdim]
      rfl
  constructor
  · intro h
    have hranks : ∀ output ∈ ctx.outputs, output.dims.length ≤ A.kMaxShapeDims := by
      intro output hmem
      obtain ⟨i, ho⟩ := List.getElem?_of_mem hmem
      obtain ⟨record, hr⟩ := hrecord i output ho
      exact (hbound i output record ho hr).mp (h i output record ho hr).2
    intro i output record ho hr
    exact (heach hranks i output record ho hr).mp (h i output record ho hr).1
  · intro h
    have hranks : ∀ output ∈ ctx.outputs, output.dims.length ≤ A.kMaxShapeDims := by
      intro output hmem
      obtain ⟨i, ho⟩ := List.getElem?_of_mem hmem
      obtain ⟨record, hr⟩ := hrecord i output ho
      exact (h i output record ho hr).1
    intro i output record ho hr
    exact ⟨(heach hranks i output record ho hr).mpr (h i output record ho hr),
      (hbound i output record ho hr).mpr (h i output record ho hr).1⟩

/-- An unknown-shape call with one output, whose record is at address 4096. -/
def oneRecord : ExtInfoMsg :=
  { ExtInfoMsg.new with unknownShape := true, outputShapeAndType := [4096] }

/-- A context with one output of these dimensions. -/
def outputOf (dims : List Int64) : CpuKernelContext Int :=
  { oneInput with
    inputs := [], outputs := [{ dataType := 0, dims := dims, data := 0, dataSize := 0 }] }

/-- One record overlaps nothing. -/
theorem separate_oneRecord (A : FwkAdapter) : Separate A oneRecord where
  records := by
    intro i j record record' hi hj hne
    have hlt := (List.getElem?_eq_some_iff.mp hi).1
    have hlt' := (List.getElem?_eq_some_iff.mp hj).1
    have hone : oneRecord.outputShapeAndType.length = 1 := rfl
    omega
  descriptors := by
    intro record _ entry hentry
    have hnil : oneRecord.unknownShapeOutputIndexAddr.toList = [] := by decide +kernel
    rw [hnil] at hentry
    cases hentry

/-- `written_shapes_read_back_iff` on a shape that fills its record. -/
theorem written_shapes_read_back_iff_full :
    getDimsFromShapeAndType .packed
      (updateFWKOutputShape .packed (fun _ => 0) oneRecord (outputOf [1, 2, 3, 4, 5, 6, 7, 8])).2
      4096 = [1, 2, 3, 4, 5, 6, 7, 8] := by
  refine (((written_shapes_read_back_iff FwkAdapter.packed_layout (separate_oneRecord .packed)
    rfl rfl).mpr ?_) 0 { dataType := 0, dims := _, data := 0, dataSize := 0 } 4096 rfl rfl).1
  intro i output record ho hr
  obtain rfl : i = 0 := Nat.lt_one_iff.mp (List.getElem?_eq_some_iff.mp ho).1
  cases ho
  have hdims : [1, 2, 3, 4, 5, 6, 7, 8].all (fun dim : Int64 => dim != Int64.minValue) := by
    decide +kernel
  refine ⟨by decide, fun dim hdim => ?_, Or.inl rfl⟩
  show dim ≠ Int64.minValue
  simpa using List.all_eq_true.mp hdims dim hdim

/-- A shape of rank 1 in a record of zeros comes back with all eight dims. -/
theorem short_shape_keeps_stale_dims :
    ¬ ∀ (i : Nat) (output : Tensor) (record : Nat), (outputOf [3]).outputs[i]? = some output →
      oneRecord.outputShapeAndType[i]? = some record →
        getDimsFromShapeAndType .packed
          (updateFWKOutputShape .packed (fun _ => 0) oneRecord (outputOf [3])).2 record
            = output.dims ∧
        ∀ block, (shapeBlocks .packed oneRecord (outputOf [3]))[i]? = some block →
          block.1 + 8 * block.2.length ≤
            record + FwkAdapter.packed.dimsOffset + 8 * FwkAdapter.packed.kMaxShapeDims := by
  intro h
  have hread := (h 0 _ 4096 rfl rfl).1
  have hstale : getDimsFromShapeAndType .packed
      (updateFWKOutputShape .packed (fun _ => 0) oneRecord (outputOf [3])).2 4096 =
        [3, 0, 0, 0, 0, 0, 0, 0] := by decide +kernel
  rw [hstale] at hread
  exact absurd hread (by decide)

end CpuKernelCache

end HwEfat.Aicpu
