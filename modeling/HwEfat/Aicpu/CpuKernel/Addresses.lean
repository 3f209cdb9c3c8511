/-
  HwEfat.Aicpu.CpuKernel.Addresses — which address each tensor of a call gets, and
  through which addresses the output shapes are written back.

  `ParseExtUnknownShapeIndex` stores 0 under every index of a record,
  `UpdateTensor` replaces the 0 under the index of an output by the io address of
  that output, and `UpdateFWKOutputShape` dereferences what it finds.  Indices
  that name no output keep their 0, but the null check on `ctx.Output(index)` comes
  before the write, so every descriptor written is at an io address of the call
  (`updateTensor_places`).
-/
import HwEfat.Aicpu.CpuKernel.Descriptor
import HwEfat.Aicpu.CpuKernel.Cache

namespace HwEfat.Aicpu

open HwEfat.Lib (Mem)

namespace CpuKernelCache

variable {AttrValue : Type} {A : FwkAdapter} {P : Platform AttrValue} {mem : Mem}

/-! ## §1. The addresses in the message. -/

/-- The input loop does not touch the outputs' map. -/
theorem updateInput_outputIndex (i : Nat) (ioAddr : UInt64) (msg : ExtInfoMsg) (input : Tensor) :
    (updateInput A P mem i ioAddr msg input).2.1.unknownShapeOutputIndexAddr =
      msg.unknownShapeOutputIndexAddr := by
  unfold updateInput
  cases msg.unknownShapeInputIndexAddr[UInt32.ofNat i]? with
  | none => rfl
  | some v =>
      dsimp only
      split
      · rfl
      · rfl

/-- The loop over the inputs does not touch the addresses of the outputs. -/
theorem inputLoop_outputIndex (l : List (Tensor × UInt64)) :
    ∀ i msg, (updateLoop (updateInput A P mem) i msg l).2.1.unknownShapeOutputIndexAddr =
      msg.unknownShapeOutputIndexAddr := by
  induction l with
  | nil => exact fun _ _ => rfl
  | cons p rest ih =>
      intro i msg
      by_cases hret : (updateInput A P mem i p.2 msg p.1).1 = KERNEL_STATUS_OK
      · rw [updateLoop_cons_of_ok hret]
        exact (ih (i + 1) _).trans (updateInput_outputIndex i p.2 msg p.1)
      · rw [updateLoop_cons_of_error hret]
        exact updateInput_outputIndex i p.2 msg p.1

/-- A turn of the output loop replaces what is stored under its own index ... -/
theorem updateOutput_index_self (noTiling : Bool) (i : Nat) (ioAddr : UInt64) {msg : ExtInfoMsg}
    (output : Tensor) (hi : (msg.unknownShapeOutputIndexAddr[UInt32.ofNat i]?).isSome) :
    (updateOutput A P mem noTiling i ioAddr msg output).2.1.unknownShapeOutputIndexAddr[UInt32.ofNat i]?
      = some ioAddr := by
  obtain ⟨v, hv⟩ := Option.isSome_iff_exists.mp hi
  unfold updateOutput
  rw [hv]
  exact Std.ExtTreeMap.getElem?_insert_self

/-- ... and nothing else. -/
theorem updateOutput_index_ne (noTiling : Bool) (i : Nat) (ioAddr : UInt64) (msg : ExtInfoMsg)
    (output : Tensor) {k : UInt32} (hk : UInt32.ofNat i ≠ k) :
    (updateOutput A P mem noTiling i ioAddr msg output).2.1.unknownShapeOutputIndexAddr[k]?
      = msg.unknownShapeOutputIndexAddr[k]? := by
  unfold updateOutput
  cases msg.unknownShapeOutputIndexAddr[UInt32.ofNat i]? with
  | none => rfl
  | some v =>
      show (msg.unknownShapeOutputIndexAddr.insert (UInt32.ofNat i) ioAddr)[k]? = _
      rw [Std.ExtTreeMap.getElem?_insert, if_neg (by rwa [Std.compare_eq_iff_eq])]

/-- `static_cast<uint32_t>(i)` keeps apart what a `uint32_t` counts. -/
theorem ofNat_ne_of_toNat_lt {i : Nat} {k : UInt32} (hk : k.toNat < i) (hi : i < 2 ^ 32) :
    UInt32.ofNat i ≠ k := by
  intro heq
  rw [← heq, UInt32.toNat_ofNat_of_lt' hi] at hk
  omega

/-- The output loop leaves the indices before its start alone ... -/
theorem outputLoop_index_before (noTiling : Bool) {k : UInt32} (l : List (Tensor × UInt64)) :
    ∀ i msg, i + l.length ≤ 2 ^ 32 → k.toNat < i →
      (updateLoop (updateOutput A P mem noTiling) i msg l).2.1.unknownShapeOutputIndexAddr[k]?
        = msg.unknownShapeOutputIndexAddr[k]? := by
  induction l with
  | nil => exact fun _ _ _ _ => rfl
  | cons p rest ih =>
      intro i msg hlen hk
      rw [List.length_cons] at hlen
      have hfirst : (updateOutput A P mem noTiling i p.2 msg p.1).2.1.unknownShapeOutputIndexAddr[k]?
          = msg.unknownShapeOutputIndexAddr[k]? :=
        updateOutput_index_ne noTiling i p.2 msg p.1 (ofNat_ne_of_toNat_lt hk (by omega))
      by_cases hret : (updateOutput A P mem noTiling i p.2 msg p.1).1 = KERNEL_STATUS_OK
      · rw [updateLoop_cons_of_ok hret]
        exact (ih (i + 1) _ (by omega) (by omega)).trans hfirst
      · rw [updateLoop_cons_of_error hret]
        exact hfirst

/-- ... and, when it succeeds, stores under every index it passes and finds in the
map the address of that output. -/
theorem outputLoop_index (noTiling : Bool) {k : UInt32} {p : Tensor × UInt64}
    (l : List (Tensor × UInt64)) :
    ∀ i msg j, i + l.length ≤ 2 ^ 32 →
      (updateLoop (updateOutput A P mem noTiling) i msg l).1 = KERNEL_STATUS_OK →
      (msg.unknownShapeOutputIndexAddr[k]?).isSome → l[j]? = some p → k.toNat = i + j →
      (updateLoop (updateOutput A P mem noTiling) i msg l).2.1.unknownShapeOutputIndexAddr[k]?
        = some p.2 := by
  induction l with
  | nil => exact fun _ _ _ _ _ _ hp => by cases hp
  | cons q rest ih =>
      intro i msg j hlen hok hk hp hj
      rw [List.length_cons] at hlen
      by_cases hret : (updateOutput A P mem noTiling i q.2 msg q.1).1 = KERNEL_STATUS_OK
      · rw [updateLoop_cons_of_ok hret] at hok ⊢
        -- The turn of the output itself records the address; later turns leave it.
        cases j with
        | zero =>
            cases hp
            have hki : UInt32.ofNat i = k := by
              rw [← Nat.add_zero i, ← hj, UInt32.ofNat_toNat]
            rw [← hki] at hk ⊢
            have hself := @updateOutput_index_self _ A P mem noTiling i p.2 msg p.1 hk
            refine (outputLoop_index_before noTiling rest (i + 1) _ (by omega) ?_).trans hself
            rw [hki]
            omega
        | succ j =>
            have hview := (@updateOutput_follows _ A P mem noTiling i q.2 msg q.1).view
            rw [hview.outputIndex] at hk
            exact ih (i + 1) _ j (by omega) hok hk hp (by omega)
      · rw [updateLoop_cons_of_error hret] at hok
        exact absurd hok hret

/-- **The map after `UpdateTensor`**: the address of this call under every index
that names an output. -/
theorem updateTensor_outputIndex {ioAddrs : List UInt64} {msg : ExtInfoMsg}
    {ctx : CpuKernelContext AttrValue} (hcount : ctx.outputs.length ≤ 2 ^ 32)
    (hok : (updateTensor A P mem ioAddrs msg ctx).1 = KERNEL_STATUS_OK) {k : UInt32}
    (hk : k.toNat < ctx.outputs.length) (hin : (msg.unknownShapeOutputIndexAddr[k]?).isSome) :
    (updateTensor A P mem ioAddrs msg ctx).2.1.unknownShapeOutputIndexAddr[k]?
      = ioAddrs[ctx.inputs.length + k.toNat]? := by
  obtain ⟨-, -, hiff, -⟩ := @updateTensor_spec _ A P mem ioAddrs msg ctx
  have hsizes := (hiff.mp hok).1
  have hlen := length_of_sizesAgree hsizes
  unfold updateTensor at hok ⊢
  rw [if_neg (by rw [hsizes]; decide)] at hok ⊢
  -- The inputs come first and leave the indices of the outputs.
  have hsame := @inputLoop_outputIndex _ A P mem (ctx.inputs.zip ioAddrs) 0 msg
  generalize updateLoop (updateInput A P mem) 0 msg (ctx.inputs.zip ioAddrs) = out at hok hsame ⊢
  obtain ⟨ret, msg₁, inputs⟩ := out
  dsimp only at hok hsame ⊢
  split at hok
  · exact absurd hok ‹_›
  · rw [if_neg ‹_›]
    obtain ⟨t, ht⟩ : ∃ t, ctx.outputs[k.toNat]? = some t := ⟨_, List.getElem?_eq_getElem hk⟩
    obtain ⟨a, ha⟩ : ∃ a, ioAddrs[ctx.inputs.length + k.toNat]? = some a :=
      ⟨_, List.getElem?_eq_getElem (by omega)⟩
    have hzip : (ctx.outputs.zip (ioAddrs.drop ctx.inputs.length))[k.toNat]? = some (t, a) :=
      List.getElem?_zip_eq_some.mpr ⟨ht, by rw [List.getElem?_drop, ha]⟩
    rw [← hsame] at hin
    rw [ha]
    refine outputLoop_index (p := (t, a)) _ _ 0 _ k.toNat ?_ hok hin hzip (Nat.zero_add _).symm
    rw [List.length_zip]
    omega

/-! ## §2. What `UpdateFWKOutputShape` stores. -/

/-- The descriptors written, in order: the address each is reached through, and the
dims it gets. -/
def writtenDescs (A : FwkAdapter) (ctx : CpuKernelContext AttrValue) :
    List (UInt32 × UInt64) → List (UInt64 × List Int64)
  | [] => []
  | (index, addr) :: rest =>
      match ctx.outputs[index.toNat]? with
      | none => []
      | some output =>
          if ¬ output.dims.length ≤ A.kMaxDimSize then []
          else (addr, output.dims) :: writtenDescs A ctx rest

/-- `shape` and `original_shape` of a descriptor: the rank, then the dims. -/
def descBlocks (A : FwkAdapter) (desc : UInt64 × List Int64) : List (Nat × List UInt64) :=
  let words := (Int64.ofNat desc.2.length :: desc.2).map Int64.toUInt64
  [(desc.1.toNat + A.shapeOffset, words), (desc.1.toNat + A.originalShapeOffset, words)]

/-- The `dims` of the `ShapeAndType` records. -/
def shapeBlocks (A : FwkAdapter) (msg : ExtInfoMsg) (ctx : CpuKernelContext AttrValue) :
    List (Nat × List UInt64) :=
  if msg.unknownShape then
    ctx.outputs.zipIdx.map fun (output, i) =>
      (msg.outputShapeAndType.getD i 0 + A.dimsOffset, output.dims.map Int64.toUInt64)
  else []

/-- Dimensions are stored as words. -/
theorem storeDims_eq (dims : List Int64) (mem : Mem) (a : Nat) :
    storeDims mem a dims = mem.storeWords a (dims.map Int64.toUInt64) := by
  suffices h : ∀ (dims : List Int64) (k : Nat) (mem : Mem),
      (dims.zipIdx k).foldl (fun mem dim => mem.store64 (a + 8 * dim.2) dim.1.toUInt64) mem
        = mem.storeWords (a + 8 * k) (dims.map Int64.toUInt64) by
    exact h dims 0 mem
  intro dims
  induction dims with
  | nil => exact fun _ _ => rfl
  | cons dim dims ih =>
      intro k mem
      rw [List.zipIdx_cons, List.foldl_cons, ih (k + 1)]
      rfl

/-- **What the loop writes**: the blocks of all descriptors, one behind the other. -/
theorem tensorDescs_mem (ctx : CpuKernelContext AttrValue) (l : List (UInt32 × UInt64)) :
    ∀ mem, (updateFWKOutputShape.tensorDescs A ctx l mem).2 =
      mem.storeBlocks ((writtenDescs A ctx l).flatMap (descBlocks A)) := by
  induction l with
  | nil => exact fun _ => rfl
  | cons p rest ih =>
      intro mem
      unfold updateFWKOutputShape.tensorDescs writtenDescs
      cases ctx.outputs[p.1.toNat]? with
      | none => rfl
      | some output =>
          by_cases hle : output.dims.length ≤ A.kMaxDimSize
          · simp only [hle, not_true_eq_false, if_false]
            rw [ih, storeDims_eq, storeDims_eq, List.flatMap_cons]
            rfl
          · simp only [hle, not_false_eq_true, if_true]
            rfl

/-- **`UpdateFWKOutputShape` stores** the dims of the records and then the
descriptors, and nothing else. -/
theorem updateFWKOutputShape_mem (mem : Mem) (msg : ExtInfoMsg) (ctx : CpuKernelContext AttrValue) :
    (updateFWKOutputShape A mem msg ctx).2 =
      mem.storeBlocks (shapeBlocks A msg ctx ++
        (writtenDescs A ctx msg.unknownShapeOutputIndexAddr.toList).flatMap (descBlocks A)) := by
  unfold updateFWKOutputShape
  rw [tensorDescs_mem, Mem.storeBlocks, Mem.storeBlocks, List.foldl_append]
  congr 1
  unfold shapeBlocks
  cases msg.unknownShape with
  | false => rfl
  | true =>
      simp only [if_true, List.foldl_map]
      congr 1
      funext mem p
      exact storeDims_eq p.1.dims mem _

/-- A descriptor is written only after its index has been found to name an output,
and the rank of that output to fit. -/
theorem of_mem_writtenDescs {ctx : CpuKernelContext AttrValue} {desc : UInt64 × List Int64}
    {l : List (UInt32 × UInt64)} (h : desc ∈ writtenDescs A ctx l) :
    ∃ index, (index, desc.1) ∈ l ∧ index.toNat < ctx.outputs.length ∧
      desc.2.length ≤ A.kMaxDimSize := by
  induction l with
  | nil => cases h
  | cons p rest ih =>
      unfold writtenDescs at h
      cases hout : ctx.outputs[p.1.toNat]? with
      | none =>
          rw [hout] at h
          cases h
      | some output =>
          rw [hout] at h
          by_cases hle : output.dims.length ≤ A.kMaxDimSize
          · simp only [hle, not_true_eq_false, if_false] at h
            rcases List.mem_cons.mp h with rfl | hrest
            · exact ⟨p.1, List.mem_cons_self, (List.getElem?_eq_some_iff.mp hout).1, hle⟩
            · obtain ⟨index, hmem, hlt⟩ := ih hrest
              exact ⟨index, List.mem_cons_of_mem p hmem, hlt⟩
          · simp only [hle, not_false_eq_true, if_true] at h
            cases h

/-! ## §3. Where everything goes. -/

/-- The data pointer and the dims input `i` gets. -/
structure InputPlaced (A : FwkAdapter) (mem : Mem) (msg : ExtInfoMsg) (i : Nat) (ioAddr : UInt64)
    (input input' : Tensor) : Prop where
  data : input'.data =
    if indexed msg i then mem.load64 (ioAddr.toNat + A.dataAddrOffset) else ioAddr
  fromShapeAndType : msg.unknownShape = true → ∃ shapeAndType,
    msg.inputShapeAndType[i]? = some shapeAndType ∧
      input'.dims = getDimsFromShapeAndType A mem shapeAndType
  fromDescriptor : msg.unknownShape = false → indexed msg i = true →
    input'.dims = getDimsFromArrays mem (ioAddr.toNat + A.shapeOffset + 8)
      (shape0 A mem ioAddr).toInt.toNat
  kept : msg.unknownShape = false → indexed msg i = false → input'.dims = input.dims

/-- The data pointer and the dims output `j` gets. -/
structure OutputPlaced (A : FwkAdapter) (mem : Mem) (msg : ExtInfoMsg) (j : Nat) (ioAddr : UInt64)
    (output output' : Tensor) : Prop where
  data : output'.data =
    if (msg.unknownShapeOutputIndexAddr[UInt32.ofNat j]?).isSome then
      mem.load64 (ioAddr.toNat + A.dataAddrOffset)
    else ioAddr
  fromShapeAndType : msg.unknownShape = true → ∃ shapeAndType,
    msg.outputShapeAndType[j]? = some shapeAndType ∧
      output'.dims = getDimsFromShapeAndType A mem shapeAndType
  kept : msg.unknownShape = false → output'.dims = output.dims

/-- With an unknown shape there is a record for every tensor. -/
theorem getElem?_of_sizesAgree {ioAddrs : List UInt64} {msg : ExtInfoMsg}
    {ctx : CpuKernelContext AttrValue} (h : sizesAgree ioAddrs msg ctx = true)
    (hunknown : msg.unknownShape = true) :
    (∀ i, i < ctx.inputs.length →
      msg.inputShapeAndType[i]? = some (msg.inputShapeAndType.getD i 0)) ∧
    (∀ j, j < ctx.outputs.length →
      msg.outputShapeAndType[j]? = some (msg.outputShapeAndType.getD j 0)) := by
  rw [sizesAgree, Bool.and_eq_true, hunknown] at h
  obtain ⟨hin, hout⟩ : msg.inputShapeAndType.length = ctx.inputs.length ∧
      msg.outputShapeAndType.length = ctx.outputs.length := by simpa using h.2
  have hget : ∀ (l : List Nat) i, i < l.length → l[i]? = some (l.getD i 0) := by
    intro l i hi
    rw [List.getD_eq_getElem?_getD, List.getElem?_eq_getElem hi]
    rfl
  exact ⟨fun i hi => hget _ i (hin ▸ hi), fun j hj => hget _ j (hout ▸ hj)⟩

/-- The dims of an input's plan, with the length as a signed number. -/
theorem inputPlan_dims {msg : ExtInfoMsg} {i : Nat} {ioAddr : UInt64} (dims : List Int64)
    (h0 : indexed msg i = true → 0 ≤ shape0 A mem ioAddr) :
    (inputPlan A P mem msg i ioAddr).dims dims =
      if msg.unknownShape then getDimsFromShapeAndType A mem (msg.inputShapeAndType.getD i 0)
      else if indexed msg i then
        getDimsFromArrays mem (ioAddr.toNat + A.shapeOffset + 8) (shape0 A mem ioAddr).toInt.toNat
      else dims := by
  have hplan : (inputPlan A P mem msg i ioAddr).dims dims =
      if msg.unknownShape then getDimsFromShapeAndType A mem (msg.inputShapeAndType.getD i 0)
      else if indexed msg i then
        getDimsFromArrays mem (ioAddr.toNat + A.shapeOffset + 8) (shape0 A mem ioAddr).toUInt64.toNat
      else dims := rfl
  rw [hplan]
  by_cases hidx : indexed msg i = true
  · rw [← toNat_of_nonneg (h0 hidx), Int.toNat_natCast]
  · rw [if_neg hidx, if_neg hidx]

/-- An input whose record and index are there is placed as planned. -/
theorem inputPlaced_of_plan {msg : ExtInfoMsg} {i : Nat} {ioAddr : UInt64} (input : Tensor)
    (hrecord : msg.unknownShape = true →
      msg.inputShapeAndType[i]? = some (msg.inputShapeAndType.getD i 0))
    (h0 : indexed msg i = true → 0 ≤ shape0 A mem ioAddr) :
    InputPlaced A mem msg i ioAddr input ((inputPlan A P mem msg i ioAddr).result P input) where
  data := rfl
  fromShapeAndType hunknown :=
    ⟨_, hrecord hunknown, (inputPlan_dims (P := P) input.dims h0).trans (if_pos hunknown)⟩
  fromDescriptor hknown hidx := by
    refine (inputPlan_dims (P := P) input.dims h0).trans ?_
    rw [hknown, hidx, if_neg Bool.false_ne_true, if_pos rfl]
  kept hknown hidx := by
    refine (inputPlan_dims (P := P) input.dims h0).trans ?_
    rw [hknown, hidx, if_neg Bool.false_ne_true, if_neg Bool.false_ne_true]

/-- The same for an output, which may be a tiled one. -/
theorem outputPlaced_of_plan {msg : ExtInfoMsg} {j : Nat} {ioAddr : UInt64} (noTiling : Bool)
    (output : Tensor)
    (hrecord : msg.unknownShape = true →
      msg.outputShapeAndType[j]? = some (msg.outputShapeAndType.getD j 0)) :
    OutputPlaced A mem msg j ioAddr output
      ((outputPlan A P mem noTiling msg j ioAddr).result P output) where
  data := rfl
  fromShapeAndType := by
    intro hunknown
    refine ⟨_, hrecord hunknown, ?_⟩
    unfold Plan.result outputPlan
    rw [hunknown]
    rfl
  kept := by
    intro hknown
    unfold Plan.result outputPlan
    rw [hknown]
    rfl

/-- **Every tensor gets its own address, and no other one is written through.**
When `UpdateTensor` succeeds, every input and output has the data pointer and the
dims that its io address, the index maps and the records say; the outputs' map
holds the address of this call under every index that names an output; and
`UpdateFWKOutputShape`, on this message and any context with as many outputs,
writes descriptors only at the addresses of outputs of this call.  `GetOutputsSize`
is a `uint32_t`: `hcount`. -/
theorem updateTensor_places {ioAddrs : List UInt64} {msg : ExtInfoMsg}
    {ctx : CpuKernelContext AttrValue} (hcount : ctx.outputs.length ≤ 2 ^ 32)
    (hdesc : ∀ i ioAddr, i < ctx.inputs.length → indexed msg i = true →
      ioAddrs[i]? = some ioAddr →
        0 ≤ shape0 A mem ioAddr ∧ shape0 A mem ioAddr ≤ Int64.ofNat A.kMaxDimSize)
    (hok : (updateTensor A P mem ioAddrs msg ctx).1 = KERNEL_STATUS_OK) :
    (∀ i input, ctx.inputs[i]? = some input → ∃ ioAddr input', ioAddrs[i]? = some ioAddr ∧
      (updateTensor A P mem ioAddrs msg ctx).2.2.inputs[i]? = some input' ∧
      InputPlaced A mem msg i ioAddr input input') ∧
    (∀ j output, ctx.outputs[j]? = some output → ∃ ioAddr output',
      ioAddrs[ctx.inputs.length + j]? = some ioAddr ∧
      (updateTensor A P mem ioAddrs msg ctx).2.2.outputs[j]? = some output' ∧
      OutputPlaced A mem msg j ioAddr output output') ∧
    (∀ k : UInt32, k.toNat < ctx.outputs.length →
      (msg.unknownShapeOutputIndexAddr[k]?).isSome →
      (updateTensor A P mem ioAddrs msg ctx).2.1.unknownShapeOutputIndexAddr[k]?
        = ioAddrs[ctx.inputs.length + k.toNat]?) ∧
    (∀ (mem' : Mem) (ctx' : CpuKernelContext AttrValue),
      ctx'.outputs.length = ctx.outputs.length →
      let msg' := (updateTensor A P mem ioAddrs msg ctx).2.1
      let descs := writtenDescs A ctx' msg'.unknownShapeOutputIndexAddr.toList
      (updateFWKOutputShape A mem' msg' ctx').2 =
        mem'.storeBlocks (shapeBlocks A msg' ctx' ++ descs.flatMap (descBlocks A)) ∧
      ∀ desc ∈ descs, ∃ j, j < ctx.outputs.length ∧
        ioAddrs[ctx.inputs.length + j]? = some desc.1) := by
  obtain ⟨hview, -, hiff, hresult⟩ := @updateTensor_spec _ A P mem ioAddrs msg ctx
  have hsizes := (hiff.mp hok).1
  have hlen := length_of_sizesAgree hsizes
  have hctx := hresult hok
  refine ⟨?_, ?_, fun k hk hin => updateTensor_outputIndex hcount hok hk hin, ?_⟩
  · intro i input hi
    have hlt : i < ctx.inputs.length := (List.getElem?_eq_some_iff.mp hi).1
    obtain ⟨a, ha⟩ : ∃ a, ioAddrs[i]? = some a := ⟨_, List.getElem?_eq_getElem (by omega)⟩
    refine ⟨a, _, ha, ?_, inputPlaced_of_plan (P := P) input
      (fun hu => (getElem?_of_sizesAgree hsizes hu).1 i hlt)
      (fun hidx => (hdesc i a hlt hidx ha).1)⟩
    rw [hctx]
    exact getElem?_results (inputPlan A P mem msg) hi ha
  · intro j output hj
    have hlt : j < ctx.outputs.length := (List.getElem?_eq_some_iff.mp hj).1
    obtain ⟨a, ha⟩ : ∃ a, ioAddrs[ctx.inputs.length + j]? = some a :=
      ⟨_, List.getElem?_eq_getElem (by omega)⟩
    refine ⟨a, _, ha, ?_, outputPlaced_of_plan (P := P) (noTiling msg) output
      (fun hu => (getElem?_of_sizesAgree hsizes hu).2 j hlt)⟩
    rw [hctx]
    exact getElem?_results (outputPlan A P mem (noTiling msg) msg) hj
      (by rw [List.getElem?_drop, ha])
  · intro mem' ctx' hcount' msg' descs
    refine ⟨updateFWKOutputShape_mem mem' msg' ctx', fun desc hdesc' => ?_⟩
    obtain ⟨index, hmem, hlt, -⟩ := of_mem_writtenDescs hdesc'
    rw [hcount'] at hlt
    -- the entry under this index is the one of the output it names
    rw [Std.ExtTreeMap.mem_toList_iff_getElem?_eq_some] at hmem
    have hin : (msg.unknownShapeOutputIndexAddr[index]?).isSome := by
      rw [hview.outputIndex, hmem]
      rfl
    exact ⟨index.toNat, hlt, by rw [← updateTensor_outputIndex hcount hok hlt hin, hmem]⟩

/-- One input and one output, both of unknown shape; the record of the outputs also
lists index 7, which names none. -/
def oneEach : CpuKernelContext Int :=
  { oneInput with outputs := [{ dataType := 0, dims := [], data := 0, dataSize := 0 }] }

/-- A message with index addresses for the outputs 0 and 7. -/
def firstAndSeventh : ExtInfoMsg :=
  { firstIndexed with
    unknownShapeOutputIndexAddr :=
      ((∅ : Std.ExtTreeMap UInt32 UInt64).insert 0 0).insert 7 0 }

/-- `updateTensor_places` on it: the only descriptor written is the output's own. -/
theorem updateTensor_places_oneEach :
    let msg' := (updateTensor .packed .bare (descriptorOf 0) [4096, 8192] firstAndSeventh oneEach).2.1
    msg'.unknownShapeOutputIndexAddr[(0 : UInt32)]? = some 8192 ∧
      ∀ desc ∈ writtenDescs .packed oneEach msg'.unknownShapeOutputIndexAddr.toList,
        desc.1 = 8192 := by
  have hdesc : ∀ i ioAddr, i < oneEach.inputs.length → indexed firstAndSeventh i = true →
      ([4096, 8192] : List UInt64)[i]? = some ioAddr →
        0 ≤ shape0 .packed (descriptorOf 0) ioAddr ∧
          shape0 .packed (descriptorOf 0) ioAddr ≤ Int64.ofNat FwkAdapter.packed.kMaxDimSize := by
    intro i ioAddr hi _ ha
    obtain rfl : i = 0 := Nat.lt_one_iff.mp hi
    cases ha
    decide +kernel
  obtain ⟨-, -, hindex, hwrites⟩ := @updateTensor_places Int .packed .bare (descriptorOf 0)
    [4096, 8192] firstAndSeventh oneEach (by decide) hdesc (by decide +kernel)
  refine ⟨hindex 0 (by decide) (by decide +kernel), fun desc hmem => ?_⟩
  obtain ⟨j, hj, ha⟩ := (hwrites (descriptorOf 0) oneEach rfl).2 desc hmem
  obtain rfl : j = 0 := Nat.lt_one_iff.mp hj
  exact (Option.some.inj ha).symm

end CpuKernelCache

end HwEfat.Aicpu
