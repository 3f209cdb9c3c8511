/-
  HwEfat.Aicpu.ExtInfo.Records — `ParseExtMsg` on a buffer that is the concatenated
  encoding of a list of records.

  The message keeps pointers into the buffer, so messages of two buffers are
  compared through `MsgView`, which has the contents behind the pointers instead.
  `applyRecord` says what a record does to a view from its type and its bytes alone;
  `ParseExtMsg` accepts well-formed records and applies them one after the other
  (`parseExtMsg_encoded`).
-/
import Mathlib.Data.List.Basic
import HwEfat.Aicpu.ExtInfo.Walk

namespace HwEfat.Aicpu

open HwEfat.Lib (Mem Logged leNat le32)

/-! ## §1. Records and their encoding. -/

/-- A record of the extend info. -/
structure ExtRecord where
  infoType : Int32
  infoMsg : List UInt8
  deriving Repr, DecidableEq

namespace ExtRecord

/-- The head, then `infoMsg`. -/
def encode (r : ExtRecord) : List UInt8 :=
  le32 r.infoType.toUInt32 ++ le32 (UInt32.ofNat r.infoMsg.length) ++ r.infoMsg

/-- A record has 8 bytes in front of its content. -/
theorem length_encode (r : ExtRecord) : r.encode.length = 8 + r.infoMsg.length := by
  unfold encode le32
  simp only [List.length_append, List.length_map, List.length_range]

/-- The length `infoMsg` of a record of a kind must have. -/
def lengthOk (A : FwkAdapter) : ExtInfoType → Nat → Bool
  | .shapeType, n => n == 4
  | .inputShape, n => n % A.sizeofShapeAndType == 0
  | .outputShape, n => n % A.sizeofShapeAndType == 0
  | .sessionInfo, n => n == A.sizeofSessionInfo
  | .bitmap, n => n == 8
  | .topicType, n => n == 4
  | .asyncWait, n => n == A.sizeofAsyncWait
  | .unknownShapeInputIndex, n => n % 4 == 0
  | .unknownShapeOutputIndex, n => n % 4 == 0

/-- A record `ParseExtMsg` has no case for is ignored, whatever its length. -/
def wellFormed (A : FwkAdapter) (r : ExtRecord) : Bool :=
  match A.classify r.infoType with
  | none => true
  | some kind => lengthOk A kind r.infoMsg.length

/-- A field of `infoMsg`. -/
def field (r : ExtRecord) (offset size : Nat) : Nat := leNat ((r.infoMsg.drop offset).take size)

/-- `infoMsg` as an array of `ShapeAndType`. -/
def shapes (A : FwkAdapter) (r : ExtRecord) : List (List UInt8) :=
  (List.range (r.infoMsg.length / A.sizeofShapeAndType)).map fun index =>
    (r.infoMsg.drop (index * A.sizeofShapeAndType)).take A.sizeofShapeAndType

/-- `infoMsg` as an array of indices, each mapped to 0. -/
def insertIndexes (r : ExtRecord) (m : Std.ExtTreeMap UInt32 UInt64) :
    Std.ExtTreeMap UInt32 UInt64 :=
  (List.range (r.infoMsg.length / 4)).foldl
    (fun m i => m.insert (UInt32.ofNat (r.field (i * 4) 4)) 0) m

end ExtRecord

/-- The concatenated encodings are the buffer of a param head. -/
structure Encodes (mem : Mem) (paramHead : AicpuParamHead) (records : List ExtRecord) : Prop where
  notNull : paramHead.extInfoAddr ≠ 0
  length : paramHead.extInfoLength.toNat = (records.flatMap ExtRecord.encode).length
  holds : mem.Holds paramHead.extInfoAddr.toNat (records.flatMap ExtRecord.encode)

/-! ## §2. Messages without addresses. -/

/-- A message with the bytes of the `ShapeAndType` records it points to. -/
@[ext] structure MsgView where
  hasSessInfo : Bool
  kernelId : UInt64
  unknownShape : Bool
  asyncFlag : Bool
  devicetypeHostFlag : Bool
  waitType : UInt8
  waitId : UInt32
  inputShapes : List (List UInt8)
  outputShapes : List (List UInt8)
  unknownShapeInputIndexAddr : Std.ExtTreeMap UInt32 UInt64
  unknownShapeOutputIndexAddr : Std.ExtTreeMap UInt32 UInt64

/-- The `ShapeAndType` at an address. -/
def shapeBytes (A : FwkAdapter) (mem : Mem) (shapeAndType : Nat) : List UInt8 :=
  (List.range A.sizeofShapeAndType).map fun i => mem (shapeAndType + i)

/-- A message with the shapes as they are in memory. -/
def ExtInfoMsg.view (A : FwkAdapter) (mem : Mem) (msg : ExtInfoMsg) : MsgView where
  hasSessInfo := msg.hasSessInfo
  kernelId := msg.kernelId
  unknownShape := msg.unknownShape
  asyncFlag := msg.asyncFlag
  devicetypeHostFlag := msg.devicetypeHostFlag
  waitType := msg.waitType
  waitId := msg.waitId
  inputShapes := msg.inputShapeAndType.map (shapeBytes A mem)
  outputShapes := msg.outputShapeAndType.map (shapeBytes A mem)
  unknownShapeInputIndexAddr := msg.unknownShapeInputIndexAddr
  unknownShapeOutputIndexAddr := msg.unknownShapeOutputIndexAddr

/-- What a well-formed record does to a view. -/
def applyRecord (A : FwkAdapter) (v : MsgView) (r : ExtRecord) : MsgView :=
  match A.classify r.infoType with
  | some .shapeType => { v with unknownShape := true }
  | some .inputShape =>
      { v with inputShapes := if v.unknownShape then v.inputShapes ++ r.shapes A else v.inputShapes }
  | some .outputShape =>
      { v with
        outputShapes := if v.unknownShape then v.outputShapes ++ r.shapes A else v.outputShapes }
  | some .sessionInfo =>
      { v with hasSessInfo := true, kernelId := UInt64.ofNat (r.field A.kernelIdOffset 8) }
  | some .bitmap =>
      { v with unknownShape := !CpuKernelCache.getBitStatus (UInt64.ofNat (r.field 0 8)) 0 }
  | some .topicType =>
      { v with
        devicetypeHostFlag :=
          ((UInt32.ofNat (r.field 0 4) &&& CpuKernelCache.kTopicTypeDeviceTypeMask) >>>
            CpuKernelCache.kTopicTypeDeviceTypePostion) != 0 }
  | some .asyncWait =>
      let waitType := UInt8.ofNat (r.field A.waitTypeOffset 1)
      { v with
        waitType := waitType
        waitId := UInt32.ofNat (r.field A.waitIdOffset 4)
        asyncFlag :=
          if waitType ≠ A.waitTypeNull ∧ waitType ≠ A.waitTypeInvalid then true else v.asyncFlag }
  | some .unknownShapeInputIndex =>
      { v with unknownShapeInputIndexAddr := r.insertIndexes v.unknownShapeInputIndexAddr }
  | some .unknownShapeOutputIndex =>
      { v with unknownShapeOutputIndexAddr := r.insertIndexes v.unknownShapeOutputIndexAddr }
  | none => v

/-! ## §3. One record. -/

namespace CpuKernelCache

open ExtInfo

section Record

variable {A : FwkAdapter} {mem : Mem} {extInfo : Nat} {r : ExtRecord}

/-- The parts of an encoded record. -/
theorem holds_encode (h : mem.Holds extInfo r.encode) :
    mem.load32 extInfo = r.infoType.toUInt32 ∧
      mem.load32 (extInfo + 4) = UInt32.ofNat r.infoMsg.length ∧
      mem.Holds (infoMsg extInfo) r.infoMsg := by
  have hlen : (le32 r.infoType.toUInt32).length = 4 := rfl
  have hlen' : (le32 r.infoType.toUInt32 ++ le32 (UInt32.ofNat r.infoMsg.length)).length = 8 := rfl
  unfold ExtRecord.encode at h
  rw [Mem.holds_append, Mem.holds_append, hlen, hlen'] at h
  exact ⟨h.1.1.load32, h.1.2.load32, h.2⟩

variable (h : mem.Holds (infoMsg extInfo) r.infoMsg)
include h

/-- A field of 4 bytes, read from memory. -/
theorem load32_field {offset : Nat} (hle : offset + 4 ≤ r.infoMsg.length) :
    mem.load32 (infoMsg extInfo + offset) = UInt32.ofNat (r.field offset 4) := by
  unfold Mem.load32 ExtRecord.field
  rw [h.field hle]

/-- A field of 8 bytes. -/
theorem load64_field {offset : Nat} (hle : offset + 8 ≤ r.infoMsg.length) :
    mem.load64 (infoMsg extInfo + offset) = UInt64.ofNat (r.field offset 8) := by
  unfold Mem.load64 ExtRecord.field
  rw [h.field hle]

/-- A field of one byte. -/
theorem load8_field {offset : Nat} (hle : offset + 1 ≤ r.infoMsg.length) :
    mem (infoMsg extInfo + offset) = UInt8.ofNat (r.field offset 1) := by
  have hload : mem.load 1 (infoMsg extInfo + offset) = r.field offset 1 := h.field hle
  rw [← hload]
  exact (UInt8.ofNat_toNat).symm

/-- The pointers kept are to the shapes of the record. -/
theorem shapeBytes_kept (hmod : r.infoMsg.length % A.sizeofShapeAndType = 0) :
    ((List.range (r.infoMsg.length / A.sizeofShapeAndType)).map fun index =>
        infoMsg extInfo + index * A.sizeofShapeAndType).map (shapeBytes A mem) = r.shapes A := by
  unfold ExtRecord.shapes
  rw [List.map_map]
  refine List.map_congr_left (fun index hindex => h.map_range ?_)
  rw [List.mem_range] at hindex
  have hle : (index + 1) * A.sizeofShapeAndType ≤
      r.infoMsg.length / A.sizeofShapeAndType * A.sizeofShapeAndType :=
    Nat.mul_le_mul_right _ hindex
  rw [Nat.div_mul_cancel (Nat.dvd_of_mod_eq_zero hmod), Nat.succ_mul] at hle
  exact hle

omit h in
/-- The pointers a shape record adds when the shape is unknown: to the elements of the
array at `infoMsg`. -/
theorem parseExtShapeAndType_kept (shapeAndType : List Nat) {size : Nat}
    (hlen : (mem.load32 (extInfo + 4)).toNat = size) (hmod : size % A.sizeofShapeAndType = 0) :
    (parseExtShapeAndType A mem true extInfo shapeAndType).val =
      (KERNEL_STATUS_OK, shapeAndType ++ (List.range (size / A.sizeofShapeAndType)).map
        fun index => infoMsg extInfo + index * A.sizeofShapeAndType) := by
  simp only [parseExtShapeAndType, infoLen, Bool.not_true, Bool.false_eq_true, if_false,
    Logged.val_bind, Lib.val_read32, hlen, hmod, ne_eq, not_true_eq_false, Logged.val_foldlM,
    Lib.val_keep, Logged.val_pure]
  rw [List.foldl_append_eq_append, ← List.flatMap_def, ← List.map_eq_flatMap]

/-- What a shape record adds, as contents. -/
theorem parseExtShapeAndType_val (unknownShape : Bool) (shapeAndType : List Nat)
    (hlen : (mem.load32 (extInfo + 4)).toNat = r.infoMsg.length)
    (hmod : r.infoMsg.length % A.sizeofShapeAndType = 0) :
    ∃ shapes, (parseExtShapeAndType A mem unknownShape extInfo shapeAndType).val =
        (KERNEL_STATUS_OK, shapes) ∧
      shapes.map (shapeBytes A mem) =
        if unknownShape then shapeAndType.map (shapeBytes A mem) ++ r.shapes A
        else shapeAndType.map (shapeBytes A mem) := by
  cases unknownShape with
  | false => exact ⟨shapeAndType, rfl, rfl⟩
  | true =>
      refine ⟨_, parseExtShapeAndType_kept shapeAndType hlen hmod, ?_⟩
      rw [List.map_append, shapeBytes_kept h hmod]
      rfl

/-- What the parser of a table gives for a record of whole entries. -/
theorem parseExtUnknownShapeIndex_val (m : Std.ExtTreeMap UInt32 UInt64)
    (hlen : (mem.load32 (extInfo + 4)).toNat = r.infoMsg.length)
    (hmod : r.infoMsg.length % 4 = 0) :
    (parseExtUnknownShapeIndex mem extInfo m).val = (KERNEL_STATUS_OK, r.insertIndexes m) := by
  simp only [parseExtUnknownShapeIndex, infoLen, Logged.val_bind, Lib.val_read32, hlen, hmod, ne_eq,
    not_true_eq_false, if_false, Logged.val_foldlM, Logged.val_pure, Prod.mk.injEq, true_and]
  unfold ExtRecord.insertIndexes
  refine List.foldl_ext _ _ m (fun m i hi => ?_)
  rw [List.mem_range] at hi
  rw [load32_field h (by omega)]

/-- What the parser of session records gives for one of the right length. -/
theorem parseExtSessionInfo_val (hA : A.Layout) (kernelId : UInt64)
    (hlen : (mem.load32 (extInfo + 4)).toNat = r.infoMsg.length)
    (hsize : r.infoMsg.length = A.sizeofSessionInfo) :
    (parseExtSessionInfo A mem extInfo kernelId).val =
      (KERNEL_STATUS_OK, UInt64.ofNat (r.field A.kernelIdOffset 8)) := by
  rw [← load64_field h (hsize ▸ hA.kernelId)]
  simp [parseExtSessionInfo, infoLen, hlen, hsize]

/-- The flag is the opposite of the lowest bit. -/
theorem parseExtBitMap_val (unknownShape : Bool)
    (hlen : (mem.load32 (extInfo + 4)).toNat = r.infoMsg.length) (hsize : r.infoMsg.length = 8) :
    (parseExtBitMap mem extInfo unknownShape).val =
      (KERNEL_STATUS_OK, !getBitStatus (UInt64.ofNat (r.field 0 8)) 0) := by
  rw [← load64_field h (by omega)]
  simp [parseExtBitMap, infoLen, hlen, hsize]

/-- The flag is one bit of the field. -/
theorem parseExtTopicTypeDeviceType_val (devicetypeHostFlag : Bool)
    (hlen : (mem.load32 (extInfo + 4)).toNat = r.infoMsg.length) (hsize : r.infoMsg.length = 4) :
    (parseExtTopicTypeDeviceType mem extInfo devicetypeHostFlag).val =
      (KERNEL_STATUS_OK, ((UInt32.ofNat (r.field 0 4) &&& kTopicTypeDeviceTypeMask) >>>
        kTopicTypeDeviceTypePostion) != 0) := by
  rw [← load32_field h (by omega)]
  simp [parseExtTopicTypeDeviceType, infoLen, hlen, hsize]

/-- What is waited for are the two fields. -/
theorem parseAsyncWait_val (hA : A.Layout) (waitType : UInt8) (waitId : UInt32)
    (hlen : (mem.load32 (extInfo + 4)).toNat = r.infoMsg.length)
    (hsize : r.infoMsg.length = A.sizeofAsyncWait) :
    (parseAsyncWait A mem extInfo waitType waitId).val =
      (KERNEL_STATUS_OK, UInt8.ofNat (r.field A.waitTypeOffset 1),
        UInt32.ofNat (r.field A.waitIdOffset 4)) := by
  rw [← load8_field h (hsize ▸ hA.waitType), ← load32_field h (hsize ▸ hA.waitId)]
  simp [parseAsyncWait, infoLen, hlen, hsize]

/-- **One record.**  A well-formed record is accepted and does to the view what its
type and bytes say. -/
theorem parseExtInfo_wellFormed (hA : A.Layout) (hlen : r.infoMsg.length < 2 ^ 32)
    (hwf : r.wellFormed A = true) (htype : mem.load32 extInfo = r.infoType.toUInt32)
    (hinfoLen : mem.load32 (extInfo + 4) = UInt32.ofNat r.infoMsg.length) (msg : ExtInfoMsg) :
    ∃ msg', (parseExtInfo A mem extInfo msg).val = (KERNEL_STATUS_OK, msg') ∧
      msg'.view A mem = applyRecord A (msg.view A mem) r := by
  have hinfoLen' : (mem.load32 (extInfo + 4)).toNat = r.infoMsg.length := by
    rw [hinfoLen, UInt32.toNat_ofNat_of_lt' hlen]
  have hclass : A.classify (mem.load32 extInfo).toInt32 = A.classify r.infoType := by
    rw [htype]
    rfl
  unfold parseExtInfo infoType applyRecord
  unfold ExtRecord.wellFormed at hwf
  rw [Logged.val_bind, Lib.val_read32, hclass]
  -- A parser that accepts the record says what it leaves in the message; an unknown type
  -- is skipped.
  cases hkind : A.classify r.infoType with
  | none => exact ⟨msg, rfl, rfl⟩
  | some kind =>
      rw [hkind] at hwf
      cases kind with
      | shapeType =>
          have hn : r.infoMsg.length = 4 := beq_iff_eq.mp hwf
          exact ⟨{ msg with unknownShape := true },
            by simp [parseExtShapeType, infoLen, hinfoLen', hn], rfl⟩
      | inputShape =>
          obtain ⟨shapes, hval, hview⟩ := parseExtShapeAndType_val h msg.unknownShape
            msg.inputShapeAndType hinfoLen' (beq_iff_eq.mp hwf)
          refine ⟨{ msg with inputShapeAndType := shapes }, ?_, ?_⟩
          · rw [Logged.val_bind, hval]
            rfl
          · rw [ExtInfoMsg.view, hview]
            rfl
      | outputShape =>
          obtain ⟨shapes, hval, hview⟩ := parseExtShapeAndType_val h msg.unknownShape
            msg.outputShapeAndType hinfoLen' (beq_iff_eq.mp hwf)
          refine ⟨{ msg with outputShapeAndType := shapes }, ?_, ?_⟩
          · rw [Logged.val_bind, hval]
            rfl
          · rw [ExtInfoMsg.view, hview]
            rfl
      | sessionInfo =>
          refine ⟨{ msg with
            hasSessInfo := true, kernelId := UInt64.ofNat (r.field A.kernelIdOffset 8) }, ?_, ?_⟩
          · rw [Logged.val_bind, parseExtSessionInfo_val h hA _ hinfoLen' (beq_iff_eq.mp hwf)]
            rfl
          · rfl
      | bitmap =>
          refine ⟨{ msg with unknownShape := !getBitStatus (UInt64.ofNat (r.field 0 8)) 0 }, ?_, ?_⟩
          · rw [Logged.val_bind, parseExtBitMap_val h _ hinfoLen' (beq_iff_eq.mp hwf)]
            rfl
          · rfl
      | topicType =>
          refine ⟨{ msg with
            devicetypeHostFlag := ((UInt32.ofNat (r.field 0 4) &&& kTopicTypeDeviceTypeMask) >>>
              kTopicTypeDeviceTypePostion) != 0 }, ?_, ?_⟩
          · rw [Logged.val_bind, parseExtTopicTypeDeviceType_val h _ hinfoLen' (beq_iff_eq.mp hwf)]
            rfl
          · rfl
      | asyncWait =>
          refine ⟨{ msg with
            waitType := UInt8.ofNat (r.field A.waitTypeOffset 1)
            waitId := UInt32.ofNat (r.field A.waitIdOffset 4)
            asyncFlag :=
              if UInt8.ofNat (r.field A.waitTypeOffset 1) ≠ A.waitTypeNull ∧
                UInt8.ofNat (r.field A.waitTypeOffset 1) ≠ A.waitTypeInvalid then true
              else msg.asyncFlag }, ?_, ?_⟩
          · rw [Logged.val_bind, parseAsyncWait_val h hA _ _ hinfoLen' (beq_iff_eq.mp hwf)]
            simp only [true_and]
            rfl
          · rfl
      | unknownShapeInputIndex =>
          refine ⟨{ msg with
            unknownShapeInputIndexAddr := r.insertIndexes msg.unknownShapeInputIndexAddr }, ?_, ?_⟩
          · rw [Logged.val_bind, parseExtUnknownShapeIndex_val h _ hinfoLen' (beq_iff_eq.mp hwf)]
            rfl
          · rfl
      | unknownShapeOutputIndex =>
          refine ⟨{ msg with
            unknownShapeOutputIndexAddr := r.insertIndexes msg.unknownShapeOutputIndexAddr }, ?_, ?_⟩
          · rw [Logged.val_bind, parseExtUnknownShapeIndex_val h _ hinfoLen' (beq_iff_eq.mp hwf)]
            rfl
          · rfl

end Record

/-! ## §4. All records. -/

section Records

variable {A : FwkAdapter} {mem : Mem} {paramHead : AicpuParamHead}

/-- The loop from an offset where the encodings of `records` begin and fill the
rest of the buffer. -/
theorem loop_records (hA : A.Layout) (haddr : paramHead.extInfoAddr ≠ 0)
    (records : List ExtRecord) :
    ∀ (offset : UInt32) (msg : ExtInfoMsg), (∀ r ∈ records, r.wellFormed A = true) →
      offset.toNat + (records.flatMap ExtRecord.encode).length = paramHead.extInfoLength.toNat →
      mem.Holds (recordAt paramHead offset) (records.flatMap ExtRecord.encode) →
      ∃ msg', (∀ fuel, records.length < fuel →
          (Lib.loop (parseExtMsgPass A mem paramHead) fuel (offset, msg)).val =
            some (KERNEL_STATUS_OK, msg')) ∧
        msg'.view A mem = records.foldl (applyRecord A) (msg.view A mem) := by
  induction records with
  | nil =>
      intro offset msg _ hlen _
      refine ⟨msg, fun fuel hfuel => ?_, rfl⟩
      obtain ⟨n, rfl⟩ := Nat.exists_eq_succ_of_ne_zero (Nat.ne_of_gt hfuel)
      have hend : ¬ offset.toNat + size ≤ paramHead.extInfoLength.toNat := by
        rw [← hlen]
        exact Nat.not_succ_le_self _ ∘ Nat.le_trans (Nat.add_le_add_left (by decide : 1 ≤ size) _)
      rw [Lib.loop_succ_exit (congrArg Logged.val (parseExtMsgPass_end hend))]
  | cons r rest ih =>
      intro offset msg hwf hlen hholds
      rw [List.flatMap_cons, List.length_append, ExtRecord.length_encode] at hlen
      rw [List.flatMap_cons, Lib.Mem.holds_append, ExtRecord.length_encode] at hholds
      have hmax := paramHead.extInfoLength.toNat_lt
      have hinfo : r.infoMsg.length < 2 ^ 32 := by omega
      obtain ⟨htype, hinfoLen, hmsg⟩ := holds_encode hholds.1
      have hon : OnRecord paramHead offset := by
        refine ⟨by show _ + 8 ≤ _; omega, fun hnull => haddr ?_⟩
        have hzero : paramHead.extInfoAddr.toNat = 0 := by
          unfold recordAt at hnull
          omega
        exact UInt64.toNat_inj.mp hzero
      obtain ⟨msg₁, hval, hview⟩ := parseExtInfo_wellFormed hmsg hA hinfo
        (hwf r List.mem_cons_self) htype hinfoLen msg
      -- the next offset is the one behind this record
      have hnext : (nextOffset mem paramHead offset).toNat
          = offset.toNat + (8 + r.infoMsg.length) := by
        unfold nextOffset lenAt
        rw [hinfoLen, UInt32.toNat_add, UInt32.toNat_add, UInt32.toNat_ofNat_of_lt' hinfo]
        show ((offset.toNat + 8) % 2 ^ 32 + r.infoMsg.length) % 2 ^ 32 = _
        omega
      obtain ⟨msg', hloop, hview'⟩ := ih (nextOffset mem paramHead offset) msg₁
        (fun r' hr' => hwf r' (List.mem_cons_of_mem r hr')) (by omega) (by
          unfold recordAt at hholds ⊢
          rw [hnext, ← Nat.add_assoc]
          exact hholds.2)
      refine ⟨msg', fun fuel hfuel => ?_, ?_⟩
      · obtain ⟨n, rfl⟩ := Nat.exists_eq_succ_of_ne_zero (Nat.ne_of_gt (Nat.zero_lt_of_lt hfuel))
        have hpass : Lib.Next (parseExtMsgPass A mem paramHead) (offset, msg)
            (nextOffset mem paramHead offset, msg₁) :=
          next_parseExtMsg_iff.mpr ⟨hon, hval, rfl⟩
        rw [Lib.loop_succ_next hpass]
        rw [List.length_cons] at hfuel
        exact hloop n (by omega)
      · rw [hview', hview, List.foldl_cons]

/-- **`ParseExtMsg` on an encoding** accepts it and applies the records in order. -/
theorem parseExtMsg_encoded (hA : A.Layout) {records : List ExtRecord}
    (hwf : ∀ r ∈ records, r.wellFormed A = true) (hbuf : Encodes mem paramHead records)
    (msg : ExtInfoMsg) :
    ∃ msg', (∀ fuel, records.length < fuel →
        (parseExtMsg A mem paramHead msg fuel).val = some (KERNEL_STATUS_OK, msg')) ∧
      msg'.view A mem =
        records.foldl (applyRecord A) { msg.view A mem with asyncFlag := false } :=
  loop_records hA hbuf.notNull records 0 { msg with asyncFlag := false } hwf
    ((Nat.zero_add _).trans hbuf.length.symm) hbuf.holds

end Records

end CpuKernelCache

end HwEfat.Aicpu
