/-
  HwEfat.Aicpu.ExtInfo.Bounds — which bytes the extend info loops touch.

  A pass checks that the 8-byte head of a record fits into the buffer and then
  trusts `infoLen`.  `touched` is how far into `infoMsg` the parser of a record
  looks; the accesses of a record stay in the buffer exactly when that many bytes
  are left behind its head (`parseExtInfo_inside_iff`), so `ParseExtMsg` as a
  whole stays in the buffer exactly when this is so for every record it visits
  (`accesses_inside_iff`).  The session walker reads heads only and never leaves.
-/
import HwEfat.Aicpu.ExtInfo.Walk

namespace HwEfat.Aicpu

open HwEfat.Lib (Mem Access Logged Pass Next Visits)

namespace ExtInfo

/-- How many bytes of `infoMsg` the parser of a record reads or keeps a pointer
into; of a kept `ShapeAndType`, `width` bytes count. -/
def touched (A : FwkAdapter) (mem : Mem) (extInfo : Nat) (unknownShape : Bool) (width : Nat) : Nat :=
  let infoLen := (mem.load32 (extInfo + 4)).toNat
  match A.classify (mem.load32 extInfo).toInt32 with
  | some .inputShape | some .outputShape =>
      if unknownShape ∧ infoLen % A.sizeofShapeAndType = 0 ∧ infoLen / A.sizeofShapeAndType ≠ 0 then
        (infoLen / A.sizeofShapeAndType - 1) * A.sizeofShapeAndType + width
      else 0
  | some .sessionInfo => if infoLen = A.sizeofSessionInfo then A.kernelIdOffset + 8 else 0
  | some .bitmap => if infoLen = 8 then 8 else 0
  | some .topicType => if infoLen = 4 then 4 else 0
  | some .asyncWait =>
      if infoLen = A.sizeofAsyncWait then max (A.waitTypeOffset + 1) (A.waitIdOffset + 4) else 0
  | some .unknownShapeInputIndex | some .unknownShapeOutputIndex =>
      if infoLen % 4 = 0 then infoLen else 0
  | some .shapeType | none => 0

/-! ## §1. What the record parsers log. -/

section Log

variable {A : FwkAdapter} {mem : Mem} {extInfo : Nat}

/-- The parser of the shape type reads its length only. -/
theorem parseExtShapeType_log (unknownShape : Bool) :
    (CpuKernelCache.parseExtShapeType mem extInfo unknownShape).log =
      [.read (extInfo + 4) 4] := by
  by_cases h : (mem.load32 (extInfo + 4)).toNat = 4 <;>
    simp [CpuKernelCache.parseExtShapeType, infoLen, h]

/-- One pointer for each element of the array at `infoMsg`. -/
theorem parseExtShapeAndType_log (unknownShape : Bool) (shapeAndType : List Nat) :
    (CpuKernelCache.parseExtShapeAndType A mem unknownShape extInfo shapeAndType).log =
      if unknownShape then
        .read (extInfo + 4) 4 ::
          if (mem.load32 (extInfo + 4)).toNat % A.sizeofShapeAndType = 0 then
            (List.range ((mem.load32 (extInfo + 4)).toNat / A.sizeofShapeAndType)).flatMap
              fun i => [.keep (infoMsg extInfo + i * A.sizeofShapeAndType)]
          else []
      else [] := by
  unfold CpuKernelCache.parseExtShapeAndType
  cases unknownShape with
  | false => rfl
  | true =>
      by_cases h : (mem.load32 (extInfo + 4)).toNat % A.sizeofShapeAndType = 0
      · simp only [Bool.not_true, Bool.false_eq_true, if_false, infoLen, Lib.Logged.log_bind,
          Lib.val_read32, Lib.log_read32, h, ne_eq, not_true_eq_false, Lib.Logged.log_pure,
          List.append_nil, List.singleton_append, if_true, List.cons.injEq, true_and]
        refine Lib.Logged.log_foldlM (fun l index => ?_) _ _
        rfl
      · simp [infoLen, h]

/-- One field, if the length is right. -/
theorem parseExtSessionInfo_log (kernelId : UInt64) :
    (CpuKernelCache.parseExtSessionInfo A mem extInfo kernelId).log =
      .read (extInfo + 4) 4 ::
        if (mem.load32 (extInfo + 4)).toNat = A.sizeofSessionInfo then
          [.read (infoMsg extInfo + A.kernelIdOffset) 8]
        else [] := by
  by_cases h : (mem.load32 (extInfo + 4)).toNat = A.sizeofSessionInfo <;>
    simp [CpuKernelCache.parseExtSessionInfo, infoLen, h]

/-- One word, if the length is right. -/
theorem parseExtBitMap_log (unknownShape : Bool) :
    (CpuKernelCache.parseExtBitMap mem extInfo unknownShape).log =
      .read (extInfo + 4) 4 ::
        if (mem.load32 (extInfo + 4)).toNat = 8 then [.read (infoMsg extInfo) 8] else [] := by
  by_cases h : (mem.load32 (extInfo + 4)).toNat = 8 <;>
    simp [CpuKernelCache.parseExtBitMap, infoLen, h]

/-- One field, if the length is right. -/
theorem parseExtTopicTypeDeviceType_log (host : Bool) :
    (CpuKernelCache.parseExtTopicTypeDeviceType mem extInfo host).log =
      .read (extInfo + 4) 4 ::
        if (mem.load32 (extInfo + 4)).toNat = 4 then [.read (infoMsg extInfo) 4] else [] := by
  by_cases h : (mem.load32 (extInfo + 4)).toNat = 4 <;>
    simp [CpuKernelCache.parseExtTopicTypeDeviceType, infoLen, h]

/-- Two fields, if the length is right. -/
theorem parseAsyncWait_log (waitType : UInt8) (waitId : UInt32) :
    (CpuKernelCache.parseAsyncWait A mem extInfo waitType waitId).log =
      .read (extInfo + 4) 4 ::
        if (mem.load32 (extInfo + 4)).toNat = A.sizeofAsyncWait then
          [.read (infoMsg extInfo + A.waitTypeOffset) 1,
            .read (infoMsg extInfo + A.waitIdOffset) 4]
        else [] := by
  by_cases h : (mem.load32 (extInfo + 4)).toNat = A.sizeofAsyncWait <;>
    simp [CpuKernelCache.parseAsyncWait, infoLen, h]

/-- One read for each entry of the table at `infoMsg`. -/
theorem parseExtUnknownShapeIndex_log (addrs : Std.ExtTreeMap UInt32 UInt64) :
    (CpuKernelCache.parseExtUnknownShapeIndex mem extInfo addrs).log =
      .read (extInfo + 4) 4 ::
        if (mem.load32 (extInfo + 4)).toNat % 4 = 0 then
          (List.range ((mem.load32 (extInfo + 4)).toNat / 4)).flatMap
            fun i => [.read (infoMsg extInfo + i * 4) 4]
        else [] := by
  unfold CpuKernelCache.parseExtUnknownShapeIndex
  by_cases h : (mem.load32 (extInfo + 4)).toNat % 4 = 0
  · simp only [infoLen, Lib.Logged.log_bind, Lib.val_read32, Lib.log_read32, h, ne_eq,
      not_true_eq_false, if_false, Lib.Logged.log_pure, List.append_nil, List.singleton_append,
      if_true, List.cons.injEq, true_and]
    refine Lib.Logged.log_foldlM (fun m i => ?_) _ _
    rfl
  · simp [infoLen, h]

end Log

/-! ## §2. One record. -/

section Record

variable {A : FwkAdapter} {mem : Mem} {extInfo base len width : Nat}

/-- The head is inside; what a parser logs behind it decides. -/
theorem inside_head_iff (hbase : base ≤ extInfo) (hhead : extInfo + 8 ≤ base + len)
    (l : List Access) :
    (∀ e ∈ Access.read (extInfo + 4) 4 :: l, e.Inside base len width) ↔
      ∀ e ∈ l, e.Inside base len width := by
  rw [List.forall_mem_cons]
  refine and_iff_right ?_
  show base ≤ extInfo + 4 ∧ extInfo + 4 + 4 ≤ base + len
  omega

/-- One read behind the head. -/
theorem inside_read_iff (hbase : base ≤ extInfo) (off size : Nat) :
    (∀ e ∈ [Access.read (infoMsg extInfo + off) size], e.Inside base len width) ↔
      extInfo + 8 + (off + size) ≤ base + len := by
  rw [List.forall_mem_singleton]
  show base ≤ extInfo + 8 + off ∧ extInfo + 8 + off + size ≤ base + len ↔ _
  omega

/-- An array of `n` elements behind the head, of which the first `w` bytes count. -/
theorem inside_array_iff (hbase : base ≤ extInfo) (hhead : extInfo + 8 ≤ base + len)
    (entry : Nat → Access) {n size w : Nat}
    (hentry : ∀ a, (entry a).Inside base len width ↔ base ≤ a ∧ a + w ≤ base + len) :
    (∀ e ∈ (List.range n).flatMap (fun i => [entry (infoMsg extInfo + i * size)]),
        e.Inside base len width) ↔
      extInfo + 8 + (if n ≠ 0 then (n - 1) * size + w else 0) ≤ base + len := by
  have hmem : (∀ e ∈ (List.range n).flatMap (fun i => [entry (infoMsg extInfo + i * size)]),
        e.Inside base len width) ↔
      ∀ i < n, base ≤ infoMsg extInfo + i * size ∧
        infoMsg extInfo + i * size + w ≤ base + len := by
    simp only [List.mem_flatMap, List.mem_range, List.mem_singleton]
    constructor
    · intro h i hi
      exact (hentry _).mp (h _ ⟨i, hi, rfl⟩)
    · intro h e ⟨i, hi, he⟩
      subst he
      exact (hentry _).mpr (h i hi)
  rw [hmem, Lib.prefixes_inside_iff (by unfold infoMsg; omega)]
  unfold infoMsg
  by_cases hn : n = 0
  · simp [hn, hhead]
  · simp [hn]

/-- The pointers that are kept reach as far as the last of them. -/
theorem parseExtShapeAndType_inside_iff (hbase : base ≤ extInfo)
    (hhead : extInfo + 8 ≤ base + len) (unknownShape : Bool) (shapeAndType : List Nat) :
    (∀ e ∈ (CpuKernelCache.parseExtShapeAndType A mem unknownShape extInfo shapeAndType).log,
        e.Inside base len width) ↔
      extInfo + 8 +
        (if unknownShape ∧ (mem.load32 (extInfo + 4)).toNat % A.sizeofShapeAndType = 0 ∧
            (mem.load32 (extInfo + 4)).toNat / A.sizeofShapeAndType ≠ 0 then
          ((mem.load32 (extInfo + 4)).toNat / A.sizeofShapeAndType - 1) * A.sizeofShapeAndType
            + width
        else 0) ≤ base + len := by
  rw [parseExtShapeAndType_log]
  cases unknownShape with
  | false => simpa using hhead
  | true =>
      rw [if_pos rfl, inside_head_iff hbase hhead]
      by_cases hcheck : (mem.load32 (extInfo + 4)).toNat % A.sizeofShapeAndType = 0
      · simp only [hcheck, if_true, true_and]
        exact inside_array_iff hbase hhead .keep (fun a => Iff.rfl)
      · simpa [hcheck] using hhead

/-- The table is read to its end. -/
theorem parseExtUnknownShapeIndex_inside_iff (hbase : base ≤ extInfo)
    (hhead : extInfo + 8 ≤ base + len) (addrs : Std.ExtTreeMap UInt32 UInt64) :
    (∀ e ∈ (CpuKernelCache.parseExtUnknownShapeIndex mem extInfo addrs).log,
        e.Inside base len width) ↔
      extInfo + 8 +
        (if (mem.load32 (extInfo + 4)).toNat % 4 = 0 then (mem.load32 (extInfo + 4)).toNat else 0)
        ≤ base + len := by
  rw [parseExtUnknownShapeIndex_log, inside_head_iff hbase hhead]
  by_cases hcheck : (mem.load32 (extInfo + 4)).toNat % 4 = 0
  · rw [if_pos hcheck, if_pos hcheck]
    refine (inside_array_iff hbase hhead (fun a => .read a 4) (fun a => Iff.rfl)).trans ?_
    by_cases hzero : (mem.load32 (extInfo + 4)).toNat / 4 = 0
    · rw [if_neg (fun h => h hzero)]
      omega
    · rw [if_pos hzero]
      omega
  · rw [if_neg hcheck, if_neg hcheck]
    simpa using hhead

/-- A record of a fixed length; of any other length nothing behind the head is read. -/
theorem fixed_inside_iff (hbase : base ≤ extInfo) (hhead : extInfo + 8 ≤ base + len)
    {n size : Nat} {reads : List Access}
    (hreads : (∀ e ∈ reads, e.Inside base len width) ↔ extInfo + 8 + size ≤ base + len) :
    (∀ e ∈ Access.read (extInfo + 4) 4 ::
        if (mem.load32 (extInfo + 4)).toNat = n then reads else [], e.Inside base len width) ↔
      extInfo + 8 + (if (mem.load32 (extInfo + 4)).toNat = n then size else 0) ≤ base + len := by
  rw [inside_head_iff hbase hhead]
  by_cases h : (mem.load32 (extInfo + 4)).toNat = n
  · rw [if_pos h, if_pos h]
    exact hreads
  · rw [if_neg h, if_neg h]
    simpa using hhead

/-- Two reads behind the head: the one that ends later decides. -/
theorem inside_two_reads_iff (hbase : base ≤ extInfo) (off size off' size' : Nat) :
    (∀ e ∈ [Access.read (infoMsg extInfo + off) size, .read (infoMsg extInfo + off') size'],
        e.Inside base len width) ↔
      extInfo + 8 + max (off + size) (off' + size') ≤ base + len := by
  rw [← List.singleton_append, List.forall_mem_append, inside_read_iff hbase,
    inside_read_iff hbase]
  omega

/-- **What a record's parser touches** stays in the buffer exactly when the
touched part of `infoMsg` does. -/
theorem parseExtInfo_inside_iff (hbase : base ≤ extInfo) (hhead : extInfo + 8 ≤ base + len)
    (msg : ExtInfoMsg) :
    (∀ e ∈ (CpuKernelCache.parseExtInfo A mem extInfo msg).log, e.Inside base len width) ↔
      extInfo + 8 + touched A mem extInfo msg.unknownShape width ≤ base + len := by
  -- the type is read first; it lies in the head
  have htype : ∀ l : List Access,
      (∀ e ∈ Access.read extInfo 4 :: l, e.Inside base len width) ↔
        ∀ e ∈ l, e.Inside base len width := by
    intro l
    rw [List.forall_mem_cons]
    refine and_iff_right ?_
    show base ≤ extInfo ∧ extInfo + 4 ≤ base + len
    omega
  have hnil : (∀ e ∈ ([] : List Access), e.Inside base len width) ↔
      extInfo + 8 + 0 ≤ base + len := by
    simpa using hhead
  unfold CpuKernelCache.parseExtInfo touched infoType
  rw [Lib.Logged.log_bind, Lib.log_read32, Lib.val_read32, List.singleton_append, htype]
  cases hkind : A.classify (mem.load32 extInfo).toInt32 with
  | none => exact hnil
  | some kind =>
      cases kind with
      | shapeType =>
          show (∀ e ∈ (CpuKernelCache.parseExtShapeType mem extInfo msg.unknownShape).log ++ [],
            e.Inside base len width) ↔ _
          rw [List.append_nil, parseExtShapeType_log, inside_head_iff hbase hhead]
          exact hnil
      | inputShape =>
          show (∀ e ∈ (CpuKernelCache.parseExtShapeAndType A mem msg.unknownShape extInfo
            msg.inputShapeAndType).log ++ [], e.Inside base len width) ↔ _
          rw [List.append_nil]
          exact parseExtShapeAndType_inside_iff hbase hhead _ _
      | outputShape =>
          show (∀ e ∈ (CpuKernelCache.parseExtShapeAndType A mem msg.unknownShape extInfo
            msg.outputShapeAndType).log ++ [], e.Inside base len width) ↔ _
          rw [List.append_nil]
          exact parseExtShapeAndType_inside_iff hbase hhead _ _
      | sessionInfo =>
          show (∀ e ∈ (CpuKernelCache.parseExtSessionInfo A mem extInfo msg.kernelId).log ++ [],
            e.Inside base len width) ↔ _
          rw [List.append_nil, parseExtSessionInfo_log]
          exact fixed_inside_iff hbase hhead (inside_read_iff hbase _ _)
      | bitmap =>
          show (∀ e ∈ (CpuKernelCache.parseExtBitMap mem extInfo msg.unknownShape).log ++ [],
            e.Inside base len width) ↔ _
          rw [List.append_nil, parseExtBitMap_log]
          exact fixed_inside_iff hbase hhead (inside_read_iff hbase 0 8)
      | topicType =>
          show (∀ e ∈ (CpuKernelCache.parseExtTopicTypeDeviceType mem extInfo
            msg.devicetypeHostFlag).log ++ [], e.Inside base len width) ↔ _
          rw [List.append_nil, parseExtTopicTypeDeviceType_log]
          exact fixed_inside_iff hbase hhead (inside_read_iff hbase 0 4)
      | asyncWait =>
          show (∀ e ∈ (CpuKernelCache.parseAsyncWait A mem extInfo msg.waitType msg.waitId).log
            ++ [], e.Inside base len width) ↔ _
          rw [List.append_nil, parseAsyncWait_log]
          exact fixed_inside_iff hbase hhead (inside_two_reads_iff hbase _ _ _ _)
      | unknownShapeInputIndex =>
          show (∀ e ∈ (CpuKernelCache.parseExtUnknownShapeIndex mem extInfo
            msg.unknownShapeInputIndexAddr).log ++ [], e.Inside base len width) ↔ _
          rw [List.append_nil]
          exact parseExtUnknownShapeIndex_inside_iff hbase hhead _
      | unknownShapeOutputIndex =>
          show (∀ e ∈ (CpuKernelCache.parseExtUnknownShapeIndex mem extInfo
            msg.unknownShapeOutputIndexAddr).log ++ [], e.Inside base len width) ↔ _
          rw [List.append_nil]
          exact parseExtUnknownShapeIndex_inside_iff hbase hhead _

end Record

/-! ## §3. The loops. -/

/-- What one pass of `ParseExtMsg` logs is what its record's parser logs, and
once more the length. -/
theorem parseExtMsgPass_inside_iff {A : FwkAdapter} {mem : Mem} {paramHead : AicpuParamHead}
    {s : UInt32 × ExtInfoMsg} {width : Nat} :
    (∀ e ∈ (CpuKernelCache.parseExtMsgPass A mem paramHead s).log,
        e.Inside paramHead.extInfoAddr.toNat paramHead.extInfoLength.toNat width) ↔
      (OnRecord paramHead s.1 →
        s.1.toNat + 8 + touched A mem (recordAt paramHead s.1) s.2.unknownShape width
          ≤ paramHead.extInfoLength.toNat) := by
  by_cases hfits : s.1.toNat + size ≤ paramHead.extInfoLength.toNat
  · by_cases hnull : recordAt paramHead s.1 = 0
    · rw [CpuKernelCache.parseExtMsgPass_null hfits hnull]
      simp [OnRecord, hnull]
    · have hon : OnRecord paramHead s.1 := ⟨hfits, hnull⟩
      have hfits' : s.1.toNat + 8 ≤ paramHead.extInfoLength.toNat := hfits
      have hrec : recordAt paramHead s.1 = paramHead.extInfoAddr.toNat + s.1.toNat := rfl
      have hbase : paramHead.extInfoAddr.toNat ≤ recordAt paramHead s.1 := by omega
      have hhead : recordAt paramHead s.1 + 8 ≤
          paramHead.extInfoAddr.toNat + paramHead.extInfoLength.toNat := by omega
      have hrecord := @parseExtInfo_inside_iff A mem _ _ _ width hbase hhead s.2
      -- The same bound, once from the start of the memory and once from that of the buffer.
      have hsum : recordAt paramHead s.1 + 8
            + touched A mem (recordAt paramHead s.1) s.2.unknownShape width
            ≤ paramHead.extInfoAddr.toNat + paramHead.extInfoLength.toNat ↔
          (OnRecord paramHead s.1 →
            s.1.toNat + 8 + touched A mem (recordAt paramHead s.1) s.2.unknownShape width
              ≤ paramHead.extInfoLength.toNat) := by
        constructor
        · intro h _
          omega
        · intro h
          have := h hon
          omega
      rw [← hsum, ← hrecord]
      by_cases hret : (CpuKernelCache.parseExtInfo A mem (recordAt paramHead s.1) s.2).val.1
          = KERNEL_STATUS_OK
      · rw [CpuKernelCache.parseExtMsgPass_next hon hret, List.forall_mem_append,
            List.forall_mem_singleton]
        refine and_iff_left ?_
        show _ ≤ _ ∧ _ ≤ _
        omega
      · rw [CpuKernelCache.parseExtMsgPass_failed hon hret]
  · rw [CpuKernelCache.parseExtMsgPass_end hfits]
    simp [OnRecord, hfits]

/-- The session walker reads the 8 bytes of the head, which fit. -/
theorem parseExtSessionInfoPass_inside {A : FwkAdapter} {mem : Mem} {paramHead : AicpuParamHead}
    (offset : UInt32) (width : Nat) :
    ∀ e ∈ (DeviceCpuKernel.parseExtSessionInfoPass A mem paramHead offset).log,
      e.Inside paramHead.extInfoAddr.toNat paramHead.extInfoLength.toNat width := by
  have hrec : recordAt paramHead offset = paramHead.extInfoAddr.toNat + offset.toNat := rfl
  by_cases hfits : offset.toNat + size ≤ paramHead.extInfoLength.toNat
  · have hfits' : offset.toNat + 8 ≤ paramHead.extInfoLength.toNat := hfits
    have hhead : ∀ e ∈ [Access.read (recordAt paramHead offset) 4,
          .read (recordAt paramHead offset + 4) 4],
        e.Inside paramHead.extInfoAddr.toNat paramHead.extInfoLength.toNat width := by
      rw [List.forall_mem_cons, List.forall_mem_singleton]
      show (_ ≤ _ ∧ _ ≤ _) ∧ _ ≤ _ ∧ _ ≤ _
      omega
    by_cases hnull : recordAt paramHead offset = 0
    · rw [DeviceCpuKernel.parseExtSessionInfoPass_null hfits hnull]
      intro e he
      cases he
    · by_cases htype : typeAt mem paramHead offset = A.code .sessionInfo
      · rw [DeviceCpuKernel.parseExtSessionInfoPass_session ⟨hfits, hnull⟩ htype]
        exact hhead
      · rw [DeviceCpuKernel.parseExtSessionInfoPass_next ⟨hfits, hnull⟩ htype]
        exact hhead
  · rw [DeviceCpuKernel.parseExtSessionInfoPass_end hfits]
    intro e he
    cases he

/-- **When the extend info is read within its bounds.**  Whatever the fuel, all
bytes `ParseExtMsg` reads lie in `[extInfoAddr, extInfoAddr + extInfoLength)`,
with the first `width` bytes behind each pointer it keeps (1 for the pointer
itself, `sizeof(ShapeAndType)` for the object), exactly when every record it
visits has its touched bytes in the buffer.  The session walker always stays
inside. -/
theorem accesses_inside_iff (A : FwkAdapter) (mem : Mem) (paramHead : AicpuParamHead)
    (msg : ExtInfoMsg) (width : Nat) :
    ((∀ fuel, ∀ e ∈ (CpuKernelCache.parseExtMsg A mem paramHead msg fuel).log,
        e.Inside paramHead.extInfoAddr.toNat paramHead.extInfoLength.toNat width) ↔
      ∀ s, Visits (CpuKernelCache.parseExtMsgPass A mem paramHead)
          (0, { msg with asyncFlag := false }) s →
        OnRecord paramHead s.1 →
        s.1.toNat + 8 + touched A mem (recordAt paramHead s.1) s.2.unknownShape width
          ≤ paramHead.extInfoLength.toNat) ∧
    ∀ fuel, ∀ e ∈ (DeviceCpuKernel.parseExtSessionInfo A mem paramHead fuel).log,
      e.Inside paramHead.extInfoAddr.toNat paramHead.extInfoLength.toNat width := by
  constructor
  · constructor
    · intro h s hv
      refine parseExtMsgPass_inside_iff.mp (fun e he => ?_)
      obtain ⟨fuel, hfuel⟩ := Lib.mem_log_iff.mpr ⟨s, hv, he⟩
      exact h fuel e hfuel
    · intro h fuel e he
      obtain ⟨s, hv, hs⟩ := Lib.mem_log_iff.mp ⟨fuel, he⟩
      exact parseExtMsgPass_inside_iff.mpr (h s hv) e hs
  · intro fuel e he
    obtain ⟨offset, -, hoff⟩ := Lib.mem_log_iff.mp ⟨fuel, he⟩
    exact parseExtSessionInfoPass_inside offset width e hoff

/-! ## A truncated record. -/

/-- The head of a bitmap record, with nothing behind it. -/
def truncatedMem : Mem := Mem.ofBytes 0x1000 [6, 0, 0, 0, 8, 0, 0, 0]

/-- A head that leaves room for 8 bytes only. -/
def truncatedHead : AicpuParamHead :=
  { base := 0x2000, length := 24, ioAddrNum := 0, extInfoLength := 8, extInfoAddr := 0x1000 }

/-- `ParseExtBitMap` reads the 8 bytes behind the end of the buffer. -/
theorem truncated_record_read_outside :
    truncatedHead.extInfoLength ≤ kMaxExtendLen ∧
    Access.read 0x1008 8 ∈
      (CpuKernelCache.parseExtMsg .packed truncatedMem truncatedHead ExtInfoMsg.new 1).log ∧
    ∀ width, ¬ (Access.read 0x1008 8).Inside truncatedHead.extInfoAddr.toNat
      truncatedHead.extInfoLength.toNat width := by
  refine ⟨by decide, by decide, fun width h => ?_⟩
  exact absurd h.2 (by decide)

end ExtInfo

end HwEfat.Aicpu
