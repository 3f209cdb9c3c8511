/-
  HwEfat.Aicpu.ExtInfo.Walk — what one pass of either loop over the extend info
  can do.

  Both loops follow the same chain of offsets: from a record at `offset` to
  `nextOffset`, modulo 2^32.  A pass either stops, or moves one link along the
  chain; the two inversion lemmas `next_parseExtMsg_iff` and
  `next_parseExtSessionInfo_iff` say when, and everything later about the loops
  (termination, bounds, agreement) is derived from them.
-/
import HwEfat.Aicpu.ExtInfo.Def

namespace HwEfat.Aicpu

open HwEfat.Lib (Mem Access Logged Pass Next Visits)

namespace ExtInfo

/-! ## §1. Records. -/

/-- The head of the record lies in the buffer and the pointer to it is not null. -/
def OnRecord (paramHead : AicpuParamHead) (offset : UInt32) : Prop :=
  offset.toNat + size ≤ paramHead.extInfoLength.toNat ∧ recordAt paramHead offset ≠ 0

instance (paramHead : AicpuParamHead) (offset : UInt32) : Decidable (OnRecord paramHead offset) :=
  inferInstanceAs (Decidable (_ ∧ _))

/-- The `infoType` of the record at an offset. -/
def typeAt (mem : Mem) (paramHead : AicpuParamHead) (offset : UInt32) : Int32 :=
  (mem.load32 (recordAt paramHead offset)).toInt32

/-- Its `infoLen`. -/
def lenAt (mem : Mem) (paramHead : AicpuParamHead) (offset : UInt32) : UInt32 :=
  mem.load32 (recordAt paramHead offset + 4)

/-- The offset behind the record, as the loops compute it. -/
def nextOffset (mem : Mem) (paramHead : AicpuParamHead) (offset : UInt32) : UInt32 :=
  offset + kExtInfoHeadSize + lenAt mem paramHead offset

end ExtInfo

open ExtInfo

/-- A kind is found by its code. -/
theorem FwkAdapter.classify_eq_some {A : FwkAdapter} {t : Int32} {kind : ExtInfoType} :
    A.classify t = some kind ↔ A.code kind = t := by
  have hall : ∀ k : ExtInfoType, k ∈ ExtInfoType.all := by
    intro k
    cases k <;> decide
  constructor
  · intro h
    simpa using List.find?_some h
  · intro h
    cases hc : A.classify t with
    | none =>
        have hk := List.find?_eq_none.mp hc kind (hall kind)
        simp [h] at hk
    | some k =>
        have hk : A.code k = t := by simpa using List.find?_some hc
        rw [A.code_injective (hk.trans h.symm)]

/-! ## §2. A pass of `ParseExtMsg`. -/

namespace CpuKernelCache

variable {A : FwkAdapter} {mem : Mem} {paramHead : AicpuParamHead}

/-- Off the buffer the loop ends with OK. -/
theorem parseExtMsgPass_end {s : UInt32 × ExtInfoMsg}
    (h : ¬ s.1.toNat + size ≤ paramHead.extInfoLength.toNat) :
    parseExtMsgPass A mem paramHead s = ⟨.exit (KERNEL_STATUS_OK, s.2), []⟩ := by
  rw [parseExtMsgPass, if_neg h]
  rfl

/-- A pass at the null pointer returns. -/
theorem parseExtMsgPass_null {s : UInt32 × ExtInfoMsg}
    (h : s.1.toNat + size ≤ paramHead.extInfoLength.toNat) (hnull : recordAt paramHead s.1 = 0) :
    parseExtMsgPass A mem paramHead s = ⟨.exit (KERNEL_STATUS_PARAM_INVALID, s.2), []⟩ := by
  rw [parseExtMsgPass, if_pos h]
  exact if_pos hnull

/-- On a record whose parser fails the loop ends with that failure. -/
theorem parseExtMsgPass_failed {s : UInt32 × ExtInfoMsg} (h : OnRecord paramHead s.1)
    (hret : (parseExtInfo A mem (recordAt paramHead s.1) s.2).val.1 ≠ KERNEL_STATUS_OK) :
    parseExtMsgPass A mem paramHead s =
      ⟨.exit (parseExtInfo A mem (recordAt paramHead s.1) s.2).val,
        (parseExtInfo A mem (recordAt paramHead s.1) s.2).log⟩ := by
  refine Logged.ext ?_ ?_ <;> simp [parseExtMsgPass, h.1, h.2, hret]

/-- On a record whose parser succeeds it goes on behind the record. -/
theorem parseExtMsgPass_next {s : UInt32 × ExtInfoMsg} (h : OnRecord paramHead s.1)
    (hret : (parseExtInfo A mem (recordAt paramHead s.1) s.2).val.1 = KERNEL_STATUS_OK) :
    parseExtMsgPass A mem paramHead s =
      ⟨.next (nextOffset mem paramHead s.1, (parseExtInfo A mem (recordAt paramHead s.1) s.2).val.2),
        (parseExtInfo A mem (recordAt paramHead s.1) s.2).log
          ++ [.read (recordAt paramHead s.1 + 4) 4]⟩ := by
  refine Logged.ext ?_ ?_ <;> simp [parseExtMsgPass, h.1, h.2, hret, nextOffset, lenAt, infoLen]

/-- **The passes of `ParseExtMsg` that go on.** -/
theorem next_parseExtMsg_iff {s s' : UInt32 × ExtInfoMsg} :
    Next (parseExtMsgPass A mem paramHead) s s' ↔
      OnRecord paramHead s.1 ∧
      (parseExtInfo A mem (recordAt paramHead s.1) s.2).val = (KERNEL_STATUS_OK, s'.2) ∧
      s'.1 = nextOffset mem paramHead s.1 := by
  unfold Next
  by_cases hfits : s.1.toNat + size ≤ paramHead.extInfoLength.toNat
  · by_cases hnull : recordAt paramHead s.1 = 0
    · rw [parseExtMsgPass_null hfits hnull]
      exact ⟨(fun h => nomatch h), fun h => absurd hnull h.1.2⟩
    · have hon : OnRecord paramHead s.1 := ⟨hfits, hnull⟩
      by_cases hret : (parseExtInfo A mem (recordAt paramHead s.1) s.2).val.1 = KERNEL_STATUS_OK
      · rw [parseExtMsgPass_next hon hret]
        constructor
        · intro h
          obtain rfl := Pass.next.inj h
          exact ⟨hon, Prod.ext hret rfl, rfl⟩
        · intro ⟨_, hval, hoff⟩
          rw [hval, ← hoff]
      · rw [parseExtMsgPass_failed hon hret]
        exact ⟨(fun h => nomatch h), fun h => absurd (congrArg Prod.fst h.2.1) hret⟩
  · rw [parseExtMsgPass_end hfits]
    exact ⟨(fun h => nomatch h), fun h => absurd h.1.1 hfits⟩

/-- It ends with OK only at an offset where no head fits any more. -/
theorem exit_parseExtMsg_ok {s : UInt32 × ExtInfoMsg} {msg : ExtInfoMsg}
    (h : (parseExtMsgPass A mem paramHead s).val = .exit (KERNEL_STATUS_OK, msg)) :
    ¬ s.1.toNat + size ≤ paramHead.extInfoLength.toNat ∧ msg = s.2 := by
  by_cases hfits : s.1.toNat + size ≤ paramHead.extInfoLength.toNat
  · exfalso
    by_cases hnull : recordAt paramHead s.1 = 0
    · rw [parseExtMsgPass_null hfits hnull] at h
      have hcode : KERNEL_STATUS_PARAM_INVALID = KERNEL_STATUS_OK :=
        congrArg Prod.fst (Pass.exit.inj h)
      exact absurd hcode (by decide)
    · by_cases hret : (parseExtInfo A mem (recordAt paramHead s.1) s.2).val.1 = KERNEL_STATUS_OK
      · rw [parseExtMsgPass_next ⟨hfits, hnull⟩ hret] at h
        cases h
      · rw [parseExtMsgPass_failed ⟨hfits, hnull⟩ hret] at h
        exact hret (congrArg Prod.fst (Pass.exit.inj h))
  · rw [parseExtMsgPass_end hfits] at h
    exact ⟨hfits, (congrArg Prod.snd (Pass.exit.inj h)).symm⟩

end CpuKernelCache

/-! ## §3. A pass of the session walker. -/

namespace DeviceCpuKernel

variable {A : FwkAdapter} {mem : Mem} {paramHead : AicpuParamHead}

/-- The session walker stops behind the last record. -/
theorem parseExtSessionInfoPass_end {offset : UInt32}
    (h : ¬ offset.toNat + size ≤ paramHead.extInfoLength.toNat) :
    parseExtSessionInfoPass A mem paramHead offset = ⟨.exit (KERNEL_STATUS_OK, none), []⟩ := by
  rw [parseExtSessionInfoPass, if_neg h]
  rfl

/-- It returns at the null pointer. -/
theorem parseExtSessionInfoPass_null {offset : UInt32}
    (h : offset.toNat + size ≤ paramHead.extInfoLength.toNat)
    (hnull : recordAt paramHead offset = 0) :
    parseExtSessionInfoPass A mem paramHead offset =
      ⟨.exit (KERNEL_STATUS_PARAM_INVALID, none), []⟩ := by
  rw [parseExtSessionInfoPass, if_pos h]
  exact if_pos hnull

/-- A session record is where the walker stops. -/
theorem parseExtSessionInfoPass_session {offset : UInt32} (h : OnRecord paramHead offset)
    (htype : typeAt mem paramHead offset = A.code .sessionInfo) :
    parseExtSessionInfoPass A mem paramHead offset =
      ⟨.exit (if (lenAt mem paramHead offset).toNat = A.sizeofSessionInfo
          then (KERNEL_STATUS_OK, some (infoMsg (recordAt paramHead offset)))
          else (KERNEL_STATUS_PARAM_INVALID, none)),
        [.read (recordAt paramHead offset) 4, .read (recordAt paramHead offset + 4) 4]⟩ := by
  have htype' : (mem.load32 (recordAt paramHead offset)).toInt32 = A.code .sessionInfo := htype
  unfold lenAt
  by_cases hlen : (mem.load32 (recordAt paramHead offset + 4)).toNat = A.sizeofSessionInfo <;>
    refine Logged.ext ?_ ?_ <;>
    simp [parseExtSessionInfoPass, h.1, h.2, htype', hlen, infoType, infoLen]

/-- A record of another kind is passed over. -/
theorem parseExtSessionInfoPass_next {offset : UInt32} (h : OnRecord paramHead offset)
    (htype : typeAt mem paramHead offset ≠ A.code .sessionInfo) :
    parseExtSessionInfoPass A mem paramHead offset =
      ⟨.next (nextOffset mem paramHead offset),
        [.read (recordAt paramHead offset) 4, .read (recordAt paramHead offset + 4) 4]⟩ := by
  have htype' : (mem.load32 (recordAt paramHead offset)).toInt32 ≠ A.code .sessionInfo := htype
  refine Logged.ext ?_ ?_ <;>
    simp [parseExtSessionInfoPass, h.1, h.2, htype', nextOffset, lenAt, infoType, infoLen]

/-- **The passes of the session walker that go on.** -/
theorem next_parseExtSessionInfo_iff {offset offset' : UInt32} :
    Next (parseExtSessionInfoPass A mem paramHead) offset offset' ↔
      OnRecord paramHead offset ∧ typeAt mem paramHead offset ≠ A.code .sessionInfo ∧
      offset' = nextOffset mem paramHead offset := by
  unfold Next
  by_cases hfits : offset.toNat + size ≤ paramHead.extInfoLength.toNat
  · by_cases hnull : recordAt paramHead offset = 0
    · rw [parseExtSessionInfoPass_null hfits hnull]
      exact ⟨(fun h => nomatch h), fun h => absurd hnull h.1.2⟩
    · have hon : OnRecord paramHead offset := ⟨hfits, hnull⟩
      by_cases htype : typeAt mem paramHead offset = A.code .sessionInfo
      · rw [parseExtSessionInfoPass_session hon htype]
        exact ⟨(fun h => nomatch h), fun h => absurd htype h.2.1⟩
      · rw [parseExtSessionInfoPass_next hon htype]
        constructor
        · intro h
          obtain rfl := Pass.next.inj h
          exact ⟨hon, htype, rfl⟩
        · intro ⟨_, _, hoff⟩
          subst hoff
          rfl
  · rw [parseExtSessionInfoPass_end hfits]
    exact ⟨(fun h => nomatch h), fun h => absurd h.1.1 hfits⟩

end DeviceCpuKernel

end HwEfat.Aicpu
