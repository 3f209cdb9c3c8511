/-
  HwEfat.Aicpu.ExtInfo.Termination — when the loops over the extend info end.

  The only measure is the offset, and `offset += infoLen` is done modulo 2^32.
  A record whose `infoLen` carries the sum over 2^32, but not past the record
  itself, moves the offset backwards or leaves it where it was (`Wraps`); every
  other record moves it forward.  `walks_advance_iff` is the exact condition for
  both loops; `wrapping_record_never_ends` is a buffer of one such record on
  which both run forever.
-/
import HwEfat.Aicpu.ExtInfo.Walk

namespace HwEfat.Aicpu

open HwEfat.Lib (Mem Access Logged Pass Next Visits Terminates)

namespace ExtInfo

/-- Adding the head size and this `infoLen` to the offset does not advance it. -/
def Wraps (offset infoLen : UInt32) : Prop :=
  2 ^ 32 - 8 ≤ offset.toNat + infoLen.toNat ∧ infoLen.toNat ≤ 2 ^ 32 - 8

/-- The arithmetic of one link of the chain. -/
theorem lt_nextOffset_iff {mem : Mem} {paramHead : AicpuParamHead} {offset : UInt32}
    (h : OnRecord paramHead offset) :
    offset < nextOffset mem paramHead offset ↔ ¬ Wraps offset (lenAt mem paramHead offset) := by
  have hfits : offset.toNat + 8 ≤ paramHead.extInfoLength.toNat := h.1
  have hlength := UInt32.toNat_lt paramHead.extInfoLength
  have hlen := UInt32.toNat_lt (lenAt mem paramHead offset)
  have hnext : (nextOffset mem paramHead offset).toNat =
      (offset.toNat + 8 + (lenAt mem paramHead offset).toNat) % 2 ^ 32 := by
    rw [nextOffset, UInt32.toNat_add, UInt32.toNat_add, kExtInfoHeadSize]
    show ((offset.toNat + 8) % 2 ^ 32 + _) % 2 ^ 32 = _
    rw [Nat.mod_add_mod]
  rw [UInt32.lt_iff_toNat_lt, hnext]
  unfold Wraps
  -- the sum stays below 2^33, so the reduction takes 2^32 off at most once
  by_cases hsum : offset.toNat + 8 + (lenAt mem paramHead offset).toNat < 2 ^ 32
  · rw [Nat.mod_eq_of_lt hsum]
    omega
  · rw [Nat.mod_eq_sub_mod (by omega), Nat.mod_eq_of_lt (by omega)]
    omega

/-- A loop along the chain ends with a strictly growing offset exactly when no
record it passes over wraps. -/
theorem advances_iff {σ β : Type} {pass : σ → Logged Access (Pass σ β)} {s₀ : σ} (mem : Mem)
    (paramHead : AicpuParamHead) (off : σ → UInt32)
    (hchain : ∀ s s', Next pass s s' →
      OnRecord paramHead (off s) ∧ off s' = nextOffset mem paramHead (off s)) :
    (Terminates pass s₀ ∧ ∀ s s', Visits pass s₀ s → Next pass s s' → off s < off s') ↔
      ∀ s s', Visits pass s₀ s → Next pass s s' → ¬ Wraps (off s) (lenAt mem paramHead (off s)) := by
  constructor
  · intro ⟨_, hlt⟩ s s' hv hnext
    obtain ⟨hon, hoff⟩ := hchain s s' hnext
    exact (lt_nextOffset_iff hon).mp (hoff ▸ hlt s s' hv hnext)
  · intro hwrap
    have hlt : ∀ s s', Visits pass s₀ s → Next pass s s' → off s < off s' := by
      intro s s' hv hnext
      obtain ⟨hon, hoff⟩ := hchain s s' hnext
      rw [hoff]
      exact (lt_nextOffset_iff hon).mpr (hwrap s s' hv hnext)
    -- a growing offset stays below 2^32: what is left up to there is the measure
    refine ⟨Lib.terminates_of_measure (fun s => 2 ^ 32 - (off s).toNat) ?_, hlt⟩
    intro s s' hv hnext
    have hadvance := UInt32.lt_iff_toNat_lt.mp (hlt s s' hv hnext)
    have hbound := UInt32.toNat_lt (off s')
    show 2 ^ 32 - (off s').toNat < 2 ^ 32 - (off s).toNat
    omega

/-- **When the extend info loops end.**  `ParseExtMsg`, started on any message,
ends and advances its offset in every continuing pass exactly when no record
whose parser it ran with success wraps; the session walker, exactly when no
record it skips wraps. -/
theorem walks_advance_iff (A : FwkAdapter) (mem : Mem) (paramHead : AicpuParamHead)
    (msg : ExtInfoMsg) :
    ((Terminates (CpuKernelCache.parseExtMsgPass A mem paramHead) (0, msg) ∧
        ∀ s s', Visits (CpuKernelCache.parseExtMsgPass A mem paramHead) (0, msg) s →
          Next (CpuKernelCache.parseExtMsgPass A mem paramHead) s s' → s.1 < s'.1) ↔
      ∀ s, Visits (CpuKernelCache.parseExtMsgPass A mem paramHead) (0, msg) s →
        OnRecord paramHead s.1 →
        (CpuKernelCache.parseExtInfo A mem (recordAt paramHead s.1) s.2).val.1 = KERNEL_STATUS_OK →
        ¬ Wraps s.1 (lenAt mem paramHead s.1)) ∧
    ((Terminates (DeviceCpuKernel.parseExtSessionInfoPass A mem paramHead) 0 ∧
        ∀ o o', Visits (DeviceCpuKernel.parseExtSessionInfoPass A mem paramHead) 0 o →
          Next (DeviceCpuKernel.parseExtSessionInfoPass A mem paramHead) o o' → o < o') ↔
      ∀ o, Visits (DeviceCpuKernel.parseExtSessionInfoPass A mem paramHead) 0 o →
        OnRecord paramHead o → typeAt mem paramHead o ≠ A.code .sessionInfo →
        ¬ Wraps o (lenAt mem paramHead o)) := by
  constructor
  · -- A pass goes on only past a record that was parsed.
    refine (advances_iff mem paramHead Prod.fst ?_).trans ?_
    · intro s s' hnext
      obtain ⟨hon, -, hoff⟩ := CpuKernelCache.next_parseExtMsg_iff.mp hnext
      exact ⟨hon, hoff⟩
    · constructor
      · intro h s hv hon hret
        refine h s (nextOffset mem paramHead s.1,
          (CpuKernelCache.parseExtInfo A mem (recordAt paramHead s.1) s.2).val.2) hv ?_
        exact CpuKernelCache.next_parseExtMsg_iff.mpr ⟨hon, Prod.ext hret rfl, rfl⟩
      · intro h s s' hv hnext
        obtain ⟨hon, hval, -⟩ := CpuKernelCache.next_parseExtMsg_iff.mp hnext
        exact h s hv hon (congrArg Prod.fst hval)
  · -- This walk stops at the session record and parses no other.
    refine (advances_iff mem paramHead (fun o => o) ?_).trans ?_
    · intro o o' hnext
      obtain ⟨hon, -, hoff⟩ := DeviceCpuKernel.next_parseExtSessionInfo_iff.mp hnext
      exact ⟨hon, hoff⟩
    · constructor
      · intro h o hv hon htype
        refine h o (nextOffset mem paramHead o) hv ?_
        exact DeviceCpuKernel.next_parseExtSessionInfo_iff.mpr ⟨hon, htype, rfl⟩
      · intro h o o' hv hnext
        obtain ⟨hon, htype, -⟩ := DeviceCpuKernel.next_parseExtSessionInfo_iff.mp hnext
        exact h o hv hon htype

/-! ## A record that wraps. -/

/-- One record of an unknown type, with `infoLen` = 2^32 - 8. -/
def wrappingMem : Mem := Mem.ofBytes 0x1000 [99, 0, 0, 0, 0xF8, 0xFF, 0xFF, 0xFF]

/-- A record that is so long that the offset comes back. -/
def wrappingHead : AicpuParamHead :=
  { base := 0x2000, length := 24, ioAddrNum := 0, extInfoLength := 8, extInfoAddr := 0x1000 }

/-- Both loops stay at offset 0 of this buffer forever. -/
theorem wrapping_record_never_ends :
    wrappingHead.extInfoLength ≤ kMaxExtendLen ∧
    ¬ Terminates (CpuKernelCache.parseExtMsgPass .packed wrappingMem wrappingHead)
        (0, ExtInfoMsg.new) ∧
    ¬ Terminates (DeviceCpuKernel.parseExtSessionInfoPass .packed wrappingMem wrappingHead) 0 := by
  have hon : OnRecord wrappingHead 0 := by decide
  have hoff : nextOffset wrappingMem wrappingHead 0 = 0 := by decide
  refine ⟨by decide, ?_, ?_⟩
  · refine Lib.not_terminates_of_cycle .refl (.single ?_)
    exact CpuKernelCache.next_parseExtMsg_iff.mpr ⟨hon, rfl, hoff.symm⟩
  · refine Lib.not_terminates_of_cycle .refl (.single ?_)
    exact DeviceCpuKernel.next_parseExtSessionInfo_iff.mpr ⟨hon, by decide, hoff.symm⟩

end ExtInfo

end HwEfat.Aicpu
