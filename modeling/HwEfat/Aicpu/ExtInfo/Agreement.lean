/-
  HwEfat.Aicpu.ExtInfo.Agreement — the session walker against `ParseExtMsg`.

  Both loops run along one chain of offsets.  The session walker stops at the
  FIRST session record of the chain; `ParseExtMsg` runs on and keeps the kernel
  id of the LAST one.  So on a buffer both accept they agree that there is a
  session, and they agree on the record exactly when the chain has at most one
  session record: `walkers_agree_iff`.
-/
import HwEfat.Aicpu.ExtInfo.Walk

namespace HwEfat.Aicpu

open HwEfat.Lib (Mem Access Logged Pass Next Visits)

namespace ExtInfo

/-! ## §1. The chain of records. -/

/-- One link, from a record to the offset behind it. -/
def Advance (mem : Mem) (paramHead : AicpuParamHead) (offset offset' : UInt32) : Prop :=
  OnRecord paramHead offset ∧ offset' = nextOffset mem paramHead offset

/-- The offsets the chain through the buffer comes to from `offset`. -/
def Chain (mem : Mem) (paramHead : AicpuParamHead) : UInt32 → UInt32 → Prop :=
  Relation.ReflTransGen (Advance mem paramHead)

/-- A session info record. -/
def IsSession (A : FwkAdapter) (mem : Mem) (paramHead : AicpuParamHead) (offset : UInt32) : Prop :=
  OnRecord paramHead offset ∧ typeAt mem paramHead offset = A.code .sessionInfo

/-- The `kernelId` of the session info record at an offset. -/
def kernelIdAt (A : FwkAdapter) (mem : Mem) (paramHead : AicpuParamHead) (offset : UInt32) :
    UInt64 :=
  mem.load64 (infoMsg (recordAt paramHead offset) + A.kernelIdOffset)

variable {A : FwkAdapter} {mem : Mem} {paramHead : AicpuParamHead}

/-- The records that the loop visits are a chain. -/
theorem Chain.of_visits {s s' : UInt32 × ExtInfoMsg}
    (h : Visits (CpuKernelCache.parseExtMsgPass A mem paramHead) s s') :
    Chain mem paramHead s.1 s'.1 := by
  induction h with
  | refl => exact .refl
  | tail _ hnext ih =>
      obtain ⟨hon, -, hoff⟩ := CpuKernelCache.next_parseExtMsg_iff.mp hnext
      exact ih.tail ⟨hon, hoff⟩

/-- A walk of `ParseExtMsg` that ends with OK comes to every offset of the chain. -/
theorem Chain.visits {s e : UInt32 × ExtInfoMsg} {msg : ExtInfoMsg}
    (he : Visits (CpuKernelCache.parseExtMsgPass A mem paramHead) s e)
    (hexit : (CpuKernelCache.parseExtMsgPass A mem paramHead e).val
      = .exit (KERNEL_STATUS_OK, msg)) {offset : UInt32} (hc : Chain mem paramHead s.1 offset) :
    ∃ m, Visits (CpuKernelCache.parseExtMsgPass A mem paramHead) s (offset, m) := by
  induction hc with
  | refl => exact ⟨s.2, .refl⟩
  | tail _ hadv ih =>
      obtain ⟨m, hv⟩ := ih
      obtain ⟨hon, rfl⟩ := hadv
      -- the record is not where the walk ended, so the walk went on behind it
      rcases Relation.ReflTransGen.cases_head (Lib.visits_exit hv he hexit) with rfl | ⟨t, hnext, -⟩
      · exact absurd hon.1 (CpuKernelCache.exit_parseExtMsg_ok hexit).1
      · obtain ⟨-, -, hoff⟩ := CpuKernelCache.next_parseExtMsg_iff.mp hnext
        have ht : t = (nextOffset mem paramHead (_, m).1, t.2) := Prod.ext hoff rfl
        exact ⟨t.2, hv.tail (ht ▸ hnext)⟩

/-! ## §2. The session walker finds the first session record. -/

/-- How the walker ends with OK. -/
theorem exit_parseExtSessionInfo_ok {offset : UInt32} {session : Option Nat}
    (h : (DeviceCpuKernel.parseExtSessionInfoPass A mem paramHead offset).val
      = .exit (KERNEL_STATUS_OK, session)) :
    (session = none ∧ ¬ offset.toNat + size ≤ paramHead.extInfoLength.toNat) ∨
    (session = some (infoMsg (recordAt paramHead offset)) ∧ IsSession A mem paramHead offset) := by
  by_cases hfits : offset.toNat + size ≤ paramHead.extInfoLength.toNat
  · right
    -- A null record and a session record of another length are errors, not the exit meant here.
    by_cases hnull : recordAt paramHead offset = 0
    · rw [DeviceCpuKernel.parseExtSessionInfoPass_null hfits hnull] at h
      have hcode : KERNEL_STATUS_PARAM_INVALID = KERNEL_STATUS_OK :=
        congrArg Prod.fst (Pass.exit.inj h)
      exact absurd hcode (by decide)
    · have hon : OnRecord paramHead offset := ⟨hfits, hnull⟩
      by_cases htype : typeAt mem paramHead offset = A.code .sessionInfo
      · refine ⟨?_, hon, htype⟩
        rw [DeviceCpuKernel.parseExtSessionInfoPass_session hon htype] at h
        by_cases hlen : (lenAt mem paramHead offset).toNat = A.sizeofSessionInfo
        · rw [if_pos hlen] at h
          exact (congrArg Prod.snd (Pass.exit.inj h)).symm
        · rw [if_neg hlen] at h
          have hcode : KERNEL_STATUS_PARAM_INVALID = KERNEL_STATUS_OK :=
            congrArg Prod.fst (Pass.exit.inj h)
          exact absurd hcode (by decide)
      · rw [DeviceCpuKernel.parseExtSessionInfoPass_next hon htype] at h
        cases h
  · left
    rw [DeviceCpuKernel.parseExtSessionInfoPass_end hfits] at h
    exact ⟨(congrArg Prod.snd (Pass.exit.inj h)).symm, hfits⟩

/-- The walker does not pass a session record by. -/
theorem chain_to_session {offset offset' session : UInt32}
    (hv : Visits (DeviceCpuKernel.parseExtSessionInfoPass A mem paramHead) offset offset')
    (hc : Chain mem paramHead offset session) (hs : IsSession A mem paramHead session) :
    Chain mem paramHead offset' session := by
  induction hv with
  | refl => exact hc
  | tail _ hnext ih =>
      obtain ⟨hon, htype, hoff⟩ := DeviceCpuKernel.next_parseExtSessionInfo_iff.mp hnext
      -- the record passed by is not the session record, so the chain goes on behind it
      rcases Relation.ReflTransGen.cases_head ih with rfl | ⟨t, hadv, hrest⟩
      · exact absurd hs.2 htype
      · rw [hoff, ← hadv.2]
        exact hrest

/-! ## §3. `ParseExtMsg` keeps the last session record. -/

/-- A session record the parser accepts sets `has_sess_info` and `kernel_id` ... -/
theorem parseExtInfo_session {s : UInt32 × ExtInfoMsg} (hs : IsSession A mem paramHead s.1)
    (hret : (CpuKernelCache.parseExtInfo A mem (recordAt paramHead s.1) s.2).val.1
      = KERNEL_STATUS_OK) :
    (CpuKernelCache.parseExtInfo A mem (recordAt paramHead s.1) s.2).val.2.hasSessInfo = true ∧
    (CpuKernelCache.parseExtInfo A mem (recordAt paramHead s.1) s.2).val.2.kernelId
      = kernelIdAt A mem paramHead s.1 := by
  have hkind : A.classify (mem.load32 (recordAt paramHead s.1)).toInt32 = some .sessionInfo :=
    FwkAdapter.classify_eq_some.mpr hs.2.symm
  unfold CpuKernelCache.parseExtInfo infoType at hret ⊢
  rw [Lib.Logged.val_bind, Lib.val_read32, hkind] at hret ⊢
  by_cases hlen : (mem.load32 (recordAt paramHead s.1 + 4)).toNat = A.sizeofSessionInfo
  · simp [CpuKernelCache.parseExtSessionInfo, infoLen, hlen, kernelIdAt]
  · simp [CpuKernelCache.parseExtSessionInfo, infoLen, hlen] at hret
    exact absurd hret (by decide)

/-- ... and no other record touches them. -/
theorem parseExtInfo_frame {s : UInt32 × ExtInfoMsg} (hon : OnRecord paramHead s.1)
    (hs : ¬ IsSession A mem paramHead s.1) :
    (CpuKernelCache.parseExtInfo A mem (recordAt paramHead s.1) s.2).val.2.hasSessInfo
      = s.2.hasSessInfo ∧
    (CpuKernelCache.parseExtInfo A mem (recordAt paramHead s.1) s.2).val.2.kernelId
      = s.2.kernelId := by
  have hkind : A.classify (mem.load32 (recordAt paramHead s.1)).toInt32 ≠ some .sessionInfo :=
    fun h => hs ⟨hon, (FwkAdapter.classify_eq_some.mp h).symm⟩
  unfold CpuKernelCache.parseExtInfo infoType
  rw [Lib.Logged.val_bind, Lib.val_read32]
  cases hclass : A.classify (mem.load32 (recordAt paramHead s.1)).toInt32 with
  | none => exact ⟨rfl, rfl⟩
  | some kind =>
      cases kind with
      | sessionInfo => exact absurd hclass hkind
      | _ => exact ⟨rfl, rfl⟩

/-- The visited session record before `s` that comes after all others. -/
structure LastSession (A : FwkAdapter) (mem : Mem) (paramHead : AicpuParamHead)
    (s₀ s r : UInt32 × ExtInfoMsg) : Prop where
  visited : Visits (CpuKernelCache.parseExtMsgPass A mem paramHead) s₀ r
  session : IsSession A mem paramHead r.1
  before : Relation.TransGen (Next (CpuKernelCache.parseExtMsgPass A mem paramHead)) r s
  last : ∀ t, Visits (CpuKernelCache.parseExtMsgPass A mem paramHead) s₀ t →
    IsSession A mem paramHead t.1 →
    Relation.TransGen (Next (CpuKernelCache.parseExtMsgPass A mem paramHead)) t s →
    Visits (CpuKernelCache.parseExtMsgPass A mem paramHead) t r

/-- What `has_sess_info` and `kernel_id` say about the walk up to `s`. -/
def SessionInv (A : FwkAdapter) (mem : Mem) (paramHead : AicpuParamHead)
    (s₀ s : UInt32 × ExtInfoMsg) : Prop :=
  (s.2.hasSessInfo = false ∧
    ∀ t, Visits (CpuKernelCache.parseExtMsgPass A mem paramHead) s₀ t →
      IsSession A mem paramHead t.1 →
      ¬ Relation.TransGen (Next (CpuKernelCache.parseExtMsgPass A mem paramHead)) t s) ∨
  (s.2.hasSessInfo = true ∧
    ∃ r, LastSession A mem paramHead s₀ s r ∧ s.2.kernelId = kernelIdAt A mem paramHead r.1)

/-- In a walk that ends, what comes before the next state is what came before
this one, and this one. -/
theorem before_next {s₀ s s' t : UInt32 × ExtInfoMsg}
    (hterm : Lib.Terminates (CpuKernelCache.parseExtMsgPass A mem paramHead) s₀)
    (hs : Visits (CpuKernelCache.parseExtMsgPass A mem paramHead) s₀ s)
    (hnext : Next (CpuKernelCache.parseExtMsgPass A mem paramHead) s s')
    (ht : Visits (CpuKernelCache.parseExtMsgPass A mem paramHead) s₀ t)
    (hbefore : Relation.TransGen (Next (CpuKernelCache.parseExtMsgPass A mem paramHead)) t s') :
    t = s ∨ Relation.TransGen (Next (CpuKernelCache.parseExtMsgPass A mem paramHead)) t s := by
  rcases Lib.visits_total hs ht with h | h
  · rcases Relation.ReflTransGen.cases_head h with rfl | ⟨u, hu, hut⟩
    · exact Or.inl rfl
    · -- `t` comes after `s'` and before it: a cycle
      obtain rfl := Lib.next_rightUnique hnext hu
      exact absurd hterm
        (Lib.not_terminates_of_cycle (hs.tail hnext) (Relation.TransGen.trans_right hut hbefore))
  · rcases Relation.reflTransGen_iff_eq_or_transGen.mp h with rfl | h
    · exact Or.inl rfl
    · exact Or.inr h

/-- **The invariant of the loop** about the session, at every record it visits. -/
theorem sessionInv_of_visits {s₀ s : UInt32 × ExtInfoMsg} (hnew : s₀.2.hasSessInfo = false)
    (hterm : Lib.Terminates (CpuKernelCache.parseExtMsgPass A mem paramHead) s₀)
    (hs : Visits (CpuKernelCache.parseExtMsgPass A mem paramHead) s₀ s) :
    SessionInv A mem paramHead s₀ s := by
  induction hs with
  | refl =>
      -- a state before the first one would close a cycle
      refine Or.inl ⟨hnew, fun t ht _ hbefore => ?_⟩
      exact absurd hterm
        (Lib.not_terminates_of_cycle .refl (Relation.TransGen.trans_right ht hbefore))
  | tail hs hnext ih =>
      rename_i s s'
      obtain ⟨hon, hval, -⟩ := CpuKernelCache.next_parseExtMsg_iff.mp hnext
      have hret := congrArg Prod.fst hval
      have hmsg : s'.2 = (CpuKernelCache.parseExtInfo A mem (recordAt paramHead s.1) s.2).val.2 :=
        (congrArg Prod.snd hval).symm
      by_cases hsession : IsSession A mem paramHead s.1
      · -- the record at `s` is the new last one
        obtain ⟨hhas, hid⟩ := parseExtInfo_session hsession hret
        refine Or.inr ⟨by rw [hmsg, hhas], s, ⟨hs, hsession, .single hnext, ?_⟩, by rw [hmsg, hid]⟩
        intro t ht _ hbefore
        rcases before_next hterm hs hnext ht hbefore with rfl | h
        · exact .refl
        · exact h.to_reflTransGen
      · -- the record at `s` leaves both fields alone: what was last stays last
        obtain ⟨hhas, hid⟩ := parseExtInfo_frame hon hsession
        have hold : ∀ t, Visits (CpuKernelCache.parseExtMsgPass A mem paramHead) s₀ t →
            IsSession A mem paramHead t.1 →
            Relation.TransGen (Next (CpuKernelCache.parseExtMsgPass A mem paramHead)) t s' →
            Relation.TransGen (Next (CpuKernelCache.parseExtMsgPass A mem paramHead)) t s := by
          intro t ht hts hbefore
          rcases before_next hterm hs hnext ht hbefore with rfl | h
          · exact absurd hts hsession
          · exact h
        rcases ih with ⟨hno, hnone⟩ | ⟨hyes, r, hr, hkid⟩
        · refine Or.inl ⟨by rw [hmsg, hhas, hno], fun t ht hts hbefore => ?_⟩
          exact hnone t ht hts (hold t ht hts hbefore)
        · refine Or.inr ⟨by rw [hmsg, hhas, hyes], r, ?_, by rw [hmsg, hid, hkid]⟩
          exact ⟨hr.visited, hr.session, hr.before.tail hnext,
            fun t ht hts hbefore => hr.last t ht hts (hold t ht hts hbefore)⟩

/-! ## §4. Agreement. -/

/-- The record at `offset` is the last one whose parsing assigned `kernel_id`. -/
def KernelIdFrom (A : FwkAdapter) (mem : Mem) (paramHead : AicpuParamHead) (offset : UInt32) :
    Prop :=
  IsSession A mem paramHead offset ∧
  ∃ m, Visits (CpuKernelCache.parseExtMsgPass A mem paramHead)
      (0, { ExtInfoMsg.new with asyncFlag := false }) (offset, m) ∧
    ∀ t, Relation.TransGen (Next (CpuKernelCache.parseExtMsgPass A mem paramHead)) (offset, m) t →
      ¬ IsSession A mem paramHead t.1

/-- What `ParseExtMsg` knows about the session, in terms of the chain. -/
theorem parseExtMsg_session {msg : ExtInfoMsg} {fuel : Nat}
    (hm : (CpuKernelCache.parseExtMsg A mem paramHead ExtInfoMsg.new fuel).val
      = some (KERNEL_STATUS_OK, msg)) :
    (msg.hasSessInfo = true ↔
      ∃ o, Chain mem paramHead 0 o ∧ IsSession A mem paramHead o) ∧
    (msg.hasSessInfo = true → ∃ o, KernelIdFrom A mem paramHead o) ∧
    ∀ o, KernelIdFrom A mem paramHead o → msg.kernelId = kernelIdAt A mem paramHead o := by
  obtain ⟨e, he, hexit⟩ := Lib.loop_eq_some_iff.mp ⟨fuel, hm⟩
  obtain ⟨hend, rfl⟩ := CpuKernelCache.exit_parseExtMsg_ok hexit
  have hterm : Lib.Terminates (CpuKernelCache.parseExtMsgPass A mem paramHead)
      (0, { ExtInfoMsg.new with asyncFlag := false }) := Lib.terminates_iff.mpr ⟨e, _, he, hexit⟩
  -- every session record visited comes before the end
  have hbefore : ∀ t, Visits (CpuKernelCache.parseExtMsgPass A mem paramHead)
        (0, { ExtInfoMsg.new with asyncFlag := false }) t → IsSession A mem paramHead t.1 →
      Relation.TransGen (Next (CpuKernelCache.parseExtMsgPass A mem paramHead)) t e := by
    intro t ht hts
    rcases Relation.reflTransGen_iff_eq_or_transGen.mp (Lib.visits_exit ht he hexit) with h | h
    · rw [← h] at hts
      exact absurd hts.1.1 hend
    · exact h
  have hinv := sessionInv_of_visits rfl hterm he
  refine ⟨⟨?_, ?_⟩, ?_, ?_⟩
  · intro hhas
    rcases hinv with ⟨hno, -⟩ | ⟨-, r, hr, -⟩
    · rw [hno] at hhas
      cases hhas
    · exact ⟨r.1, Chain.of_visits hr.visited, hr.session⟩
  · intro ⟨o, hc, hos⟩
    obtain ⟨m, hv⟩ := Chain.visits he hexit hc
    rcases hinv with ⟨-, hnone⟩ | ⟨hyes, -⟩
    · exact absurd (hbefore _ hv hos) (hnone _ hv hos)
    · exact hyes
  · intro hhas
    rcases hinv with ⟨hno, -⟩ | ⟨-, r, hr, -⟩
    · rw [hno] at hhas
      cases hhas
    · refine ⟨r.1, hr.session, r.2, hr.visited, fun t ht hts => ?_⟩
      have hv := hr.visited.trans ht.to_reflTransGen
      exact absurd hterm (Lib.not_terminates_of_cycle hr.visited
        (Relation.TransGen.trans_left ht (hr.last t hv hts (hbefore t hv hts))))
  · intro o ⟨hos, m, hv, hlast⟩
    rcases hinv with ⟨-, hnone⟩ | ⟨-, r, hr, hid⟩
    · exact absurd (hbefore _ hv hos) (hnone _ hv hos)
    · rcases Relation.reflTransGen_iff_eq_or_transGen.mp
        (hr.last _ hv hos (hbefore _ hv hos)) with h | h
      · rw [hid, h]
      · exact absurd hr.session (hlast r h)

/-- Different offsets are different records. -/
theorem infoMsg_recordAt_inj {o o' : UInt32}
    (h : infoMsg (recordAt paramHead o) = infoMsg (recordAt paramHead o')) : o = o' := by
  unfold infoMsg recordAt at h
  exact UInt32.toNat_inj.mp (by omega)

/-- **When the two walkers agree.**  On a buffer both accept, a session is found
by the first exactly when the second sets `has_sess_info`; `kernel_id` is the one
in the record it was last taken from; and that record is the one the session
pointer points to exactly when the chain comes to at most one session record. -/
theorem walkers_agree_iff {session : Option Nat} {msg : ExtInfoMsg} {fuel fuel' : Nat}
    (hs : (DeviceCpuKernel.parseExtSessionInfo A mem paramHead fuel).val
      = some (KERNEL_STATUS_OK, session))
    (hm : (CpuKernelCache.parseExtMsg A mem paramHead ExtInfoMsg.new fuel').val
      = some (KERNEL_STATUS_OK, msg)) :
    (session.isSome ↔ msg.hasSessInfo = true) ∧
    (∀ o, KernelIdFrom A mem paramHead o → msg.kernelId = kernelIdAt A mem paramHead o) ∧
    ((∀ o, session = some (infoMsg (recordAt paramHead o)) → KernelIdFrom A mem paramHead o) ↔
      ∀ o o', Chain mem paramHead 0 o → Chain mem paramHead 0 o' →
        IsSession A mem paramHead o → IsSession A mem paramHead o' → o = o') := by
  obtain ⟨hhas, hfrom, hid⟩ := parseExtMsg_session hm
  obtain ⟨e, he, hexit⟩ := Lib.loop_eq_some_iff.mp ⟨fuel', hm⟩
  obtain ⟨first, hfirst, hfexit⟩ := Lib.loop_eq_some_iff.mp ⟨fuel, hs⟩
  have hchain : Chain mem paramHead 0 first := by
    refine Relation.ReflTransGen.mono (fun o o' hnext => ?_) _ _ hfirst
    obtain ⟨hon, -, hoff⟩ := DeviceCpuKernel.next_parseExtSessionInfo_iff.mp hnext
    exact ⟨hon, hoff⟩
  -- the walker points to the first session record, or there is none
  have hcases : (session = none ∧ ∀ o, Chain mem paramHead 0 o → ¬ IsSession A mem paramHead o) ∨
      (session = some (infoMsg (recordAt paramHead first)) ∧
        IsSession A mem paramHead first) := by
    rcases exit_parseExtSessionInfo_ok hfexit with ⟨rfl, hend⟩ | hfound
    · refine Or.inl ⟨rfl, fun o hc hos => ?_⟩
      rcases Relation.ReflTransGen.cases_head (chain_to_session hfirst hc hos) with rfl | ⟨t, ht, -⟩
      · exact hend hos.1.1
      · exact hend ht.1.1
    · exact Or.inr hfound
  rcases hcases with ⟨rfl, hnone⟩ | ⟨rfl, hsession⟩
  · refine ⟨?_, hid, ?_⟩
    · rw [hhas]
      exact ⟨fun h => absurd h (by decide), fun ⟨o, hc, hos⟩ => absurd hos (hnone o hc)⟩
    · exact ⟨fun _ o _ hc _ hos _ => absurd hos (hnone o hc), fun _ o h => by cases h⟩
  · refine ⟨?_, hid, ?_, ?_⟩
    · rw [hhas]
      exact ⟨fun _ => ⟨first, hchain, hsession⟩, fun _ => rfl⟩
    · intro hagree
      -- nothing behind the first session record is one: each is the first
      obtain ⟨-, m, hv, hlast⟩ := hagree first rfl
      have honly : ∀ o, Chain mem paramHead 0 o → IsSession A mem paramHead o → o = first := by
        intro o hc hos
        obtain ⟨m', hv'⟩ := Chain.visits (s := (first, m)) (Lib.visits_exit hv he hexit) hexit
          (chain_to_session hfirst hc hos)
        rcases Relation.reflTransGen_iff_eq_or_transGen.mp hv' with h | h
        · exact congrArg Prod.fst h
        · exact absurd hos (hlast _ h)
      intro o o' hc hc' hos hos'
      rw [honly o hc hos, honly o' hc' hos']
    · intro hone o ho
      obtain rfl := infoMsg_recordAt_inj (Option.some.inj ho)
      obtain ⟨last, hlast⟩ := hfrom (hhas.mpr ⟨_, hchain, hsession⟩)
      obtain ⟨hls, m, hv, -⟩ := id hlast
      rw [hone first last hchain (Chain.of_visits hv) hsession hls]
      exact hlast

/-! ## Buffers with one and with two session records. -/

/-- A session record with session id 1 and the given kernel id, in session mode. -/
def sessionRecord (kernelId : UInt8) : List UInt8 :=
  [5, 0, 0, 0, 17, 0, 0, 0,
   1, 0, 0, 0, 0, 0, 0, 0, kernelId, 0, 0, 0, 0, 0, 0, 0, 1]

/-- A head with so many bytes of records. -/
def sessionHead (extInfoLength : UInt32) : AicpuParamHead :=
  { base := 0x2000, length := 24, ioAddrNum := 0, extInfoLength := extInfoLength,
    extInfoAddr := 0x1000 }

/-- One session record: the law at a buffer of 25 bytes. -/
theorem walkers_agree_one_record :
    ∃ msg : ExtInfoMsg, msg.kernelId = 7 ∧
    ((some 0x1008 : Option Nat).isSome ↔ msg.hasSessInfo = true) ∧
    (∀ o, KernelIdFrom .packed (Mem.ofBytes 0x1000 (sessionRecord 7)) (sessionHead 25) o →
      msg.kernelId =
        kernelIdAt .packed (Mem.ofBytes 0x1000 (sessionRecord 7)) (sessionHead 25) o) ∧
    ((∀ o, (some 0x1008 : Option Nat) = some (infoMsg (recordAt (sessionHead 25) o)) →
        KernelIdFrom .packed (Mem.ofBytes 0x1000 (sessionRecord 7)) (sessionHead 25) o) ↔
      ∀ o o', Chain (Mem.ofBytes 0x1000 (sessionRecord 7)) (sessionHead 25) 0 o →
        Chain (Mem.ofBytes 0x1000 (sessionRecord 7)) (sessionHead 25) 0 o' →
        IsSession .packed (Mem.ofBytes 0x1000 (sessionRecord 7)) (sessionHead 25) o →
        IsSession .packed (Mem.ofBytes 0x1000 (sessionRecord 7)) (sessionHead 25) o' → o = o') :=
  ⟨{ ExtInfoMsg.new with hasSessInfo := true, kernelId := 7 }, rfl,
    @walkers_agree_iff .packed (Mem.ofBytes 0x1000 (sessionRecord 7)) (sessionHead 25)
      (some 0x1008) _ 1 2 (by decide) (by rfl)⟩

/-- Two session records, with kernel ids 7 and 9: the session pointer is to the
first, the kernel id is that of the second. -/
theorem two_session_records_disagree :
    (DeviceCpuKernel.parseExtSessionInfo .packed
        (Mem.ofBytes 0x1000 (sessionRecord 7 ++ sessionRecord 9)) (sessionHead 50) 1).val
      = some (KERNEL_STATUS_OK, some (infoMsg (recordAt (sessionHead 50) 0))) ∧
    (∃ msg, (CpuKernelCache.parseExtMsg .packed
        (Mem.ofBytes 0x1000 (sessionRecord 7 ++ sessionRecord 9)) (sessionHead 50)
        ExtInfoMsg.new 3).val = some (KERNEL_STATUS_OK, msg) ∧ msg.kernelId = 9) ∧
    kernelIdAt .packed (Mem.ofBytes 0x1000 (sessionRecord 7 ++ sessionRecord 9))
      (sessionHead 50) 0 = 7 ∧
    ¬ KernelIdFrom .packed (Mem.ofBytes 0x1000 (sessionRecord 7 ++ sessionRecord 9))
      (sessionHead 50) 0 := by
  have hm : (CpuKernelCache.parseExtMsg .packed
      (Mem.ofBytes 0x1000 (sessionRecord 7 ++ sessionRecord 9)) (sessionHead 50)
      ExtInfoMsg.new 3).val =
        some (KERNEL_STATUS_OK, { ExtInfoMsg.new with hasSessInfo := true, kernelId := 9 }) := by
    rfl
  refine ⟨by decide, ⟨_, hm, rfl⟩, by decide, fun h => ?_⟩
  exact absurd ((parseExtMsg_session hm).2.2 0 h) (by decide)

end ExtInfo

end HwEfat.Aicpu
