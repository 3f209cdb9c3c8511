/-
  HwEfat.Aicpu.DeviceCpuKernel.Runs — runs of calls of the C entry points.

  A call has a key: the session or stream on whose cache it runs, if it runs on one of those.
  What a call replies is decided by the calls of its key before it (`life`); a call without a
  key is decided by itself.  That is `SessionCache` seen through the checks of the entry points.

  Main results: `runs_return` — a run whose extend infos do not wrap comes to its end;
  `entry_isolation` — calls of different keys, and calls without one, do not see each other.
-/
import HwEfat.Aicpu.DeviceCpuKernel.Def
import HwEfat.Aicpu.CpuKernel.Transparency
import HwEfat.Aicpu.ExtInfo.Termination

namespace HwEfat.Aicpu

namespace DeviceCpuKernel

open HwEfat.Lib (Mem Visits Next)
open ExtInfo (Chain OnRecord Wraps lenAt)
open CpuKernelCache (EntryPoint Returning cpuKernelCacheClass plain blocked entryOf)

variable {AttrValue : Type} {A : FwkAdapter} {P : Platform AttrValue} {fuel : Nat}

/-! ## §1. Calls that return. -/

/-- The param block of a call. -/
def Call.param : Call AttrValue → Option (Task AttrValue)
  | .runCpuKernel _ param => param
  | .runCpuKernelWithBlock _ param _ => param

/-- No record of the extend info carries the offset over 2^32. -/
def NoWraps (task : Task AttrValue) : Prop :=
  ∀ offset, Chain task.mem task.paramHead 0 offset → OnRecord task.paramHead offset →
    ¬ Wraps offset (lenAt task.mem task.paramHead offset)

section Returns

variable {task : Task AttrValue}

/-- A pass that goes on leaves less of the extend info. -/
theorem lower_of_noWraps (h : NoWraps task) {offset : UInt32}
    (hchain : Chain task.mem task.paramHead 0 offset) (hon : OnRecord task.paramHead offset) :
    task.paramHead.extInfoLength.toNat
        - (ExtInfo.nextOffset task.mem task.paramHead offset).toNat
      < task.paramHead.extInfoLength.toNat - offset.toNat := by
  have hfits : offset.toNat + 8 ≤ task.paramHead.extInfoLength.toNat := hon.1
  have hnext : offset < ExtInfo.nextOffset task.mem task.paramHead offset :=
    (ExtInfo.lt_nextOffset_iff hon).mpr (h offset hchain hon)
  have hadvance := UInt32.lt_iff_toNat_lt.mp hnext
  omega

/-- The records that the session walker visits are a chain. -/
theorem chain_of_visits {offset : UInt32}
    (hv : Visits (parseExtSessionInfoPass A task.mem task.paramHead) 0 offset) :
    Chain task.mem task.paramHead 0 offset := by
  refine Relation.ReflTransGen.mono (fun o o' hnext => ?_) _ _ hv
  obtain ⟨hon, -, hoff⟩ := next_parseExtSessionInfo_iff.mp hnext
  exact ⟨hon, hoff⟩

/-- The session walker comes to an end ... -/
theorem parseExtSessionInfo_isSome (h : NoWraps task)
    (hfuel : task.paramHead.extInfoLength.toNat < fuel) :
    (parseExtSessionInfo A task.mem task.paramHead fuel).val.isSome := by
  refine Lib.loop_isSome_of_measure
    (fun offset => task.paramHead.extInfoLength.toNat - offset.toNat) ?_ hfuel
  intro o o' hv hnext
  obtain ⟨hon, -, hoff⟩ := next_parseExtSessionInfo_iff.mp hnext
  rw [hoff]
  exact lower_of_noWraps h (chain_of_visits hv) hon

/-- ... and so does `ParseExtMsg`. -/
theorem request_isSome (h : NoWraps task)
    (hfuel : task.paramHead.extInfoLength.toNat < fuel) : (task.request A fuel).isSome := by
  have hloop : (CpuKernelCache.parseExtMsg A task.mem task.paramHead ExtInfoMsg.new fuel).val.isSome
      := by
    refine Lib.loop_isSome_of_measure
      (fun s : UInt32 × ExtInfoMsg => task.paramHead.extInfoLength.toNat - s.1.toNat) ?_ hfuel
    intro s s' hv hnext
    obtain ⟨hon, -, hoff⟩ := CpuKernelCache.next_parseExtMsg_iff.mp hnext
    rw [hoff]
    exact lower_of_noWraps h (Chain.of_visits hv) hon
  unfold Task.request
  cases CpuKernelCache.parseIoAddr A task.mem task.paramHead with
  | error ret => rfl
  | ok param =>
      obtain ⟨ioAddrs, nodedef, nodedefLen⟩ := param
      obtain ⟨out, hout⟩ := Option.isSome_iff_exists.mp hloop
      simp only [hout, Option.map_some, Option.isSome_some]

/-- A launch without a cache returns if the request is read. -/
theorem directly_isSome (e : EntryPoint AttrValue) (h : (task.request A fuel).isSome) :
    (directly A P fuel e task).isSome := by
  unfold directly
  rw [Option.isSome_map]
  exact CpuKernelCache.launch_isSome e _ ⟨task, h⟩

/-- **Every call is routed** if no offset wraps. -/
theorem routeOf_isSome (h : NoWraps task) (hfuel : kMaxExtendLen.toNat < fuel)
    (e : EntryPoint AttrValue)
    (call : Returning AttrValue A fuel → UInt64 → UInt64 → Bool → Bool →
      SessionCache.Call (Returning AttrValue A fuel)) (env : Env) :
    (routeOf A P fuel e call env task).isSome := by
  unfold routeOf
  by_cases hvalid : headValid A task.paramHead = true
  · rw [hvalid]
    simp only [Bool.not_true, Bool.false_eq_true, if_false]
    -- the length that the head was checked for bounds the passes
    have hlen : task.paramHead.extInfoLength.toNat < fuel := by
      have hmax : ¬ kMaxExtendLen < task.paramHead.extInfoLength := by
        intro hlt
        simp [headValid, hlt] at hvalid
      rw [UInt32.lt_iff_toNat_lt] at hmax
      omega
    have hrequest : (task.request A fuel).isSome := request_isSome h hlen
    obtain ⟨⟨ret, session⟩, hwalk⟩ := Option.isSome_iff_exists.mp
      (parseExtSessionInfo_isSome (A := A) h hlen)
    rw [hwalk]
    by_cases hret : ret ≠ KERNEL_STATUS_OK
    · simp only [if_pos hret, Option.isSome_some]
    · simp only [if_neg hret]
      cases session with
      | none =>
          simp only [Option.isSome_map]
          exact directly_isSome e hrequest
      | some session =>
          cases env.streamId with
          | none => rfl
          | some streamId =>
              simp only
              rw [dif_pos hrequest]
              rfl
  · rw [Bool.not_eq_true] at hvalid
    rw [hvalid]
    rfl

/-- **A call whose extend info does not wrap returns**, after at most as many passes of a loop
as the extend info may have bytes. -/
theorem route_isSome (hfuel : kMaxExtendLen.toNat < fuel) {call : Call AttrValue}
    (h : ∀ task, call.param = some task → NoWraps task) : (call.route A P fuel).isSome := by
  cases call with
  | runCpuKernel env param =>
      cases param with
      | none => rfl
      | some task => exact routeOf_isSome (h task rfl) hfuel _ _ _
  | runCpuKernelWithBlock env param blkdimInfo =>
      cases param with
      | none => rfl
      | some task =>
          cases blkdimInfo with
          | none => rfl
          | some blkdimInfo => exact routeOf_isSome (h task rfl) hfuel _ _ _

end Returns

/-! ## §2. The key of a call. -/

/-- The (session flag, id) pair on whose cache the route goes. -/
def Route.key : Route AttrValue A fuel → Option (Bool × UInt64)
  | .alone _ => none
  | .cached call => some call.pair

/-- The key of a call. -/
def Call.key (A : FwkAdapter) (P : Platform AttrValue) (fuel : Nat) (call : Call AttrValue) :
    Option (Bool × UInt64) :=
  (call.route A P fuel).bind Route.key

/-- The cache of a key. -/
def cacheOf (s : Sessions A P fuel) (key : Option (Bool × UInt64)) :
    Option (CpuKernelCache AttrValue) :=
  key.bind s.cacheAt

/-- **One call in the life of its key's cache.**  A call that does not return does nothing. -/
def life (A : FwkAdapter) (P : Platform AttrValue) (fuel : Nat) (_key : Option (Bool × UInt64))
    (cache : Option (CpuKernelCache AttrValue)) (call : Call AttrValue) :
    Reply AttrValue × Option (CpuKernelCache AttrValue) :=
  match call.route A P fuel with
  | none => (⟨KERNEL_STATUS_OK, none, none⟩, cache)
  | some (.alone reply) => (reply, cache)
  | some (.cached c) =>
      (replyOf c (SessionCache.component (C := cpuKernelCacheClass A P fuel) c.pair cache c).1,
        (SessionCache.component (C := cpuKernelCacheClass A P fuel) c.pair cache c).2)

section Step

variable {s : Sessions A P fuel} {call : Call AttrValue}

/-- A call without a key replies by itself and leaves the caches alone. -/
theorem step_alone {reply : Reply AttrValue} (hr : call.route A P fuel = some (.alone reply))
    (s : Sessions A P fuel) : step s call = some (reply, s) := by
  rw [step_eq, hr]
  rfl

/-- The pair of a call that is routed to a cache. -/
theorem key_cached {c : SessionCache.Call (Returning AttrValue A fuel)}
    (hr : call.route A P fuel = some (.cached c)) : call.key A P fuel = some c.pair := by
  unfold Call.key
  rw [hr]
  rfl

/-- **One call of an entry point is one step in the life of its key's cache**, and of no other. -/
theorem step_spec (hs : SessionCache.Inv s) (hr : (call.route A P fuel).isSome) :
    ∃ s', step s call
        = some ((life A P fuel (call.key A P fuel) (cacheOf s (call.key A P fuel)) call).1, s') ∧
      SessionCache.Inv s' ∧
      cacheOf s' = Lib.routeState (life A P fuel) (Call.key A P fuel) (cacheOf s) call := by
  obtain ⟨route, hroute⟩ := Option.isSome_iff_exists.mp hr
  -- A call that does without the cache leaves all of them; any other changes the one of its key.
  cases route with
  | alone reply =>
      refine ⟨s, ?_, hs, ?_⟩
      · rw [step_alone hroute]
        simp only [life, hroute]
      · have hsame : (life A P fuel (call.key A P fuel) (cacheOf s (call.key A P fuel)) call).2
            = cacheOf s (call.key A P fuel) := by
          simp only [life, hroute]
        unfold Lib.routeState
        rw [hsame, Function.update_eq_self]
  | cached c =>
      obtain ⟨s', hstep, hs', hcache, -⟩ := SessionCache.step_spec hs c
      have hkey : call.key A P fuel = some c.pair := key_cached hroute
      have hcall : cacheOf s (some c.pair) = s.cacheAt c.pair := rfl
      refine ⟨s', ?_, hs', ?_⟩
      · rw [step_eq, hroute, Option.bind_some, hkey, hcall]
        show fromCache s c = _
        rw [fromCache, hstep]
        simp only [life, hroute, Option.map_some]
      · funext key
        unfold Lib.routeState
        rw [hkey, hcall]
        simp only [life, hroute]
        cases key with
        | none => exact (Function.update_of_ne (Option.some_ne_none _).symm _ _).symm
        | some p =>
            show s'.cacheAt p = _
            rw [hcache, Lib.routeState]
            by_cases hp : p = c.pair
            · rw [hp, Function.update_self]
              exact (Function.update_self (some c.pair) _ (cacheOf s)).symm
            · rw [Function.update_of_ne hp]
              exact (Function.update_of_ne (fun h => hp (Option.some.inj h)) _ (cacheOf s)).symm

end Step

/-! ## §3. Runs. -/

/-- **A run is the lives of all keys side by side.** -/
theorem runCalls_spec : ∀ (calls : List (Call AttrValue)) {s : Sessions A P fuel},
    SessionCache.Inv s → (∀ call ∈ calls, (call.route A P fuel).isSome) →
    ∃ s', runCalls s calls
        = some (Lib.outputs (life A P fuel) (Call.key A P fuel) (cacheOf s) calls, s') ∧
      SessionCache.Inv s' ∧
      cacheOf s' = Lib.final (life A P fuel) (Call.key A P fuel) (cacheOf s) calls
  | [], s, hs, _ => ⟨s, rfl, hs, rfl⟩
  | call :: calls, s, hs, h => by
      obtain ⟨s₁, hstep, hs₁, hcache₁⟩ := step_spec hs (h call List.mem_cons_self)
      obtain ⟨s', hrun, hs', hcache'⟩ :=
        runCalls_spec calls hs₁ fun c hc => h c (List.mem_cons_of_mem _ hc)
      refine ⟨s', ?_, hs', ?_⟩
      · rw [runCalls, hstep, Option.bind_some, hrun, hcache₁]
        rfl
      · rw [hcache', hcache₁]
        rfl

/-- **Runs come to their end.**  Calls of the entry points, in any order and number, each get a
reply if no record of an extend info wraps the offset; 30720 passes of either loop are enough
for every call. -/
theorem runs_return (A : FwkAdapter) (P : Platform AttrValue) {calls : List (Call AttrValue)}
    (h : ∀ call ∈ calls, ∀ task, call.param = some task → NoWraps task) :
    ∃ replies, ∃ s : Sessions A P (kMaxExtendLen.toNat + 1),
      runCalls SessionCache.empty calls = some (replies, s) ∧ replies.length = calls.length := by
  have hroutes : ∀ call ∈ calls, (call.route A P (kMaxExtendLen.toNat + 1)).isSome :=
    fun call hcall => route_isSome (Nat.lt_succ_self _) (h call hcall)
  obtain ⟨s, hrun, -, -⟩ := runCalls_spec calls SessionCache.inv_empty hroutes
  exact ⟨_, s, hrun, Lib.length_outputs _ _ _ _⟩

/-- The replies to the calls of one key. -/
def repliesAt (A : FwkAdapter) (P : Platform AttrValue) (fuel : Nat)
    (key : Option (Bool × UInt64)) (calls : List (Call AttrValue))
    (replies : List (Reply AttrValue)) : List (Reply AttrValue) :=
  ((calls.zip replies).filter fun cr => cr.1.key A P fuel = key).map Prod.snd

/-- **Isolation at the C interface.**  Whatever calls of the two entry points come in, as long
as each returns:

  * the calls of one key get the same replies, and its cache ends the same, as when all other
    calls are taken out of the run;
  * a call without a key (a null pointer, a head out of range, a session record of the wrong
    length, no session record, no stream id) gets a reply that depends on the call alone, and
    leaves every cache as it is. -/
theorem entry_isolation {calls : List (Call AttrValue)}
    (h : ∀ call ∈ calls, (call.route A P fuel).isSome) :
    ∃ replies, ∃ s : Sessions A P fuel,
      runCalls SessionCache.empty calls = some (replies, s) ∧
      (∀ key, ∃ s' : Sessions A P fuel,
        runCalls SessionCache.empty (calls.filter fun call => call.key A P fuel = key)
          = some (repliesAt A P fuel key calls replies, s') ∧
        ∀ p, key = some p → s'.cacheAt p = s.cacheAt p) ∧
      ∀ call ∈ calls, call.key A P fuel = none →
        ∃ reply, ∀ s : Sessions A P fuel, step s call = some (reply, s) := by
  obtain ⟨s, hrun, -, hcache⟩ :=
    runCalls_spec (P := P) calls SessionCache.inv_empty h
  refine ⟨_, s, hrun, fun key => ?_, fun call hcall hkey => ?_⟩
  · -- the run without the other calls is the same life of this key
    obtain ⟨s', hrun', -, hcache'⟩ :=
      runCalls_spec (P := P) (calls.filter fun call => call.key A P fuel = key)
        SessionCache.inv_empty fun c hc => h c (List.mem_filter.mp hc).1
    refine ⟨s', ?_, fun p hp => ?_⟩
    · rw [hrun', ← Lib.outputs_filter]
      rfl
    · have hs' : cacheOf s' key = cacheOf s key := by
        rw [hcache', hcache]
        exact (Lib.final_filter _ _ key calls _).symm
      rw [hp] at hs'
      exact hs'
  · obtain ⟨route, hroute⟩ := Option.isSome_iff_exists.mp (h call hcall)
    cases route with
    | alone reply => exact ⟨reply, step_alone hroute⟩
    | cached c =>
        rw [key_cached hroute] at hkey
        cases hkey

/-! ## A run of five calls. -/

/-- `GetThreadLocalCtx` is not linked: every thread works on stream 0. -/
def bareEnv : Env where
  getThreadLocalCtx := none
  newOk := true

/-- The task without its extend info. -/
def directTask : Task Int :=
  { CpuKernelCache.deviceTask with paramHead := ExtInfo.sessionHead 0 }

/-- A null pointer, a task of a session twice, once for block 0 of 2, and a task without one. -/
def mixedCalls : List (Call Int) :=
  [.runCpuKernel bareEnv none,
   .runCpuKernel bareEnv (some CpuKernelCache.deviceTask),
   .runCpuKernelWithBlock bareEnv (some CpuKernelCache.deviceTask) (some ⟨2, 0⟩),
   .runCpuKernelWithBlock bareEnv (some CpuKernelCache.deviceTask) none,
   .runCpuKernel bareEnv (some directTask)]

/-- The one record of the task does not wrap, and behind it there is none. -/
theorem noWraps_deviceTask : NoWraps CpuKernelCache.deviceTask := by
  intro offset hchain hon
  have hlast : ¬ OnRecord CpuKernelCache.deviceTask.paramHead 25 := by decide
  rcases Relation.ReflTransGen.cases_head hchain with rfl | ⟨o, hadv, hrest⟩
  · unfold Wraps
    decide
  · have ho : o = 25 := by
      rw [hadv.2]
      decide
    rw [ho] at hrest
    rcases Relation.ReflTransGen.cases_head hrest with rfl | ⟨_, hadv', _⟩
    · exact absurd hon hlast
    · exact absurd hadv'.1 hlast

/-- The task has no records. -/
theorem noWraps_directTask : NoWraps directTask := by
  intro offset _ hon
  have hfits : offset.toNat + 8 ≤ 0 := hon.1
  omega

/-- No task of the run wraps. -/
theorem noWraps_mixedCalls : ∀ call ∈ mixedCalls, ∀ task, call.param = some task →
    NoWraps task := by
  have htasks : ∀ call ∈ mixedCalls, ∀ task, call.param = some task →
      task = CpuKernelCache.deviceTask ∨ task = directTask := by
    intro call hcall task htask
    simp only [mixedCalls, List.mem_cons, List.not_mem_nil, or_false] at hcall
    rcases hcall with rfl | rfl | rfl | rfl | rfl
    · cases htask
    · exact Or.inl (Option.some.inj htask).symm
    · exact Or.inl (Option.some.inj htask).symm
    · exact Or.inl (Option.some.inj htask).symm
    · exact Or.inr (Option.some.inj htask).symm
  intro call hcall task htask
  rcases htasks call hcall task htask with rfl | rfl
  · exact noWraps_deviceTask
  · exact noWraps_directTask

/-- All of them get a reply ... -/
theorem runs_return_mixed :
    ∃ replies, ∃ s : Sessions .packed .bare (kMaxExtendLen.toNat + 1),
      runCalls SessionCache.empty mixedCalls = some (replies, s) ∧ replies.length = 5 :=
  runs_return .packed .bare noWraps_mixedCalls

/-- ... and those without a session do not matter to the others. -/
theorem entry_isolation_mixed :
    ∃ replies, ∃ s : Sessions .packed .bare (kMaxExtendLen.toNat + 1),
      runCalls SessionCache.empty mixedCalls = some (replies, s) ∧
      (∀ key, ∃ s' : Sessions .packed .bare (kMaxExtendLen.toNat + 1),
        runCalls SessionCache.empty
            (mixedCalls.filter fun call =>
              call.key .packed .bare (kMaxExtendLen.toNat + 1) = key)
          = some (repliesAt .packed .bare (kMaxExtendLen.toNat + 1) key mixedCalls replies, s') ∧
        ∀ p, key = some p → s'.cacheAt p = s.cacheAt p) ∧
      ∀ call ∈ mixedCalls, call.key .packed .bare (kMaxExtendLen.toNat + 1) = none →
        ∃ reply, ∀ s : Sessions .packed .bare (kMaxExtendLen.toNat + 1),
          step s call = some (reply, s) :=
  entry_isolation fun call hcall =>
    route_isSome (Nat.lt_succ_self _) (noWraps_mixedCalls call hcall)

end DeviceCpuKernel

end HwEfat.Aicpu
