/-
  HwEfat.Aicpu.DeviceCpuKernel.Cached — a call with a session record, seen against the same task
  without one.

  `RunCpuKernel` runs a task directly or through the cache of its session; the cache is meant
  to save the building of contexts, and nothing else.  A context that is served was built by an
  earlier call of the same key and kernel id, and only the dims and addresses of its tensors
  have changed since.  So where these calls build the same context, the kernel is handed what
  it would be handed directly, but for dims that the call does not give.

  Main result: `cached_agrees_direct`.
-/
import HwEfat.Aicpu.DeviceCpuKernel.Runs

namespace HwEfat.Aicpu

namespace DeviceCpuKernel

open CpuKernelCache (EntryPoint Returning cpuKernelCacheClass entryOf BuiltByCall handOn Accepts
  AgreeButStale)

variable {AttrValue : Type} {A : FwkAdapter} {P : Platform AttrValue} {fuel : Nat}

/-! ## §1. The calls that come to `SessionCache`. -/

/-- The call of `SessionCache` that a call makes, if any. -/
def Call.forwarded (A : FwkAdapter) (P : Platform AttrValue) (fuel : Nat) (call : Call AttrValue) :
    Option (SessionCache.Call (Returning AttrValue A fuel)) :=
  (call.route A P fuel).bind fun route =>
    match route with
    | .alone _ => none
    | .cached c => some c

/-- A call is forwarded if it is routed to a cache. -/
theorem forwarded_eq_some {call : Call AttrValue}
    {c : SessionCache.Call (Returning AttrValue A fuel)} :
    call.forwarded A P fuel = some c ↔ call.route A P fuel = some (.cached c) := by
  unfold Call.forwarded
  cases call.route A P fuel with
  | none => simp
  | some route =>
      cases route with
      | alone reply => simp
      | cached c' => simp

/-- **A run is a run of `SessionCache`** over the calls that come to it. -/
theorem runCalls_forwarded : ∀ (calls : List (Call AttrValue)) {s s' : Sessions A P fuel}
    {replies : List (Reply AttrValue)}, runCalls s calls = some (replies, s') →
    ∃ answers, SessionCache.runCalls s (calls.filterMap (Call.forwarded A P fuel))
      = some (answers, s')
  | [], s, s', replies, h => by
      cases h
      exact ⟨[], rfl⟩
  | call :: calls, s, s', replies, h => by
      rw [runCalls, Option.bind_eq_some_iff] at h
      obtain ⟨⟨reply, s₁⟩, hstep, h⟩ := h
      obtain ⟨⟨replies', s''⟩, hrun, heq⟩ := Option.map_eq_some_iff.mp h
      obtain ⟨-, rfl⟩ := Prod.mk.inj heq
      obtain ⟨answers, hanswers⟩ := runCalls_forwarded calls hrun
      rw [step_eq, Option.bind_eq_some_iff] at hstep
      obtain ⟨route, hroute, hfollow⟩ := hstep
      cases route with
      | alone reply' =>
          -- the state is as before
          have hnone : call.forwarded A P fuel = none := by
            unfold Call.forwarded
            rw [hroute]
            rfl
          obtain ⟨-, rfl⟩ := Prod.mk.inj (Option.some.inj hfollow)
          refine ⟨answers, ?_⟩
          rw [List.filterMap_cons_none hnone]
          exact hanswers
      | cached c =>
          obtain ⟨⟨answer, s₂⟩, hc, heq⟩ := Option.map_eq_some_iff.mp hfollow
          obtain ⟨-, rfl⟩ := Prod.mk.inj heq
          refine ⟨answer :: answers, ?_⟩
          rw [List.filterMap_cons_some (forwarded_eq_some.mpr hroute), SessionCache.runCalls, hc,
            Option.bind_some]
          show (SessionCache.runCalls s₂ _).map _ = _
          rw [hanswers]
          rfl

/-- The cache that a call of the pair works on: its own, or a new one. -/
def cacheFor (s : Sessions A P fuel) (p : Bool × UInt64) : CpuKernelCache AttrValue :=
  (cacheOf s (some p)).getD (CpuKernelCache.create p.1)

/-- The cache of a pair that has one. -/
theorem cacheFor_some {s : Sessions A P fuel} {p : Bool × UInt64} {o : CpuKernelCache AttrValue}
    (h : s.cacheAt p = some o) : cacheFor s p = o := by
  have hcache : cacheOf s (some p) = some o := h
  rw [cacheFor, hcache, Option.getD_some]

/-- A pair without one gets a new cache. -/
theorem cacheFor_none {s : Sessions A P fuel} {p : Bool × UInt64} (h : s.cacheAt p = none) :
    cacheFor s p = CpuKernelCache.create p.1 := by
  have hcache : cacheOf s (some p) = none := h
  rw [cacheFor, hcache, Option.getD_none]

/-- `SessionCache` answers with the cache it worked on. -/
theorem answer_cache {s s' : Sessions A P fuel} (hs : SessionCache.Inv s)
    {c : SessionCache.Call (Returning AttrValue A fuel)} (hnew : c.newOk = true)
    {answer : SessionCache.Answer (cpuKernelCacheClass A P fuel)}
    (h : SessionCache.step s c = some (answer, s')) :
    answer.cache = some (cacheFor s c.pair) := by
  obtain ⟨s₁, hstep, -, -, -⟩ := SessionCache.step_spec hs c
  rw [hstep] at h
  obtain ⟨rfl, -⟩ := Prod.mk.inj (Option.some.inj h)
  cases hcache : s.cacheAt c.pair with
  | some o =>
      rw [cacheFor_some hcache]
      rfl
  | none =>
      have hinit : (cpuKernelCacheClass A P fuel).init c.pair.1 (cpuKernelCacheClass A P fuel).new
          = (0, CpuKernelCache.create c.pair.1) := CpuKernelCache.init_new c.pair.1
      rw [cacheFor_none hcache]
      simp only [SessionCache.component, hnew, hinit, Bool.not_true, Bool.false_eq_true, if_false,
        ne_eq, not_true_eq_false]
      rfl

/-! ## §2. One request on two contexts of the same build. -/

section Build

variable {task : Task AttrValue} {r : Request} {built old : CpuKernelContext AttrValue}

/-- Whatever is handed on from the two, it differs in dims at most that the call does not
give. -/
theorem handOn_agree (hframe : built.SameFrame old) {d d' : Dispatch}
    {ctx ctx' : CpuKernelContext AttrValue} (hold : handOn A P task r old = some (d, ctx))
    (hbuilt : handOn A P task r built = some (d', ctx')) :
    d' = d ∧ ctx.attrs = ctx'.attrs ∧ ctx.deviceType = ctx'.deviceType ∧
      AgreeButStale r ctx ctx' := by
  obtain ⟨haccepts, hd, hctx⟩ := CpuKernelCache.handOn_eq_some.mp hold
  obtain ⟨haccepts', hd', hctx'⟩ := CpuKernelCache.handOn_eq_some.mp hbuilt
  -- `UpdateTensor` leaves attributes and device type alone
  have hframe₁ : old.SameFrame ctx := by
    rw [← hctx]
    exact (CpuKernelCache.updateTensor_spec (A := A) (P := P) r.ioAddrs r.msg old).2.1
  have hframe₂ : built.SameFrame ctx' := by
    rw [← hctx']
    exact (CpuKernelCache.updateTensor_spec (A := A) (P := P) r.ioAddrs r.msg built).2.1
  refine ⟨hd'.symm.trans hd, ?_, ?_, ?_⟩
  · rw [← hframe₁.attrs, ← hframe.attrs, hframe₂.attrs]
  · rw [← hframe₁.deviceType, ← hframe.deviceType, hframe₂.deviceType]
  · rw [← hctx, ← hctx']
    exact CpuKernelCache.updateTensor_agreeBut hframe.op.symm hframe.inputs.symm
      hframe.outputs.symm haccepts haccepts'

/-- A call that gives all dims does not tell the two apart. -/
theorem handOn_congr (hframe : built.SameFrame old) (hunknown : r.msg.unknownShape = true) :
    handOn A P task r old = handOn A P task r built := by
  have hin : ∀ ts ts', CpuKernelCache.SameDims (CpuKernelCache.inputReapplied r.msg) ts ts' := by
    intro ts ts' j t t' _ _
    refine Or.inl ?_
    unfold CpuKernelCache.inputReapplied
    rw [hunknown, Bool.true_or]
  have hout : ∀ ts ts', CpuKernelCache.SameDims (fun _ => r.msg.unknownShape) ts ts' :=
    fun ts ts' j t t' _ _ => Or.inl hunknown
  by_cases hold : Accepts A P task r old
  · obtain ⟨hbuilt, heq⟩ := (CpuKernelCache.updateTensor_agree_iff (A := A) (P := P)
      hframe.op.symm hframe.inputs.symm hframe.outputs.symm hold).mpr
      ⟨hframe.deviceType.symm, hframe.attrs.symm, hin _ _, hout _ _⟩
    unfold handOn
    rw [if_pos hold, if_pos (show Accepts A P task r built from hbuilt)]
    unfold CpuKernelCache.updated
    rw [heq]
  · -- what is turned away on one is turned away on the other
    have hbuilt : ¬ Accepts A P task r built := by
      intro hbuilt
      exact hold ((CpuKernelCache.updateTensor_agree_iff (A := A) (P := P) hframe.op
        hframe.inputs hframe.outputs hbuilt).mpr
        ⟨hframe.deviceType, hframe.attrs, hin _ _, hout _ _⟩).1
    unfold handOn
    rw [if_neg hold, if_neg hbuilt]

end Build

/-! ## §3. Cached against direct. -/

/-- Earlier calls of the same key and kernel id build the context that this call would. -/
def SameBuilds (A : FwkAdapter) (P : Platform AttrValue) (fuel : Nat)
    (calls : List (Call AttrValue)) (c : SessionCache.Call (Returning AttrValue A fuel))
    (r : Request) : Prop :=
  ∀ call ∈ calls, ∀ c₀, call.route A P fuel = some (.cached c₀) → c₀.pair = c.pair →
    ∀ r₀, c₀.param.val.request A fuel = some (some r₀) → r₀.msg.kernelId = r.msg.kernelId →
      (entryOf P c₀).build r₀.msg r₀.nodedef = (entryOf P c).build r.msg r.nodedef

/-- What a task with a request is handed on with a cache of its own. -/
theorem directly_handed {e : EntryPoint AttrValue} {task : Task AttrValue} {r : Request}
    (hr : task.request A fuel = some (some r)) :
    ∃ direct, directly A P fuel e task = some direct ∧
      direct.handed = (e.build r.msg r.nodedef).bind (handOn A P task r) := by
  have hinit : (CpuKernelCache.init false CpuKernelCache.new : Int × CpuKernelCache AttrValue).2
      = CpuKernelCache.create false := by
    rw [CpuKernelCache.init_new]
  obtain ⟨o, ho, hhanded⟩ := CpuKernelCache.launch_handed (e := e)
    (c := CpuKernelCache.create false) (P := P) hr
  refine ⟨.ofOutcome o, ?_, ?_⟩
  · unfold directly
    rw [hinit, ho]
    rfl
  · show o.handed = _
    rw [hhanded, EntryPoint.context, CpuKernelCache.served_create]

/-- What a call of `SessionCache` with a request hands on. -/
theorem replyOf_handed {c : SessionCache.Call (Returning AttrValue A fuel)} {r : Request}
    (hr : c.param.val.request A fuel = some (some r))
    {answer : SessionCache.Answer (cpuKernelCacheClass A P fuel)}
    {o : CpuKernelCache AttrValue} (ho : answer.cache = some o) :
    (replyOf c answer).handed = ((entryOf P c).context o r).bind (handOn A P c.param.val r) := by
  obtain ⟨out, hout, hhanded⟩ := CpuKernelCache.launch_handed (e := entryOf P c) (c := o)
    (P := P) hr
  have houtcome : (entryOf P c).outcome A P fuel o c.param = out := by
    unfold CpuKernelCache.EntryPoint.outcome
    exact Option.get_of_eq_some _ hout
  unfold replyOf
  rw [ho]
  show ((entryOf P c).outcome A P fuel o c.param).handed = _
  rw [houtcome, hhanded]

/-- A context that is served to the request is of the build of the request. -/
theorem served_frame {calls : List (Call AttrValue)} {replies : List (Reply AttrValue)}
    {s : Sessions A P fuel} (hrun : runCalls SessionCache.empty calls = some (replies, s))
    {c : SessionCache.Call (Returning AttrValue A fuel)} {r : Request}
    (hsame : SameBuilds A P fuel calls c r) {o : CpuKernelCache AttrValue}
    (ho : s.cacheAt c.pair = some o) {ref : Nat} {old : CpuKernelContext AttrValue}
    (hserved : (entryOf P c).served o r.msg = some (ref, old)) :
    ∃ built, (entryOf P c).build r.msg r.nodedef = some built ∧ built.SameFrame old := by
  obtain ⟨answers, hanswers⟩ := runCalls_forwarded calls hrun
  obtain ⟨answers', s', hrun', hholds⟩ := CpuKernelCache.contexts_of_own_calls (P := P)
    (calls.filterMap (Call.forwarded A P fuel))
  rw [hanswers] at hrun'
  obtain ⟨-, rfl⟩ := Prod.mk.inj (Option.some.inj hrun')
  unfold EntryPoint.served at hserved
  split_ifs at hserved
  -- it goes back to a call of the key with this kernel id
  obtain ⟨c₀, hmem, hpair, r₀, built, hr₀, hid, hbuild, hframe⟩ := (hholds c.pair o ho).cached hserved
  obtain ⟨call, hcall, hforward⟩ := List.mem_filterMap.mp hmem
  have hroute := forwarded_eq_some.mp hforward
  refine ⟨built, ?_, hframe⟩
  rw [← hsame call hcall c₀ hroute hpair r₀ hr₀ hid, hbuild]

/-- **The cache does not show**, but for dims.  After any run of calls of the entry points, let a
call with a session record come in whose task parses, and for which there is a cache or memory
for one.  If the earlier calls of its key and kernel id build the context that it would build
itself, then the kernel is handed what it would be handed if the call had no session record: all
of it if the call gives the dims of all tensors, else up to the dims that it does not give. -/
theorem cached_agrees_direct {calls : List (Call AttrValue)} {replies : List (Reply AttrValue)}
    {s s' : Sessions A P fuel} (hrun : runCalls SessionCache.empty calls = some (replies, s))
    {call : Call AttrValue} {c : SessionCache.Call (Returning AttrValue A fuel)}
    (hroute : call.route A P fuel = some (.cached c)) (hnew : c.newOk = true) {r : Request}
    (hr : c.param.val.request A fuel = some (some r)) (hsame : SameBuilds A P fuel calls c r)
    {reply : Reply AttrValue} (hstep : step s call = some (reply, s')) :
    ∃ direct, directly A P fuel (entryOf P c) c.param.val = some direct ∧
      (r.msg.unknownShape = true → reply.handed = direct.handed) ∧
      ∀ d ctx d' ctx', reply.handed = some (d, ctx) → direct.handed = some (d', ctx') →
        d' = d ∧ ctx.attrs = ctx'.attrs ∧ ctx.deviceType = ctx'.deviceType ∧
          AgreeButStale r ctx ctx' := by
  obtain ⟨direct, hdirect, hhanded⟩ := directly_handed (P := P) (e := entryOf P c) hr
  refine ⟨direct, hdirect, ?_⟩
  obtain ⟨answers, hanswers⟩ := runCalls_forwarded calls hrun
  obtain ⟨s₀, hrun₀, hs, -, -⟩ := SessionCache.runCalls_spec
    (calls.filterMap (Call.forwarded A P fuel)) (SessionCache.inv_empty (C := cpuKernelCacheClass A P fuel))
  rw [hanswers] at hrun₀
  obtain ⟨-, rfl⟩ := Prod.mk.inj (Option.some.inj hrun₀)
  rw [step_eq, hroute, Option.bind_some] at hstep
  obtain ⟨⟨answer, s₁⟩, hanswer, heq⟩ := Option.map_eq_some_iff.mp hstep
  obtain ⟨rfl, -⟩ := Prod.mk.inj heq
  rw [replyOf_handed hr (answer_cache hs hnew hanswer), hhanded]
  cases hserved : (entryOf P c).served (cacheFor s c.pair) r.msg with
  | none =>
      -- a context is built, as it is directly
      simp only [EntryPoint.context, hserved]
      refine ⟨fun _ => trivial, fun d ctx d' ctx' h h' => ?_⟩
      obtain ⟨built, hbuild, hhand⟩ := Option.bind_eq_some_iff.mp h
      rw [hbuild, Option.bind_some] at h'
      exact handOn_agree (.refl built) hhand h'
  | some hit =>
      obtain ⟨ref, old⟩ := hit
      obtain ⟨o, ho⟩ : ∃ o, s.cacheAt c.pair = some o := by
        cases hcache : s.cacheAt c.pair with
        | some o => exact ⟨o, rfl⟩
        | none =>
            rw [cacheFor_none hcache, CpuKernelCache.served_create] at hserved
            cases hserved
      rw [cacheFor_some ho] at hserved ⊢
      obtain ⟨built, hbuild, hframe⟩ := served_frame hrun hsame ho hserved
      simp only [EntryPoint.context, hserved, hbuild, Option.bind_some]
      exact ⟨handOn_congr hframe, fun d ctx d' ctx' h h' => handOn_agree hframe h h'⟩

/-- The task of a session. -/
def deviceCall : Call Int := .runCpuKernel bareEnv (some CpuKernelCache.deviceTask)

/-- The law at a task that is run twice, the second time from the cache. -/
theorem cached_agrees_direct_twice :
    ∃ replies reply direct r, ∃ s s' : Sessions .packed .bare 2,
      ∃ c : SessionCache.Call (Returning Int .packed 2),
      runCalls SessionCache.empty [deviceCall] = some (replies, s) ∧
      step s deviceCall = some (reply, s') ∧
      directly .packed .bare 2 (entryOf .bare c) CpuKernelCache.deviceTask = some direct ∧
      (r.msg.unknownShape = true → reply.handed = direct.handed) ∧
      ∀ d ctx d' ctx', reply.handed = some (d, ctx) → direct.handed = some (d', ctx') →
        d' = d ∧ ctx.attrs = ctx'.attrs ∧ ctx.deviceType = ctx'.deviceType ∧
          AgreeButStale r ctx ctx' := by
  obtain ⟨r, hr⟩ : ∃ r, CpuKernelCache.deviceTask.request .packed 2 = some (some r) := ⟨_, rfl⟩
  have hsome : (CpuKernelCache.deviceTask.request .packed 2).isSome := by
    rw [hr]
    rfl
  have hroute : deviceCall.route .packed .bare 2
      = some (.cached (.runKernel ⟨CpuKernelCache.deviceTask, hsome⟩ 1 0 true true)) := rfl
  have hreturns : ∀ call ∈ [deviceCall], (call.route .packed .bare 2).isSome := by
    intro call hcall
    rw [List.mem_singleton.mp hcall, hroute]
    rfl
  obtain ⟨s, hrun, hs, -⟩ := runCalls_spec (P := .bare) [deviceCall] SessionCache.inv_empty hreturns
  obtain ⟨s', hstep, -, -⟩ := step_spec hs (hreturns deviceCall List.mem_cons_self)
  have hsame : SameBuilds .packed .bare 2 [deviceCall]
      (.runKernel ⟨CpuKernelCache.deviceTask, hsome⟩ 1 0 true true) r := by
    intro call hcall c₀ hroute₀ _ r₀ hr₀ _
    rw [List.mem_singleton.mp hcall, hroute] at hroute₀
    obtain rfl := Route.cached.inj (Option.some.inj hroute₀)
    obtain rfl := Option.some.inj (Option.some.inj (hr.symm.trans hr₀))
    rfl
  obtain ⟨direct, hdirect, hlaw⟩ := cached_agrees_direct hrun hroute rfl hr hsame hstep
  exact ⟨_, _, direct, r, s, s', _, hrun, hstep, hdirect, hlaw⟩

end DeviceCpuKernel

end HwEfat.Aicpu
