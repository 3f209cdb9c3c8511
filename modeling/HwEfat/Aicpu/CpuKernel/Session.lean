/-
  HwEfat.Aicpu.CpuKernel.Session — the CPU kernel caches behind `SessionCache`.

  `SessionCache<CpuCacheData>` keeps a `CpuKernelCache` for each session and each
  stream.  `cpuKernelCacheClass` is that class, so that everything proved of
  `SessionCache` holds of it; `contexts_of_own_calls` is what the two layers give
  together: a context cached for a session was built by a call of that session.

  The methods of a class are total, so a task is taken with the proof that its
  `ParseExtMsg` returns.
-/
import HwEfat.Aicpu.SessionCache
import HwEfat.Aicpu.CpuKernel.Launch

namespace HwEfat.Aicpu

open HwEfat.Lib (Heap)

namespace CpuKernelCache

variable {AttrValue : Type} {A : FwkAdapter} {P : Platform AttrValue} {fuel : Nat}

/-! ## §1. The class. -/

/-- A task whose `ParseExtMsg` returns. -/
def Returning (AttrValue : Type) (A : FwkAdapter) (fuel : Nat) : Type :=
  {task : Task AttrValue // (task.request A fuel).isSome}

/-- A task that returns has an outcome. -/
theorem launch_isSome (e : EntryPoint AttrValue) (c : CpuKernelCache AttrValue)
    (task : Returning AttrValue A fuel) : (e.launch A P fuel c task.val).isSome := by
  obtain ⟨request, hrequest⟩ := Option.isSome_iff_exists.mp task.property
  cases request with
  | none =>
      rw [launch_rejected (fun r h => by rw [hrequest] at h; cases h), hrequest]
      rfl
  | some r =>
      obtain ⟨o, ho, -⟩ := launch_handed (e := e) (c := c) (P := P) hrequest
      rw [ho]
      rfl

/-- The outcome of a call that returns. -/
def EntryPoint.outcome (A : FwkAdapter) (P : Platform AttrValue) (fuel : Nat)
    (e : EntryPoint AttrValue) (c : CpuKernelCache AttrValue) (task : Returning AttrValue A fuel) :
    Outcome AttrValue :=
  (e.launch A P fuel c task.val).get (launch_isSome e c task)

/-- The cache after such a task. -/
theorem cacheStep_outcome (e : EntryPoint AttrValue) (c : CpuKernelCache AttrValue)
    (task : Returning AttrValue A fuel) :
    ∃ request, task.val.request A fuel = some request ∧
      CacheStep A P e c task.val request (e.outcome A P fuel c task).cache :=
  cacheStep_of_launch (Option.some_get (launch_isSome e c task)).symm

/-- `CpuKernelCache()` -/
def new : CpuKernelCache AttrValue where
  cache := ⟨KernelCache.new, KernelCache.repInv_new⟩
  contexts := Heap.empty
  live := by
    intro id ref h
    cases h

/-- `Init` -/
def init (sessFlag : Bool) (c : CpuKernelCache AttrValue) : Int × CpuKernelCache AttrValue :=
  ((c.cache.raw.init sessFlag).1,
    { cache := ⟨(c.cache.raw.init sessFlag).2, KernelCache.repInv_init c.cache.inv sessFlag⟩
      contexts := c.contexts
      live := by
        intro id ref h
        refine c.live id ref ?_
        rw [← h]
        cases sessFlag <;> rfl })

/-- A new cache can always be made. -/
theorem init_new (sessFlag : Bool) :
    (init sessFlag new : Int × CpuKernelCache AttrValue) = (0, create sessFlag) := by
  cases sessFlag <;> rfl

/-- `CpuKernelCache` as a subclass of `KernelCache<CpuCacheData>`. -/
def cpuKernelCacheClass (A : FwkAdapter) (P : Platform AttrValue) (fuel : Nat) :
    KernelCacheClass (Returning AttrValue A fuel) where
  Obj := CpuKernelCache AttrValue
  new := new
  init := init
  runKernel task c :=
    (((plain P).outcome A P fuel c task).code, ((plain P).outcome A P fuel c task).cache)
  runCpuKernelWithBlock task blkdimInfo c :=
    (((blocked P blkdimInfo).outcome A P fuel c task).code,
      ((blocked P blkdimInfo).outcome A P fuel c task).cache)
  sessionFlag c := c.cache.raw.sessFlag
  flag_init sessFlag c := by cases sessFlag <;> rfl
  flag_runKernel task c := by
    obtain ⟨_, _, hstep⟩ := cacheStep_outcome (P := P) (plain P) c task
    exact hstep.sessFlag
  flag_withBlock task blkdimInfo c := by
    obtain ⟨_, _, hstep⟩ := cacheStep_outcome (P := P) (blocked P blkdimInfo) c task
    exact hstep.sessFlag

/-! ## §2. Whose contexts a cache holds. -/

/-- The entry point of a call. -/
def entryOf (P : Platform AttrValue) : SessionCache.Call (Returning AttrValue A fuel) →
    EntryPoint AttrValue
  | .runKernel _ _ _ _ _ => plain P
  | .runCpuKernelWithBlock _ _ _ _ _ blkdimInfo => blocked P blkdimInfo

/-- The call's request names the kernel id, and the call builds the context for it;
of what it built at most the dims, addresses and sizes of tensors have changed. -/
def BuiltByCall (P : Platform AttrValue) (call : SessionCache.Call (Returning AttrValue A fuel))
    (kernelId : UInt64) (ctx : CpuKernelContext AttrValue) : Prop :=
  ∃ r built, call.param.val.request A fuel = some (some r) ∧ r.msg.kernelId = kernelId ∧
    (entryOf P call).build r.msg r.nodedef = some built ∧ built.SameFrame ctx

/-- The method of a call is a launch through its entry point. -/
theorem method_eq (call : SessionCache.Call (Returning AttrValue A fuel))
    (c : CpuKernelCache AttrValue) :
    (call.method (C := cpuKernelCacheClass A P fuel) c).2 =
      ((entryOf P call).outcome A P fuel c call.param).cache := by
  cases call <;> rfl

/-- The step lemma: a call adds contexts of its own at most. -/
theorem holds_method {calls : List (SessionCache.Call (Returning AttrValue A fuel))}
    {p : Bool × UInt64} {call : SessionCache.Call (Returning AttrValue A fuel)}
    (hmem : call ∈ calls) (hpair : call.pair = p) {c : CpuKernelCache AttrValue}
    (h : c.Holds fun id ctx => ∃ call ∈ calls, call.pair = p ∧ BuiltByCall P call id ctx) :
    ((entryOf P call).outcome A P fuel c call.param).cache.Holds
      fun id ctx => ∃ call ∈ calls, call.pair = p ∧ BuiltByCall P call id ctx := by
  obtain ⟨request, hrequest, hstep⟩ := cacheStep_outcome (P := P) (entryOf P call) c call.param
  refine holds_cacheStep ?_ h ?_ hstep
  · intro k ctx ctx' hframe ⟨call', hmem', hpair', r, built, hr, hid, hbuild, hctx⟩
    exact ⟨call', hmem', hpair', r, built, hr, hid, hbuild, hctx.trans hframe⟩
  · intro r ctx hr hins
    subst hr
    unfold EntryPoint.inserted at hins
    split_ifs at hins
    exact ⟨call, hmem, hpair, r, ctx, hrequest, rfl, hins, .refl ctx⟩

/-- **No context crosses sessions.**  After any run of `SessionCache` calls, every
context cached for a (session flag, id) pair was built by a call of that pair. -/
theorem contexts_of_own_calls (calls : List (SessionCache.Call (Returning AttrValue A fuel))) :
    ∃ answers s, SessionCache.runCalls
        (SessionCache.empty : SessionCache (cpuKernelCacheClass A P fuel)) calls
          = some (answers, s) ∧
      ∀ p, ∀ c : CpuKernelCache AttrValue, s.cacheAt p = some c →
        c.Holds fun id ctx => ∃ call ∈ calls, call.pair = p ∧ BuiltByCall P call id ctx := by
  obtain ⟨s, hrun, -, hcache, -⟩ := SessionCache.runCalls_spec calls
    (SessionCache.inv_empty (C := cpuKernelCacheClass A P fuel))
  refine ⟨_, s, hrun, fun p => ?_⟩
  rw [hcache]
  refine Lib.final_induct (P := fun p (cache : Option (CpuKernelCache AttrValue)) =>
    ∀ c, cache = some c → c.Holds fun id ctx =>
      ∃ call ∈ calls, call.pair = p ∧ BuiltByCall P call id ctx) calls _ ?_ ?_ p
  · intro p cache call hmem hpair h c hc
    cases cache with
    | some c₀ =>
        cases hc
        show (SessionCache.Call.method (C := cpuKernelCacheClass A P fuel) call c₀).2.Holds _
        rw [method_eq]
        exact holds_method hmem hpair (h c₀ rfl)
    | none =>
        -- the cache is new, and empty before the call runs on it
        cases hnew : call.newOk with
        | false => simp [SessionCache.component, hnew] at hc
        | true =>
            have hinit : (cpuKernelCacheClass A P fuel).init p.1 (cpuKernelCacheClass A P fuel).new
                = (0, create p.1) := init_new p.1
            simp only [SessionCache.component, hnew, hinit, Bool.not_true, Bool.false_eq_true,
              if_false, ne_eq, not_true_eq_false] at hc
            obtain rfl := Option.some.inj hc
            show (SessionCache.Call.method (C := cpuKernelCacheClass A P fuel) call _).2.Holds _
            rw [method_eq]
            exact holds_method hmem hpair (holds_create p.1 _)
  · intro p c hc
    rw [SessionCache.cacheAt, SessionCache.ref_empty] at hc
    cases hc

end CpuKernelCache

end HwEfat.Aicpu
