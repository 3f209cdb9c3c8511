/-
  HwEfat.Aicpu.CpuKernel.Threads — many threads in `GetCpuKernelContext` and
  `GetCpuKernelContextWithBlock` of one cache.

  `kernel_mutex_` makes `GetCache` and `SetCache` one step each.  Between them a
  thread holds what `GetCache` returned: a raw pointer to a `CpuCacheData` that only
  the cache owns.  It reads `cache->context` in a later step of its own, with the
  lock released.

  Main result: `owned_iff`, for every interleaving — the pointers held are owned in
  every state exactly if no `SetCache` of the run overwrites or evicts the entry one
  of them came from.
-/
import HwEfat.Aicpu.CpuKernel.Transparency

namespace HwEfat.Aicpu

open HwEfat.Lib (Heap)

namespace CpuKernelCache

variable {AttrValue Thread : Type} [DecidableEq Thread] {P : Platform AttrValue}

/-! ## §1. Threads and their steps. -/

/-- The two functions that get a context. -/
inductive Method where
  | getCpuKernelContext
  | getCpuKernelContextWithBlock (blkdimInfo : BlkDimInfo)

/-- The entry point of a method. -/
def Method.entry (P : Platform AttrValue) : Method → EntryPoint AttrValue
  | .getCpuKernelContext => plain P
  | .getCpuKernelContextWithBlock blkdimInfo => blocked P blkdimInfo

/-- A call of one of them, with its arguments. -/
structure ContextCall where
  method : Method
  msg : ExtInfoMsg
  nodedef : List UInt8

/-- Where a thread stands. -/
inductive Pc where
  /-- Outside; what its last call has returned (`none` is `nullptr`). -/
  | returned (ctx : Option Nat)
  /-- `GetCache(key)` has returned this pointer; `cache->context` is read next. -/
  | found (key : UInt64) (cache : Nat)
  /-- Nothing found: the context is built and cached next. -/
  | building (call : ContextCall)

/-- The shared cache, and where every thread stands. -/
structure Threads (AttrValue Thread : Type) where
  cache : CpuKernelCache AttrValue
  pc : Thread → Pc

/-- A thread enters one of the functions, or goes on in it. -/
inductive Event (Thread : Type) where
  | call (t : Thread) (call : ContextCall)
  | next (t : Thread)

/-- From the call to the end of `GetCache`. -/
def enter (P : Platform AttrValue) (c : CpuKernelCache AttrValue) (call : ContextCall) :
    Pc × CpuKernelCache AttrValue :=
  if (call.method.entry P).lookup call.msg then
    match c.getCache call.msg.kernelId with
    | (some cache, c) => (.found call.msg.kernelId cache, c)
    | (none, c) => (.building call, c)
  else (.building call, c)

/-- From there to the return: read `cache->context`, or build a context and cache it.
What a read of a `CpuCacheData` that is gone does is not modelled. -/
def leave (P : Platform AttrValue) (c : CpuKernelCache AttrValue) :
    Pc → Option (Pc × CpuKernelCache AttrValue)
  | .returned _ => none
  | .found _ cache => some (.returned (some cache), c)
  | .building call =>
      match (call.method.entry P).build call.msg call.nodedef with
      | none => some (.returned none, c)
      | some ctx => some (.returned (some c.contexts.size), c.keep call.msg ctx)

/-- One step of one thread. -/
def threadStep (P : Platform AttrValue) (s : Threads AttrValue Thread) :
    Event Thread → Option (Threads AttrValue Thread)
  | .call t call =>
      match s.pc t with
      | .returned _ =>
          some ⟨(enter P s.cache call).2, Function.update s.pc t (enter P s.cache call).1⟩
      | _ => none
  | .next t =>
      (leave P s.cache (s.pc t)).map fun (pc, cache) => ⟨cache, Function.update s.pc t pc⟩

/-- A cache just initialised, all threads outside. -/
def startThreads (sessFlag : Bool) : Threads AttrValue Thread where
  cache := create sessFlag
  pc _ := .returned none

omit [DecidableEq Thread] in
/-- A thread that is not interrupted computes `obtainContext`. -/
theorem leave_enter (c : CpuKernelCache AttrValue) (call : ContextCall) :
    leave P (enter P c call).2 (enter P c call).1 =
      some (.returned (obtainContext ((call.method.entry P).lookup call.msg)
          ((call.method.entry P).build call.msg call.nodedef) c call.msg).1,
        (obtainContext ((call.method.entry P).lookup call.msg)
          ((call.method.entry P).build call.msg call.nodedef) c call.msg).2) := by
  unfold enter obtainContext
  cases hlookup : (call.method.entry P).lookup call.msg with
  | false =>
      simp only [Bool.false_eq_true, if_false, leave]
      cases (call.method.entry P).build call.msg call.nodedef <;> rfl
  | true =>
      simp only [if_true]
      obtain ⟨found, c'⟩ := c.getCache call.msg.kernelId
      cases found with
      | some cache => rfl
      | none =>
          simp only [leave]
          cases (call.method.entry P).build call.msg call.nodedef <;> rfl

/-! ## §2. What a step does. -/

/-- The entry under `key` is overwritten or evicted by this step. -/
def Drops (P : Platform AttrValue) (s : Threads AttrValue Thread) (ev : Event Thread)
    (key : UInt64) : Prop :=
  ∃ t call, ev = .next t ∧ s.pc t = .building call ∧ call.msg.hasSessInfo = true ∧
    ((call.method.entry P).build call.msg call.nodedef).isSome ∧
    (key = call.msg.kernelId ∨ s.cache.cache.evicted call.msg.kernelId = some key)

/-- A step, seen in what the cache holds under each kernel id. -/
inductive ThreadStep (P : Platform AttrValue) (s : Threads AttrValue Thread) :
    Event Thread → Threads AttrValue Thread → Prop where
  /-- `GetCache` or no lookup: what is cached stays. -/
  | call (t : Thread) (call : ContextCall) (cache : CpuKernelCache AttrValue) (pc : Pc)
      (hpc : ∃ ctx, s.pc t = .returned ctx)
      (hlookup : ∀ k, cache.cache.view.lookup k = s.cache.cache.view.lookup k)
      (hcontexts : cache.contexts = s.cache.contexts)
      (hnew : ∀ key ref, pc = .found key ref → s.cache.cache.view.lookup key = some ref) :
      ThreadStep P s (.call t call) ⟨cache, Function.update s.pc t pc⟩
  /-- A return without `SetCache`. -/
  | quiet (t : Thread) (cache : CpuKernelCache AttrValue) (ctx : Option Nat)
      (hlookup : ∀ k, cache.cache.view.lookup k = s.cache.cache.view.lookup k)
      (hcontexts : s.cache.contexts.size ≤ cache.contexts.size)
      (hdrops : ∀ key, ¬ Drops P s (.next t) key) :
      ThreadStep P s (.next t) ⟨cache, Function.update s.pc t (.returned ctx)⟩
  /-- `SetCache(kernel_id, …)` of a new context. -/
  | set (t : Thread) (call : ContextCall) (ctx : CpuKernelContext AttrValue)
      (hpc : s.pc t = .building call) (hsess : call.msg.hasSessInfo = true)
      (hbuild : (call.method.entry P).build call.msg call.nodedef = some ctx) :
      ThreadStep P s (.next t) ⟨s.cache.allocCached call.msg.kernelId ctx,
        Function.update s.pc t (.returned (some s.cache.contexts.size))⟩

omit [DecidableEq Thread] in
/-- **Entering a method** only looks a context up. -/
theorem enter_spec (c : CpuKernelCache AttrValue) (call : ContextCall) :
    (∀ k, (enter P c call).2.cache.view.lookup k = c.cache.view.lookup k) ∧
      (enter P c call).2.contexts = c.contexts ∧
      ∀ key ref, (enter P c call).1 = .found key ref → c.cache.view.lookup key = some ref := by
  unfold enter
  split_ifs
  · have hlookup : ∀ k, (c.getCache call.msg.kernelId).2.cache.view.lookup k
        = c.cache.view.lookup k := LiveCache.lookup_getCache c.cache _
    have hcontexts : (c.getCache call.msg.kernelId).2.contexts = c.contexts := rfl
    have hfound := getCache_found c call.msg.kernelId
    generalize c.getCache call.msg.kernelId = r at hlookup hcontexts hfound ⊢
    obtain ⟨found, c'⟩ := r
    cases found with
    | none => exact ⟨hlookup, hcontexts, fun _ _ h => by cases h⟩
    | some cache =>
        refine ⟨hlookup, hcontexts, fun key ref h => ?_⟩
        cases h
        exact hfound.symm
  · exact ⟨fun _ => rfl, rfl, fun _ _ h => by cases h⟩

/-- **Every step is one of the three.** -/
theorem threadStep_spec {s s' : Threads AttrValue Thread} {ev : Event Thread}
    (h : threadStep P s ev = some s') : ThreadStep P s ev s' := by
  cases ev with
  | call t call =>
      simp only [threadStep] at h
      -- A thread that is between two accesses takes no new call.
      cases hpc : s.pc t with
      | returned ctx =>
          rw [hpc, Option.some.injEq] at h
          obtain ⟨hlookup, hcontexts, hnew⟩ := enter_spec (P := P) s.cache call
          subst h
          exact .call t call _ _ ⟨ctx, hpc⟩ hlookup hcontexts hnew
      | found key cache =>
          rw [hpc] at h
          cases h
      | building call' =>
          rw [hpc] at h
          cases h
  | next t =>
      -- The second access: after a hit, and after a context has been built.
      obtain ⟨⟨pc, cache⟩, hleave, rfl⟩ := Option.map_eq_some_iff.mp h
      cases hpc : s.pc t with
      | returned ctx =>
          rw [hpc] at hleave
          cases hleave
      | found key ref =>
          rw [hpc] at hleave
          cases hleave
          refine .quiet t _ _ (fun _ => rfl) (Nat.le_refl _) fun key' ⟨t', call, hev, hpc', _⟩ => ?_
          cases hev
          rw [hpc] at hpc'
          cases hpc'
      | building call =>
          rw [hpc] at hleave
          simp only [leave] at hleave
          cases hbuild : (call.method.entry P).build call.msg call.nodedef with
          | none =>
              rw [hbuild] at hleave
              cases hleave
              refine .quiet t _ _ (fun _ => rfl) (Nat.le_refl _)
                fun key' ⟨t', call', hev, hpc', _, hsome, _⟩ => ?_
              cases hev
              rw [hpc] at hpc'
              cases hpc'
              rw [hbuild] at hsome
              cases hsome
          | some ctx =>
              rw [hbuild] at hleave
              cases hleave
              unfold keep
              by_cases hsess : call.msg.hasSessInfo = true
              · rw [if_pos hsess]
                exact .set t call ctx hpc hsess hbuild
              · rw [if_neg hsess]
                refine .quiet t _ _ (fun _ => rfl) ?_
                  fun key' ⟨t', call', hev, hpc', hsess', _⟩ => ?_
                · show _ ≤ (s.cache.contexts.alloc ctx).size
                  rw [Heap.size_alloc]
                  omega
                · cases hev
                  rw [hpc] at hpc'
                  cases hpc'
                  exact hsess hsess'

/-! ## §3. Who owns what is held. -/

/-- A `shared_ptr` in the cache points to this object. -/
def Owned (c : CpuKernelCache AttrValue) (ref : Nat) : Prop :=
  ref ∈ c.cache.raw.getAllKernelCache.map Prod.snd

instance (c : CpuKernelCache AttrValue) (ref : Nat) : Decidable (Owned c ref) :=
  inferInstanceAs (Decidable (ref ∈ _))

/-- A reference is owned if some key has it. -/
theorem owned_iff_lookup (c : CpuKernelCache AttrValue) (ref : Nat) :
    Owned c ref ↔ ∃ key, c.cache.view.lookup key = some ref := by
  unfold Owned
  rw [List.mem_map]
  constructor
  · intro ⟨⟨key, r⟩, hmem, heq⟩
    subst heq
    exact ⟨key, (LiveCache.mem_getAllKernelCache c.cache).mp hmem⟩
  · intro ⟨key, hkey⟩
    exact ⟨(key, ref), (LiveCache.mem_getAllKernelCache c.cache).mpr hkey, rfl⟩

/-- What every thread is about to read is owned by the cache. -/
def HeldOwned (s : Threads AttrValue Thread) : Prop :=
  ∀ t key ref, s.pc t = .found key ref → Owned s.cache ref

/-- An object has one entry at most, and one that is held has its entry, if any, under
the kernel id it was found by. -/
structure Coherent (s : Threads AttrValue Thread) : Prop where
  inj : ∀ k k' ref, s.cache.cache.view.lookup k = some ref →
    s.cache.cache.view.lookup k' = some ref → k = k'
  held : ∀ t key ref, s.pc t = .found key ref → ref < s.cache.contexts.size ∧
    ∀ k, s.cache.cache.view.lookup k = some ref → k = key

omit [DecidableEq Thread] in
/-- A reference that a thread has found is owned if the cache still has it under its key. -/
theorem Coherent.lookup_of_held {s : Threads AttrValue Thread} (h : Coherent s) {t : Thread}
    {key : UInt64} {ref : Nat} (hpc : s.pc t = .found key ref) :
    Owned s.cache ref ↔ s.cache.cache.view.lookup key = some ref := by
  rw [owned_iff_lookup]
  constructor
  · intro ⟨k, hk⟩
    rw [← (h.held t key ref hpc).2 k hk]
    exact hk
  · intro hkey
    exact ⟨key, hkey⟩

omit [DecidableEq Thread] in
/-- Before the first step nothing is held. -/
theorem coherent_start (sessFlag : Bool) :
    Coherent (startThreads sessFlag : Threads AttrValue Thread) := by
  refine ⟨fun k k' ref hk _ => ?_, fun t key ref hpc => (by cases hpc)⟩
  have hempty : (LiveCache.create sessFlag : LiveCache Nat).view.lookup k = some ref := hk
  rw [LiveCache.view_create] at hempty
  cases hempty

/-- What a thread holds after somebody's step, it held before, or it has just found it. -/
theorem held_update {s : Threads AttrValue Thread} {t t' : Thread} {pc : Pc} {key : UInt64}
    {ref : Nat} (h : Function.update s.pc t pc t' = .found key ref) :
    s.pc t' = .found key ref ∨ t' = t ∧ pc = .found key ref := by
  by_cases ht : t' = t
  · subst ht
    rw [Function.update_self] at h
    exact Or.inr ⟨rfl, h⟩
  · rw [Function.update_of_ne ht] at h
    exact Or.inl h

/-- No thread holds more after its own return. -/
theorem held_of_returned {s : Threads AttrValue Thread} {t t' : Thread} {ctx : Option Nat}
    {key : UInt64} {ref : Nat}
    (h : Function.update s.pc t (.returned ctx) t' = .found key ref) :
    s.pc t' = .found key ref :=
  (held_update h).elim id fun hnew => nomatch hnew.2

/-- **Every step** leaves the threads coherent. -/
theorem Coherent.step {s s' : Threads AttrValue Thread} {ev : Event Thread} (h : Coherent s)
    (hstep : ThreadStep P s ev s') : Coherent s' := by
  cases hstep with
  | call t call cache pc hpc hlookup hcontexts hnew =>
      refine ⟨fun k k' ref hk hk' => ?_, fun t' key ref hheld => ?_⟩
      · rw [hlookup] at hk hk'
        exact h.inj k k' ref hk hk'
      · simp only [hcontexts, hlookup]
        rcases held_update hheld with hold | ⟨-, hfound⟩
        · exact h.held t' key ref hold
        · have hkey := hnew key ref hfound
          exact ⟨s.cache.live key ref hkey, fun k hk => h.inj k key ref hk hkey⟩
  | quiet t cache ctx hlookup hcontexts hdrops =>
      refine ⟨fun k k' ref hk hk' => ?_, fun t' key ref hheld => ?_⟩
      · rw [hlookup] at hk hk'
        exact h.inj k k' ref hk hk'
      · obtain ⟨hlt, honly⟩ := h.held t' key ref (held_of_returned hheld)
        simp only [hlookup]
        exact ⟨by omega, honly⟩
  | set t call ctx hpc hsess hbuild =>
      -- the new entry is the only one of the new object, and no old object gets an entry
      have hentry : ∀ k ref, (s.cache.cache.setCache call.msg.kernelId
            s.cache.contexts.size).view.lookup k = some ref →
          k = call.msg.kernelId ∧ ref = s.cache.contexts.size ∨
            ref < s.cache.contexts.size ∧ s.cache.cache.view.lookup k = some ref := by
        intro k ref hk
        rw [LiveCache.lookup_setCache] at hk
        split_ifs at hk with hself hev
        · exact Or.inl ⟨hself, (Option.some.inj hk).symm⟩
        · exact Or.inr ⟨s.cache.live k ref hk, hk⟩
      refine ⟨fun k k' ref hk hk' => ?_, fun t' key ref hheld => ?_⟩
      · rcases hentry k ref hk with ⟨rfl, hnew⟩ | ⟨hlt, hold⟩
        · rcases hentry k' ref hk' with ⟨rfl, -⟩ | ⟨hlt', -⟩
          · rfl
          · omega
        · rcases hentry k' ref hk' with ⟨-, hnew'⟩ | ⟨-, hold'⟩
          · omega
          · exact h.inj k k' ref hold hold'
      · obtain ⟨hlt, honly⟩ := h.held t' key ref (held_of_returned hheld)
        refine ⟨?_, fun k hk => ?_⟩
        · show ref < (s.cache.contexts.alloc ctx).size
          rw [Heap.size_alloc]
          omega
        · rcases hentry k ref hk with ⟨-, hnew⟩ | ⟨-, hold⟩
          · omega
          · exact honly k hold

/-- **The step lemma**: where all that is held is owned, a step keeps it so exactly if it
drops no entry by which something is held. -/
theorem heldOwned_step {s s' : Threads AttrValue Thread} {ev : Event Thread} (h : Coherent s)
    (hstep : ThreadStep P s ev s') (howned : HeldOwned s) :
    HeldOwned s' ↔ ¬ ∃ t key ref, s.pc t = .found key ref ∧ Drops P s ev key := by
  have h' : Coherent s' := h.step hstep
  cases hstep with
  | call t call cache pc hpc hlookup hcontexts hnew =>
      have hkept : HeldOwned ⟨cache, Function.update s.pc t pc⟩ := by
        intro t' key ref hheld
        rw [h'.lookup_of_held hheld, hlookup]
        rcases held_update hheld with hold | ⟨-, hfound⟩
        · exact (h.lookup_of_held hold).mp (howned t' key ref hold)
        · exact hnew key ref hfound
      exact iff_of_true hkept fun ⟨_, _, _, _, _, _, hev, _⟩ => nomatch hev
  | quiet t cache ctx hlookup hcontexts hdrops =>
      have hkept : HeldOwned ⟨cache, Function.update s.pc t (.returned ctx)⟩ := by
        intro t' key ref hheld
        have hold := held_of_returned hheld
        rw [h'.lookup_of_held hheld, hlookup]
        exact (h.lookup_of_held hold).mp (howned t' key ref hold)
      exact iff_of_true hkept fun ⟨_, key, _, _, hdrop⟩ => hdrops key hdrop
  | set t call ctx hpc hsess hbuild =>
      have hafter : ∀ k, (s.cache.allocCached call.msg.kernelId ctx).cache.view.lookup k =
          if k = call.msg.kernelId then some s.cache.contexts.size
          else if s.cache.cache.evicted call.msg.kernelId = some k then none
          else s.cache.cache.view.lookup k :=
        LiveCache.lookup_setCache s.cache.cache call.msg.kernelId s.cache.contexts.size
      constructor
      · intro hkept ⟨t', key, ref, hheld, t'', call', hev, hpc', _, _, hdrop⟩
        cases hev
        rw [hpc] at hpc'
        cases hpc'
        -- the thread that holds is not the one that steps
        have hne : t' ≠ t := by
          intro heq
          rw [heq, hpc] at hheld
          cases hheld
        have hheld' : Function.update s.pc t (.returned (some s.cache.contexts.size)) t'
            = .found key ref := by
          rw [Function.update_of_ne hne]
          exact hheld
        have hkey := (h'.lookup_of_held hheld').mp (hkept t' key ref hheld')
        rw [hafter] at hkey
        have hlt := (h.held t' key ref hheld).1
        split_ifs at hkey with hself hev
        · have hnew := Option.some.inj hkey
          omega
        · exact hdrop.elim hself hev
      · intro hnone t' key ref hheld
        have hold := held_of_returned hheld
        have hkey := (h.lookup_of_held hold).mp (howned t' key ref hold)
        have hdrop : ¬ (key = call.msg.kernelId ∨
            s.cache.cache.evicted call.msg.kernelId = some key) := by
          intro hdrop
          have hsome : ((call.method.entry P).build call.msg call.nodedef).isSome := by
            rw [hbuild]
            rfl
          exact hnone ⟨t', key, ref, hold, t, call, rfl, hpc, hsess, hsome, hdrop⟩
        rw [not_or] at hdrop
        rw [h'.lookup_of_held hheld, hafter, if_neg hdrop.1, if_neg hdrop.2]
        exact hkey

/-! ## §4. Every interleaving. -/

/-- **When a held pointer stays owned.**  In every interleaving of calls of
`GetCpuKernelContext` and `GetCpuKernelContextWithBlock` by any threads, the
`CpuCacheData` that a thread is about to read is owned by the cache in every state of
the run, exactly if no step of the run is a `SetCache` that overwrites or evicts the
entry by which another thread, still before its read, has found its pointer. -/
theorem owned_iff (sessFlag : Bool) (events : List (Event Thread)) :
    (∀ pre, pre <+: events → ∀ s : Threads AttrValue Thread,
      Lib.run (threadStep P) (startThreads sessFlag) pre = some s →
        ∀ t key ref, s.pc t = .found key ref → Owned s.cache ref) ↔
    ∀ pre ev, pre ++ [ev] <+: events → ∀ s : Threads AttrValue Thread,
      Lib.run (threadStep P) (startThreads sessFlag) pre = some s →
        ¬ ∃ t key ref, s.pc t = .found key ref ∧ Drops P s ev key := by
  refine Lib.run_always_iff (I := Coherent) (P := HeldOwned)
    (B := fun s ev => ∃ t key ref, s.pc t = .found key ref ∧ Drops P s ev key)
    ⟨coherent_start sessFlag, fun t key ref hpc => nomatch hpc⟩ ?_ ?_ events
  · intro s ev s' h hstep
    have hspec := threadStep_spec hstep
    exact ⟨h.step hspec, heldOwned_step h hspec⟩
  · intro s ev ⟨_, _, _, _, t, call, hev, hpc, _, hbuild, _⟩
    obtain ⟨ctx, hctx⟩ := Option.isSome_iff_exists.mp hbuild
    subst hev
    refine ⟨⟨s.cache.keep call.msg ctx,
      Function.update s.pc t (.returned (some s.cache.contexts.size))⟩, ?_⟩
    rw [threadStep, hpc, leave, hctx]
    rfl

/-- A call of `GetCpuKernelContext` for kernel id 7 with an empty nodedef. -/
def sevenCall : ContextCall where
  method := .getCpuKernelContext
  msg := { ExtInfoMsg.new with hasSessInfo := true, kernelId := 7 }
  nodedef := []

/-- Two threads miss kernel id 7; one caches its context and finds it in a second call,
then the other overwrites the entry. -/
theorem overwritten_while_held :
    ∃ s : Threads Int Bool, Lib.run (threadStep .bare) (startThreads true)
        [.call true sevenCall, .call false sevenCall, .next true, .call true sevenCall,
          .next false] = some s ∧
      s.pc true = .found 7 0 ∧ ¬ Owned s.cache 0 ∧
      (threadStep .bare s (.next true)).isSome := by
  exact ⟨_, rfl, rfl, by decide, rfl⟩

end CpuKernelCache

end HwEfat.Aicpu
