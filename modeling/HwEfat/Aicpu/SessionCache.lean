/-
  HwEfat.Aicpu.SessionCache — `SessionCache<C>` of `session_cache.h`.

  The singleton keeps one kernel cache per session id and one per stream id, in
  two maps, and creates a cache at the first call that needs it.  A
  `shared_ptr<KernelCache<C>>` is a reference into a heap of cache objects; what
  the virtual methods of such an object do is the parameter `KernelCacheClass`.

  `component` is the reference: what ONE cache goes through when it is called
  alone.  The code refines the side-by-side product of these lives
  (`step_spec`), so calls of different (session flag, id) pairs never meet:
  `session_isolation`.
-/
import Std.Data.ExtTreeMap
import HwEfat.Lib.Heap
import HwEfat.Lib.Isolation
import HwEfat.Aicpu.Basic

namespace HwEfat.Aicpu

open HwEfat.Lib (Heap)

/-- The methods of a `KernelCache<C>` subclass.  `sess_flag_` is a private member
that only `Init` assigns; the last three fields say so. -/
structure KernelCacheClass (Param : Type) where
  Obj : Type
  new : Obj
  init : Bool → Obj → Int × Obj
  runKernel : Param → Obj → Int × Obj
  runCpuKernelWithBlock : Param → BlkDimInfo → Obj → Int × Obj
  sessionFlag : Obj → Bool
  flag_init : ∀ b o, sessionFlag (init b o).2 = b
  flag_runKernel : ∀ p o, sessionFlag (runKernel p o).2 = sessionFlag o
  flag_withBlock : ∀ p blk o, sessionFlag (runCpuKernelWithBlock p blk o).2 = sessionFlag o

/-- The members of `SessionCache<C>` and the objects behind its pointers. -/
structure SessionCache {Param : Type} (C : KernelCacheClass Param) where
  streamKernelCache : Std.ExtTreeMap UInt64 Nat
  sessionKernelCache : Std.ExtTreeMap UInt64 Nat
  objects : Heap C.Obj

namespace SessionCache

variable {Param : Type} {C : KernelCacheClass Param}

/-! ## §1. The code. -/

/-- No session has been seen. -/
def empty : SessionCache C :=
  { streamKernelCache := ∅, sessionKernelCache := ∅, objects := Heap.empty }

/-- `GetOrCreateKernelCache` on the map `kernelMap`.  `newOk` tells whether
`new (std::nothrow) T()` succeeds; an object whose `Init` failed is dropped. -/
def getOrCreateKernelCache (kernelMap : Std.ExtTreeMap UInt64 Nat) (objects : Heap C.Obj)
    (id : UInt64) (sessFlag newOk : Bool) :
    Except Int Nat × Std.ExtTreeMap UInt64 Nat × Heap C.Obj :=
  match kernelMap[id]? with
  | some kernel => (.ok kernel, kernelMap, objects)
  | none =>
      if !newOk then (.error (-1), kernelMap, objects)
      else
        let (ret, cache) := C.init sessFlag C.new
        if ret ≠ 0 then (.error ret, kernelMap, objects)
        else (.ok objects.size, kernelMap.insert id objects.size, objects.alloc cache)

/-- What a call shows: its return code, and the cache the kernel ran on. -/
structure Answer (C : KernelCacheClass Param) where
  code : Int
  cache : Option C.Obj

/-- A virtual call through a kernel pointer; `none` if the pointer were dangling. -/
def callMethod (s : SessionCache C) (kernel : Nat) (method : C.Obj → Int × C.Obj) :
    Option (Answer C × SessionCache C) :=
  (s.objects.read kernel).map fun o =>
    (⟨(method o).1, some o⟩, { s with objects := s.objects.write kernel (method o).2 })

/-- `RunKernel<T>`. -/
def runKernel (s : SessionCache C) (param : Param) (sessionId streamId : UInt64)
    (sessFlag newOk : Bool) : Option (Answer C × SessionCache C) :=
  if sessFlag then
    match getOrCreateKernelCache s.sessionKernelCache s.objects sessionId sessFlag newOk with
    | (.error ret, m, objs) =>
        some (⟨ret, none⟩, { s with sessionKernelCache := m, objects := objs })
    | (.ok kernel, m, objs) =>
        callMethod { s with sessionKernelCache := m, objects := objs } kernel (C.runKernel param)
  else
    match getOrCreateKernelCache s.streamKernelCache s.objects streamId sessFlag newOk with
    | (.error ret, m, objs) =>
        some (⟨ret, none⟩, { s with streamKernelCache := m, objects := objs })
    | (.ok kernel, m, objs) =>
        callMethod { s with streamKernelCache := m, objects := objs } kernel (C.runKernel param)

/-- `RunCpuKernelWithBlock<T>`. -/
def runCpuKernelWithBlock (s : SessionCache C) (param : Param) (sessionId streamId : UInt64)
    (sessFlag newOk : Bool) (blk : BlkDimInfo) : Option (Answer C × SessionCache C) :=
  if sessFlag then
    match getOrCreateKernelCache s.sessionKernelCache s.objects sessionId sessFlag newOk with
    | (.error ret, m, objs) =>
        some (⟨ret, none⟩, { s with sessionKernelCache := m, objects := objs })
    | (.ok kernel, m, objs) =>
        callMethod { s with sessionKernelCache := m, objects := objs } kernel
          (C.runCpuKernelWithBlock param blk)
  else
    match getOrCreateKernelCache s.streamKernelCache s.objects streamId sessFlag newOk with
    | (.error ret, m, objs) =>
        some (⟨ret, none⟩, { s with streamKernelCache := m, objects := objs })
    | (.ok kernel, m, objs) =>
        callMethod { s with streamKernelCache := m, objects := objs } kernel
          (C.runCpuKernelWithBlock param blk)

/-- A call of one of the two entry points. -/
inductive Call (Param : Type) where
  | runKernel (param : Param) (sessionId streamId : UInt64) (sessFlag newOk : Bool)
  | runCpuKernelWithBlock (param : Param) (sessionId streamId : UInt64) (sessFlag newOk : Bool)
      (blk : BlkDimInfo)
  deriving Repr, DecidableEq

/-- One call of the C interface. -/
def step (s : SessionCache C) : Call Param → Option (Answer C × SessionCache C)
  | .runKernel param sessionId streamId sessFlag newOk =>
      s.runKernel param sessionId streamId sessFlag newOk
  | .runCpuKernelWithBlock param sessionId streamId sessFlag newOk blk =>
      s.runCpuKernelWithBlock param sessionId streamId sessFlag newOk blk

/-- The answers to a sequence of calls, and the state after it. -/
def runCalls (s : SessionCache C) : List (Call Param) → Option (List (Answer C) × SessionCache C)
  | [] => some ([], s)
  | call :: calls =>
      (step s call).bind fun (a, s') => (runCalls s' calls).map fun (as, s'') => (a :: as, s'')

/-! ## §2. Pairs, references, and the life of one cache. -/

/-- The (session flag, id) pair a call belongs to. -/
def Call.pair : Call Param → Bool × UInt64
  | .runKernel _ sessionId streamId sessFlag _ =>
      (sessFlag, if sessFlag then sessionId else streamId)
  | .runCpuKernelWithBlock _ sessionId streamId sessFlag _ _ =>
      (sessFlag, if sessFlag then sessionId else streamId)

/-- Whether there is memory for a new cache at this call. -/
def Call.newOk : Call Param → Bool
  | .runKernel _ _ _ _ newOk => newOk
  | .runCpuKernelWithBlock _ _ _ _ newOk _ => newOk

/-- The parameters of a call. -/
def Call.param : Call Param → Param
  | .runKernel param _ _ _ _ => param
  | .runCpuKernelWithBlock param _ _ _ _ _ => param

/-- The virtual method a call ends in. -/
def Call.method : Call Param → C.Obj → Int × C.Obj
  | .runKernel param _ _ _ _ => C.runKernel param
  | .runCpuKernelWithBlock param _ _ _ _ blk => C.runCpuKernelWithBlock param blk

/-- The map of a mode. -/
def kernelMap (s : SessionCache C) (sessFlag : Bool) : Std.ExtTreeMap UInt64 Nat :=
  if sessFlag then s.sessionKernelCache else s.streamKernelCache

/-- The cache object registered for a pair. -/
def ref (s : SessionCache C) (p : Bool × UInt64) : Option Nat := (s.kernelMap p.1)[p.2]?

/-- The state of that object. -/
def cacheAt (s : SessionCache C) (p : Bool × UInt64) : Option C.Obj :=
  (s.ref p).bind s.objects.read

/-- **The life of one cache**, called alone: it is created and initialised once,
by the first call for which both succeed, and from then on only its methods run. -/
def component (p : Bool × UInt64) :
    Option C.Obj → Call Param → Answer C × Option C.Obj
  | some o, call => (⟨(call.method o).1, some o⟩, some (call.method o).2)
  | none, call =>
      if !call.newOk then (⟨-1, none⟩, none)
      else
        let (ret, o) := C.init p.1 C.new
        if ret ≠ 0 then (⟨ret, none⟩, none)
        else (⟨(call.method o).1, some o⟩, some (call.method o).2)

/-! ## §3. One call. -/

/-- Every registered pointer is live, and no two pairs share an object. -/
structure Inv (s : SessionCache C) : Prop where
  live : ∀ p r, s.ref p = some r → r < s.objects.size
  inj : ∀ p q r, s.ref p = some r → s.ref q = some r → p = q

/-- At the start no pair has a cache. -/
theorem ref_empty (p : Bool × UInt64) : (empty : SessionCache C).ref p = none := by
  obtain ⟨sessFlag, id⟩ := p
  cases sessFlag <;> exact Std.ExtTreeMap.getElem?_empty

/-- The start satisfies the invariant. -/
theorem inv_empty : Inv (empty : SessionCache C) := by
  constructor
  · intro p r h
    rw [ref_empty p] at h
    cases h
  · intro p q r h
    rw [ref_empty p] at h
    cases h

/-- Put back the map of a mode and the objects. -/
def putMap (s : SessionCache C) (sessFlag : Bool) (m : Std.ExtTreeMap UInt64 Nat)
    (objects : Heap C.Obj) : SessionCache C :=
  if sessFlag then { s with sessionKernelCache := m, objects := objects }
  else { s with streamKernelCache := m, objects := objects }

@[simp] theorem objects_putMap (s : SessionCache C) (sessFlag : Bool)
    (m : Std.ExtTreeMap UInt64 Nat) (objects : Heap C.Obj) :
    (s.putMap sessFlag m objects).objects = objects := by
  cases sessFlag <;> rfl

/-- Putting a map back changes nothing. -/
theorem putMap_self (s : SessionCache C) (sessFlag : Bool) :
    s.putMap sessFlag (s.kernelMap sessFlag) s.objects = s := by
  cases sessFlag <;> rfl

/-- Registering a new object changes one pair's reference only. -/
theorem ref_putMap_insert (s : SessionCache C) (p q : Bool × UInt64) (r : Nat)
    (objects : Heap C.Obj) :
    (s.putMap p.1 ((s.kernelMap p.1).insert p.2 r) objects).ref q =
      if q = p then some r else s.ref q := by
  have hmap : ∀ m : Std.ExtTreeMap UInt64 Nat,
      (s.putMap p.1 m objects).kernelMap q.1 = if q.1 = p.1 then m else s.kernelMap q.1 := by
    intro m
    unfold putMap kernelMap
    cases p.1 <;> cases q.1 <;> rfl
  unfold ref
  rw [hmap]
  by_cases hflag : q.1 = p.1
  · rw [if_pos hflag, Std.ExtTreeMap.getElem?_insert]
    by_cases hid : p.2 = q.2
    · rw [if_pos (by rwa [Std.compare_eq_iff_eq]), if_pos (Prod.ext hflag hid.symm)]
    · rw [if_neg (by rwa [Std.compare_eq_iff_eq]), if_neg (fun h => hid (by rw [h])), hflag]
  · rw [if_neg hflag, if_neg (fun h => hflag (by rw [h]))]

/-- Both entry points are this one function of the pair's map. -/
theorem step_eq (s : SessionCache C) (call : Call Param) :
    step s call =
      match getOrCreateKernelCache (s.kernelMap call.pair.1) s.objects call.pair.2 call.pair.1
          call.newOk with
      | (.error ret, m, objs) => some (⟨ret, none⟩, s.putMap call.pair.1 m objs)
      | (.ok kernel, m, objs) => callMethod (s.putMap call.pair.1 m objs) kernel call.method := by
  cases call with
  | runKernel param sessionId streamId sessFlag newOk => cases sessFlag <;> rfl
  | runCpuKernelWithBlock param sessionId streamId sessFlag newOk blk => cases sessFlag <;> rfl

section GetOrCreate

variable {m : Std.ExtTreeMap UInt64 Nat} {objects : Heap C.Obj} {id : UInt64} {sessFlag : Bool}

/-- A cache that is registered is found. -/
theorem getOrCreate_found {kernel : Nat} (h : m[id]? = some kernel) (newOk : Bool) :
    getOrCreateKernelCache m objects id sessFlag newOk = (.ok kernel, m, objects) := by
  rw [getOrCreateKernelCache, h]

/-- Without memory nothing is registered. -/
theorem getOrCreate_new_failed (h : m[id]? = none) :
    getOrCreateKernelCache m objects id sessFlag false = (.error (-1), m, objects) := by
  rw [getOrCreateKernelCache, h]
  rfl

/-- A cache whose `Init` failed is never inserted. -/
theorem getOrCreate_init_failed (h : m[id]? = none) (hret : (C.init sessFlag C.new).1 ≠ 0) :
    getOrCreateKernelCache m objects id sessFlag true =
      (.error (C.init sessFlag C.new).1, m, objects) := by
  simp [getOrCreateKernelCache, h, hret]

/-- A new cache is initialised and registered. -/
theorem getOrCreate_created (h : m[id]? = none) (hret : (C.init sessFlag C.new).1 = 0) :
    getOrCreateKernelCache m objects id sessFlag true =
      (.ok objects.size, m.insert id objects.size, objects.alloc (C.init sessFlag C.new).2) := by
  simp [getOrCreateKernelCache, h, hret]

end GetOrCreate

/-- A virtual call moves the object behind its pointer and nothing else. -/
theorem callMethod_spec {s : SessionCache C} (hs : Inv s) {p : Bool × UInt64} {r : Nat}
    (hr : s.ref p = some r) (method : C.Obj → Int × C.Obj) :
    ∃ o s', s.cacheAt p = some o ∧ callMethod s r method = some (⟨(method o).1, some o⟩, s') ∧
      Inv s' ∧ s'.ref = s.ref ∧
      s'.cacheAt = Function.update s.cacheAt p (some (method o).2) := by
  have hlt := hs.live p r hr
  obtain ⟨o, ho⟩ := Heap.read_of_lt_size hlt
  have hcache : s.cacheAt p = some o := by
    rw [cacheAt, hr]
    exact ho
  have hcall : callMethod s r method =
      some (⟨(method o).1, some o⟩, { s with objects := s.objects.write r (method o).2 }) := by
    rw [callMethod, ho]
    rfl
  refine ⟨o, _, hcache, hcall, ⟨?_, hs.inj⟩, rfl, ?_⟩
  · intro q r' hq
    rw [Heap.size_write]
    exact hs.live q r' hq
  · funext q
    show (s.ref q).bind (s.objects.write r (method o).2).read = _
    by_cases hq : q = p
    · rw [hq, Function.update_self, hr]
      exact Heap.read_write_self hlt _
    · rw [Function.update_of_ne hq, cacheAt]
      cases hrq : s.ref q with
      | none => rfl
      | some r' =>
          -- no two pairs share an object
          have hne : r' ≠ r := fun h => hq (hs.inj q p r (by rw [hrq, h]) hr)
          exact Heap.read_write_ne _ hne _

/-- Registering a fresh object for a pair that has none. -/
theorem register_spec {s : SessionCache C} (hs : Inv s) {p : Bool × UInt64}
    (hp : s.ref p = none) (o : C.Obj) {s₁ : SessionCache C}
    (hs₁ : s₁ = s.putMap p.1 ((s.kernelMap p.1).insert p.2 s.objects.size) (s.objects.alloc o)) :
    Inv s₁ ∧ s₁.ref p = some s.objects.size ∧
      s₁.cacheAt = Function.update s.cacheAt p (some o) ∧
      ∀ q r, s.ref q = some r → s₁.ref q = some r := by
  have href : ∀ q, s₁.ref q = if q = p then some s.objects.size else s.ref q := by
    intro q
    rw [hs₁]
    exact ref_putMap_insert s p q _ _
  have hobj : s₁.objects = s.objects.alloc o := by rw [hs₁, objects_putMap]
  have hself : s₁.ref p = some s.objects.size := by rw [href, if_pos rfl]
  have hold : ∀ q r, s.ref q = some r → s₁.ref q = some r := by
    intro q r hq
    have hne : q ≠ p := fun h => by rw [h, hp] at hq; cases hq
    rw [href, if_neg hne, hq]
  -- a reference of the new store is the new object or an old, smaller one
  have hcases : ∀ q r, s₁.ref q = some r →
      (q = p ∧ r = s.objects.size) ∨ (s.ref q = some r ∧ r < s.objects.size) := by
    intro q r hq
    rw [href] at hq
    by_cases hqp : q = p
    · rw [if_pos hqp, Option.some.injEq] at hq
      exact Or.inl ⟨hqp, hq.symm⟩
    · rw [if_neg hqp] at hq
      exact Or.inr ⟨hq, hs.live q r hq⟩
  refine ⟨⟨?_, ?_⟩, hself, ?_, hold⟩
  · intro q r hq
    rw [hobj, Heap.size_alloc]
    rcases hcases q r hq with ⟨-, h⟩ | ⟨-, h⟩ <;> omega
  · intro q q' r hq hq'
    rcases hcases q r hq with ⟨h, hr⟩ | ⟨h, hr⟩ <;>
      rcases hcases q' r hq' with ⟨h', hr'⟩ | ⟨h', hr'⟩
    · rw [h, h']
    · omega
    · omega
    · exact hs.inj q q' r h h'
  · funext q
    by_cases hq : q = p
    · rw [hq, Function.update_self, cacheAt, hself, hobj]
      exact Heap.read_alloc_fresh _ _
    · rw [Function.update_of_ne hq, cacheAt, cacheAt, href, if_neg hq, hobj]
      cases hrq : s.ref q with
      | none => rfl
      | some r => exact Heap.read_alloc_old _ _ (hs.live q r hrq)

/-- **One call refines one step of the pair's own life.** -/
theorem step_spec {s : SessionCache C} (hs : Inv s) (call : Call Param) :
    ∃ s', step s call = some ((component call.pair (s.cacheAt call.pair) call).1, s') ∧
      Inv s' ∧
      s'.cacheAt = Lib.routeState component Call.pair s.cacheAt call ∧
      ∀ p r, s.ref p = some r → s'.ref p = some r := by
  rw [step_eq]
  cases hr : (s.kernelMap call.pair.1)[call.pair.2]? with
  | some r =>
      obtain ⟨o, s', ho, hcall, hs', href, hcache⟩ := callMethod_spec hs hr call.method
      refine ⟨s', ?_, hs', ?_, fun p r h => by rwa [href]⟩
      · rw [getOrCreate_found hr, ho]
        show callMethod (s.putMap _ (s.kernelMap call.pair.1) s.objects) r call.method = _
        rw [putMap_self]
        exact hcall
      · rw [hcache, Lib.routeState, ho]
        rfl
  | none =>
      have hnone : s.cacheAt call.pair = none := by
        rw [cacheAt, ref, hr]
        rfl
      -- a call that registers nothing leaves the store as it is
      have hsame : ∀ a, component call.pair (none : Option C.Obj) call = (a, none) →
          Lib.routeState component Call.pair s.cacheAt call = s.cacheAt := by
        intro a ha
        rw [Lib.routeState, hnone, ha, ← hnone, Function.update_eq_self]
      rw [hnone]
      cases hnew : call.newOk with
      | false =>
          have hcomp : component call.pair (none : Option C.Obj) call = (⟨-1, none⟩, none) := by
            simp [component, hnew]
          refine ⟨s, ?_, hs, (hsame _ hcomp).symm, fun _ _ h => h⟩
          rw [getOrCreate_new_failed hr, hcomp]
          exact congrArg (fun t => some (_, t)) (putMap_self s _)
      | true =>
          by_cases hret : (C.init call.pair.1 C.new).1 = 0
          · -- the object becomes the pair's cache and runs the call at once
            have hcomp : component call.pair (none : Option C.Obj) call =
                component call.pair (some (C.init call.pair.1 C.new).2) call := by
              simp [component, hnew, hret]
            obtain ⟨hs₁, hself, hcache₁, hold⟩ :=
              register_spec hs hr (C.init call.pair.1 C.new).2 rfl
            obtain ⟨o, s', ho, hcall, hs', href, hcache⟩ := callMethod_spec hs₁ hself call.method
            rw [hcache₁, Function.update_self, Option.some.injEq] at ho
            subst ho
            refine ⟨s', ?_, hs', ?_, fun p r h => by rw [href]; exact hold p r h⟩
            · rw [getOrCreate_created hr hret, hcomp]
              exact hcall
            · rw [hcache, hcache₁, Function.update_idem, Lib.routeState, hnone, hcomp]
              rfl
          · have hcomp : component call.pair (none : Option C.Obj) call =
                (⟨(C.init call.pair.1 C.new).1, none⟩, none) := by
              simp [component, hnew, hret]
            refine ⟨s, ?_, hs, (hsame _ hcomp).symm, fun _ _ h => h⟩
            rw [getOrCreate_init_failed hr hret, hcomp]
            exact congrArg (fun t => some (_, t)) (putMap_self s _)

/-! ## §4. Runs. -/

/-- The answers to the calls of one pair. -/
def answersAt (p : Bool × UInt64) (calls : List (Call Param)) (answers : List (Answer C)) :
    List (Answer C) :=
  ((calls.zip answers).filter (fun ca => ca.1.pair = p)).map Prod.snd

/-- A run is the lives of all pairs side by side. -/
theorem runCalls_spec : ∀ (calls : List (Call Param)) {s : SessionCache C}, Inv s →
    ∃ s', runCalls s calls = some (Lib.outputs component Call.pair s.cacheAt calls, s') ∧
      Inv s' ∧
      s'.cacheAt = Lib.final component Call.pair s.cacheAt calls ∧
      ∀ p r, s.ref p = some r → s'.ref p = some r
  | [], s, hs => ⟨s, rfl, hs, rfl, fun _ _ h => h⟩
  | call :: calls, s, hs => by
      obtain ⟨s₁, hstep, hs₁, hcache₁, href₁⟩ := step_spec hs call
      obtain ⟨s', hrun, hs', hcache', href'⟩ := runCalls_spec calls hs₁
      refine ⟨s', ?_, hs', ?_, fun p r h => href' p r (href₁ p r h)⟩
      · rw [runCalls, hstep, Option.bind_some]
        show (runCalls s₁ calls).map _ = _
        rw [hrun, hcache₁]
        rfl
      · rw [hcache', hcache₁]
        rfl

/-- Once created, a cache is only ever changed by the methods called on it. -/
theorem final_of_created (p : Bool × UInt64) :
    ∀ (calls : List (Call Param)) (m : Bool × UInt64 → Option C.Obj) (o : C.Obj), m p = some o →
      Lib.final component Call.pair m calls p =
        some ((calls.filter (fun c => c.pair = p)).foldl (fun o c => (c.method o).2) o)
  | [], _, _, hm => hm
  | call :: calls, m, o, hm => by
      show Lib.final component Call.pair (Lib.routeState component Call.pair m call) calls p = _
      by_cases hp : call.pair = p
      · rw [List.filter_cons_of_pos (by simpa using hp), List.foldl_cons]
        refine final_of_created p calls _ _ ?_
        rw [Lib.routeState, hp, Function.update_self, hm]
        rfl
      · rw [List.filter_cons_of_neg (by simpa using hp)]
        refine final_of_created p calls _ _ ?_
        rw [Lib.routeState, Function.update_of_ne (Ne.symm hp), hm]

/-- A created cache had a successful `Init` in the pair's mode. -/
def Created (C : KernelCacheClass Param) (p : Bool × UInt64) (cache : Option C.Obj) : Prop :=
  ∀ o, cache = some o → (C.init p.1 C.new).1 = 0 ∧ C.sessionFlag o = p.1

/-- No method changes the mode of a cache. -/
theorem sessionFlag_method (call : Call Param) (o : C.Obj) :
    C.sessionFlag (call.method o).2 = C.sessionFlag o := by
  cases call with
  | runKernel param _ _ _ _ => exact C.flag_runKernel param o
  | runCpuKernelWithBlock param _ _ _ _ blk => exact C.flag_withBlock param blk o

/-- **One call** leaves the cache of a pair as one that was created for it. -/
theorem created_component (p : Bool × UInt64) (cache : Option C.Obj) (call : Call Param)
    (h : Created C p cache) : Created C p (component p cache call).2 := by
  intro o' ho'
  cases cache with
  | some o =>
      obtain ⟨hinit, hflag⟩ := h o rfl
      cases ho'
      exact ⟨hinit, by rw [sessionFlag_method, hflag]⟩
  | none =>
      cases hnew : call.newOk with
      | false => simp [component, hnew] at ho'
      | true =>
          by_cases hret : (C.init p.1 C.new).1 = 0
          · have ho : (call.method (C.init p.1 C.new).2).2 = o' := by
              simpa [component, hnew, hret] using ho'
            exact ⟨hret, by rw [← ho, sessionFlag_method, C.flag_init]⟩
          · simp [component, hnew, hret] at ho'

/-- A call leaves a cache if there was one, or if it can make one and `Init` succeeds. -/
theorem isSome_component (p : Bool × UInt64) (cache : Option C.Obj) (call : Call Param) :
    (component p cache call).2.isSome = true ↔
      cache.isSome = true ∨ (C.init p.1 C.new).1 = 0 ∧ call.newOk = true := by
  cases cache with
  | some o => exact iff_of_true rfl (Or.inl rfl)
  | none =>
      cases hnew : call.newOk with
      | false => simp [component, hnew]
      | true =>
          by_cases hret : (C.init p.1 C.new).1 = 0
          · simp [component, hnew, hret]
          · simp [component, hnew, hret]

/-- **There is a cache** after calls of which one could make it. -/
theorem isSome_final (p : Bool × UInt64) (calls : List (Call Param)) :
    ∀ m : Bool × UInt64 → Option C.Obj,
      (Lib.final component Call.pair m calls p).isSome = true ↔ (m p).isSome = true ∨
        (C.init p.1 C.new).1 = 0 ∧ ∃ call ∈ calls, call.pair = p ∧ call.newOk = true := by
  induction calls with
  | nil => exact fun m => (or_iff_left fun h => by obtain ⟨_, _, hcall, _⟩ := h; cases hcall).symm
  | cons call calls ih =>
      intro m
      have hstep : (Lib.routeState component Call.pair m call p).isSome = true ↔
          (m p).isSome = true ∨
            (C.init p.1 C.new).1 = 0 ∧ call.pair = p ∧ call.newOk = true := by
        unfold Lib.routeState
        by_cases hp : p = call.pair
        · subst hp
          rw [Function.update_self, isSome_component, and_iff_right rfl]
        · rw [Function.update_of_ne hp]
          exact (or_iff_left fun h => hp h.2.1.symm).symm
      show (Lib.final component Call.pair (Lib.routeState component Call.pair m call) calls
        p).isSome = true ↔ _
      rw [ih, hstep, or_assoc, ← and_or_left, List.exists_mem_cons_iff]

/-- **Isolation.**  Whatever the calls are, for every pair:

  * its calls get the same answers, and leave the same cache, as when all calls
    of other pairs are removed from the run;
  * its object is shared with no other pair and works in the pair's mode;
  * in every continuation it stays that object, and what happens to it is the
    methods called on it: it is never replaced and never initialised again;
  * it has one exactly if `Init` succeeds in its mode and some call could allocate it. -/
theorem session_isolation (C : KernelCacheClass Param) (calls : List (Call Param)) :
    ∃ answers s, runCalls (empty : SessionCache C) calls = some (answers, s) ∧ ∀ p,
      (∃ s', runCalls (empty : SessionCache C) (calls.filter (fun c => c.pair = p)) =
          some (answersAt p calls answers, s') ∧ s'.cacheAt p = s.cacheAt p) ∧
      (∀ r, s.ref p = some r →
        (∀ q, s.ref q = some r → q = p) ∧
        ∃ o, s.cacheAt p = some o ∧ C.sessionFlag o = p.1 ∧
          ∀ more, ∃ answers' s', runCalls s more = some (answers', s') ∧
            s'.ref p = some r ∧
            s'.cacheAt p =
              some ((more.filter (fun c => c.pair = p)).foldl (fun o c => (c.method o).2) o)) ∧
      ((s.ref p).isSome = true ↔
        (C.init p.1 C.new).1 = 0 ∧ ∃ call ∈ calls, call.pair = p ∧ call.newOk = true) := by
  obtain ⟨s, hrun, hs, hcache, -⟩ := runCalls_spec calls (inv_empty (C := C))
  -- Every object has been initialised when it was registered, for its own pair.
  have hcreated : ∀ p, Created C p (s.cacheAt p) := by
    intro p
    rw [hcache]
    refine Lib.final_induct calls _ (fun k cache i _ _ h => created_component k cache i h) ?_ p
    intro k o ho
    rw [cacheAt, ref_empty] at ho
    cases ho
  have hobject : ∀ p r, s.ref p = some r → ∃ o, s.cacheAt p = some o := by
    intro p r hr
    obtain ⟨o, ho⟩ := Heap.read_of_lt_size (hs.live p r hr)
    exact ⟨o, by rw [cacheAt, hr]; exact ho⟩
  refine ⟨_, s, hrun, fun p => ⟨?_, ?_, ?_⟩⟩
  · -- the run without the other pairs is the same life of this one
    obtain ⟨s', hrun', -, hcache', -⟩ :=
      runCalls_spec (calls.filter (fun c => c.pair = p)) (inv_empty (C := C))
    refine ⟨s', ?_, ?_⟩
    · rw [hrun', ← Lib.outputs_filter]
      rfl
    · rw [hcache', hcache]
      exact (Lib.final_filter _ _ p calls _).symm
  · intro r hr
    obtain ⟨o, ho⟩ := hobject p r hr
    refine ⟨fun q hq => hs.inj q p r hq hr, o, ho, (hcreated p o ho).2, fun more => ?_⟩
    obtain ⟨s', hrun', -, hcache', href'⟩ := runCalls_spec more hs
    exact ⟨_, s', hrun', href' p r hr, by rw [hcache']; exact final_of_created p more _ o ho⟩
  · have hsome : (s.ref p).isSome = (s.cacheAt p).isSome := by
      cases hr : s.ref p with
      | none =>
          rw [cacheAt, hr]
          rfl
      | some r =>
          obtain ⟨o, ho⟩ := hobject p r hr
          rw [ho]
          rfl
    have hempty : (cacheAt (empty : SessionCache C) p).isSome = true ↔ False := by
      rw [cacheAt, ref_empty]
      exact iff_of_false Bool.false_ne_true id
    rw [hsome, hcache, isSome_final, hempty, false_or]

end SessionCache

end HwEfat.Aicpu
