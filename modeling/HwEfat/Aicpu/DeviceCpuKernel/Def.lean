/-
  HwEfat.Aicpu.DeviceCpuKernel.Def — the C entry points of `device_cpu_kernel.cc`.

  `RunCpuKernel` and `RunCpuKernelWithBlock` check the head of the param block, look for a
  session record in the extend info and run the task on a cache: without a record on a cache
  of their own, which is gone when they return; with one on the cache that the process keeps
  for the session or, if the record says so, for the stream.

  A call is decided before it touches the state: `step_eq` splits it into its route, which
  depends on the call alone, and what is left to do for the route.
-/
import HwEfat.Aicpu.CpuKernel.Session

namespace HwEfat.Aicpu

namespace DeviceCpuKernel

open CpuKernelCache (EntryPoint Returning cpuKernelCacheClass plain blocked entryOf)

variable {AttrValue : Type}

/-! ## §1. The stream id. -/

/-- `isspace` -/
def isspace (c : Char) : Bool :=
  c == ' ' || c == '\t' || c == '\n' || c == '\x0b' || c == '\x0c' || c == '\r'

/-- The number that the leading digits denote. -/
def leadingNat (cs : List Char) : Nat :=
  (cs.takeWhile Char.isDigit).foldl (fun n c => 10 * n + (c.toNat - '0'.toNat)) 0

/-- `atoi`; a number that is no `int` is undefined behaviour, here it is cut off. -/
def atoi (s : String) : Int32 :=
  match s.toList.dropWhile isspace with
  | '-' :: cs => Int32.ofInt (-(leadingNat cs : Int))
  | '+' :: cs => Int32.ofInt (leadingNat cs)
  | cs => Int32.ofInt (leadingNat cs)

def kContextKeyStreamId : String := "streamId"

/-- The process around a call.  `GetThreadLocalCtx` is a weak symbol: `none` when it is not
linked, else it fails or gives the value of a key.  `newOk` tells whether there is memory
for a cache. -/
structure Env where
  getThreadLocalCtx : Option (String → Option String)
  newOk : Bool

/-- `stream_id`; `none` if `GetThreadLocalCtx` fails. -/
def Env.streamId (env : Env) : Option UInt64 :=
  match env.getThreadLocalCtx with
  | none => some (atoi "0").toInt64.toUInt64
  | some get => (get kContextKeyStreamId).map fun value => (atoi value).toInt64.toUInt64

/-! ## §2. The entry points. -/

/-- max param len limit 15k. -/
def kMaxParamLen : UInt32 := 15360

/-- The lengths in the head are in range. -/
def headValid (A : FwkAdapter) (paramHead : AicpuParamHead) : Bool :=
  !(decide (paramHead.length < A.sizeofAicpuParamHead) ||
    decide (kMaxParamLen < paramHead.length) || decide (kMaxExtendLen < paramHead.extInfoLength))

/-- What a call shows: its return code, the context it handed to `CpuKernelRegister`, and the
memory behind it, if there was a param block. -/
structure Reply (AttrValue : Type) where
  code : UInt32
  handed : Option (Dispatch × CpuKernelContext AttrValue)
  mem : Option Lib.Mem

/-- A call that ends before it has a cache. -/
def Reply.rejected (code : UInt32) (task : Task AttrValue) : Reply AttrValue :=
  ⟨code, none, some task.mem⟩

/-- `static_cast<uint32_t>` of what a method of a cache returns. -/
def Reply.ofOutcome (o : Outcome AttrValue) : Reply AttrValue :=
  ⟨UInt32.ofInt o.code, o.handed, some o.mem⟩

/-- `SessionCache<CpuCacheData>`, of `CpuKernelCache`s. -/
abbrev Sessions (A : FwkAdapter) (P : Platform AttrValue) (fuel : Nat) : Type :=
  SessionCache (cpuKernelCacheClass A P fuel)

variable {A : FwkAdapter} {P : Platform AttrValue} {fuel : Nat}

/-- A task on a cache of its own: `CpuKernelCache cache; cache.Init(false);`. -/
def directly (A : FwkAdapter) (P : Platform AttrValue) (fuel : Nat) (e : EntryPoint AttrValue)
    (task : Task AttrValue) : Option (Reply AttrValue) :=
  (e.launch A P fuel (CpuKernelCache.init false CpuKernelCache.new).2 task).map Reply.ofOutcome

/-- What a call of `SessionCache` shows. -/
def replyOf (call : SessionCache.Call (Returning AttrValue A fuel))
    (answer : SessionCache.Answer (cpuKernelCacheClass A P fuel)) : Reply AttrValue :=
  match answer.cache with
  | none => ⟨UInt32.ofInt answer.code, none, some call.param.val.mem⟩
  | some c => Reply.ofOutcome ((entryOf P call).outcome A P fuel c call.param)

/-- A task on the cache of its session or stream. -/
def fromCache (s : Sessions A P fuel) (call : SessionCache.Call (Returning AttrValue A fuel)) :
    Option (Reply AttrValue × Sessions A P fuel) :=
  (SessionCache.step s call).map fun answer => (replyOf call answer.1, answer.2)

/-- `session->sessionId` -/
def sessionId (A : FwkAdapter) (task : Task AttrValue) (session : Nat) : UInt64 :=
  task.mem.load64 (session + A.sessionIdOffset)

/-- `session->sessFlag` -/
def sessFlag (A : FwkAdapter) (task : Task AttrValue) (session : Nat) : Bool :=
  task.mem (session + A.sessFlagOffset) != 0

/-- Either entry point from the param block on: `e` is the method of a cache it calls, `call` the
one of `SessionCache`.  `none` while a loop over the extend info still runs after `fuel`
passes. -/
def run (A : FwkAdapter) (P : Platform AttrValue) (fuel : Nat) (e : EntryPoint AttrValue)
    (call : Returning AttrValue A fuel → UInt64 → UInt64 → Bool → Bool →
      SessionCache.Call (Returning AttrValue A fuel))
    (env : Env) (s : Sessions A P fuel) (task : Task AttrValue) :
    Option (Reply AttrValue × Sessions A P fuel) :=
  if !headValid A task.paramHead then some (.rejected KERNEL_STATUS_PARAM_INVALID task, s)
  else
    match (parseExtSessionInfo A task.mem task.paramHead fuel).val with
    | none => none
    | some (ret, session) =>
        if ret ≠ KERNEL_STATUS_OK then some (.rejected ret task, s)
        else
          match session with
          | none => (directly A P fuel e task).map fun reply => (reply, s)
          | some session =>
              match env.streamId with
              | none => some (.rejected KERNEL_STATUS_INNER_ERROR task, s)
              | some streamId =>
                  if h : (task.request A fuel).isSome then
                    fromCache s (call ⟨task, h⟩ (sessionId A task session) streamId
                      (sessFlag A task session) env.newOk)
                  else none

/-- `SessionCache::RunCpuKernelWithBlock`, with its block. -/
def withBlock (blkdimInfo : BlkDimInfo) (param : Returning AttrValue A fuel)
    (sessionId streamId : UInt64) (sessFlag newOk : Bool) :
    SessionCache.Call (Returning AttrValue A fuel) :=
  .runCpuKernelWithBlock param sessionId streamId sessFlag newOk blkdimInfo

/-- `RunCpuKernel`; a null pointer is `none`. -/
def runCpuKernel (env : Env) (s : Sessions A P fuel) (param : Option (Task AttrValue)) :
    Option (Reply AttrValue × Sessions A P fuel) :=
  match param with
  | none => some (⟨KERNEL_STATUS_PARAM_INVALID, none, none⟩, s)
  | some task => run A P fuel (plain P) .runKernel env s task

/-- `RunCpuKernelWithBlock` -/
def runCpuKernelWithBlock (env : Env) (s : Sessions A P fuel) (param : Option (Task AttrValue))
    (blkdimInfo : Option BlkDimInfo) : Option (Reply AttrValue × Sessions A P fuel) :=
  match param, blkdimInfo with
  | none, _ => some (⟨KERNEL_STATUS_PARAM_INVALID, none, none⟩, s)
  | some task, none => some (.rejected KERNEL_STATUS_PARAM_INVALID task, s)
  | some task, some blkdimInfo =>
      run A P fuel (blocked P blkdimInfo) (withBlock blkdimInfo) env s task

/-! ## §3. Runs of calls. -/

/-- A call of one of the two entry points. -/
inductive Call (AttrValue : Type) where
  | runCpuKernel (env : Env) (param : Option (Task AttrValue))
  | runCpuKernelWithBlock (env : Env) (param : Option (Task AttrValue))
      (blkdimInfo : Option BlkDimInfo)

/-- One call of the C interface. -/
def step (s : Sessions A P fuel) : Call AttrValue → Option (Reply AttrValue × Sessions A P fuel)
  | .runCpuKernel env param => runCpuKernel env s param
  | .runCpuKernelWithBlock env param blkdimInfo => runCpuKernelWithBlock env s param blkdimInfo

/-- The replies to a sequence of calls, and the caches after it. -/
def runCalls (s : Sessions A P fuel) :
    List (Call AttrValue) → Option (List (Reply AttrValue) × Sessions A P fuel)
  | [] => some ([], s)
  | call :: calls =>
      (step s call).bind fun out =>
        (runCalls out.2 calls).map fun outs => (out.1 :: outs.1, outs.2)

/-! ## §4. The route of a call. -/

/-- Where a call gets its reply: by itself, or from the cache of a session or stream. -/
inductive Route (AttrValue : Type) (A : FwkAdapter) (fuel : Nat) where
  | alone (reply : Reply AttrValue)
  | cached (call : SessionCache.Call (Returning AttrValue A fuel))

/-- The route from the param block on. -/
def routeOf (A : FwkAdapter) (P : Platform AttrValue) (fuel : Nat) (e : EntryPoint AttrValue)
    (call : Returning AttrValue A fuel → UInt64 → UInt64 → Bool → Bool →
      SessionCache.Call (Returning AttrValue A fuel))
    (env : Env) (task : Task AttrValue) : Option (Route AttrValue A fuel) :=
  if !headValid A task.paramHead then some (.alone (.rejected KERNEL_STATUS_PARAM_INVALID task))
  else
    match (parseExtSessionInfo A task.mem task.paramHead fuel).val with
    | none => none
    | some (ret, session) =>
        if ret ≠ KERNEL_STATUS_OK then some (.alone (.rejected ret task))
        else
          match session with
          | none => (directly A P fuel e task).map .alone
          | some session =>
              match env.streamId with
              | none => some (.alone (.rejected KERNEL_STATUS_INNER_ERROR task))
              | some streamId =>
                  if h : (task.request A fuel).isSome then
                    some (.cached (call ⟨task, h⟩ (sessionId A task session) streamId
                      (sessFlag A task session) env.newOk))
                  else none

/-- The route of a call; `none` if the call does not return. -/
def Call.route (A : FwkAdapter) (P : Platform AttrValue) (fuel : Nat) :
    Call AttrValue → Option (Route AttrValue A fuel)
  | .runCpuKernel _ none => some (.alone ⟨KERNEL_STATUS_PARAM_INVALID, none, none⟩)
  | .runCpuKernel env (some task) => routeOf A P fuel (plain P) .runKernel env task
  | .runCpuKernelWithBlock _ none _ => some (.alone ⟨KERNEL_STATUS_PARAM_INVALID, none, none⟩)
  | .runCpuKernelWithBlock _ (some task) none =>
      some (.alone (.rejected KERNEL_STATUS_PARAM_INVALID task))
  | .runCpuKernelWithBlock env (some task) (some blkdimInfo) =>
      routeOf A P fuel (blocked P blkdimInfo) (withBlock blkdimInfo) env task

/-- What is left to do for a route. -/
def Route.follow (s : Sessions A P fuel) :
    Route AttrValue A fuel → Option (Reply AttrValue × Sessions A P fuel)
  | .alone reply => some (reply, s)
  | .cached call => fromCache s call

/-- The route of `run`. -/
theorem run_eq (e : EntryPoint AttrValue)
    (call : Returning AttrValue A fuel → UInt64 → UInt64 → Bool → Bool →
      SessionCache.Call (Returning AttrValue A fuel))
    (env : Env) (s : Sessions A P fuel) (task : Task AttrValue) :
    run A P fuel e call env s task
      = (routeOf A P fuel e call env task).bind (Route.follow s) := by
  unfold run routeOf
  split
  · rfl
  · cases (parseExtSessionInfo A task.mem task.paramHead fuel).val with
    | none => rfl
    | some out =>
        obtain ⟨ret, session⟩ := out
        by_cases hret : ret ≠ KERNEL_STATUS_OK
        · simp only [if_pos hret]
          rfl
        · simp only [if_neg hret]
          cases session with
          | none =>
              simp only
              cases directly A P fuel e task with
              | none => rfl
              | some reply => rfl
          | some session =>
              simp only
              cases env.streamId with
              | none => rfl
              | some streamId =>
                  simp only
                  -- A walk that does not end gives no reply on either side.
                  by_cases h : (task.request A fuel).isSome
                  · rw [dif_pos h, dif_pos h]
                    rfl
                  · rw [dif_neg h, dif_neg h]
                    rfl

/-- **A call is its route**, and what is left to do for it. -/
theorem step_eq (s : Sessions A P fuel) (call : Call AttrValue) :
    step s call = (call.route A P fuel).bind (Route.follow s) := by
  cases call with
  | runCpuKernel env param =>
      cases param with
      | none => rfl
      | some task => exact run_eq (plain P) .runKernel env s task
  | runCpuKernelWithBlock env param blkdimInfo =>
      cases param with
      | none => rfl
      | some task =>
          cases blkdimInfo with
          | none => rfl
          | some blkdimInfo => exact run_eq (blocked P blkdimInfo) (withBlock blkdimInfo) env s task

end DeviceCpuKernel

end HwEfat.Aicpu
