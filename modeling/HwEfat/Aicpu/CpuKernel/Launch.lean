/-
  HwEfat.Aicpu.CpuKernel.Launch — what one call of `RunKernel` or
  `RunCpuKernelWithBlock` does.

  A call that its two parsers accept comes to a `Request`.  From there on there
  are three ways: it is served a cached context, it can build none, or it builds
  a new one and caches it if the request names a session (`launch_served`,
  `launch_null`, `launch_built`).  Everything later about runs of calls is proved
  from these three and from `execute_spec`.
-/
import HwEfat.Lib.Run
import HwEfat.Aicpu.CpuKernel.Cache

namespace HwEfat.Aicpu

open HwEfat.Lib (Heap)

variable {AttrValue : Type}

/-- What a call asks for, once its param block and extend info are parsed. -/
structure Request where
  ioAddrs : List UInt64
  nodedef : List UInt8
  msg : ExtInfoMsg

/-- The request of a task; `none` while `ParseExtMsg` still runs, `some none` when
a parser rejects the task. -/
def Task.request (A : FwkAdapter) (fuel : Nat) (task : Task AttrValue) :
    Option (Option Request) :=
  match CpuKernelCache.parseIoAddr A task.mem task.paramHead with
  | .error _ => some none
  | .ok (ioAddrs, nodedef, nodedefLen) =>
      (CpuKernelCache.parseExtMsg A task.mem task.paramHead ExtInfoMsg.new fuel).val.map
        fun (ret, msg) =>
          if ret ≠ KERNEL_STATUS_OK then none
          else some ⟨ioAddrs, CpuKernelCache.strData task.mem nodedef nodedefLen, msg⟩

namespace CpuKernelCache

variable {A : FwkAdapter} {P : Platform AttrValue} {fuel : Nat}

/-! ## §1. The entry points. -/

/-- What the two entry points differ in. -/
structure EntryPoint (AttrValue : Type) where
  lookup : ExtInfoMsg → Bool
  build : ExtInfoMsg → List UInt8 → Option (CpuKernelContext AttrValue)
  toCode : UInt32 → Int

/-- `RunKernel` as an entry point. -/
def plain (P : Platform AttrValue) : EntryPoint AttrValue where
  lookup msg := msg.hasSessInfo
  build := buildContext P
  toCode ret :=
    if ret = KERNEL_STATUS_END_OF_SEQUENCE then ret.toNat
    else if ret ≠ KERNEL_STATUS_OK then -1
    else 0

/-- `RunCpuKernelWithBlock` as an entry point. -/
def blocked (P : Platform AttrValue) (blkdimInfo : BlkDimInfo) : EntryPoint AttrValue where
  lookup msg := msg.hasSessInfo && blkdimInfo.blockNum == 1
  build _ nodedef := buildContextWithBlock P blkdimInfo nodedef
  toCode ret := if ret ≠ KERNEL_STATUS_OK then -1 else 0

/-- A call of an entry point. -/
def EntryPoint.launch (A : FwkAdapter) (P : Platform AttrValue) (fuel : Nat)
    (e : EntryPoint AttrValue) (c : CpuKernelCache AttrValue) (task : Task AttrValue) :
    Option (Outcome AttrValue) :=
  CpuKernelCache.launch A P fuel
    (fun c msg nodedef => obtainContext (e.lookup msg) (e.build msg nodedef) c msg) e.toCode c task

/-- `RunKernel` is a launch through the plain entry point. -/
theorem runKernel_eq (c : CpuKernelCache AttrValue) (task : Task AttrValue) :
    runKernel A P fuel c task = (plain P).launch A P fuel c task := rfl

/-- `RunCpuKernelWithBlock` is a launch through the one with blocks. -/
theorem runCpuKernelWithBlock_eq (blkdimInfo : BlkDimInfo) (c : CpuKernelCache AttrValue)
    (task : Task AttrValue) :
    runCpuKernelWithBlock A P fuel blkdimInfo c task
      = (blocked P blkdimInfo).launch A P fuel c task := rfl

/-- `AddAttrs("wait_type", …)`, then `AddAttrs("wait_id", …)`. -/
def withWait (P : Platform AttrValue) (msg : ExtInfoMsg) (nd : NodeDef AttrValue) :
    NodeDef AttrValue :=
  P.addAttrs (P.addAttrs nd "wait_type" (P.setInt msg.waitType.toNat))
    "wait_id" (P.setInt msg.waitId.toNat)

/-- The device type of a context that `RunKernel` builds. -/
def deviceTypeOf (msg : ExtInfoMsg) : DeviceType :=
  if msg.devicetypeHostFlag then .host else .device

/-- A new context comes from the node definition. -/
theorem buildContext_eq (msg : ExtInfoMsg) (nodedef : List UInt8) :
    buildContext P msg nodedef = (P.parseFromString nodedef).bind fun nd =>
      (CpuKernelContext.init (deviceTypeOf msg) (withWait P msg nd)).toOption := rfl

/-- The attributes of a blocked launch. -/
def withBlock (P : Platform AttrValue) (blkdimInfo : BlkDimInfo) (nd : NodeDef AttrValue) :
    NodeDef AttrValue :=
  if blkdimInfo.blockNum ≠ 1 then
    P.addAttrs (P.addAttrs nd "block_num" (P.setInt blkdimInfo.blockNum.toNat))
      "block_id" (P.setInt blkdimInfo.blockId.toNat)
  else nd

/-- So does one with blocks, which always runs on the device. -/
theorem buildContextWithBlock_eq (blkdimInfo : BlkDimInfo) (nodedef : List UInt8) :
    buildContextWithBlock P blkdimInfo nodedef = (P.parseFromString nodedef).bind fun nd =>
      (CpuKernelContext.init .device (withBlock P blkdimInfo nd)).toOption := rfl

/-- The context is made of the parsed nodedef, with whatever attributes. -/
def FromNodeDef (P : Platform AttrValue) (nodedef : List UInt8)
    (ctx : CpuKernelContext AttrValue) : Prop :=
  ∃ nd nd' deviceType, P.parseFromString nodedef = some nd ∧ nd'.opType = nd.opType ∧
    nd'.inputs = nd.inputs ∧ nd'.outputs = nd.outputs ∧
    CpuKernelContext.init deviceType nd' = .ok ctx

/-- What a new context has of its node definition. -/
theorem fromNodeDef_buildContext {msg : ExtInfoMsg} {nodedef : List UInt8}
    {ctx : CpuKernelContext AttrValue} (h : buildContext P msg nodedef = some ctx) :
    FromNodeDef P nodedef ctx := by
  rw [buildContext_eq, Option.bind_eq_some_iff] at h
  obtain ⟨nd, hnd, h⟩ := h
  refine ⟨nd, withWait P msg nd, _, hnd, ?_, ?_, ?_, Lib.toOption_eq_some.mp h⟩
  · simp only [withWait, P.addAttrs_opType]
  · simp only [withWait, P.addAttrs_inputs]
  · simp only [withWait, P.addAttrs_outputs]

/-- The attributes about blocks come on top. -/
theorem fromNodeDef_withBlock {blkdimInfo : BlkDimInfo} {nodedef : List UInt8}
    {ctx : CpuKernelContext AttrValue}
    (h : buildContextWithBlock P blkdimInfo nodedef = some ctx) : FromNodeDef P nodedef ctx := by
  rw [buildContextWithBlock_eq, Option.bind_eq_some_iff] at h
  obtain ⟨nd, hnd, h⟩ := h
  refine ⟨nd, withBlock P blkdimInfo nd, _, hnd, ?_, ?_, ?_, Lib.toOption_eq_some.mp h⟩
  all_goals
    unfold withBlock
    by_cases hone : blkdimInfo.blockNum ≠ 1
    · rw [if_pos hone]
      simp only [P.addAttrs_opType, P.addAttrs_inputs, P.addAttrs_outputs]
    · rw [if_neg hone]

/-- Contexts of one nodedef differ in attributes and device type only. -/
theorem FromNodeDef.agree {nodedef : List UInt8} {ctx ctx' : CpuKernelContext AttrValue}
    (h : FromNodeDef P nodedef ctx) (h' : FromNodeDef P nodedef ctx') :
    ctx.op = ctx'.op ∧ ctx.inputs = ctx'.inputs ∧ ctx.outputs = ctx'.outputs := by
  obtain ⟨nd, nd₁, _, hparse, hop, hin, hout, hinit⟩ := h
  obtain ⟨nd', nd₁', _, hparse', hop', hin', hout', hinit'⟩ := h'
  obtain rfl : nd' = nd := Option.some.inj (hparse'.symm.trans hparse)
  exact CpuKernelContext.init_agree (hop.trans hop'.symm) (hin.trans hin'.symm)
    (hout.trans hout'.symm) hinit hinit'

/-! ## §2. The three ways of a call. -/

/-- The cached context of a kernel id, with its reference. -/
def cached (c : CpuKernelCache AttrValue) (kernelId : UInt64) :
    Option (Nat × CpuKernelContext AttrValue) :=
  (c.cache.view.lookup kernelId).bind fun ref => (c.contexts.read ref).map fun ctx => (ref, ctx)

/-- The cached context a call is served. -/
def EntryPoint.served (e : EntryPoint AttrValue) (c : CpuKernelCache AttrValue)
    (msg : ExtInfoMsg) : Option (Nat × CpuKernelContext AttrValue) :=
  if e.lookup msg then c.cached msg.kernelId else none

/-- The cache after the lookup of a call. -/
def EntryPoint.searched (e : EntryPoint AttrValue) (c : CpuKernelCache AttrValue)
    (msg : ExtInfoMsg) : CpuKernelCache AttrValue :=
  if e.lookup msg then (c.getCache msg.kernelId).2 else c

/-- The cache after a new context; its reference is `c.contexts.size`. -/
def keep (c : CpuKernelCache AttrValue) (msg : ExtInfoMsg) (ctx : CpuKernelContext AttrValue) :
    CpuKernelCache AttrValue :=
  if msg.hasSessInfo then c.allocCached msg.kernelId ctx else c.alloc ctx

/-- A cached reference is live, so that a cached kernel id has a context. -/
theorem cached_eq_none {c : CpuKernelCache AttrValue} {kernelId : UInt64} :
    c.cached kernelId = none ↔ c.cache.view.lookup kernelId = none := by
  unfold cached
  cases h : c.cache.view.lookup kernelId with
  | none => simp
  | some ref =>
      obtain ⟨ctx, hctx⟩ := Heap.read_of_lt_size (c.live kernelId ref h)
      simp [hctx]

/-- A cached context: the cache has its number, and the number its content. -/
theorem cached_eq_some {c : CpuKernelCache AttrValue} {kernelId : UInt64} {ref : Nat}
    {ctx : CpuKernelContext AttrValue} :
    c.cached kernelId = some (ref, ctx) ↔
      c.cache.view.lookup kernelId = some ref ∧ c.contexts.read ref = some ctx := by
  unfold cached
  rw [Option.bind_eq_some_iff]
  constructor
  · intro ⟨r, hr, h⟩
    obtain ⟨o, ho, heq⟩ := Option.map_eq_some_iff.mp h
    cases heq
    exact ⟨hr, ho⟩
  · intro ⟨hr, hctx⟩
    exact ⟨ref, hr, by rw [hctx]; rfl⟩

/-- A search finds what the view of the cache has. -/
theorem getCache_found (c : CpuKernelCache AttrValue) (kernelId : UInt64) :
    (c.getCache kernelId).1 = c.cache.view.lookup kernelId :=
  LiveCache.getCache_found c.cache kernelId

section Obtain

variable {e : EntryPoint AttrValue} {c : CpuKernelCache AttrValue} {msg : ExtInfoMsg}
  {nodedef : List UInt8}

/-- A context that is served is not built. -/
theorem obtainContext_served {ref : Nat} {ctx : CpuKernelContext AttrValue}
    (h : e.served c msg = some (ref, ctx)) :
    obtainContext (e.lookup msg) (e.build msg nodedef) c msg = (some ref, e.searched c msg) := by
  unfold EntryPoint.served at h
  split_ifs at h with hlookup
  have hget : (c.getCache msg.kernelId).1 = some ref := by
    rw [getCache_found]
    exact (cached_eq_some.mp h).1
  simp [obtainContext, EntryPoint.searched, hlookup, hget]

/-- Without a cached context a call goes on with what it builds. -/
theorem obtainContext_miss (h : e.served c msg = none) :
    obtainContext (e.lookup msg) (e.build msg nodedef) c msg =
      match e.build msg nodedef with
      | none => (none, e.searched c msg)
      | some ctx => (some c.contexts.size, (e.searched c msg).keep msg ctx) := by
  unfold EntryPoint.served at h
  unfold obtainContext EntryPoint.searched keep
  cases hlookup : e.lookup msg with
  | false => cases e.build msg nodedef <;> rfl
  | true =>
      rw [if_pos hlookup, cached_eq_none, ← getCache_found] at h
      simp only [if_true]
      rw [h]
      cases e.build msg nodedef <;> rfl

end Obtain

/-- What a request comes to, without the cache mechanics. -/
theorem launch_request {e : EntryPoint AttrValue} {c : CpuKernelCache AttrValue}
    {task : Task AttrValue} {r : Request} (hr : task.request A fuel = some (some r)) :
    e.launch A P fuel c task =
      match obtainContext (e.lookup r.msg) (e.build r.msg r.nodedef) c r.msg with
      | (none, c) => some ⟨KERNEL_STATUS_INNER_ERROR.toNat, none, c, task.mem⟩
      | (some ref, c) =>
          (c.contexts.read ref).map fun ctx =>
            execute A P e.toCode c task r.ioAddrs r.msg ref ctx := by
  unfold Task.request at hr
  unfold EntryPoint.launch CpuKernelCache.launch
  -- A request is read only if both parsers accept the task.
  cases hparam : parseIoAddr A task.mem task.paramHead with
  | error ret =>
      rw [hparam] at hr
      cases hr
  | ok param =>
      obtain ⟨ioAddrs, nodedef, nodedefLen⟩ := param
      rw [hparam] at hr
      simp only at hr ⊢
      cases hmsg : (parseExtMsg A task.mem task.paramHead ExtInfoMsg.new fuel).val with
      | none =>
          rw [hmsg] at hr
          cases hr
      | some out =>
          obtain ⟨ret, msg⟩ := out
          rw [hmsg, Option.map_some, Option.some.injEq] at hr
          by_cases hret : ret = KERNEL_STATUS_OK
          · rw [if_neg (fun h => h hret), Option.some.injEq] at hr
            subst hr
            show (if ret ≠ KERNEL_STATUS_OK then _ else _) = _
            exact if_neg fun h => h hret
          · rw [if_pos hret] at hr
            cases hr

/-- A task that has no request is turned away without touching the cache. -/
theorem launch_rejected {e : EntryPoint AttrValue} {c : CpuKernelCache AttrValue}
    {task : Task AttrValue} (hr : ∀ r, task.request A fuel ≠ some (some r)) :
    e.launch A P fuel c task = (task.request A fuel).map fun _ => ⟨-1, none, c, task.mem⟩ := by
  unfold Task.request at hr ⊢
  unfold EntryPoint.launch CpuKernelCache.launch
  cases hparam : parseIoAddr A task.mem task.paramHead with
  | error ret => rfl
  | ok param =>
      obtain ⟨ioAddrs, nodedef, nodedefLen⟩ := param
      rw [hparam] at hr
      simp only at hr ⊢
      cases hmsg : (parseExtMsg A task.mem task.paramHead ExtInfoMsg.new fuel).val with
      | none => rfl
      | some out =>
          obtain ⟨ret, msg⟩ := out
          by_cases hret : ret = KERNEL_STATUS_OK
          · refine absurd ?_ (hr ⟨ioAddrs, strData task.mem nodedef nodedefLen, msg⟩)
            rw [hmsg, Option.map_some, if_neg (fun h => h hret)]
          · simp only [ne_eq, hret, not_false_eq_true, if_true, Option.map_some]

section Ways

variable {e : EntryPoint AttrValue} {c : CpuKernelCache AttrValue} {task : Task AttrValue}
  {r : Request}

@[simp] theorem contexts_searched (msg : ExtInfoMsg) :
    (e.searched c msg).contexts = c.contexts := by
  unfold EntryPoint.searched
  split_ifs <;> rfl

/-- A search changes the order only. -/
theorem lookup_searched (msg : ExtInfoMsg) (kernelId : UInt64) :
    (e.searched c msg).cache.view.lookup kernelId = c.cache.view.lookup kernelId := by
  unfold EntryPoint.searched
  split_ifs
  · exact LiveCache.lookup_getCache c.cache _ _
  · rfl

@[simp] theorem contexts_keep (msg : ExtInfoMsg) (ctx : CpuKernelContext AttrValue) :
    (c.keep msg ctx).contexts = c.contexts.alloc ctx := by
  unfold keep
  split_ifs <;> rfl

/-- A served context is the one behind its reference. -/
theorem read_served {msg : ExtInfoMsg} {ref : Nat} {ctx : CpuKernelContext AttrValue}
    (h : e.served c msg = some (ref, ctx)) : c.contexts.read ref = some ctx := by
  unfold EntryPoint.served at h
  split_ifs at h
  exact (cached_eq_some.mp h).2

/-- **A call served from the cache.** -/
theorem launch_served (hr : task.request A fuel = some (some r)) {ref : Nat}
    {ctx : CpuKernelContext AttrValue} (h : e.served c r.msg = some (ref, ctx)) :
    e.launch A P fuel c task =
      some (execute A P e.toCode (e.searched c r.msg) task r.ioAddrs r.msg ref ctx) := by
  have hread : (e.searched c r.msg).contexts.read ref = some ctx := by
    rw [contexts_searched]
    exact read_served h
  rw [launch_request hr, obtainContext_served h]
  show ((e.searched c r.msg).contexts.read ref).map _ = _
  rw [hread]
  rfl

/-- **A call that gets no context.** -/
theorem launch_null (hr : task.request A fuel = some (some r)) (h : e.served c r.msg = none)
    (hbuild : e.build r.msg r.nodedef = none) :
    e.launch A P fuel c task =
      some ⟨KERNEL_STATUS_INNER_ERROR.toNat, none, e.searched c r.msg, task.mem⟩ := by
  rw [launch_request hr, obtainContext_miss h, hbuild]

/-- **A call that builds its context.** -/
theorem launch_built (hr : task.request A fuel = some (some r)) (h : e.served c r.msg = none)
    {ctx : CpuKernelContext AttrValue} (hbuild : e.build r.msg r.nodedef = some ctx) :
    e.launch A P fuel c task =
      some (execute A P e.toCode ((e.searched c r.msg).keep r.msg ctx) task r.ioAddrs r.msg
        c.contexts.size ctx) := by
  have hread : ((e.searched c r.msg).keep r.msg ctx).contexts.read c.contexts.size = some ctx := by
    rw [contexts_keep, contexts_searched]
    exact Heap.read_alloc_fresh _ _
  rw [launch_request hr, obtainContext_miss h, hbuild]
  show (((e.searched c r.msg).keep r.msg ctx).contexts.read c.contexts.size).map _ = _
  rw [hread]
  rfl

end Ways

/-! ## §3. From the context on. -/

/-- How a message dispatches its kernel. -/
def dispatch (msg : ExtInfoMsg) : Dispatch := if msg.asyncFlag then .async else .sync

/-- The tensors of the context fit the call. -/
def Accepts (A : FwkAdapter) (P : Platform AttrValue) (task : Task AttrValue) (r : Request)
    (ctx : CpuKernelContext AttrValue) : Prop :=
  (updateTensor A P task.mem r.ioAddrs r.msg ctx).1 = KERNEL_STATUS_OK

instance (task : Task AttrValue) (r : Request) (ctx : CpuKernelContext AttrValue) :
    Decidable (Accepts A P task r ctx) :=
  inferInstanceAs (Decidable (_ = _))

/-- The context as this call hands it on. -/
def updated (A : FwkAdapter) (P : Platform AttrValue) (task : Task AttrValue) (r : Request)
    (ctx : CpuKernelContext AttrValue) : CpuKernelContext AttrValue :=
  (updateTensor A P task.mem r.ioAddrs r.msg ctx).2.2

/-- What this call hands to the kernel if it works on the context. -/
def handOn (A : FwkAdapter) (P : Platform AttrValue) (task : Task AttrValue) (r : Request)
    (ctx : CpuKernelContext AttrValue) : Option (Dispatch × CpuKernelContext AttrValue) :=
  if Accepts A P task r ctx then some (dispatch r.msg, updated A P task r ctx) else none

/-- **When a context is handed on**: the task is accepted, and this is the updated context. -/
theorem handOn_eq_some {task : Task AttrValue} {r : Request} {ctx ctx' : CpuKernelContext AttrValue}
    {d : Dispatch} :
    handOn A P task r ctx = some (d, ctx') ↔
      Accepts A P task r ctx ∧ dispatch r.msg = d ∧ updated A P task r ctx = ctx' := by
  unfold handOn
  by_cases h : Accepts A P task r ctx
  · rw [if_pos h, Option.some.injEq, Prod.mk.injEq]
    exact ⟨fun heq => ⟨h, heq⟩, fun heq => heq.2⟩
  · rw [if_neg h]
    constructor
    · intro heq
      cases heq
    · intro heq
      exact absurd heq.1 h

/-- What this call leaves behind of the context it works on. -/
def leftBehind (A : FwkAdapter) (P : Platform AttrValue) (task : Task AttrValue) (r : Request)
    (ctx : CpuKernelContext AttrValue) : CpuKernelContext AttrValue :=
  if Accepts A P task r ctx then
    if r.msg.asyncFlag then
      (CpuKernelRegister.runCpuKernelAsync task.runtime (updated A P task r ctx) r.msg.waitType
        r.msg.waitId).2
    else (CpuKernelRegister.runCpuKernel task.runtime (updated A P task r ctx)).2
  else updated A P task r ctx

/-- Nothing but tensors changes. -/
theorem sameFrame_leftBehind (task : Task AttrValue) (r : Request)
    (ctx : CpuKernelContext AttrValue) : ctx.SameFrame (leftBehind A P task r ctx) := by
  have hframe : ctx.SameFrame (updated A P task r ctx) :=
    (updateTensor_spec (A := A) (P := P) r.ioAddrs r.msg ctx).2.1
  unfold leftBehind
  split_ifs
  · exact hframe.trans (CpuKernelRegister.sameFrame_runCpuKernelAsync _ _ _ _)
  · exact hframe.trans (CpuKernelRegister.sameFrame_runCpuKernel _ _)
  · exact hframe

/-- The return code of a call that works on the context. -/
def returnCode (A : FwkAdapter) (P : Platform AttrValue) (toCode : UInt32 → Int)
    (task : Task AttrValue) (r : Request) (ctx : CpuKernelContext AttrValue) : Int :=
  if Accepts A P task r ctx then
    if r.msg.asyncFlag then
      toCode (CpuKernelRegister.runCpuKernelAsync task.runtime (updated A P task r ctx)
        r.msg.waitType r.msg.waitId).1
    else
      let (ret, left) := CpuKernelRegister.runCpuKernel task.runtime (updated A P task r ctx)
      if ret ≠ KERNEL_STATUS_OK then -1
      else
        toCode (updateFWKOutputShape A task.mem
          (updateTensor A P task.mem r.ioAddrs r.msg ctx).2.1 left).1
  else -1

/-- **From the context on**: the return code, what the kernel is handed, and what
becomes of the object behind the reference; no other object is touched. -/
theorem execute_spec (toCode : UInt32 → Int) (c : CpuKernelCache AttrValue)
    (task : Task AttrValue) (r : Request) (ref : Nat) (ctx : CpuKernelContext AttrValue) :
    (execute A P toCode c task r.ioAddrs r.msg ref ctx).code = returnCode A P toCode task r ctx ∧
    (execute A P toCode c task r.ioAddrs r.msg ref ctx).handed = handOn A P task r ctx ∧
    (execute A P toCode c task r.ioAddrs r.msg ref ctx).cache =
      c.write ref (leftBehind A P task r ctx) := by
  obtain ⟨hview, -⟩ := @updateTensor_spec _ A P task.mem r.ioAddrs r.msg ctx
  unfold returnCode handOn leftBehind Accepts updated dispatch execute
  -- the message is changed in its addresses only, so the kernel is dispatched by `r.msg`
  rw [hview.asyncFlag, hview.waitType, hview.waitId]
  by_cases hret : (updateTensor A P task.mem r.ioAddrs r.msg ctx).1 = KERNEL_STATUS_OK
  · simp only [hret, ne_eq, not_true_eq_false, if_false, if_true]
    cases (updateTensor A P task.mem r.ioAddrs r.msg ctx).2.1.asyncFlag with
    | true => exact ⟨rfl, rfl, rfl⟩
    | false =>
        simp only [Bool.false_eq_true, if_false]
        split_ifs
        · exact ⟨rfl, rfl, rfl⟩
        · exact ⟨rfl, rfl, rfl⟩
  · simp only [hret, ne_eq, not_false_eq_true, if_true, if_false]
    exact ⟨trivial, trivial, trivial⟩

/-- The context a request works on. -/
def EntryPoint.context (e : EntryPoint AttrValue) (c : CpuKernelCache AttrValue) (r : Request) :
    Option (CpuKernelContext AttrValue) :=
  match e.served c r.msg with
  | some (_, ctx) => some ctx
  | none => e.build r.msg r.nodedef

/-- **A call with a request returns**, and hands on the context it works on. -/
theorem launch_handed {e : EntryPoint AttrValue} {c : CpuKernelCache AttrValue}
    {task : Task AttrValue} {r : Request} (hr : task.request A fuel = some (some r)) :
    ∃ o, e.launch A P fuel c task = some o ∧
      o.handed = (e.context c r).bind (handOn A P task r) := by
  unfold EntryPoint.context
  cases hserved : e.served c r.msg with
  | some hit => exact ⟨_, launch_served hr hserved, (execute_spec _ _ task r _ _).2.1⟩
  | none =>
      cases hbuild : e.build r.msg r.nodedef with
      | none => exact ⟨_, launch_null hr hserved hbuild, rfl⟩
      | some ctx => exact ⟨_, launch_built hr hserved hbuild, (execute_spec _ _ task r _ _).2.1⟩

/-- **All that a call does to the cache**, for the request its task has, if any. -/
inductive CacheStep (A : FwkAdapter) (P : Platform AttrValue) (e : EntryPoint AttrValue)
    (c : CpuKernelCache AttrValue) (task : Task AttrValue) :
    Option Request → CpuKernelCache AttrValue → Prop where
  | rejected : CacheStep A P e c task none c
  | null (r : Request) : CacheStep A P e c task (some r) (e.searched c r.msg)
  | served (r : Request) (ref : Nat) (ctx : CpuKernelContext AttrValue)
      (hserved : e.served c r.msg = some (ref, ctx)) :
      CacheStep A P e c task (some r)
        ((e.searched c r.msg).write ref (leftBehind A P task r ctx))
  | built (r : Request) (ctx : CpuKernelContext AttrValue) (hserved : e.served c r.msg = none)
      (hbuild : e.build r.msg r.nodedef = some ctx) :
      CacheStep A P e c task (some r)
        (((e.searched c r.msg).keep r.msg ctx).write c.contexts.size (leftBehind A P task r ctx))

/-- **What a launch does to the cache**, when it returns. -/
theorem cacheStep_of_launch {e : EntryPoint AttrValue} {c : CpuKernelCache AttrValue}
    {task : Task AttrValue} {o : Outcome AttrValue} (ho : e.launch A P fuel c task = some o) :
    ∃ request, task.request A fuel = some request ∧ CacheStep A P e c task request o.cache := by
  by_cases hr : ∃ r, task.request A fuel = some (some r)
  · obtain ⟨r, hr⟩ := hr
    refine ⟨some r, hr, ?_⟩
    cases hserved : e.served c r.msg with
    | some hit =>
        obtain ⟨ref, ctx⟩ := hit
        rw [launch_served hr hserved, Option.some.injEq] at ho
        rw [← ho, (execute_spec _ _ task r ref ctx).2.2]
        exact .served r ref ctx hserved
    | none =>
        cases hbuild : e.build r.msg r.nodedef with
        | none =>
            rw [launch_null hr hserved hbuild, Option.some.injEq] at ho
            rw [← ho]
            exact .null r
        | some ctx =>
            rw [launch_built hr hserved hbuild, Option.some.injEq] at ho
            rw [← ho, (execute_spec _ _ task r _ ctx).2.2]
            exact .built r ctx hserved hbuild
  · rw [launch_rejected (not_exists.mp hr), Option.map_eq_some_iff] at ho
    obtain ⟨request, hrequest, rfl⟩ := ho
    cases request with
    | none => exact ⟨none, hrequest, .rejected⟩
    | some r => exact absurd ⟨r, hrequest⟩ hr

/-- The mode of a cache never changes. -/
theorem CacheStep.sessFlag {e : EntryPoint AttrValue} {c c' : CpuKernelCache AttrValue}
    {task : Task AttrValue} {request : Option Request} (h : CacheStep A P e c task request c') :
    c'.cache.raw.sessFlag = c.cache.raw.sessFlag := by
  have hsearched : ∀ msg, (e.searched c msg).cache.raw.sessFlag = c.cache.raw.sessFlag := by
    intro msg
    unfold EntryPoint.searched
    split_ifs
    · exact (LiveCache.getCache_mode c.cache _).1
    · rfl
  cases h with
  | rejected => rfl
  | null r => exact hsearched r.msg
  | served r ref ctx hserved => exact hsearched r.msg
  | built r ctx hserved hbuild =>
      show ((e.searched c r.msg).keep r.msg ctx).cache.raw.sessFlag = _
      rw [← hsearched r.msg, keep]
      split_ifs
      · exact (LiveCache.setCache_mode _ _ _).1
      · rfl

/-! ## §4. What the cache holds. -/

/-- Every cached context satisfies `Q` at its kernel id. -/
def Holds (c : CpuKernelCache AttrValue) (Q : UInt64 → CpuKernelContext AttrValue → Prop) : Prop :=
  Heap.Holds (fun id => c.cache.view.lookup id) c.contexts Q

/-- What is true of all contexts is true of a cached one. -/
theorem Holds.cached {c : CpuKernelCache AttrValue} {Q : UInt64 → CpuKernelContext AttrValue → Prop}
    (h : c.Holds Q) {kernelId : UInt64} {ref : Nat} {ctx : CpuKernelContext AttrValue}
    (hc : c.cached kernelId = some (ref, ctx)) : Q kernelId ctx :=
  h kernelId ref ctx (cached_eq_some.mp hc).1 (cached_eq_some.mp hc).2

/-- Everything is true of the contexts of an empty cache. -/
theorem holds_create (sessFlag : Bool) (Q : UInt64 → CpuKernelContext AttrValue → Prop) :
    (create sessFlag).Holds Q := by
  intro k ref ctx hk
  have hk' : (LiveCache.create sessFlag : LiveCache Nat).view.lookup k = some ref := hk
  rw [LiveCache.view_create] at hk'
  cases hk'

/-- The context a request puts into the cache. -/
def EntryPoint.inserted (e : EntryPoint AttrValue) (c : CpuKernelCache AttrValue) (r : Request) :
    Option (CpuKernelContext AttrValue) :=
  if r.msg.hasSessInfo ∧ e.served c r.msg = none then e.build r.msg r.nodedef else none

section Holds

variable {e : EntryPoint AttrValue} {c : CpuKernelCache AttrValue} {task : Task AttrValue}
  {Q : UInt64 → CpuKernelContext AttrValue → Prop}

/-- A search changes no context. -/
theorem holds_searched (h : c.Holds Q) (msg : ExtInfoMsg) : (e.searched c msg).Holds Q := by
  intro k ref ctx hk hctx
  have hk' : (e.searched c msg).cache.view.lookup k = some ref := hk
  rw [lookup_searched] at hk'
  rw [contexts_searched] at hctx
  exact h k ref ctx hk' hctx

/-- A new context must satisfy `Q` only where it is cached. -/
theorem holds_keep (h : c.Holds Q) {msg : ExtInfoMsg} {ctx : CpuKernelContext AttrValue}
    (hnew : msg.hasSessInfo = true → Q msg.kernelId ctx) : (c.keep msg ctx).Holds Q := by
  unfold keep
  by_cases hsess : msg.hasSessInfo = true
  · rw [if_pos hsess]
    refine Heap.Holds.insert h c.live (hnew hsess) ?_ ?_
    · exact LiveCache.lookup_setCache_self c.cache _ _
    · intro k hk
      exact LiveCache.lookup_setCache_ne c.cache hk _
  · rw [if_neg hsess]
    exact Heap.Holds.alloc h c.live ctx

/-- **The step rule**: what every inserted context has and no change of tensors can
break, all cached contexts have after the call. -/
theorem holds_cacheStep (hframe : ∀ k ctx ctx', ctx.SameFrame ctx' → Q k ctx → Q k ctx')
    (h : c.Holds Q) {request : Option Request}
    (hnew : ∀ r ctx, request = some r → e.inserted c r = some ctx → Q r.msg.kernelId ctx)
    {c' : CpuKernelCache AttrValue} (hstep : CacheStep A P e c task request c') : c'.Holds Q := by
  have hkeep : ∀ r ctx k, Q k ctx → Q k (leftBehind A P task r ctx) := fun r ctx k =>
    hframe k ctx _ (sameFrame_leftBehind task r ctx)
  cases hstep with
  | rejected => exact h
  | null r => exact holds_searched h r.msg
  | served r ref ctx hserved =>
      -- the cached context is changed in place
      have hread : (e.searched c r.msg).contexts.read ref = some ctx := by
        rw [contexts_searched]
        exact read_served hserved
      exact Heap.Holds.write (holds_searched h r.msg) hread _ (hkeep r ctx)
  | built r ctx hserved hbuild =>
      have hread : ((e.searched c r.msg).keep r.msg ctx).contexts.read c.contexts.size
          = some ctx := by
        rw [contexts_keep, contexts_searched]
        exact Heap.read_alloc_fresh _ _
      refine Heap.Holds.write (holds_keep (holds_searched h r.msg) fun hsess => ?_) hread _
        (hkeep r ctx)
      exact hnew r ctx rfl (by rw [EntryPoint.inserted, if_pos ⟨hsess, hserved⟩, hbuild])

/-- An inserted context is cached after the call, with other tensors at most. -/
theorem cached_of_inserted {r : Request} (hr : task.request A fuel = some (some r))
    {ctx : CpuKernelContext AttrValue} (hins : e.inserted c r = some ctx) :
    ∃ o ref left, e.launch A P fuel c task = some o ∧
      o.cache.cached r.msg.kernelId = some (ref, left) ∧ ctx.SameFrame left := by
  unfold EntryPoint.inserted at hins
  split_ifs at hins with hcond
  obtain ⟨hsess, hserved⟩ := hcond
  refine ⟨_, c.contexts.size, leftBehind A P task r ctx, launch_built hr hserved hins, ?_,
    sameFrame_leftBehind task r ctx⟩
  -- `SetCache` keeps what it has just set, even where it evicts
  rw [(execute_spec _ _ task r _ _).2.2, cached_eq_some]
  constructor
  · show ((e.searched c r.msg).keep r.msg ctx).cache.view.lookup r.msg.kernelId = _
    rw [keep, if_pos hsess, ← contexts_searched (e := e) (c := c) r.msg]
    exact LiveCache.lookup_setCache_self _ _ _
  · refine Heap.read_write_self ?_ _
    rw [contexts_keep, contexts_searched, Heap.size_alloc]
    exact Nat.lt_succ_self _

end Holds

end CpuKernelCache

end HwEfat.Aicpu
