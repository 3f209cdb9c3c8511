/-
  HwEfat.Aicpu.CpuKernel.Cache — `CpuKernelCache` of `cpu_kernel_cache.cc`: run
  a kernel on the context cached under its kernel id, or on a new one.

  A `shared_ptr<CpuKernelContext>` is a reference into the heap `contexts`; the
  cache maps kernel ids to such references, and a call mutates the context behind
  its reference in place.  Of `CpuCacheData` only `context` is ever read again.
  Contexts are never freed, and `new (std::nothrow)` of a context succeeds.

  `RunKernel` and `RunCpuKernelWithBlock` are one pipeline (`launch`) with two
  parameters: how a context is obtained, and how a status becomes a return code.
-/
import HwEfat.Lib.Heap
import HwEfat.Aicpu.KernelCache.Lru
import HwEfat.Aicpu.CpuKernel.UpdateTensor
import HwEfat.Aicpu.CpuKernel.Register

namespace HwEfat.Aicpu

open HwEfat.Lib (Mem Heap)

variable {AttrValue : Type}

/-- A `CpuKernelCache`: no cached reference is dangling. -/
structure CpuKernelCache (AttrValue : Type) where
  cache : LiveCache Nat
  contexts : Heap (CpuKernelContext AttrValue)
  live : ∀ id ref, cache.view.lookup id = some ref → ref < contexts.size

/-- What a call runs on: the memory, the param block in it, and the process. -/
structure Task (AttrValue : Type) where
  mem : Mem
  paramHead : AicpuParamHead
  runtime : Runtime AttrValue

/-- Which of its two methods `CpuKernelRegister` ran. -/
inductive Dispatch where
  | sync
  | async
  deriving Repr, DecidableEq

/-- What a call leaves: its return code, the context it handed to
`CpuKernelRegister` (none before `UpdateTensor` has passed), cache and memory. -/
structure Outcome (AttrValue : Type) where
  code : Int
  handed : Option (Dispatch × CpuKernelContext AttrValue)
  cache : CpuKernelCache AttrValue
  mem : Mem

namespace CpuKernelCache

/-! ## §1. The param block. -/

/-- max io address number limit is 1024 -/
def kMaxIoAddrNumParamLen : UInt32 := 1024

/-- `ParseIoAddr`: the io addresses, and address and length of the node def. -/
def parseIoAddr (A : FwkAdapter) (mem : Mem) (paramHead : AicpuParamHead) :
    Except UInt32 (List UInt64 × Nat × UInt32) :=
  let extendParamBase := paramHead.base + A.sizeofAicpuParamHead.toNat
  let extendParamLen := paramHead.length - A.sizeofAicpuParamHead
  if 0 < paramHead.ioAddrNum then
    if kMaxIoAddrNumParamLen < paramHead.ioAddrNum then .error KERNEL_STATUS_PARAM_INVALID
    else
      let addrLen := UInt32.ofNat (paramHead.ioAddrNum.toNat * 8)
      if extendParamLen < addrLen then .error KERNEL_STATUS_PARAM_INVALID
      else
        let ioAddrs := (List.range paramHead.ioAddrNum.toNat).map fun i =>
          mem.load64 (extendParamBase + 8 * i)
        nodeDef ioAddrs (extendParamBase + addrLen.toNat) (extendParamLen - addrLen)
  else nodeDef [] extendParamBase extendParamLen
where
  nodeDef (ioAddrs : List UInt64) (extendParamBase : Nat) (extendParamLen : UInt32) :
      Except UInt32 (List UInt64 × Nat × UInt32) :=
    if extendParamLen.toNat < 4 then .error KERNEL_STATUS_PARAM_INVALID
    else .ok (ioAddrs, extendParamBase + 4, mem.load32 extendParamBase)

/-- `std::string str_data(nodedef, nodedef_len)` -/
def strData (mem : Mem) (nodedef : Nat) (nodedefLen : UInt32) : List UInt8 :=
  (List.range nodedefLen.toNat).map fun i => mem (nodedef + i)

/-! ## §2. Output shapes. -/

/-- The dimensions, written one after the other. -/
def storeDims (mem : Mem) (a : Nat) (dims : List Int64) : Mem :=
  dims.zipIdx.foldl (fun mem (dim, index) => mem.store64 (a + 8 * index) dim.toUInt64) mem

/-- `UpdateFWKOutputShape`: the status, and the memory written. -/
def updateFWKOutputShape (A : FwkAdapter) (mem : Mem) (msg : ExtInfoMsg)
    (ctx : CpuKernelContext AttrValue) : UInt32 × Mem :=
  let mem :=
    if msg.unknownShape then
      ctx.outputs.zipIdx.foldl (fun mem (output, i) =>
        storeDims mem (msg.outputShapeAndType.getD i 0 + A.dimsOffset) output.dims) mem
    else mem
  tensorDescs msg.unknownShapeOutputIndexAddr.toList mem
where
  tensorDescs : List (UInt32 × UInt64) → Mem → UInt32 × Mem
    | [], mem => (KERNEL_STATUS_OK, mem)
    | (index, addr) :: rest, mem =>
        match ctx.outputs[index.toNat]? with
        | none => (KERNEL_STATUS_PARAM_INVALID, mem)
        | some output =>
            if ¬ output.dims.length ≤ A.kMaxDimSize then (KERNEL_STATUS_PARAM_INVALID, mem)
            else
              let shape := addr.toNat + A.shapeOffset
              let originalShape := addr.toNat + A.originalShapeOffset
              let dims := Int64.ofNat output.dims.length :: output.dims
              tensorDescs rest (storeDims (storeDims mem shape dims) originalShape dims)

/-! ## §3. The context of a call. -/

/-- A cache just constructed and initialised. -/
def create (sessFlag : Bool) : CpuKernelCache AttrValue where
  cache := LiveCache.create sessFlag
  contexts := Heap.empty
  live := by
    intro id ref h
    rw [LiveCache.view_create] at h
    cases h

/-- `GetCache` -/
def getCache (c : CpuKernelCache AttrValue) (kernelId : UInt64) :
    Option Nat × CpuKernelCache AttrValue :=
  ((c.cache.getCache kernelId).1,
    { cache := (c.cache.getCache kernelId).2
      contexts := c.contexts
      live := by
        intro id ref h
        rw [LiveCache.lookup_getCache] at h
        exact c.live id ref h })

/-- Change the context behind a reference. -/
def write (c : CpuKernelCache AttrValue) (ref : Nat) (ctx : CpuKernelContext AttrValue) :
    CpuKernelCache AttrValue where
  cache := c.cache
  contexts := c.contexts.write ref ctx
  live := by
    intro id r h
    rw [Heap.size_write]
    exact c.live id r h

/-- A new context, not cached. -/
def alloc (c : CpuKernelCache AttrValue) (ctx : CpuKernelContext AttrValue) :
    CpuKernelCache AttrValue where
  cache := c.cache
  contexts := c.contexts.alloc ctx
  live := by
    intro id r h
    rw [Heap.size_alloc]
    exact Nat.lt_succ_of_lt (c.live id r h)

/-- A new context, cached: `SetCache(kernel_id, cache_shared)`. -/
def allocCached (c : CpuKernelCache AttrValue) (kernelId : UInt64)
    (ctx : CpuKernelContext AttrValue) : CpuKernelCache AttrValue where
  cache := c.cache.setCache kernelId c.contexts.size
  contexts := c.contexts.alloc ctx
  live := by
    intro id r h
    rw [Heap.size_alloc]
    by_cases hid : id = kernelId
    · rw [hid, LiveCache.lookup_setCache_self, Option.some.injEq] at h
      omega
    · rcases LiveCache.lookup_setCache_ne c.cache hid c.contexts.size with hsame | hgone
      · rw [hsame] at h
        exact Nat.lt_succ_of_lt (c.live id r h)
      · rw [hgone] at h
        cases h

/-- The context `GetCpuKernelContext` builds when it finds none. -/
def buildContext (P : Platform AttrValue) (msg : ExtInfoMsg) (nodedef : List UInt8) :
    Option (CpuKernelContext AttrValue) :=
  (P.parseFromString nodedef).bind fun nodedefProto =>
    let nodedefProto := P.addAttrs nodedefProto "wait_type" (P.setInt msg.waitType.toNat)
    let nodedefProto := P.addAttrs nodedefProto "wait_id" (P.setInt msg.waitId.toNat)
    let deviceType := if msg.devicetypeHostFlag then .host else .device
    (CpuKernelContext.init deviceType nodedefProto).toOption

/-- The context `GetCpuKernelContextWithBlock` builds. -/
def buildContextWithBlock (P : Platform AttrValue) (blkdimInfo : BlkDimInfo)
    (nodedef : List UInt8) : Option (CpuKernelContext AttrValue) :=
  (P.parseFromString nodedef).bind fun nodedefProto =>
    let nodedefProto :=
      if blkdimInfo.blockNum ≠ 1 then
        P.addAttrs (P.addAttrs nodedefProto "block_num" (P.setInt blkdimInfo.blockNum.toNat))
          "block_id" (P.setInt blkdimInfo.blockId.toNat)
      else nodedefProto
    (CpuKernelContext.init .device nodedefProto).toOption

/-- Look the kernel id up, if `lookup` says so; else, or if it is not cached,
take the context `build` and cache it when there is a session.  `none` is
`nullptr`. -/
def obtainContext (lookup : Bool) (build : Option (CpuKernelContext AttrValue))
    (c : CpuKernelCache AttrValue) (msg : ExtInfoMsg) : Option Nat × CpuKernelCache AttrValue :=
  let (found, c) := if lookup then c.getCache msg.kernelId else (none, c)
  match found with
  | some ref => (some ref, c)
  | none =>
      match build with
      | none => (none, c)
      | some ctx =>
          (some c.contexts.size,
            if msg.hasSessInfo then c.allocCached msg.kernelId ctx else c.alloc ctx)

/-- `GetCpuKernelContext`: the context of the cache, or a new one. -/
def getCpuKernelContext (P : Platform AttrValue) (c : CpuKernelCache AttrValue) (msg : ExtInfoMsg)
    (nodedef : List UInt8) : Option Nat × CpuKernelCache AttrValue :=
  obtainContext msg.hasSessInfo (buildContext P msg nodedef) c msg

/-- `GetCpuKernelContextWithBlock`: the same with the attributes about blocks. -/
def getCpuKernelContextWithBlock (P : Platform AttrValue) (blkdimInfo : BlkDimInfo)
    (c : CpuKernelCache AttrValue) (msg : ExtInfoMsg) (nodedef : List UInt8) :
    Option Nat × CpuKernelCache AttrValue :=
  obtainContext (msg.hasSessInfo && blkdimInfo.blockNum == 1)
    (buildContextWithBlock P blkdimInfo nodedef) c msg

/-! ## §4. The two entry points. -/

/-- From the context on: `UpdateTensor`, the kernel, `UpdateFWKOutputShape`. -/
def execute (A : FwkAdapter) (P : Platform AttrValue) (toCode : UInt32 → Int)
    (c : CpuKernelCache AttrValue) (task : Task AttrValue) (ioAddrs : List UInt64)
    (msg : ExtInfoMsg) (ref : Nat) (ctx : CpuKernelContext AttrValue) : Outcome AttrValue :=
  let (ret, msg, ctx) := updateTensor A P task.mem ioAddrs msg ctx
  if ret ≠ KERNEL_STATUS_OK then ⟨-1, none, c.write ref ctx, task.mem⟩
  else if msg.asyncFlag then
    let (ret, ctx') :=
      CpuKernelRegister.runCpuKernelAsync task.runtime ctx msg.waitType msg.waitId
    ⟨toCode ret, some (.async, ctx), c.write ref ctx', task.mem⟩
  else
    let (ret, ctx') := CpuKernelRegister.runCpuKernel task.runtime ctx
    if ret ≠ KERNEL_STATUS_OK then ⟨-1, some (.sync, ctx), c.write ref ctx', task.mem⟩
    else
      let (ret, mem) := updateFWKOutputShape A task.mem msg ctx'
      ⟨toCode ret, some (.sync, ctx), c.write ref ctx', mem⟩

/-- The pipeline of both entry points; `none` while `ParseExtMsg` still runs
after `fuel` passes. -/
def launch (A : FwkAdapter) (P : Platform AttrValue) (fuel : Nat)
    (getContext : CpuKernelCache AttrValue → ExtInfoMsg → List UInt8 →
      Option Nat × CpuKernelCache AttrValue)
    (toCode : UInt32 → Int) (c : CpuKernelCache AttrValue) (task : Task AttrValue) :
    Option (Outcome AttrValue) :=
  match parseIoAddr A task.mem task.paramHead with
  | .error _ => some ⟨-1, none, c, task.mem⟩
  | .ok (ioAddrs, nodedef, nodedefLen) =>
      match (parseExtMsg A task.mem task.paramHead ExtInfoMsg.new fuel).val with
      | none => none
      | some (ret, msg) =>
          if ret ≠ KERNEL_STATUS_OK then some ⟨-1, none, c, task.mem⟩
          else
            match getContext c msg (strData task.mem nodedef nodedefLen) with
            | (none, c) => some ⟨KERNEL_STATUS_INNER_ERROR.toNat, none, c, task.mem⟩
            | (some ref, c) =>
                (c.contexts.read ref).map fun ctx => execute A P toCode c task ioAddrs msg ref ctx

/-- `RunKernel`. -/
def runKernel (A : FwkAdapter) (P : Platform AttrValue) (fuel : Nat)
    (c : CpuKernelCache AttrValue) (task : Task AttrValue) : Option (Outcome AttrValue) :=
  launch A P fuel (getCpuKernelContext P)
    (fun ret =>
      if ret = KERNEL_STATUS_END_OF_SEQUENCE then ret.toNat
      else if ret ≠ KERNEL_STATUS_OK then -1
      else 0)
    c task

/-- `RunCpuKernelWithBlock`. -/
def runCpuKernelWithBlock (A : FwkAdapter) (P : Platform AttrValue) (fuel : Nat)
    (blkdimInfo : BlkDimInfo) (c : CpuKernelCache AttrValue) (task : Task AttrValue) :
    Option (Outcome AttrValue) :=
  launch A P fuel (getCpuKernelContextWithBlock P blkdimInfo)
    (fun ret => if ret ≠ KERNEL_STATUS_OK then -1 else 0) c task

end CpuKernelCache

end HwEfat.Aicpu
