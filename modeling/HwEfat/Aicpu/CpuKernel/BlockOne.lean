/-
  HwEfat.Aicpu.CpuKernel.BlockOne — `RunCpuKernelWithBlock` with `blockNum == 1`
  beside `RunKernel`.

  The two entry points look up and cache alike then, but build different contexts
  (only `RunKernel` adds the wait attributes and looks at the host flag) and return
  different codes for an asynchronous end of sequence.  `block_one_iff` says, for
  every cache and every task, exactly when none of this shows.
-/
import HwEfat.Aicpu.CpuKernel.Transparency

namespace HwEfat.Aicpu

open HwEfat.Lib (Heap)

namespace CpuKernelCache

variable {AttrValue : Type} {A : FwkAdapter} {P : Platform AttrValue} {fuel : Nat}

/-! ## §1. Equal effects. -/

/-- The cached contexts under their kernel ids, in list order. -/
def contents (c : CpuKernelCache AttrValue) :
    List (UInt64 × Option (CpuKernelContext AttrValue)) :=
  c.cache.raw.getAllKernelCache.map fun (id, ref) => (id, c.contexts.read ref)

/-- The same return code, the same context handed on the same path, equal caches. -/
structure SameEffect (o o' : Outcome AttrValue) : Prop where
  code : o.code = o'.code
  handed : o.handed = o'.handed
  contents : o.cache.contents = o'.cache.contents
  sessFlag : o.cache.cache.raw.sessFlag = o'.cache.cache.raw.sessFlag
  capacity : o.cache.cache.raw.capacity = o'.cache.cache.raw.capacity

/-- Two calls that put a new context at the same place leave equal caches exactly
when the context is not cached or the same is left behind of it. -/
theorem contents_keep_iff {c : CpuKernelCache AttrValue} {msg : ExtInfoMsg}
    {ctx ctx' left left' : CpuKernelContext AttrValue} :
    ((c.keep msg ctx).write c.contexts.size left).contents =
        ((c.keep msg ctx').write c.contexts.size left').contents ↔
      (msg.hasSessInfo = true → left = left') := by
  have hcache : (c.keep msg ctx).cache = (c.keep msg ctx').cache := by
    unfold keep
    split_ifs <;> rfl
  have hread : ∀ (b l : CpuKernelContext AttrValue) (ref : Nat),
      (((c.keep msg b).write c.contexts.size l).contexts).read ref =
        if ref = c.contexts.size then some l else (c.contexts.alloc b).read ref := by
    intro b l ref
    show ((c.keep msg b).contexts.write c.contexts.size l).read ref = _
    rw [contexts_keep]
    by_cases href : ref = c.contexts.size
    · rw [if_pos href, href]
      refine Heap.read_write_self ?_ l
      rw [Heap.size_alloc]
      exact Nat.lt_succ_self _
    · rw [if_neg href, Heap.read_write_ne _ href]
  have hmap : ((c.keep msg ctx).write c.contexts.size left).contents =
        ((c.keep msg ctx').write c.contexts.size left').contents ↔
      ∀ p ∈ (c.keep msg ctx).cache.raw.getAllKernelCache,
        ((c.keep msg ctx).write c.contexts.size left).contexts.read p.2 =
          ((c.keep msg ctx').write c.contexts.size left').contexts.read p.2 := by
    show (c.keep msg ctx).cache.raw.getAllKernelCache.map _ =
      (c.keep msg ctx').cache.raw.getAllKernelCache.map _ ↔ _
    rw [← hcache, List.map_inj_left]
    refine forall_congr' fun p => imp_congr_right fun _ => ?_
    rw [Prod.mk.injEq]
    exact and_iff_right rfl
  rw [hmap]
  constructor
  · intro h hsess
    -- the new entry is in the list
    have hmem : (msg.kernelId, c.contexts.size) ∈ (c.keep msg ctx).cache.raw.getAllKernelCache := by
      rw [LiveCache.mem_getAllKernelCache, keep, if_pos hsess]
      exact LiveCache.lookup_setCache_self _ _ _
    have hnew := h _ hmem
    rw [hread, hread, if_pos rfl, if_pos rfl] at hnew
    exact Option.some.inj hnew
  · intro h p hp
    rw [hread, hread]
    by_cases hnew : p.2 = c.contexts.size
    · rw [if_pos hnew, if_pos hnew]
      -- an entry refers to the new context only if that is cached
      by_cases hsess : msg.hasSessInfo = true
      · rw [h hsess]
      · rw [LiveCache.mem_getAllKernelCache, keep, if_neg hsess] at hp
        have hlive := c.live p.1 p.2 hp
        omega
    · rw [if_neg hnew, if_neg hnew]
      have hlt : p.2 < c.contexts.size := by
        have hlive := (c.keep msg ctx).live p.1 p.2 (LiveCache.mem_getAllKernelCache _ |>.mp hp)
        rw [contexts_keep, Heap.size_alloc] at hlive
        omega
      rw [Heap.read_alloc_old _ _ hlt, Heap.read_alloc_old _ _ hlt]

/-! ## §2. Two builds of one nodedef. -/

/-- Both entry points build from the parsed nodedef, with other attributes. -/
theorem buildContextWithBlock_one (blockId : UInt32) (nodedef : List UInt8) :
    buildContextWithBlock P ⟨1, blockId⟩ nodedef = (P.parseFromString nodedef).bind fun nd =>
      (CpuKernelContext.init .device nd).toOption := rfl

/-- The attributes a context of this node def gets; `none` if it gets none. -/
def attrsOf (nd : NodeDef AttrValue) : Option (String → Option AttrValue) :=
  (CpuKernelContext.insertAttrs nd.attrs fun _ => none).toOption

/-- No tensor of the node def is a null pointer. -/
def tensorsPresent (nd : NodeDef AttrValue) : Prop :=
  (∀ t ∈ nd.inputs, t ≠ none) ∧ ∀ t ∈ nd.outputs, t ≠ none

/-- The wait attributes and the host flag of the request change nothing of the
context: they are not set on a nodedef that has no such attributes. -/
def WaitNeutral (P : Platform AttrValue) (r : Request) : Prop :=
  ∀ nd, P.parseFromString r.nodedef = some nd → tensorsPresent nd →
    attrsOf (withWait P r.msg nd) = attrsOf nd ∧
      (attrsOf nd ≠ none → r.msg.devicetypeHostFlag = false)

/-- All tensors can be collected if none is missing. -/
theorem collect_eq_some : ∀ (l : List (Option Tensor)),
    (∃ ts, CpuKernelContext.collect l = .ok ts) ↔ ∀ t ∈ l, t ≠ none
  | [] => ⟨fun _ _ h => (by cases h), fun _ => ⟨[], rfl⟩⟩
  | none :: ts => by
      refine ⟨fun ⟨_, h⟩ => (by cases h), fun h => ?_⟩
      exact absurd rfl (h none List.mem_cons_self)
  | some t :: ts => by
      have ih := collect_eq_some ts
      rw [List.forall_mem_cons]
      show (∃ l, (CpuKernelContext.collect ts).map (t :: ·) = .ok l) ↔ _
      cases hc : CpuKernelContext.collect ts with
      | error e =>
          rw [hc] at ih
          refine ⟨fun ⟨_, h⟩ => (by cases h), fun h => ?_⟩
          obtain ⟨l, hl⟩ := ih.mpr h.2
          cases hl
      | ok l =>
          rw [hc] at ih
          exact ⟨fun _ => ⟨Option.some_ne_none t, ih.mp ⟨l, rfl⟩⟩, fun _ => ⟨t :: l, rfl⟩⟩

/-- `Init`, one failure after the other. -/
theorem init_toOption (deviceType : DeviceType) (nd : NodeDef AttrValue) :
    (CpuKernelContext.init deviceType nd).toOption =
      (CpuKernelContext.collect nd.inputs).toOption.bind fun inputs =>
        (CpuKernelContext.collect nd.outputs).toOption.bind fun outputs =>
          (attrsOf nd).map fun attrs => ⟨nd.opType, deviceType, inputs, outputs, attrs⟩ := by
  unfold CpuKernelContext.init attrsOf
  cases CpuKernelContext.collect nd.inputs with
  | error e => rfl
  | ok inputs =>
      cases CpuKernelContext.collect nd.outputs with
      | error e => rfl
      | ok outputs =>
          cases CpuKernelContext.insertAttrs nd.attrs fun _ => none with
          | error e => rfl
          | ok attrs => rfl

/-- **When the two builds are equal**, in terms of the nodedef. -/
theorem waitNeutral_iff (r : Request) (blockId : UInt32) :
    WaitNeutral P r ↔
      buildContext P r.msg r.nodedef = buildContextWithBlock P ⟨1, blockId⟩ r.nodedef := by
  rw [buildContext_eq, buildContextWithBlock_one]
  unfold WaitNeutral
  cases hparse : P.parseFromString r.nodedef with
  | none => exact ⟨fun _ => rfl, fun _ nd h => (by cases h)⟩
  | some nd =>
      have hop : (withWait P r.msg nd).opType = nd.opType := by
        simp only [withWait, P.addAttrs_opType]
      have hin : (withWait P r.msg nd).inputs = nd.inputs := by
        simp only [withWait, P.addAttrs_inputs]
      have hout : (withWait P r.msg nd).outputs = nd.outputs := by
        simp only [withWait, P.addAttrs_outputs]
      simp only [Option.bind_some, init_toOption, hop, hin, hout]
      have hpresent : tensorsPresent nd ↔
          (∃ ts, CpuKernelContext.collect nd.inputs = .ok ts) ∧
            ∃ ts, CpuKernelContext.collect nd.outputs = .ok ts := by
        unfold tensorsPresent
        rw [collect_eq_some, collect_eq_some]
      cases hinputs : CpuKernelContext.collect nd.inputs with
      | error e =>
          refine ⟨fun _ => rfl, fun _ nd' h hp => ?_⟩
          cases h
          obtain ⟨⟨ts, hts⟩, -⟩ := hpresent.mp hp
          rw [hinputs] at hts
          cases hts
      | ok inputs =>
          cases houtputs : CpuKernelContext.collect nd.outputs with
          | error e =>
              refine ⟨fun _ => rfl, fun _ nd' h hp => ?_⟩
              cases h
              obtain ⟨-, ts, hts⟩ := hpresent.mp hp
              rw [houtputs] at hts
              cases hts
          | ok outputs =>
              have hp : tensorsPresent nd := hpresent.mpr ⟨⟨_, hinputs⟩, _, houtputs⟩
              -- from here on only the attributes and the device type are left
              show _ ↔ (attrsOf (withWait P r.msg nd)).map _ = (attrsOf nd).map _
              constructor
              · intro h
                obtain ⟨hattrs, hhost⟩ := h nd rfl hp
                rw [hattrs]
                cases hnd : attrsOf nd with
                | none => rfl
                | some attrs =>
                    have hflag := hhost (by rw [hnd]; exact Option.some_ne_none attrs)
                    rw [Option.map_some, Option.map_some, deviceTypeOf, hflag]
                    rfl
              · intro h nd' heq _
                cases heq
                cases hnd : attrsOf nd with
                | none =>
                    rw [hnd, Option.map_none, Option.map_eq_none_iff] at h
                    exact ⟨h, fun hne => absurd rfl hne⟩
                | some attrs =>
                    rw [hnd, Option.map_some, Option.map_eq_some_iff] at h
                    obtain ⟨attrs', hattrs', hctx⟩ := h
                    rw [CpuKernelContext.mk.injEq] at hctx
                    obtain ⟨-, hdevice, -, -, hattrs⟩ := hctx
                    refine ⟨by rw [hattrs', hattrs], fun _ => ?_⟩
                    cases hflag : r.msg.devicetypeHostFlag with
                    | false => rfl
                    | true =>
                        rw [deviceTypeOf, hflag] at hdevice
                        cases hdevice

/-! ## §3. Return codes. -/

/-- `UpdateFWKOutputShape` never reports an end of sequence. -/
theorem updateFWKOutputShape_ne (mem : Lib.Mem) (msg : ExtInfoMsg)
    (ctx : CpuKernelContext AttrValue) :
    (updateFWKOutputShape A mem msg ctx).1 ≠ KERNEL_STATUS_END_OF_SEQUENCE := by
  have hloop : ∀ (l : List (UInt32 × UInt64)) (mem : Lib.Mem),
      (updateFWKOutputShape.tensorDescs A ctx l mem).1 ≠ KERNEL_STATUS_END_OF_SEQUENCE := by
    intro l
    induction l with
    | nil =>
        intro mem
        show KERNEL_STATUS_OK ≠ _
        decide
    | cons p rest ih =>
        intro mem
        have hinvalid : KERNEL_STATUS_PARAM_INVALID ≠ KERNEL_STATUS_END_OF_SEQUENCE := by decide
        unfold updateFWKOutputShape.tensorDescs
        cases ctx.outputs[p.1.toNat]? with
        | none => exact hinvalid
        | some output =>
            simp only
            split_ifs
            · exact ih _
            · exact hinvalid
  exact hloop _ _

/-- The kernel ends an asynchronous call with an end of sequence. -/
def EndsSequence (A : FwkAdapter) (P : Platform AttrValue) (task : Task AttrValue) (r : Request)
    (ctx : CpuKernelContext AttrValue) : Prop :=
  r.msg.asyncFlag = true ∧ Accepts A P task r ctx ∧
    (CpuKernelRegister.runCpuKernelAsync task.runtime (updated A P task r ctx) r.msg.waitType
      r.msg.waitId).1 = KERNEL_STATUS_END_OF_SEQUENCE

/-- The one status the two entry points map to different codes. -/
theorem toCode_eq_iff (blkdimInfo : BlkDimInfo) (ret : UInt32) :
    (blocked P blkdimInfo).toCode ret = (plain P).toCode ret ↔
      ret ≠ KERNEL_STATUS_END_OF_SEQUENCE := by
  show (if ret ≠ KERNEL_STATUS_OK then (-1 : Int) else 0) =
    (if ret = KERNEL_STATUS_END_OF_SEQUENCE then (ret.toNat : Int)
      else if ret ≠ KERNEL_STATUS_OK then -1 else 0) ↔ _
  by_cases hret : ret = KERNEL_STATUS_END_OF_SEQUENCE
  · rw [if_pos hret, hret]
    decide
  · rw [if_neg hret]
    exact iff_of_true rfl hret

/-- **The codes of both entry points** are the same unless the kernel ends a sequence. -/
theorem returnCode_eq_iff (blkdimInfo : BlkDimInfo) (task : Task AttrValue) (r : Request)
    (ctx : CpuKernelContext AttrValue) :
    returnCode A P (blocked P blkdimInfo).toCode task r ctx =
        returnCode A P (plain P).toCode task r ctx ↔ ¬ EndsSequence A P task r ctx := by
  unfold returnCode EndsSequence
  by_cases haccepts : Accepts A P task r ctx
  · rw [if_pos haccepts, if_pos haccepts]
    cases hasync : r.msg.asyncFlag with
    | true =>
        simp only [if_true, true_and, haccepts]
        exact toCode_eq_iff _ _
    | false =>
        simp only [Bool.false_eq_true, if_false, false_and, not_false_eq_true, iff_true]
        split_ifs
        · rfl
        · exact (toCode_eq_iff _ _).mpr (updateFWKOutputShape_ne _ _ _)
  · rw [if_neg haccepts, if_neg haccepts]
    exact iff_of_true rfl (fun h => haccepts h.2.1)

/-- A call that has a context never returns the code of one that has none. -/
theorem returnCode_ne {toCode : UInt32 → Int}
    (hcode : ∀ ret, toCode ret ≠ KERNEL_STATUS_INNER_ERROR.toNat) (task : Task AttrValue)
    (r : Request) (ctx : CpuKernelContext AttrValue) :
    returnCode A P toCode task r ctx ≠ KERNEL_STATUS_INNER_ERROR.toNat := by
  have hfailed : (-1 : Int) ≠ KERNEL_STATUS_INNER_ERROR.toNat := by decide
  unfold returnCode
  simp only
  split_ifs
  · exact hcode _
  · exact hfailed
  · exact hcode _
  · exact hfailed

/-- The plain entry point never returns the code of an inner error. -/
theorem plain_toCode_ne (ret : UInt32) :
    (plain P).toCode ret ≠ KERNEL_STATUS_INNER_ERROR.toNat := by
  show (if ret = KERNEL_STATUS_END_OF_SEQUENCE then (ret.toNat : Int)
      else if ret ≠ KERNEL_STATUS_OK then -1 else 0) ≠ _
  by_cases hret : ret = KERNEL_STATUS_END_OF_SEQUENCE
  · rw [if_pos hret, hret]
    decide
  · rw [if_neg hret]
    split_ifs <;> decide

/-- Neither does the one with blocks. -/
theorem blocked_toCode_ne (blkdimInfo : BlkDimInfo) (ret : UInt32) :
    (blocked P blkdimInfo).toCode ret ≠ KERNEL_STATUS_INNER_ERROR.toNat := by
  show (if ret ≠ KERNEL_STATUS_OK then (-1 : Int) else 0) ≠ _
  split_ifs <;> decide

/-! ## §4. A launch of one block beside a plain one. -/

/-- With one block the same context is looked up. -/
theorem lookup_blocked_one (blockId : UInt32) :
    (blocked P ⟨1, blockId⟩).lookup = (plain P).lookup := by
  funext msg
  show (msg.hasSessInfo && (1 : UInt32) == 1) = msg.hasSessInfo
  exact Bool.and_true _

/-- So the same one is served, -/
theorem served_blocked_one (blockId : UInt32) (c : CpuKernelCache AttrValue) (msg : ExtInfoMsg) :
    (blocked P ⟨1, blockId⟩).served c msg = (plain P).served c msg := by
  unfold EntryPoint.served
  rw [lookup_blocked_one]

/-- and the cache is searched in the same way. -/
theorem searched_blocked_one (blockId : UInt32) (c : CpuKernelCache AttrValue)
    (msg : ExtInfoMsg) :
    (blocked P ⟨1, blockId⟩).searched c msg = (plain P).searched c msg := by
  unfold EntryPoint.searched
  rw [lookup_blocked_one]

/-- The condition under which `RunCpuKernelWithBlock` with `blockNum == 1` does what
`RunKernel` does for a request.  Either the request is served from the cache; or
the wait attributes and the host flag make no difference to the context; in both
cases the kernel must not end an asynchronous call with an end of sequence.  Or the
contexts differ, but are neither cached nor handed to a kernel. -/
def BlockOneAgrees (A : FwkAdapter) (P : Platform AttrValue) (c : CpuKernelCache AttrValue)
    (task : Task AttrValue) (r : Request) : Prop :=
  (∃ ref ctx, (plain P).served c r.msg = some (ref, ctx) ∧ ¬ EndsSequence A P task r ctx) ∨
  ((plain P).served c r.msg = none ∧ WaitNeutral P r ∧
    ∀ ctx, buildContext P r.msg r.nodedef = some ctx → ¬ EndsSequence A P task r ctx) ∨
  (r.msg.hasSessInfo = false ∧ ∃ ctx ctx', buildContext P r.msg r.nodedef = some ctx ∧
    buildContextWithBlock P ⟨1, 0⟩ r.nodedef = some ctx' ∧ ¬ Accepts A P task r ctx)

/-- Two calls served the same context differ in their codes at most. -/
theorem sameEffect_served_iff (toCode toCode' : UInt32 → Int) (c : CpuKernelCache AttrValue)
    (task : Task AttrValue) (r : Request) (ref : Nat) (ctx : CpuKernelContext AttrValue) :
    SameEffect (execute A P toCode c task r.ioAddrs r.msg ref ctx)
        (execute A P toCode' c task r.ioAddrs r.msg ref ctx) ↔
      returnCode A P toCode task r ctx = returnCode A P toCode' task r ctx := by
  obtain ⟨hcode, hhanded, hcache⟩ := execute_spec (A := A) (P := P) toCode c task r ref ctx
  obtain ⟨hcode', hhanded', hcache'⟩ := execute_spec (A := A) (P := P) toCode' c task r ref ctx
  rw [← hcode, ← hcode']
  constructor
  · intro h
    exact h.code
  · intro h
    refine ⟨h, by rw [hhanded, hhanded'], ?_, ?_, ?_⟩
    all_goals rw [hcache, hcache']

/-- Two calls that build their contexts. -/
theorem sameEffect_built_iff (toCode toCode' : UInt32 → Int) (c : CpuKernelCache AttrValue)
    (task : Task AttrValue) (r : Request) (ctx ctx' : CpuKernelContext AttrValue) :
    SameEffect
        (execute A P toCode (c.keep r.msg ctx) task r.ioAddrs r.msg c.contexts.size ctx)
        (execute A P toCode' (c.keep r.msg ctx') task r.ioAddrs r.msg c.contexts.size ctx') ↔
      returnCode A P toCode task r ctx = returnCode A P toCode' task r ctx' ∧
        handOn A P task r ctx = handOn A P task r ctx' ∧
        (r.msg.hasSessInfo = true → leftBehind A P task r ctx = leftBehind A P task r ctx') := by
  obtain ⟨hcode, hhanded, hcache⟩ :=
    execute_spec (A := A) (P := P) toCode (c.keep r.msg ctx) task r c.contexts.size ctx
  obtain ⟨hcode', hhanded', hcache'⟩ :=
    execute_spec (A := A) (P := P) toCode' (c.keep r.msg ctx') task r c.contexts.size ctx'
  rw [← hcode, ← hcode', ← hhanded, ← hhanded', ← contents_keep_iff]
  constructor
  · intro h
    refine ⟨h.code, h.handed, ?_⟩
    have hcontents := h.contents
    rwa [hcache, hcache'] at hcontents
  · intro ⟨h, hh, hcontents⟩
    -- The cache keeps the same entry for both, whatever is in the context.
    have hsame : ((c.keep r.msg ctx).write c.contexts.size (leftBehind A P task r ctx)).cache =
        ((c.keep r.msg ctx').write c.contexts.size (leftBehind A P task r ctx')).cache := by
      show (c.keep r.msg ctx).cache = (c.keep r.msg ctx').cache
      unfold keep
      split_ifs <;> rfl
    refine ⟨h, hh, ?_, ?_, ?_⟩
    all_goals rw [hcache, hcache']
    · exact hcontents
    · rw [hsame]
    · rw [hsame]

/-- Contexts of one op and with one list of tensors are equal if one call can leave
behind the same of both, or hand on the same from both. -/
theorem eq_of_sameFrame {ctx ctx' left : CpuKernelContext AttrValue}
    (hsame : ctx.op = ctx'.op ∧ ctx.inputs = ctx'.inputs ∧ ctx.outputs = ctx'.outputs)
    (h : ctx.SameFrame left) (h' : ctx'.SameFrame left) : ctx = ctx' := by
  rw [CpuKernelContext.mk.injEq]
  exact ⟨hsame.1, h.deviceType.trans h'.deviceType.symm, hsame.2.1, hsame.2.2,
    h.attrs.trans h'.attrs.symm⟩

/-- Whether tensors are accepted does not depend on attributes or device type. -/
theorem accepts_congr (task : Task AttrValue) (r : Request) {ctx ctx' : CpuKernelContext AttrValue}
    (hsame : ctx.op = ctx'.op ∧ ctx.inputs = ctx'.inputs ∧ ctx.outputs = ctx'.outputs) :
    Accepts A P task r ctx ↔ Accepts A P task r ctx' := by
  obtain ⟨-, -, hok, -⟩ := @updateTensor_spec _ A P task.mem r.ioAddrs r.msg ctx
  obtain ⟨-, -, hok', -⟩ := @updateTensor_spec _ A P task.mem r.ioAddrs r.msg ctx'
  unfold Accepts sizesAgree at *
  rw [hok, hok', hsame.2.1, hsame.2.2]

/-- With equal contexts the codes decide; with different ones two calls have the
same effect only if nobody sees the contexts. -/
theorem sameEffect_blocks_iff (blkdimInfo : BlkDimInfo) (c : CpuKernelCache AttrValue)
    (task : Task AttrValue) (r : Request) {ctx ctx' : CpuKernelContext AttrValue}
    (hsame : ctx.op = ctx'.op ∧ ctx.inputs = ctx'.inputs ∧ ctx.outputs = ctx'.outputs) :
    SameEffect
        (execute A P (blocked P blkdimInfo).toCode (c.keep r.msg ctx) task r.ioAddrs r.msg
          c.contexts.size ctx)
        (execute A P (plain P).toCode (c.keep r.msg ctx') task r.ioAddrs r.msg
          c.contexts.size ctx') ↔
      (ctx = ctx' ∧ ¬ EndsSequence A P task r ctx') ∨
        (r.msg.hasSessInfo = false ∧ ¬ Accepts A P task r ctx') := by
  -- Equal contexts: the return codes decide. Different ones: nobody may get to see them.
  rw [sameEffect_built_iff]
  by_cases heq : ctx = ctx'
  · subst heq
    rw [returnCode_eq_iff]
    refine ⟨fun h => Or.inl ⟨rfl, h.1⟩, fun h => ⟨?_, rfl, fun _ => rfl⟩⟩
    rcases h with ⟨-, h⟩ | ⟨-, h⟩
    · exact h
    · exact fun hends => h hends.2.1
  · constructor
    · intro ⟨_, hhanded, hleft⟩
      refine Or.inr ⟨?_, fun haccepts => ?_⟩
      · -- cached contexts would tell: what is left behind keeps the frame
        cases hsess : r.msg.hasSessInfo with
        | false => rfl
        | true =>
            refine absurd (eq_of_sameFrame hsame (sameFrame_leftBehind (A := A) (P := P) task r ctx)
              ?_) heq
            rw [hleft hsess]
            exact sameFrame_leftBehind task r ctx'
      · -- and so would contexts handed to a kernel
        have hhand := handOn_eq_some.mpr ⟨haccepts, rfl, rfl⟩
        rw [hhand] at hhanded
        obtain ⟨-, -, hupdated⟩ := handOn_eq_some.mp hhanded
        have hframe : ctx.SameFrame (updated A P task r ctx) :=
          (updateTensor_spec (A := A) (P := P) r.ioAddrs r.msg ctx).2.1
        rw [hupdated] at hframe
        exact heq (eq_of_sameFrame hsame hframe
          (updateTensor_spec (A := A) (P := P) r.ioAddrs r.msg ctx').2.1)
    · intro h
      rcases h with ⟨h, -⟩ | ⟨hsess, haccepts'⟩
      · exact absurd h heq
      · have haccepts : ¬ Accepts A P task r ctx := by rwa [accepts_congr task r hsame]
        refine ⟨?_, ?_, fun h => ?_⟩
        · unfold returnCode
          rw [if_neg haccepts, if_neg haccepts']
        · unfold handOn
          rw [if_neg haccepts, if_neg haccepts']
        · rw [hsess] at h
          cases h

/-- Two calls of which only one gets a context return different codes. -/
theorem not_sameEffect_null {toCode : UInt32 → Int}
    (hcode : ∀ ret, toCode ret ≠ KERNEL_STATUS_INNER_ERROR.toNat) (c c' : CpuKernelCache AttrValue)
    (task : Task AttrValue) (r : Request) (ref : Nat) (ctx : CpuKernelContext AttrValue) :
    ¬ SameEffect (execute A P toCode c task r.ioAddrs r.msg ref ctx)
      ⟨KERNEL_STATUS_INNER_ERROR.toNat, none, c', task.mem⟩ := by
  intro h
  have hsame := h.code
  rw [(execute_spec toCode c task r ref ctx).1] at hsame
  exact returnCode_ne hcode task r ctx hsame

theorem SameEffect.symm {o o' : Outcome AttrValue} (h : SameEffect o o') : SameEffect o' o :=
  ⟨h.code.symm, h.handed.symm, h.contents.symm, h.sessFlag.symm, h.capacity.symm⟩

section OneRequest

variable {c : CpuKernelCache AttrValue} {task : Task AttrValue} {r : Request} (blockId : UInt32)

/-- Where the request is served. -/
theorem block_one_served_iff (hr : task.request A fuel = some (some r)) {ref : Nat}
    {ctx : CpuKernelContext AttrValue} (hserved : (plain P).served c r.msg = some (ref, ctx)) :
    Option.Rel SameEffect ((blocked P ⟨1, blockId⟩).launch A P fuel c task)
        ((plain P).launch A P fuel c task) ↔ ¬ EndsSequence A P task r ctx := by
  have hserved' : (blocked P ⟨1, blockId⟩).served c r.msg = some (ref, ctx) := by
    rw [served_blocked_one, hserved]
  rw [launch_served hr hserved, launch_served hr hserved', searched_blocked_one,
    Option.rel_some_some, sameEffect_served_iff, returnCode_eq_iff]

/-- Where both calls build a context. -/
theorem block_one_built_iff (hr : task.request A fuel = some (some r))
    (hserved : (plain P).served c r.msg = none) {ctx ctx' : CpuKernelContext AttrValue}
    (hblock : buildContextWithBlock P ⟨1, blockId⟩ r.nodedef = some ctx)
    (hplain : buildContext P r.msg r.nodedef = some ctx') :
    Option.Rel SameEffect ((blocked P ⟨1, blockId⟩).launch A P fuel c task)
        ((plain P).launch A P fuel c task) ↔
      (ctx = ctx' ∧ ¬ EndsSequence A P task r ctx') ∨
        (r.msg.hasSessInfo = false ∧ ¬ Accepts A P task r ctx') := by
  have hserved' : (blocked P ⟨1, blockId⟩).served c r.msg = none := by
    rw [served_blocked_one, hserved]
  have hsame := (fromNodeDef_withBlock hblock).agree (fromNodeDef_buildContext hplain)
  -- both put their context at the same place of the same cache
  rw [launch_built hr hserved hplain, launch_built hr hserved' hblock, Option.rel_some_some,
    searched_blocked_one, ← contexts_searched (e := plain P) (c := c) r.msg]
  exact sameEffect_blocks_iff _ _ task r hsame

/-- Where nothing is served. -/
theorem block_one_missed_iff (hr : task.request A fuel = some (some r))
    (hserved : (plain P).served c r.msg = none) :
    Option.Rel SameEffect ((blocked P ⟨1, blockId⟩).launch A P fuel c task)
        ((plain P).launch A P fuel c task) ↔
      (buildContext P r.msg r.nodedef = buildContextWithBlock P ⟨1, blockId⟩ r.nodedef ∧
        ∀ ctx, buildContext P r.msg r.nodedef = some ctx → ¬ EndsSequence A P task r ctx) ∨
      (r.msg.hasSessInfo = false ∧ ∃ ctx ctx', buildContext P r.msg r.nodedef = some ctx ∧
        buildContextWithBlock P ⟨1, blockId⟩ r.nodedef = some ctx' ∧
        ¬ Accepts A P task r ctx) := by
  have hserved' : (blocked P ⟨1, blockId⟩).served c r.msg = none := by
    rw [served_blocked_one, hserved]
  -- Whether either of the two contexts can be built.
  cases hplain : buildContext P r.msg r.nodedef with
  | none =>
      cases hblock : buildContextWithBlock P ⟨1, blockId⟩ r.nodedef with
      | none =>
          rw [launch_null hr hserved hplain, launch_null hr hserved' hblock, searched_blocked_one,
            Option.rel_some_some]
          refine iff_of_true ⟨rfl, rfl, rfl, rfl, rfl⟩ (Or.inl ⟨rfl, fun ctx h => ?_⟩)
          cases h
      | some ctx =>
          rw [launch_null hr hserved hplain, launch_built hr hserved' hblock, Option.rel_some_some]
          refine iff_of_false (not_sameEffect_null (blocked_toCode_ne _) _ _ task r _ ctx) ?_
          intro h
          rcases h with ⟨h, -⟩ | ⟨-, _, _, h, -⟩ <;> cases h
  | some ctx =>
      cases hblock : buildContextWithBlock P ⟨1, blockId⟩ r.nodedef with
      | none =>
          rw [launch_built hr hserved hplain, launch_null hr hserved' hblock, Option.rel_some_some]
          refine iff_of_false (fun h => ?_) ?_
          · exact not_sameEffect_null plain_toCode_ne _ _ task r _ ctx h.symm
          · intro h
            rcases h with ⟨h, -⟩ | ⟨-, _, _, -, h, -⟩ <;> cases h
      | some ctx' =>
          rw [block_one_built_iff blockId hr hserved hblock hplain]
          constructor
          · intro h
            rcases h with ⟨heq, h⟩ | ⟨hsess, h⟩
            · refine Or.inl ⟨by rw [heq], fun ctx₁ h₁ => ?_⟩
              cases h₁
              exact h
            · exact Or.inr ⟨hsess, ctx, ctx', rfl, rfl, h⟩
          · intro h
            rcases h with ⟨heq, h⟩ | ⟨hsess, _, _, h₁, -, h⟩
            · exact Or.inl ⟨(Option.some.inj heq).symm, h ctx rfl⟩
            · cases h₁
              exact Or.inr ⟨hsess, h⟩

end OneRequest

/-- **When a launch of one block is a plain one.**  From every cache and for every
task, `RunCpuKernelWithBlock` with `blockNum == 1` returns the code of `RunKernel`,
hands on the same context on the same path and leaves an equal cache, exactly when
the task is rejected by its parsers or its request meets the condition. -/
theorem block_one_iff (blockId : UInt32) (c : CpuKernelCache AttrValue) (task : Task AttrValue) :
    Option.Rel SameEffect (runCpuKernelWithBlock A P fuel ⟨1, blockId⟩ c task)
        (runKernel A P fuel c task) ↔
      ∀ r, task.request A fuel = some (some r) → BlockOneAgrees A P c task r := by
  rw [runKernel_eq, runCpuKernelWithBlock_eq]
  by_cases hr : ∃ r, task.request A fuel = some (some r)
  · obtain ⟨r, hr⟩ := hr
    have hone : (∀ r', task.request A fuel = some (some r') → BlockOneAgrees A P c task r') ↔
        BlockOneAgrees A P c task r := by
      refine ⟨fun h => h r hr, fun h r' hr' => ?_⟩
      rw [hr, Option.some.injEq, Option.some.injEq] at hr'
      rwa [← hr']
    rw [hone]
    unfold BlockOneAgrees
    cases hserved : (plain P).served c r.msg with
    | some hit =>
        obtain ⟨ref, ctx⟩ := hit
        rw [block_one_served_iff blockId hr hserved]
        -- only a request that names a session is served
        have hsess : r.msg.hasSessInfo ≠ false := by
          intro h
          have hlookup : (plain P).lookup r.msg = false := h
          rw [EntryPoint.served, hlookup] at hserved
          cases hserved
        constructor
        · intro h
          exact Or.inl ⟨ref, ctx, rfl, h⟩
        · intro h
          rcases h with ⟨ref', ctx', heq, h⟩ | ⟨h, -⟩ | ⟨h, -⟩
          · cases heq
            exact h
          · cases h
          · exact absurd h hsess
    | none =>
        have hblock : buildContextWithBlock P ⟨1, blockId⟩ r.nodedef =
            buildContextWithBlock P ⟨1, 0⟩ r.nodedef := rfl
        rw [block_one_missed_iff blockId hr hserved, ← waitNeutral_iff, hblock]
        constructor
        · intro h
          rcases h with h | h
          · exact Or.inr (Or.inl ⟨rfl, h⟩)
          · exact Or.inr (Or.inr h)
        · intro h
          rcases h with ⟨_, _, h, -⟩ | ⟨-, h⟩ | h
          · cases h
          · exact Or.inl h
          · exact Or.inr h
  · -- no request: neither call touches anything
    have hnone : ∀ r, task.request A fuel ≠ some (some r) := not_exists.mp hr
    rw [launch_rejected hnone, launch_rejected hnone]
    refine ⟨fun _ r h => absurd h (hnone r), fun _ => ?_⟩
    cases task.request A fuel with
    | none => exact Option.Rel.none
    | some _ => exact Option.Rel.some ⟨rfl, rfl, rfl, rfl, rfl⟩

/-- On a fresh cache, with a nodedef that has no wait attributes, only `RunKernel`
hands on a context that has them. -/
theorem block_one_without_wait :
    ¬ Option.Rel SameEffect
      (runCpuKernelWithBlock .packed .bare 2 ⟨1, 0⟩ (create true) deviceTask)
      (runKernel .packed .bare 2 (create true) deviceTask) := by
  have hblock : ((runCpuKernelWithBlock .packed .bare 2 ⟨1, 0⟩ (create true) deviceTask).bind
      Outcome.handed).map (fun h => h.2.attrs "wait_type") = some none := rfl
  have hplain : ((runKernel .packed .bare 2 (create true) deviceTask).bind
      Outcome.handed).map (fun h => h.2.attrs "wait_type") = some (some 0) := rfl
  generalize runCpuKernelWithBlock .packed .bare 2 ⟨1, 0⟩ (create true) deviceTask = out at hblock ⊢
  generalize runKernel .packed .bare 2 (create true) deviceTask = out' at hplain ⊢
  intro h
  cases h with
  | some h =>
      rw [Option.bind_some, h.handed] at hblock
      rw [Option.bind_some, hblock] at hplain
      cases hplain
  | none => cases hblock

end CpuKernelCache

end HwEfat.Aicpu
