/-
  HwEfat.Aicpu.CpuKernel.Async — asynchronous launches and their completion
  callbacks on one cache.

  A launch with `async_flag` hands its kernel a reference to a context and returns;
  the kernel goes on working on that context, writes its output shapes there, and in
  the end calls back, when `UpdateFWKOutputShape` reads the shapes from it.  The
  callback has the `ExtInfoMsg` of its own launch, but the context is the cached one
  of the kernel id: a later launch with that id works on the same object.

  Main result: `isolated_iff`, for every order of launches, kernel writes and
  completions — what a pending launch finds in its context is what it put there
  itself, exactly if no step changes a context that another pending launch shares.
-/
import HwEfat.Aicpu.CpuKernel.Transparency

namespace HwEfat.Aicpu

open HwEfat.Lib (Mem Heap)

variable {AttrValue : Type}

/-! ## §1. What a kernel sees of its io. -/

/-- Address and shape of a tensor. -/
def Tensor.io (t : Tensor) : UInt64 × List Int64 := (t.data, t.dims)

namespace CpuKernelContext

/-- The contexts have the same io addresses and shapes. -/
structure SameIo (ctx ctx' : CpuKernelContext AttrValue) : Prop where
  inputs : ctx.inputs.map Tensor.io = ctx'.inputs.map Tensor.io
  outputs : ctx.outputs.map Tensor.io = ctx'.outputs.map Tensor.io

instance (ctx ctx' : CpuKernelContext AttrValue) : Decidable (SameIo ctx ctx') :=
  decidable_of_iff (ctx.inputs.map Tensor.io = ctx'.inputs.map Tensor.io ∧
      ctx.outputs.map Tensor.io = ctx'.outputs.map Tensor.io)
    ⟨fun h => ⟨h.1, h.2⟩, fun h => ⟨h.inputs, h.outputs⟩⟩

theorem SameIo.refl (ctx : CpuKernelContext AttrValue) : SameIo ctx ctx := ⟨rfl, rfl⟩

theorem SameIo.symm {ctx ctx' : CpuKernelContext AttrValue} (h : SameIo ctx ctx') :
    SameIo ctx' ctx := ⟨h.inputs.symm, h.outputs.symm⟩

theorem SameIo.trans {ctx ctx' ctx'' : CpuKernelContext AttrValue} (h : SameIo ctx ctx')
    (h' : SameIo ctx' ctx'') : SameIo ctx ctx'' :=
  ⟨h.inputs.trans h'.inputs, h.outputs.trans h'.outputs⟩

/-- The kernel sets the shape of output `i`. -/
def setOutputDim (ctx : CpuKernelContext AttrValue) (i : Nat) (dims : List Int64) :
    CpuKernelContext AttrValue :=
  { ctx with outputs := ctx.outputs.modify i fun t => { t with dims := dims } }

/-- Dimensions are no part of what a tensor is read from. -/
theorem map_io_modify (ts : List Tensor) (i : Nat) (dims : List Int64) :
    (ts.modify i fun t => { t with dims := dims }).map Tensor.io =
      (ts.map Tensor.io).modify i fun io => (io.1, dims) := by
  apply List.ext_getElem?
  intro j
  simp only [List.getElem?_map, List.getElem?_modify]
  by_cases hij : i = j
  · subst hij
    cases ts[i]? <;> simp [Tensor.io]
  · cases ts[j]? <;> simp [Tensor.io, hij]

/-- Setting the dimensions of an output leaves where the tensors are. -/
theorem SameIo.setOutputDim {ctx ctx' : CpuKernelContext AttrValue} (h : SameIo ctx ctx') (i : Nat)
    (dims : List Int64) : SameIo (ctx.setOutputDim i dims) (ctx'.setOutputDim i dims) := by
  refine ⟨h.inputs, ?_⟩
  show (ctx.outputs.modify i _).map Tensor.io = (ctx'.outputs.modify i _).map Tensor.io
  rw [map_io_modify, map_io_modify, h.outputs]

/-- A kernel changes what others see exactly if the shape it sets is a new one. -/
theorem sameIo_setOutputDim_iff (ctx : CpuKernelContext AttrValue) (i : Nat) (dims : List Int64) :
    SameIo (ctx.setOutputDim i dims) ctx ↔ ∀ t, ctx.outputs[i]? = some t → t.dims = dims := by
  have hio : SameIo (ctx.setOutputDim i dims) ctx ↔
      (ctx.outputs.map Tensor.io).modify i (fun io => (io.1, dims))
        = ctx.outputs.map Tensor.io := by
    rw [← map_io_modify]
    exact ⟨fun h => h.outputs, fun h => ⟨rfl, h⟩⟩
  rw [hio]
  constructor
  · intro h t ht
    have hi := congrArg (fun l => l[i]?) h
    simp only [List.getElem?_modify, List.getElem?_map, ht, Option.map_some, if_true] at hi
    have hdims : (t.io.1, dims) = t.io := Option.some.inj hi
    exact (congrArg Prod.snd hdims).symm
  · intro h
    apply List.ext_getElem?
    intro j
    simp only [List.getElem?_modify, List.getElem?_map]
    by_cases hij : i = j
    · subst hij
      cases ht : ctx.outputs[i]? with
      | none => rfl
      | some t => simp [Tensor.io, h t ht]
    · cases ctx.outputs[j]? <;> simp [hij]

end CpuKernelContext

namespace CpuKernelCache

variable {A : FwkAdapter} {P : Platform AttrValue} {fuel : Nat}

/-- What is written back depends on the addresses and the dimensions only. -/
theorem tensorDescs_congr {ctx ctx' : CpuKernelContext AttrValue} (h : ctx.SameIo ctx') :
    ∀ (addrs : List (UInt32 × UInt64)) (mem : Mem),
      updateFWKOutputShape.tensorDescs A ctx addrs mem
        = updateFWKOutputShape.tensorDescs A ctx' addrs mem
  | [], _ => rfl
  | (index, addr) :: rest, mem => by
      have hout : (ctx.outputs[index.toNat]?).map Tensor.io
          = (ctx'.outputs[index.toNat]?).map Tensor.io := by
        rw [← List.getElem?_map, ← List.getElem?_map, h.outputs]
      rw [updateFWKOutputShape.tensorDescs, updateFWKOutputShape.tensorDescs]
      cases hctx : ctx.outputs[index.toNat]? with
      | none =>
          rw [hctx] at hout
          rw [Option.map_eq_none_iff.mp hout.symm]
      | some t =>
          rw [hctx, Option.map_some] at hout
          obtain ⟨t', ht', hio⟩ := Option.map_eq_some_iff.mp hout.symm
          have hdims : t'.dims = t.dims := congrArg Prod.snd hio
          rw [ht']
          simp only [hdims]
          split_ifs
          · exact tensorDescs_congr h rest _
          · rfl

/-- `UpdateFWKOutputShape` writes the shapes in the context, nothing else of it. -/
theorem updateFWKOutputShape_congr {ctx ctx' : CpuKernelContext AttrValue} (h : ctx.SameIo ctx')
    (mem : Mem) (msg : ExtInfoMsg) :
    updateFWKOutputShape A mem msg ctx = updateFWKOutputShape A mem msg ctx' := by
  have hfold : ∀ (ts : List Tensor) (mem : Mem),
      ts.zipIdx.foldl (fun mem output =>
          storeDims mem (msg.outputShapeAndType.getD output.2 0 + A.dimsOffset) output.1.dims) mem
        = (ts.map Tensor.io).zipIdx.foldl (fun mem io =>
          storeDims mem (msg.outputShapeAndType.getD io.2 0 + A.dimsOffset) io.1.2) mem := by
    intro ts mem
    rw [List.zipIdx_map, List.foldl_map]
    rfl
  unfold updateFWKOutputShape
  simp only [hfold, h.outputs]
  exact tensorDescs_congr h _ _

/-! ## §2. Launches in flight. -/

/-- A launch whose kernel runs: what its callback has captured (`ctx`, as a reference,
and `ext_info_msg`).  `own` is the context as this launch alone has made it: what its
`UpdateTensor` put in and the shapes its own kernel has written since. -/
structure Pending (AttrValue : Type) where
  ref : Nat
  msg : ExtInfoMsg
  own : CpuKernelContext AttrValue

/-- The cache, the memory of the process, and the launches in flight, by number. -/
structure Launches (AttrValue : Type) where
  cache : CpuKernelCache AttrValue
  mem : Mem
  count : Nat
  pending : Nat → Option (Pending AttrValue)

/-- What can happen next. -/
inductive AsyncEvent (AttrValue : Type) where
  /-- A call of `RunKernel`. -/
  | launch (paramHead : AicpuParamHead) (runtime : Runtime AttrValue)
  /-- The kernel of a launch sets the shape of an output. -/
  | setShape (id : Nat) (i : Nat) (dims : List Int64)
  /-- The kernel of a launch calls `done(status)`. -/
  | done (id : Nat) (status : UInt32)
  /-- Anybody else writes memory. -/
  | memory (mem : Mem)

/-- `RunCpuKernelAsync` gets as far as `ComputeAsync`. -/
def reachesComputeAsync (R : Runtime AttrValue) (op : String) (msg : ExtInfoMsg) : Bool :=
  match R.creatorMap op with
  | none => false
  | some kernel =>
      kernel.computeAsync.isSome &&
        CpuKernelRegister.setThreadLocal R .opName op &&
        CpuKernelRegister.setThreadLocal R .waitType (toString msg.waitType.toNat) &&
        CpuKernelRegister.setThreadLocal R .waitId (toString msg.waitId.toNat)

/-- The context a request works on, with its reference. -/
def workedOn (P : Platform AttrValue) (c : CpuKernelCache AttrValue) (r : Request) :
    Option (Nat × CpuKernelContext AttrValue) :=
  match (plain P).served c r.msg with
  | some hit => some hit
  | none => (buildContext P r.msg r.nodedef).map fun ctx => (c.contexts.size, ctx)

/-- The launch that a call of `RunKernel` leaves in flight. -/
def inFlight (A : FwkAdapter) (P : Platform AttrValue) (fuel : Nat) (c : CpuKernelCache AttrValue)
    (task : Task AttrValue) : Option (Pending AttrValue) :=
  match task.request A fuel with
  | some (some r) =>
      (workedOn P c r).bind fun (ref, ctx) =>
        if Accepts A P task r ctx ∧ r.msg.asyncFlag = true ∧
            reachesComputeAsync task.runtime ctx.op r.msg then
          some ⟨ref, (updateTensor A P task.mem r.ioAddrs r.msg ctx).2.1, leftBehind A P task r ctx⟩
        else none
  | _ => none

/-- One step. -/
def asyncStep (A : FwkAdapter) (P : Platform AttrValue) (fuel : Nat) (s : Launches AttrValue) :
    AsyncEvent AttrValue → Option (Launches AttrValue)
  | .launch paramHead runtime =>
      (runKernel A P fuel s.cache ⟨s.mem, paramHead, runtime⟩).map fun o =>
        { cache := o.cache
          mem := o.mem
          count := s.count + 1
          pending := Function.update s.pending s.count
            (inFlight A P fuel s.cache ⟨s.mem, paramHead, runtime⟩) }
  | .setShape id i dims =>
      (s.pending id).bind fun p => (s.cache.contexts.read p.ref).map fun ctx =>
        { s with
          cache := s.cache.write p.ref (ctx.setOutputDim i dims)
          pending := Function.update s.pending id
            (some { p with own := p.own.setOutputDim i dims }) }
  | .done id status =>
      (s.pending id).bind fun p => (s.cache.contexts.read p.ref).map fun ctx =>
        { s with
          mem := if status = KERNEL_STATUS_OK then (updateFWKOutputShape A s.mem p.msg ctx).2
            else s.mem
          pending := Function.update s.pending id none }
  | .memory mem => some { s with mem := mem }

/-- A cache just initialised, no launch in flight. -/
def startLaunches (sessFlag : Bool) (mem : Mem) : Launches AttrValue where
  cache := create sessFlag
  mem := mem
  count := 0
  pending _ := none

/-- Every launch in flight finds in its context the addresses and shapes of its own
call, and its callback would write the shapes of its own kernel. -/
def Isolated (A : FwkAdapter) (s : Launches AttrValue) : Prop :=
  ∀ id p, s.pending id = some p → ∃ ctx, s.cache.contexts.read p.ref = some ctx ∧
    ctx.SameIo p.own ∧
      updateFWKOutputShape A s.mem p.msg ctx = updateFWKOutputShape A s.mem p.msg p.own

/-- The step changes addresses or shapes in a context that another launch in flight
works on: a call that is served this context puts in others than it holds, or the
kernel of one launch sets a shape that the context of the other does not have. -/
def Disturbs (A : FwkAdapter) (P : Platform AttrValue) (fuel : Nat) (s : Launches AttrValue) :
    AsyncEvent AttrValue → Prop
  | .launch paramHead runtime =>
      ∃ r id p ctx, (⟨s.mem, paramHead, runtime⟩ : Task AttrValue).request A fuel = some (some r) ∧
        s.pending id = some p ∧ (plain P).served s.cache r.msg = some (p.ref, ctx) ∧
        ¬ (leftBehind A P ⟨s.mem, paramHead, runtime⟩ r ctx).SameIo ctx
  | .setShape id i dims =>
      ∃ p id' p' ctx t, s.pending id = some p ∧ id' ≠ id ∧ s.pending id' = some p' ∧
        p'.ref = p.ref ∧ s.cache.contexts.read p.ref = some ctx ∧ ctx.outputs[i]? = some t ∧
        t.dims ≠ dims
  | .done _ _ => False
  | .memory _ => False

/-! ## §3. What a step does to the contexts. -/

section LaunchContexts

variable {c : CpuKernelCache AttrValue} {task : Task AttrValue} {o : Outcome AttrValue}
  {r : Request} {ref : Nat} {ctx : CpuKernelContext AttrValue}

/-- When a task is in flight: it was accepted, asked to be asynchronous, and got that far. -/
theorem inFlight_eq (hr : task.request A fuel = some (some r)) :
    inFlight A P fuel c task = (workedOn P c r).bind fun (ref, ctx) =>
      if Accepts A P task r ctx ∧ r.msg.asyncFlag = true ∧
          reachesComputeAsync task.runtime ctx.op r.msg then
        some ⟨ref, (updateTensor A P task.mem r.ioAddrs r.msg ctx).2.1, leftBehind A P task r ctx⟩
      else none := by
  rw [inFlight, hr]

/-- A launch in flight is on the context that the call has worked on. -/
theorem inFlight_own (hr : task.request A fuel = some (some r))
    (hworked : workedOn P c r = some (ref, ctx)) :
    ∀ p, inFlight A P fuel c task = some p → p.ref = ref ∧ p.own = leftBehind A P task r ctx := by
  intro p hp
  simp only [inFlight_eq hr, hworked, Option.bind_some] at hp
  split_ifs at hp
  cases hp
  exact ⟨rfl, rfl⟩

/-- A call that works on no context leaves all as they are. -/
theorem contexts_of_unworked (ho : runKernel A P fuel c task = some o)
    (hr : task.request A fuel = some (some r)) (hworked : workedOn P c r = none) :
    o.cache.contexts = c.contexts := by
  have hlaunch : (plain P).launch A P fuel c task = some o := ho
  cases hserved : (plain P).served c r.msg with
  | some hit =>
      rw [workedOn, hserved] at hworked
      cases hworked
  | none =>
      cases hbuild : buildContext P r.msg r.nodedef with
      | none =>
          rw [launch_null hr hserved hbuild, Option.some.injEq] at hlaunch
          rw [← hlaunch]
          exact contexts_searched r.msg
      | some ctx =>
          rw [workedOn, hserved, hbuild] at hworked
          cases hworked

/-- A call writes the context it works on, where it stood or as a new one. -/
theorem contexts_of_worked (ho : runKernel A P fuel c task = some o)
    (hr : task.request A fuel = some (some r)) (hworked : workedOn P c r = some (ref, ctx)) :
    ∃ contexts : Heap (CpuKernelContext AttrValue),
      o.cache.contexts = contexts.write ref (leftBehind A P task r ctx) ∧
      ref < contexts.size ∧ c.contexts.size ≤ contexts.size ∧
      ∀ ref', ref' < c.contexts.size → contexts.read ref' = c.contexts.read ref' := by
  have hlaunch : (plain P).launch A P fuel c task = some o := ho
  -- A hit works on the context it finds, a miss on one that it allocates.
  cases hserved : (plain P).served c r.msg with
  | some hit =>
      rw [workedOn, hserved] at hworked
      cases hworked
      refine ⟨c.contexts, ?_, Heap.lt_size_of_read (read_served hserved), Nat.le_refl _,
        fun _ _ => rfl⟩
      rw [launch_served hr hserved, Option.some.injEq] at hlaunch
      rw [← hlaunch, (execute_spec _ _ task r ref ctx).2.2]
      exact congrArg (fun h => Heap.write h ref _) (contexts_searched r.msg)
  | none =>
      cases hbuild : buildContext P r.msg r.nodedef with
      | none =>
          rw [workedOn, hserved, hbuild] at hworked
          cases hworked
      | some built =>
          rw [workedOn, hserved, hbuild] at hworked
          cases hworked
          have hsize : (c.contexts.alloc ctx).size = c.contexts.size + 1 := Heap.size_alloc _ _
          refine ⟨c.contexts.alloc ctx, ?_, by omega, by omega,
            fun ref' hold => Heap.read_alloc_old _ _ hold⟩
          rw [launch_built hr hserved hbuild, Option.some.injEq] at hlaunch
          rw [← hlaunch, (execute_spec _ _ task r _ ctx).2.2]
          refine congrArg (fun h => Heap.write h c.contexts.size _) ?_
          rw [contexts_keep, contexts_searched]

/-- A call of `RunKernel` changes no context, or works on one: that of a launch it
leaves in flight. -/
theorem launch_contexts (ho : runKernel A P fuel c task = some o) :
    (o.cache.contexts = c.contexts ∧ inFlight A P fuel c task = none ∧
      ∀ r, task.request A fuel = some (some r) → workedOn P c r = none) ∨
    ∃ r ref ctx, task.request A fuel = some (some r) ∧ workedOn P c r = some (ref, ctx) ∧
      ref < o.cache.contexts.size ∧ c.contexts.size ≤ o.cache.contexts.size ∧
      o.cache.contexts.read ref = some (leftBehind A P task r ctx) ∧
      (∀ ref', ref' ≠ ref → ref' < c.contexts.size →
        o.cache.contexts.read ref' = c.contexts.read ref') ∧
      ∀ p, inFlight A P fuel c task = some p → p.ref = ref ∧ p.own = leftBehind A P task r ctx := by
  by_cases hr : ∃ r, task.request A fuel = some (some r)
  · obtain ⟨r, hr⟩ := hr
    cases hworked : workedOn P c r with
    | none =>
        refine Or.inl ⟨contexts_of_unworked ho hr hworked, ?_, ?_⟩
        · rw [inFlight_eq hr, hworked]
          rfl
        · intro r' hr'
          rw [hr, Option.some.injEq, Option.some.injEq] at hr'
          rw [← hr']
          exact hworked
    | some worked =>
        obtain ⟨ref, ctx⟩ := worked
        obtain ⟨contexts, hafter, hlt, hle, hold⟩ := contexts_of_worked ho hr hworked
        refine Or.inr ⟨r, ref, ctx, hr, hworked, ?_, ?_, ?_, ?_, inFlight_own hr hworked⟩
        · rw [hafter, Heap.size_write]
          exact hlt
        · rw [hafter, Heap.size_write]
          exact hle
        · rw [hafter, Heap.read_write_self hlt]
        · intro ref' hne hlt'
          rw [hafter, Heap.read_write_ne _ hne]
          exact hold ref' hlt'
  · -- a task without a request is turned away
    have hlaunch : (plain P).launch A P fuel c task = some o := ho
    rw [launch_rejected (not_exists.mp hr), Option.map_eq_some_iff] at hlaunch
    obtain ⟨request, hrequest, rfl⟩ := hlaunch
    cases request with
    | none =>
        exact Or.inl ⟨rfl, by rw [inFlight, hrequest], fun r h => absurd ⟨r, h⟩ hr⟩
    | some r => exact absurd ⟨r, hrequest⟩ hr

end LaunchContexts

/-! ## §4. What the steps keep. -/

/-- Launches in flight have earlier numbers and work on live contexts. -/
def WellFormed (s : Launches AttrValue) : Prop :=
  ∀ id p, s.pending id = some p → id < s.count ∧ p.ref < s.cache.contexts.size

/-- Where contexts and shapes agree, the callback writes the launch's own shapes. -/
theorem isolated_iff_sameIo (s : Launches AttrValue) :
    Isolated A s ↔ ∀ id p, s.pending id = some p → ∃ ctx,
      s.cache.contexts.read p.ref = some ctx ∧ ctx.SameIo p.own := by
  constructor
  · intro h id p hp
    obtain ⟨ctx, hctx, hio, -⟩ := h id p hp
    exact ⟨ctx, hctx, hio⟩
  · intro h id p hp
    obtain ⟨ctx, hctx, hio⟩ := h id p hp
    exact ⟨ctx, hctx, hio, updateFWKOutputShape_congr hio s.mem p.msg⟩

/-- The launch of a step and the other ones in flight. -/
theorem pending_update {s : Launches AttrValue} {id id' : Nat} {q : Option (Pending AttrValue)}
    {p : Pending AttrValue} (h : Function.update s.pending id q id' = some p) :
    id' = id ∧ q = some p ∨ id' ≠ id ∧ s.pending id' = some p := by
  by_cases hid : id' = id
  · subst hid
    rw [Function.update_self] at h
    exact Or.inl ⟨rfl, h⟩
  · rw [Function.update_of_ne hid] at h
    exact Or.inr ⟨hid, h⟩

/-- A context that a launch in flight works on is worked on anew only when it is
served from the cache. -/
theorem served_of_workedOn {c : CpuKernelCache AttrValue} {r : Request} {ref : Nat}
    {ctx : CpuKernelContext AttrValue} (h : workedOn P c r = some (ref, ctx))
    (hlt : ref < c.contexts.size) : (plain P).served c r.msg = some (ref, ctx) := by
  unfold workedOn at h
  cases hserved : (plain P).served c r.msg with
  | some hit =>
      rw [hserved] at h
      exact h
  | none =>
      rw [hserved] at h
      obtain ⟨ctx', -, heq⟩ := Option.map_eq_some_iff.mp h
      cases heq
      omega

/-- **Every event** leaves the launches well formed. -/
theorem wellFormed_step {s s' : Launches AttrValue} {ev : AsyncEvent AttrValue}
    (h : WellFormed s) (hstep : asyncStep A P fuel s ev = some s') : WellFormed s' := by
  intro id' p hp
  -- References only grow in number, and a new launch is given one that is there.
  cases ev with
  | launch paramHead runtime =>
      obtain ⟨o, ho, rfl⟩ := Option.map_eq_some_iff.mp hstep
      rcases launch_contexts ho with ⟨hsame, hnone, -⟩ |
        ⟨r, ref, ctx, -, -, hlt, hle, -, -, hown⟩
      · rcases pending_update hp with ⟨-, hnew⟩ | ⟨-, hold⟩
        · rw [hnone] at hnew
          cases hnew
        · obtain ⟨hid, href⟩ := h id' p hold
          exact ⟨Nat.lt_succ_of_lt hid, by rw [hsame]; exact href⟩
      · rcases pending_update hp with ⟨hid, hnew⟩ | ⟨-, hold⟩
        · rw [hid, (hown p hnew).1]
          exact ⟨Nat.lt_succ_self _, hlt⟩
        · obtain ⟨hid, href⟩ := h id' p hold
          exact ⟨Nat.lt_succ_of_lt hid, Nat.lt_of_lt_of_le href hle⟩
  | setShape id i dims =>
      obtain ⟨q, hq, hmap⟩ := Option.bind_eq_some_iff.mp hstep
      obtain ⟨ctx, -, rfl⟩ := Option.map_eq_some_iff.mp hmap
      have hsize : (s.cache.write q.ref (ctx.setOutputDim i dims)).contexts.size
          = s.cache.contexts.size := Heap.size_write _ _ _
      show id' < s.count ∧ p.ref < _
      rw [hsize]
      rcases pending_update hp with ⟨hid, hnew⟩ | ⟨-, hold⟩
      · cases hnew
        rw [hid]
        exact h id q hq
      · exact h id' p hold
  | done id status =>
      obtain ⟨q, hq, hmap⟩ := Option.bind_eq_some_iff.mp hstep
      obtain ⟨ctx, -, rfl⟩ := Option.map_eq_some_iff.mp hmap
      rcases pending_update hp with ⟨-, hnew⟩ | ⟨-, hold⟩
      · cases hnew
      · exact h id' p hold
  | memory mem =>
      cases hstep
      exact h id' p hp

/-- **The step lemma for a call of `RunKernel`.** -/
theorem isolated_launch {s : Launches AttrValue} {paramHead : AicpuParamHead}
    {runtime : Runtime AttrValue} {s' : Launches AttrValue} (hwf : WellFormed s)
    (h : Isolated A s) (hstep : asyncStep A P fuel s (.launch paramHead runtime) = some s') :
    Isolated A s' ↔ ¬ Disturbs A P fuel s (.launch paramHead runtime) := by
  rw [isolated_iff_sameIo] at h ⊢
  obtain ⟨o, ho, rfl⟩ := Option.map_eq_some_iff.mp hstep
  rcases launch_contexts ho with ⟨hsame, hnone, hnot⟩ |
    ⟨r, ref, ctx, hr, hworked, -, -, hread, hother, hown⟩
  · -- no context is worked on
    have hkept : ∀ id p, Function.update s.pending s.count (inFlight A P fuel s.cache
        ⟨s.mem, paramHead, runtime⟩) id = some p → ∃ ctx,
          o.cache.contexts.read p.ref = some ctx ∧ ctx.SameIo p.own := by
      intro id p hp
      rcases pending_update hp with ⟨-, hnew⟩ | ⟨-, hold⟩
      · rw [hnone] at hnew
        cases hnew
      · rw [hsame]
        exact h id p hold
    refine iff_of_true hkept ?_
    intro ⟨r, id, p, ctx, hr, hp, hserved, hdiff⟩
    have hworked := hnot r hr
    rw [workedOn, hserved] at hworked
    cases hworked
  · constructor
    · intro hafter ⟨r', id, p, ctx', hr', hp, hserved, hdiff⟩
      rw [hr, Option.some.injEq, Option.some.injEq] at hr'
      subst hr'
      have hsame : workedOn P s.cache r = some (p.ref, ctx') := by
        rw [workedOn, hserved]
      rw [hworked, Option.some.injEq, Prod.mk.injEq] at hsame
      obtain ⟨href, hctx⟩ := hsame
      obtain ⟨hid, -⟩ := hwf id p hp
      have hp' : Function.update s.pending s.count (inFlight A P fuel s.cache
          ⟨s.mem, paramHead, runtime⟩) id = some p := by
        rw [Function.update_of_ne (by omega)]
        exact hp
      -- the launch found its own io before the call and after it
      obtain ⟨old, hold, hio⟩ := h id p hp
      obtain ⟨new, hnew, hio'⟩ := hafter id p hp'
      rw [← href, hread, Option.some.injEq] at hnew
      rw [read_served hserved, Option.some.injEq] at hold
      subst hold hnew hctx
      exact hdiff (hio'.trans hio.symm)
    · intro hnone id p hp
      rcases pending_update hp with ⟨-, hnew⟩ | ⟨-, hold⟩
      · obtain ⟨href, hself⟩ := hown p hnew
        exact ⟨_, by rw [href]; exact hread, by rw [hself]; exact .refl _⟩
      · obtain ⟨ctx', hctx', hio⟩ := h id p hold
        have hlt := (hwf id p hold).2
        by_cases href : p.ref = ref
        · -- the call was served the context of this launch, and left its io alone
          have hserved := served_of_workedOn hworked (href ▸ hlt)
          have hctx : ctx' = ctx := by
            rw [href, read_served hserved] at hctx'
            exact (Option.some.inj hctx').symm
          have hagree : (leftBehind A P ⟨s.mem, paramHead, runtime⟩ r ctx).SameIo ctx := by
            by_contra hdiff
            exact hnone ⟨r, id, p, ctx, hr, hold, href ▸ hserved, hdiff⟩
          exact ⟨_, by rw [href]; exact hread, hagree.trans (hctx ▸ hio)⟩
        · exact ⟨ctx', by rw [hother p.ref href hlt]; exact hctx', hio⟩

/-- **The step lemma for a shape that a kernel sets.** -/
theorem isolated_setShape {s : Launches AttrValue} {id i : Nat} {dims : List Int64}
    {s' : Launches AttrValue} (hwf : WellFormed s) (h : Isolated A s)
    (hstep : asyncStep A P fuel s (.setShape id i dims) = some s') :
    Isolated A s' ↔ ¬ Disturbs A P fuel s (.setShape id i dims) := by
  rw [isolated_iff_sameIo] at h ⊢
  obtain ⟨p, hp, hmap⟩ := Option.bind_eq_some_iff.mp hstep
  obtain ⟨ctx, hctx, rfl⟩ := Option.map_eq_some_iff.mp hmap
  have hlt := (hwf id p hp).2
  have hself : (s.cache.write p.ref (ctx.setOutputDim i dims)).contexts.read p.ref
      = some (ctx.setOutputDim i dims) := Heap.read_write_self hlt _
  have hother : ∀ ref, ref ≠ p.ref →
      (s.cache.write p.ref (ctx.setOutputDim i dims)).contexts.read ref
        = s.cache.contexts.read ref := fun ref hne => Heap.read_write_ne _ hne _
  constructor
  · intro hafter ⟨q, id', p', ctx', t, hq, hne, hp', href, hctx', ht, hdims⟩
    rw [hp, Option.some.injEq] at hq
    subst hq
    rw [hctx, Option.some.injEq] at hctx'
    subst hctx'
    have hpending : Function.update s.pending id
        (some { p with own := p.own.setOutputDim i dims }) id' = some p' := by
      rw [Function.update_of_ne hne]
      exact hp'
    -- The other launch has what it put there, before and afterwards, so the dims are the same.
    obtain ⟨old, hold, hio⟩ := h id' p' hp'
    obtain ⟨new, hnew, hio'⟩ := hafter id' p' hpending
    simp only [href, hself, Option.some.injEq] at hnew
    rw [href, hctx, Option.some.injEq] at hold
    subst hold hnew
    exact hdims ((ctx.sameIo_setOutputDim_iff i dims).mp (hio'.trans hio.symm) t ht)
  · intro hnone id' p' hp'
    rcases pending_update hp' with ⟨-, hnew⟩ | ⟨hne, hold⟩
    · -- the launch itself has set the shape
      cases hnew
      obtain ⟨ctx', hctx', hio⟩ := h id p hp
      rw [hctx, Option.some.injEq] at hctx'
      subst hctx'
      exact ⟨_, hself, hio.setOutputDim i dims⟩
    · obtain ⟨ctx', hctx', hio⟩ := h id' p' hold
      by_cases href : p'.ref = p.ref
      · rw [href, hctx, Option.some.injEq] at hctx'
        subst hctx'
        have hagree : (ctx.setOutputDim i dims).SameIo ctx := by
          rw [CpuKernelContext.sameIo_setOutputDim_iff]
          intro t ht
          by_contra hdims
          exact hnone ⟨p, id', p', ctx, t, hp, hne, hold, href, hctx, ht, hdims⟩
        exact ⟨_, by rw [href]; exact hself, hagree.trans hio⟩
      · exact ⟨ctx', by rw [hother p'.ref href]; exact hctx', hio⟩

/-- **The step lemma.** -/
theorem isolated_step {s s' : Launches AttrValue} {ev : AsyncEvent AttrValue} (hwf : WellFormed s)
    (h : Isolated A s) (hstep : asyncStep A P fuel s ev = some s') :
    Isolated A s' ↔ ¬ Disturbs A P fuel s ev := by
  cases ev with
  | launch paramHead runtime => exact isolated_launch hwf h hstep
  | setShape id i dims => exact isolated_setShape hwf h hstep
  | done id status =>
      obtain ⟨p, hp, hmap⟩ := Option.bind_eq_some_iff.mp hstep
      obtain ⟨ctx, -, rfl⟩ := Option.map_eq_some_iff.mp hmap
      rw [isolated_iff_sameIo] at h ⊢
      refine iff_of_true (fun id' p' hp' => ?_) (fun hd => hd)
      rcases pending_update hp' with ⟨-, hnew⟩ | ⟨-, hold⟩
      · cases hnew
      · exact h id' p' hold
  | memory mem =>
      cases hstep
      rw [isolated_iff_sameIo] at h ⊢
      exact iff_of_true h (fun hd => hd)

/-! ## §5. Every order of events. -/

/-- **When launches stay apart.**  In every run of asynchronous launches, of shapes
that their kernels set, of completion callbacks and of changes of memory, every launch
in flight finds in its context the io addresses and shapes of its own call, and its
callback would write the shapes of its own kernel, exactly if no step of the run
changes addresses or shapes in a context that another launch in flight works on. -/
theorem isolated_iff (sessFlag : Bool) (mem : Mem) (events : List (AsyncEvent AttrValue)) :
    (∀ pre, pre <+: events → ∀ s,
      Lib.run (asyncStep A P fuel) (startLaunches sessFlag mem) pre = some s → Isolated A s) ↔
    ∀ pre ev, pre ++ [ev] <+: events → ∀ s,
      Lib.run (asyncStep A P fuel) (startLaunches sessFlag mem) pre = some s →
        ¬ Disturbs A P fuel s ev := by
  refine Lib.run_always_iff (I := WellFormed) (P := Isolated A) (B := Disturbs A P fuel)
    ⟨fun id p hp => (by cases hp), fun id p hp => (by cases hp)⟩ ?_ ?_ events
  · intro s ev s' hwf hstep
    exact ⟨wellFormed_step hwf hstep, fun h => isolated_step hwf h hstep⟩
  · intro s ev hd
    cases ev with
    | launch paramHead runtime =>
        obtain ⟨r, id, p, ctx, hr, -, -, -⟩ := hd
        obtain ⟨o, ho, -⟩ := launch_handed (e := plain P) (c := s.cache) (P := P) hr
        have hrun : runKernel A P fuel s.cache ⟨s.mem, paramHead, runtime⟩ = some o := ho
        exact ⟨_, by rw [asyncStep, hrun]; rfl⟩
    | setShape id i dims =>
        obtain ⟨p, id', p', ctx, t, hp, -, -, -, hctx, -, -⟩ := hd
        exact ⟨_, by rw [asyncStep, hp, Option.bind_some, hctx]; rfl⟩
    | done id status => exact hd.elim
    | memory mem => exact hd.elim

/-! ## Two launches of one kernel id. -/

/-- Every nodedef parses to an op with one output. -/
def oneOutput : Platform Int :=
  { Platform.bare with
    parseFromString := fun _ =>
      some { opType := "", inputs := [], outputs := [some ⟨0, [], 0, 0⟩], attrs := [] } }

/-- Every op has an asynchronous kernel, which starts. -/
def asyncRuntime : Runtime Int where
  creatorMap _ := some
    { compute := fun _ => (KERNEL_STATUS_OK, fun _ => [])
      computeAsync := some fun _ => (KERNEL_STATUS_OK, fun _ => []) }
  setThreadLocalCtx := none

/-- A session record with kernel id 7 and a wait record that asks for an asynchronous
launch; and the io addresses 0x30 and 0x40 of two param blocks. -/
def asyncMem : Mem := fun a =>
  if a < 0x2000 then
    Mem.ofBytes 0x1000 (ExtInfo.sessionRecord 7 ++ [8, 0, 0, 0, 17, 0, 0, 0, 1]) a
  else if a = 0x2014 then 0x30
  else if a = 0x2034 then 0x40
  else 0

/-- The param block at this address, with one io address and an empty nodedef. -/
def asyncHead (base : Nat) : AicpuParamHead :=
  { base := base, length := 32, ioAddrNum := 1, extInfoLength := 50, extInfoAddr := 0x1000 }

/-- Both blocks are launched; then both kernels set their shape. -/
def relaunch : List (AsyncEvent Int) :=
  [.launch (asyncHead 0x2000) asyncRuntime, .launch (asyncHead 0x2020) asyncRuntime,
    .setShape 0 0 [3], .setShape 1 0 [5]]

/-- Address and shape, as numbers. -/
def Tensor.ioNumbers (t : Tensor) : Nat × List Int := (t.data.toNat, t.dims.map Int64.toInt)

/-- The second launch puts its io address into the context of the first, which is still
in flight; and the shape its kernel sets is what the callback of the first would write. -/
theorem relaunched_in_flight :
    ∃ s p ctx, Lib.run (asyncStep .packed oneOutput 3) (startLaunches true asyncMem) relaunch
        = some s ∧ s.pending 0 = some p ∧ s.cache.contexts.read p.ref = some ctx ∧
      p.own.outputs.map Tensor.ioNumbers = [(0x30, [3])] ∧
      ctx.outputs.map Tensor.ioNumbers = [(0x40, [5])] ∧ ¬ Isolated .packed s := by
  have hseen : (Lib.run (asyncStep .packed oneOutput 3) (startLaunches true asyncMem)
        relaunch).bind (fun s => (s.pending 0).bind fun p =>
          (s.cache.contexts.read p.ref).map fun ctx =>
            (p.own.outputs.map Tensor.ioNumbers, ctx.outputs.map Tensor.ioNumbers))
      = some ([(0x30, [3])], [(0x40, [5])]) := by
    decide +kernel
  obtain ⟨s, hs, hseen⟩ := Option.bind_eq_some_iff.mp hseen
  obtain ⟨p, hp, hseen⟩ := Option.bind_eq_some_iff.mp hseen
  obtain ⟨ctx, hctx, hseen⟩ := Option.map_eq_some_iff.mp hseen
  obtain ⟨hown, hheld⟩ := Prod.mk.inj hseen
  refine ⟨s, p, ctx, hs, hp, hctx, hown, hheld, fun h => ?_⟩
  obtain ⟨ctx', hctx', hio, -⟩ := h 0 p hp
  rw [hctx, Option.some.injEq] at hctx'
  subst hctx'
  have hnumbers : ctx.outputs.map Tensor.ioNumbers = p.own.outputs.map Tensor.ioNumbers := by
    have hsame := congrArg (List.map fun io => (io.1.toNat, io.2.map Int64.toInt)) hio.outputs
    rw [List.map_map, List.map_map] at hsame
    exact hsame
  rw [hown, hheld] at hnumbers
  exact absurd hnumbers (by decide)

end CpuKernelCache

end HwEfat.Aicpu
