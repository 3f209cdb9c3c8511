/-
  HwEfat.Aicpu.CpuKernel.Transparency — a run of `RunKernel` on one cache, seen
  against the same calls on fresh caches.

  A call served from the cache works on a context that an earlier call with its
  kernel id built and that every call since then has updated in place.  That
  context has the op, the tensors and their data types of the nodedef; its
  attributes and device type are those of the call that built it, and its dims
  are whatever the last call left.  `UpdateTensor` puts in the addresses of this
  call, and its dims where the extend info carries them; nothing more.

  Main result: `transparent_iff`, for every run — what a served call hands to the
  kernel, and exactly when that is what it would hand on with a fresh cache.
-/
import HwEfat.Aicpu.CpuKernel.Launch
import HwEfat.Aicpu.ExtInfo.Agreement

namespace HwEfat.Aicpu

open HwEfat.Lib (Mem)

namespace CpuKernelCache

variable {AttrValue : Type} {A : FwkAdapter} {P : Platform AttrValue} {fuel : Nat}

/-! ## §1. Runs. -/

/-- The cache after one call of `RunKernel`. -/
def step (A : FwkAdapter) (P : Platform AttrValue) (fuel : Nat) (c : CpuKernelCache AttrValue)
    (task : Task AttrValue) : Option (CpuKernelCache AttrValue) :=
  (runKernel A P fuel c task).map Outcome.cache

/-- Tasks that name the same kernel id carry the same nodedef bytes. -/
def SameNodeDefs (A : FwkAdapter) (fuel : Nat) (tasks : List (Task AttrValue)) : Prop :=
  ∀ task ∈ tasks, ∀ task' ∈ tasks, ∀ r r', task.request A fuel = some (some r) →
    task'.request A fuel = some (some r') → r.msg.hasSessInfo = true →
    r'.msg.hasSessInfo = true → r.msg.kernelId = r'.msg.kernelId → r.nodedef = r'.nodedef

/-- What the task hands to the kernel on a fresh, empty cache. -/
def freshHanded (A : FwkAdapter) (P : Platform AttrValue) (fuel : Nat) (sessFlag : Bool)
    (task : Task AttrValue) : Option (Dispatch × CpuKernelContext AttrValue) :=
  (runKernel A P fuel (create sessFlag) task).bind Outcome.handed

/-- A fresh cache serves nothing. -/
theorem served_create (e : EntryPoint AttrValue) (sessFlag : Bool) (msg : ExtInfoMsg) :
    e.served (create sessFlag) msg = none := by
  have hlookup : (create sessFlag : CpuKernelCache AttrValue).cache.view.lookup msg.kernelId
      = none := by
    show (LiveCache.create sessFlag : LiveCache Nat).view.lookup msg.kernelId = none
    rw [LiveCache.view_create]
    rfl
  unfold EntryPoint.served
  rw [cached_eq_none.mpr hlookup]
  split_ifs <;> rfl

/-- What a fresh cache hands on is the new context, updated. -/
theorem freshHanded_eq {task : Task AttrValue} {r : Request}
    (hr : task.request A fuel = some (some r)) (sessFlag : Bool) :
    freshHanded A P fuel sessFlag task =
      (buildContext P r.msg r.nodedef).bind (handOn A P task r) := by
  obtain ⟨o, ho, hhanded⟩ := launch_handed (e := plain P) (c := create sessFlag) (P := P) hr
  unfold freshHanded
  rw [runKernel_eq, ho, Option.bind_some, hhanded, EntryPoint.context, served_create]
  rfl

/-! ## §2. Where a cached context comes from. -/

/-- One of the tasks built the context under this kernel id; of what it built at
most the dims, addresses and sizes of tensors have changed. -/
def BuiltBy (A : FwkAdapter) (P : Platform AttrValue) (fuel : Nat)
    (tasks : List (Task AttrValue)) (kernelId : UInt64) (ctx : CpuKernelContext AttrValue) : Prop :=
  ∃ task ∈ tasks, ∃ r built, task.request A fuel = some (some r) ∧ r.msg.hasSessInfo = true ∧
    r.msg.kernelId = kernelId ∧ buildContext P r.msg r.nodedef = some built ∧ built.SameFrame ctx

/-- **The run lemma**: after every run, every cached context was built by a call
of the run under its kernel id. -/
theorem holds_run {sessFlag : Bool} :
    ∀ (tasks : List (Task AttrValue)) (c : CpuKernelCache AttrValue),
      Lib.run (step A P fuel) (create sessFlag) tasks = some c →
      c.Holds (BuiltBy A P fuel tasks) := by
  refine Lib.run_induct (P := fun tasks (c : CpuKernelCache AttrValue) => c.Holds (BuiltBy A P fuel tasks))
    (holds_create sessFlag _) ?_
  intro tasks c task c' _ h hstep
  obtain ⟨o, ho, rfl⟩ := Option.map_eq_some_iff.mp hstep
  have hmono : c.Holds (BuiltBy A P fuel (tasks ++ [task])) := by
    refine Lib.Heap.Holds.mono h ?_
    intro k ctx ⟨t, ht, hbuilt⟩
    exact ⟨t, List.mem_append_left _ ht, hbuilt⟩
  obtain ⟨request, hrequest, hstep'⟩ := cacheStep_of_launch (e := plain P) ho
  refine holds_cacheStep ?_ hmono ?_ hstep'
  · intro k ctx ctx' hframe ⟨t, ht, r, built, hr, hsess, hk, hbuild, hctx⟩
    exact ⟨t, ht, r, built, hr, hsess, hk, hbuild, hctx.trans hframe⟩
  · intro r ctx hr hins
    subst hr
    unfold EntryPoint.inserted at hins
    split_ifs at hins with hcond
    exact ⟨task, List.mem_append_right _ (List.mem_singleton.mpr rfl), r, ctx, hrequest, hcond.1,
      rfl, hins, .refl ctx⟩

/-! ## §3. Served against fresh. -/

/-- The cached context is the one the request would build, up to the dims the
request gives anew. -/
def UpToDate (P : Platform AttrValue) (r : Request) (old : CpuKernelContext AttrValue) : Prop :=
  ∃ new, buildContext P r.msg r.nodedef = some new ∧
    old.deviceType = new.deviceType ∧ old.attrs = new.attrs ∧
    SameDims (inputReapplied r.msg) old.inputs new.inputs ∧
    SameDims (fun _ => r.msg.unknownShape) old.outputs new.outputs

/-- The two contexts agree in everything a call always puts in. -/
def AgreeButStale (r : Request) (ctx ctx' : CpuKernelContext AttrValue) : Prop :=
  ctx.op = ctx'.op ∧ AgreeBut (inputReapplied r.msg) ctx.inputs ctx'.inputs ∧
    AgreeBut (fun _ => r.msg.unknownShape) ctx.outputs ctx'.outputs

section Served

variable {r : Request} {old : CpuKernelContext AttrValue} {task : Task AttrValue}

/-- What the run lemma says of a context under the request's kernel id: it was built
from the nodedef of the request. -/
theorem builtBy_nodedef {tasks : List (Task AttrValue)}
    (hsame : SameNodeDefs A fuel (tasks ++ [task])) (hr : task.request A fuel = some (some r))
    (hsess : r.msg.hasSessInfo = true) (hbuilt : BuiltBy A P fuel tasks r.msg.kernelId old) :
    ∃ task₀ ∈ tasks, ∃ r₀ built, task₀.request A fuel = some (some r₀) ∧
      r₀.msg.kernelId = r.msg.kernelId ∧ buildContext P r₀.msg r.nodedef = some built ∧
      built.SameFrame old := by
  obtain ⟨task₀, hmem, r₀, built, hr₀, hsess₀, hid, hbuild, hframe⟩ := hbuilt
  have hnodedef : r₀.nodedef = r.nodedef :=
    hsame task₀ (List.mem_append_left _ hmem) task
      (List.mem_append_right _ (List.mem_singleton.mpr rfl)) r₀ r hr₀ hr hsess₀ hsess hid
  exact ⟨task₀, hmem, r₀, built, hr₀, hid, hnodedef ▸ hbuild, hframe⟩

/-- A context built from the nodedef of the request is of the op and has the data
types of the one the request would build. -/
theorem sameTypes_of_built {msg : ExtInfoMsg} {built new : CpuKernelContext AttrValue}
    (hbuild : buildContext P msg r.nodedef = some built) (hframe : built.SameFrame old)
    (hnew : buildContext P r.msg r.nodedef = some new) :
    old.op = new.op ∧ old.inputs.map Tensor.dataType = new.inputs.map Tensor.dataType ∧
      old.outputs.map Tensor.dataType = new.outputs.map Tensor.dataType := by
  obtain ⟨hop, hin, hout⟩ :=
    (fromNodeDef_buildContext hbuild).agree (fromNodeDef_buildContext hnew)
  rw [← hop, ← hin, ← hout]
  exact ⟨hframe.op.symm, hframe.inputs.symm, hframe.outputs.symm⟩

/-- What the request hands on from a served context of the right data types, seen
against what it hands on from the context it would build. -/
theorem handOn_served
    (htypes : ∀ new, buildContext P r.msg r.nodedef = some new →
      old.op = new.op ∧ old.inputs.map Tensor.dataType = new.inputs.map Tensor.dataType ∧
        old.outputs.map Tensor.dataType = new.outputs.map Tensor.dataType)
    {d : Dispatch} {ctx : CpuKernelContext AttrValue}
    (hold : handOn A P task r old = some (d, ctx)) :
    ((buildContext P r.msg r.nodedef).bind (handOn A P task r) = some (d, ctx) ↔
        UpToDate P r old) ∧
    ∀ d' ctx', (buildContext P r.msg r.nodedef).bind (handOn A P task r) = some (d', ctx') →
      d' = d ∧ AgreeButStale r ctx ctx' := by
  obtain ⟨haccepts, hd, hctx⟩ := handOn_eq_some.mp hold
  refine ⟨?_, fun d' ctx' hfresh => ?_⟩
  · rw [Option.bind_eq_some_iff]
    constructor
    · intro ⟨new, hnew, hhand⟩
      obtain ⟨haccepts', -, hctx'⟩ := handOn_eq_some.mp hhand
      obtain ⟨hop, hin, hout⟩ := htypes new hnew
      have hagree := updateTensor_agree_iff (A := A) (P := P) hop hin hout haccepts
      exact ⟨new, hnew, hagree.mp ⟨haccepts', hctx.trans hctx'.symm⟩⟩
    · intro ⟨new, hnew, hdate⟩
      obtain ⟨hop, hin, hout⟩ := htypes new hnew
      have hagree := updateTensor_agree_iff (A := A) (P := P) hop hin hout haccepts
      obtain ⟨haccepts', heq⟩ := hagree.mpr hdate
      exact ⟨new, hnew, handOn_eq_some.mpr ⟨haccepts', hd, heq.symm.trans hctx⟩⟩
  · obtain ⟨new, hnew, hhand⟩ := Option.bind_eq_some_iff.mp hfresh
    obtain ⟨haccepts', hd', hctx'⟩ := handOn_eq_some.mp hhand
    obtain ⟨hop, hin, hout⟩ := htypes new hnew
    refine ⟨hd'.symm.trans hd, ?_⟩
    rw [← hctx, ← hctx']
    exact updateTensor_agreeBut hop hin hout haccepts haccepts'

end Served

/-- **How far cached execution is transparent.**  After any run in which a kernel
id always comes with the same nodedef, a call that gets past `UpdateTensor` and is
not served from the cache hands on what it would hand on with a fresh cache.  One
that is served hands on a context whose attributes and device type are those of
the earlier call that built it; it agrees with the fresh one in op, in number, data
types and addresses of tensors and in the dims this call gives, and is equal to it
exactly when the cached context was up to date. -/
theorem transparent_iff {sessFlag : Bool} {tasks : List (Task AttrValue)} {task : Task AttrValue}
    (hsame : SameNodeDefs A fuel (tasks ++ [task])) {c : CpuKernelCache AttrValue}
    (hrun : Lib.run (step A P fuel) (create sessFlag) tasks = some c) {o : Outcome AttrValue}
    (ho : runKernel A P fuel c task = some o) {d : Dispatch} {ctx : CpuKernelContext AttrValue}
    (hhanded : o.handed = some (d, ctx)) :
    ∃ r, task.request A fuel = some (some r) ∧
      ((plain P).served c r.msg = none → freshHanded A P fuel sessFlag task = some (d, ctx)) ∧
      ∀ ref old, (plain P).served c r.msg = some (ref, old) →
        (∃ task₀ ∈ tasks, ∃ r₀ built, task₀.request A fuel = some (some r₀) ∧
          r₀.msg.kernelId = r.msg.kernelId ∧ buildContext P r₀.msg r.nodedef = some built ∧
          built.attrs = ctx.attrs ∧ built.deviceType = ctx.deviceType) ∧
        (∀ d' ctx', freshHanded A P fuel sessFlag task = some (d', ctx') →
          d' = d ∧ AgreeButStale r ctx ctx') ∧
        (freshHanded A P fuel sessFlag task = some (d, ctx) ↔ UpToDate P r old) := by
  by_cases hr : ∃ r, task.request A fuel = some (some r)
  · obtain ⟨r, hr⟩ := hr
    obtain ⟨o', ho', hhanded'⟩ := launch_handed (e := plain P) (c := c) (P := P) hr
    obtain rfl : o' = o := Option.some.inj (ho'.symm.trans ho)
    rw [hhanded, EntryPoint.context] at hhanded'
    refine ⟨r, hr, fun hmiss => ?_, fun ref old hserved => ?_⟩
    · -- a miss builds its context, as on a fresh cache
      rw [hmiss] at hhanded'
      rw [freshHanded_eq hr, hhanded']
      rfl
    · rw [hserved, Option.bind_some] at hhanded'
      unfold EntryPoint.served at hserved
      split_ifs at hserved with hsess
      -- by the run lemma the served context goes back to an earlier call
      have hbuilt : BuiltBy A P fuel tasks r.msg.kernelId old :=
        (holds_run tasks c hrun).cached hserved
      obtain ⟨task₀, hmem, r₀, built, hr₀, hid, hbuild, hframe⟩ :=
        builtBy_nodedef hsame hr hsess hbuilt
      rw [freshHanded_eq hr]
      obtain ⟨hiff, hagree⟩ :=
        handOn_served (fun new hnew => sameTypes_of_built hbuild hframe hnew) hhanded'.symm
      refine ⟨?_, hagree, hiff⟩
      -- `UpdateTensor` leaves attributes and device type alone
      obtain ⟨-, -, hctx⟩ := handOn_eq_some.mp hhanded'.symm
      have hupdated : old.SameFrame ctx := by
        rw [← hctx]
        exact (updateTensor_spec (A := A) (P := P) r.ioAddrs r.msg old).2.1
      exact ⟨task₀, hmem, r₀, built, hr₀, hid, hbuild, hframe.attrs.trans hupdated.attrs,
        hframe.deviceType.trans hupdated.deviceType⟩
  · rw [runKernel_eq, launch_rejected (not_exists.mp hr), Option.map_eq_some_iff] at ho
    obtain ⟨-, -, rfl⟩ := ho
    cases hhanded

/-! ## Two tasks with one kernel id. -/

/-- Every op has a kernel, which succeeds. -/
def bareRuntime : Runtime Int where
  creatorMap _ := some { compute := fun _ => (KERNEL_STATUS_OK, fun _ => []), computeAsync := none }
  setThreadLocalCtx := none

/-- A topic type record with the host bit set. -/
def hostRecord : List UInt8 := [7, 0, 0, 0, 4, 0, 0, 0, 0x80, 0, 0, 0]

/-- Kernel id 7, no tensors, an empty nodedef; on the device ... -/
def deviceTask : Task Int where
  mem := Mem.ofBytes 0x1000 (ExtInfo.sessionRecord 7)
  paramHead := ExtInfo.sessionHead 25
  runtime := bareRuntime

/-- ... and on the host. -/
def hostTask : Task Int where
  mem := Mem.ofBytes 0x1000 (ExtInfo.sessionRecord 7 ++ hostRecord)
  paramHead := ExtInfo.sessionHead 37
  runtime := bareRuntime

/-- The law at a task that is run twice, the second time from the cache. -/
theorem transparent_iff_twice :
    ∃ c o d ctx, Lib.run (step .packed .bare 2) (create true) [deviceTask] = some c ∧
      runKernel .packed .bare 2 c deviceTask = some o ∧ o.handed = some (d, ctx) ∧
      ∃ r, deviceTask.request .packed 2 = some (some r) ∧
        ((plain .bare).served c r.msg = none →
          freshHanded .packed .bare 2 true deviceTask = some (d, ctx)) ∧
        ∀ ref old, (plain .bare).served c r.msg = some (ref, old) →
          (∃ task₀ ∈ [deviceTask], ∃ r₀ built, task₀.request .packed 2 = some (some r₀) ∧
            r₀.msg.kernelId = r.msg.kernelId ∧ buildContext .bare r₀.msg r.nodedef = some built ∧
            built.attrs = ctx.attrs ∧ built.deviceType = ctx.deviceType) ∧
          (∀ d' ctx', freshHanded .packed .bare 2 true deviceTask = some (d', ctx') →
            d' = d ∧ AgreeButStale r ctx ctx') ∧
          (freshHanded .packed .bare 2 true deviceTask = some (d, ctx) ↔ UpToDate .bare r old) := by
  have hsame : SameNodeDefs .packed 2 ([deviceTask] ++ [deviceTask]) := by
    have hall : ∀ task ∈ [deviceTask] ++ [deviceTask], task = deviceTask := by
      intro task h
      simpa using h
    intro task h task' h' r r' hr hr' _ _ _
    rw [hall task h] at hr
    rw [hall task' h', hr] at hr'
    cases hr'
    rfl
  exact ⟨_, _, _, _, rfl, rfl, rfl, transparent_iff hsame rfl rfl rfl⟩

/-- A host task served the context of an earlier device task runs on the device. -/
theorem stale_device_type :
    SameNodeDefs .packed 3 [deviceTask, hostTask] ∧
    ∃ c o, Lib.run (step .packed .bare 3) (create true) [deviceTask] = some c ∧
      runKernel .packed .bare 3 c hostTask = some o ∧
      o.handed.map (fun h => h.2.deviceType) = some .device ∧
      (freshHanded .packed .bare 3 true hostTask).map (fun h => h.2.deviceType) = some .host := by
  have hnodedef : ∀ task ∈ [deviceTask, hostTask], ∀ r, task.request .packed 3 = some (some r) →
      r.nodedef = [] := by
    intro task h r hr
    rcases List.mem_cons.mp h with rfl | h
    · cases hr
      rfl
    · rw [List.mem_singleton.mp h] at hr
      cases hr
      rfl
  refine ⟨?_, _, _, rfl, rfl, rfl, rfl⟩
  intro task h task' h' r r' hr hr' _ _ _
  rw [hnodedef task h r hr, hnodedef task' h' r' hr']

end CpuKernelCache

end HwEfat.Aicpu
