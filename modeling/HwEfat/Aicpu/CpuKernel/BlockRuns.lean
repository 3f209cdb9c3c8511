/-
  HwEfat.Aicpu.CpuKernel.BlockRuns — runs that mix `RunKernel` and
  `RunCpuKernelWithBlock` on one cache.

  With a `blockNum` other than 1 a call skips the lookup, yet still caches the context
  it specialised to its block.  `unblocked_iff` says exactly in which runs no context
  served from the cache carries block attributes.
-/
import HwEfat.Aicpu.CpuKernel.Transparency

namespace HwEfat.Aicpu

namespace CpuKernelCache

variable {AttrValue : Type} {A : FwkAdapter} {P : Platform AttrValue} {fuel : Nat}

/-! ## §1. Runs of both entry points. -/

/-- A call of one of the two entry points. -/
inductive Call (AttrValue : Type) where
  | runKernel (task : Task AttrValue)
  | runCpuKernelWithBlock (blkdimInfo : BlkDimInfo) (task : Task AttrValue)

/-- The task of a call. -/
def Call.task : Call AttrValue → Task AttrValue
  | .runKernel task => task
  | .runCpuKernelWithBlock _ task => task

/-- The entry point of a call. -/
def Call.entry (P : Platform AttrValue) : Call AttrValue → EntryPoint AttrValue
  | .runKernel _ => plain P
  | .runCpuKernelWithBlock blkdimInfo _ => blocked P blkdimInfo

/-- The cache after a call. -/
def callStep (A : FwkAdapter) (P : Platform AttrValue) (fuel : Nat)
    (c : CpuKernelCache AttrValue) : Call AttrValue → Option (CpuKernelCache AttrValue)
  | .runKernel task => (CpuKernelCache.runKernel A P fuel c task).map Outcome.cache
  | .runCpuKernelWithBlock blkdimInfo task =>
      (CpuKernelCache.runCpuKernelWithBlock A P fuel blkdimInfo c task).map Outcome.cache

/-- A call is a launch through its entry point, of which the cache is kept. -/
theorem callStep_eq (c : CpuKernelCache AttrValue) (call : Call AttrValue) :
    callStep A P fuel c call =
      ((call.entry P).launch A P fuel c call.task).map Outcome.cache := by
  cases call <;> rfl

/-- The cached context that a call is served. -/
def Serves (A : FwkAdapter) (P : Platform AttrValue) (fuel : Nat) (c : CpuKernelCache AttrValue)
    (call : Call AttrValue) (ctx : CpuKernelContext AttrValue) : Prop :=
  ∃ r ref, call.task.request A fuel = some (some r) ∧
    (call.entry P).served c r.msg = some (ref, ctx)

/-- A context has the two attributes about blocks. -/
def HasBlockAttrs (ctx : CpuKernelContext AttrValue) : Prop :=
  (ctx.attrs "block_num").isSome ∨ (ctx.attrs "block_id").isSome

/-- A call for one block of several. -/
def Call.Specialised : Call AttrValue → Prop
  | .runKernel _ => False
  | .runCpuKernelWithBlock blkdimInfo _ => blkdimInfo.blockNum ≠ 1

/-- The call names a session, is not served from the cache, can build its context,
and is for one block of several or has a nodedef that names block attributes. -/
def CachesBlock (A : FwkAdapter) (P : Platform AttrValue) (fuel : Nat)
    (c : CpuKernelCache AttrValue) (call : Call AttrValue) : Prop :=
  ∃ r nd, call.task.request A fuel = some (some r) ∧ r.msg.hasSessInfo = true ∧
    (call.entry P).served c r.msg = none ∧ P.parseFromString r.nodedef = some nd ∧
    ((call.entry P).build r.msg r.nodedef).isSome ∧
    (call.Specialised ∨ "block_num" ∈ nd.attrs.map Prod.fst ∨ "block_id" ∈ nd.attrs.map Prod.fst)

/-! ## §2. Which calls put block attributes into the cache. -/

/-- Which builds have block attributes. -/
theorem hasBlockAttrs_build (call : Call AttrValue) {msg : ExtInfoMsg} {nodedef : List UInt8}
    {nd : NodeDef AttrValue} {ctx : CpuKernelContext AttrValue}
    (hparse : P.parseFromString nodedef = some nd)
    (hbuild : (call.entry P).build msg nodedef = some ctx) :
    HasBlockAttrs ctx ↔
      (call.Specialised ∨ "block_num" ∈ nd.attrs.map Prod.fst ∨
        "block_id" ∈ nd.attrs.map Prod.fst) := by
  have hnum : "block_num" ≠ "wait_id" ∧ "block_num" ≠ "wait_type" := by decide
  have hid : "block_id" ≠ "wait_id" ∧ "block_id" ≠ "wait_type" := by decide
  unfold HasBlockAttrs
  cases call with
  | runKernel task =>
      have hbuild' : buildContext P msg nodedef = some ctx := hbuild
      rw [buildContext_eq, hparse, Option.bind_some, Lib.toOption_eq_some] at hbuild'
      rw [CpuKernelContext.init_attrs_isSome hbuild', CpuKernelContext.init_attrs_isSome hbuild']
      -- `RunKernel` adds two attributes of other names
      unfold withWait
      rw [P.mem_addAttrs, P.mem_addAttrs, P.mem_addAttrs, P.mem_addAttrs, or_iff_right hnum.1,
        or_iff_right hnum.2, or_iff_right hid.1, or_iff_right hid.2]
      exact (or_iff_right id).symm
  | runCpuKernelWithBlock blkdimInfo task =>
      have hbuild' : buildContextWithBlock P blkdimInfo nodedef = some ctx := hbuild
      rw [buildContextWithBlock_eq, hparse, Option.bind_some, Lib.toOption_eq_some]
        at hbuild'
      rw [CpuKernelContext.init_attrs_isSome hbuild', CpuKernelContext.init_attrs_isSome hbuild']
      show _ ↔ (blkdimInfo.blockNum ≠ 1 ∨ _)
      unfold withBlock
      by_cases hone : blkdimInfo.blockNum ≠ 1
      · rw [if_pos hone]
        refine iff_of_true (Or.inr ?_) (Or.inl hone)
        rw [P.mem_addAttrs]
        exact Or.inl rfl
      · rw [if_neg hone]
        exact (or_iff_right hone).symm

/-- A call inserts a context with block attributes exactly if it meets the
condition. -/
theorem cachesBlock_iff (c : CpuKernelCache AttrValue) (call : Call AttrValue) :
    CachesBlock A P fuel c call ↔ ∃ r ctx, call.task.request A fuel = some (some r) ∧
      (call.entry P).inserted c r = some ctx ∧ HasBlockAttrs ctx := by
  constructor
  · rintro ⟨r, nd, hr, hsess, hserved, hparse, hbuild, hblock⟩
    obtain ⟨ctx, hctx⟩ := Option.isSome_iff_exists.mp hbuild
    refine ⟨r, ctx, hr, ?_, (hasBlockAttrs_build call hparse hctx).mpr hblock⟩
    rw [EntryPoint.inserted, if_pos ⟨hsess, hserved⟩, hctx]
  · rintro ⟨r, ctx, hr, hins, hblock⟩
    unfold EntryPoint.inserted at hins
    split_ifs at hins with hcond
    -- a context is built from a nodedef that parses
    obtain ⟨nd, hparse⟩ : ∃ nd, P.parseFromString r.nodedef = some nd := by
      have hfrom : FromNodeDef P r.nodedef ctx := by
        cases call with
        | runKernel task => exact fromNodeDef_buildContext hins
        | runCpuKernelWithBlock blkdimInfo task => exact fromNodeDef_withBlock hins
      obtain ⟨nd, -, -, hparse, -⟩ := hfrom
      exact ⟨nd, hparse⟩
    refine ⟨r, nd, hr, hcond.1, hcond.2, hparse, ?_, (hasBlockAttrs_build call hparse hins).mp hblock⟩
    rw [hins]
    rfl

/-! ## §3. Runs. -/

/-- The step lemma: a call that does not meet the condition keeps block attributes
out of the cache. -/
theorem holds_callStep {c c' : CpuKernelCache AttrValue} {call : Call AttrValue}
    (h : c.Holds fun _ ctx => ¬ HasBlockAttrs ctx) (hcall : ¬ CachesBlock A P fuel c call)
    (hstep : callStep A P fuel c call = some c') : c'.Holds fun _ ctx => ¬ HasBlockAttrs ctx := by
  rw [callStep_eq, Option.map_eq_some_iff] at hstep
  obtain ⟨o, ho, rfl⟩ := hstep
  obtain ⟨request, hrequest, hstep⟩ := cacheStep_of_launch ho
  refine holds_cacheStep ?_ h ?_ hstep
  · intro _ ctx ctx' hframe hctx
    unfold HasBlockAttrs
    rwa [← hframe.attrs]
  · intro r ctx hr hins hblock
    rw [hr] at hrequest
    exact hcall ((cachesBlock_iff c call).mpr ⟨r, ctx, hrequest, hins, hblock⟩)

/-- **In which runs no served context carries block attributes.**  In every run from
a fresh cache, in either mode, after every prefix and for whatever call comes next:
exactly if no call of the run meets `CachesBlock` in the state it starts from. -/
theorem unblocked_iff (sessFlag : Bool) (calls : List (Call AttrValue)) :
    (∀ pre, pre <+: calls → ∀ c, Lib.run (callStep A P fuel) (create sessFlag) pre = some c →
      ∀ call ctx, Serves A P fuel c call ctx → ¬ HasBlockAttrs ctx) ↔
    ∀ pre call, pre ++ [call] <+: calls → ∀ c,
      Lib.run (callStep A P fuel) (create sessFlag) pre = some c →
        ¬ CachesBlock A P fuel c call := by
  constructor
  · intro h pre call hpre c hrun hcaches
    obtain ⟨r, ctx, hr, hins, hblock⟩ := (cachesBlock_iff c call).mp hcaches
    obtain ⟨o, ref, left, ho, hcached, hframe⟩ :=
      cached_of_inserted (A := A) (P := P) (e := call.entry P) hr hins
    have hrun' : Lib.run (callStep A P fuel) (create sessFlag) (pre ++ [call]) = some o.cache := by
      rw [Lib.run_snoc, hrun, Option.bind_some, callStep_eq, ho]
      rfl
    have hsess : r.msg.hasSessInfo = true := by
      unfold EntryPoint.inserted at hins
      split_ifs at hins with hcond
      exact hcond.1
    -- the same task, run by `RunKernel`, is served what the call has inserted
    have hserves : Serves A P fuel o.cache (.runKernel call.task) left := by
      refine ⟨r, ref, hr, ?_⟩
      have hlookup : (plain P).lookup r.msg = true := hsess
      show (plain P).served o.cache r.msg = _
      rw [EntryPoint.served, if_pos hlookup, hcached]
    refine h _ hpre o.cache hrun' _ left hserves ?_
    unfold HasBlockAttrs at hblock ⊢
    rwa [← hframe.attrs]
  · intro h
    -- the step lemma along every prefix
    have hinv : ∀ pre c, Lib.run (callStep A P fuel) (create sessFlag) pre = some c →
        pre <+: calls → c.Holds fun _ ctx => ¬ HasBlockAttrs ctx := by
      refine Lib.run_induct
        (P := fun pre (c : CpuKernelCache AttrValue) =>
          pre <+: calls → c.Holds fun _ ctx => ¬ HasBlockAttrs ctx) ?_ ?_
      · exact fun _ => holds_create sessFlag _
      · intro pre c call c' hrun hpre hstep hpre'
        have hshort : pre <+: calls := (List.prefix_append pre [call]).trans hpre'
        exact holds_callStep (hpre hshort) (h pre call hpre' c hrun) hstep
    intro pre hpre c hrun call ctx ⟨r, ref, _, hserved⟩
    unfold EntryPoint.served at hserved
    split_ifs at hserved
    exact (hinv pre c hrun hpre).cached hserved

/-- A launch of block 0 of 2, then a plain one of the same task: it is served the
context of the block. -/
theorem served_block_context :
    ∃ c ctx, Lib.run (callStep .packed .bare 2) (create true)
        [.runCpuKernelWithBlock ⟨2, 0⟩ deviceTask] = some c ∧
      Serves .packed .bare 2 c (.runKernel deviceTask) ctx ∧ ctx.attrs "block_num" = some 2 ∧
      ((runKernel .packed .bare 2 c deviceTask).bind Outcome.handed).map
        (fun h => h.2.attrs "block_num") = some (some 2) := by
  exact ⟨_, _, rfl, ⟨_, _, rfl, rfl⟩, rfl, rfl⟩

end CpuKernelCache

end HwEfat.Aicpu
