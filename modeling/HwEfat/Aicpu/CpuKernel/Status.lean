/-
  HwEfat.Aicpu.CpuKernel.Status — how `RunKernel` turns statuses into its return
  code.

  Behind the two dispatch paths stands one mapping: `KERNEL_STATUS_END_OF_SEQUENCE`
  is passed on, any other failure is -1.  The asynchronous path comes to it with
  the status of the kernel.  The synchronous path returns -1 by itself as soon as
  the kernel fails, and comes to the mapping with the status of
  `UpdateFWKOutputShape` only, which never is the end of a sequence.

  Main result: `status_law_iff` — the law of the mapping holds of a call exactly
  if it is not a synchronous one whose kernel reports the end of the sequence.
-/
import HwEfat.Aicpu.CpuKernel.Launch
import HwEfat.Aicpu.CpuKernel.ParamBlock

namespace HwEfat.Aicpu

open HwEfat.Lib (Mem)

variable {AttrValue : Type}

namespace CpuKernelCache

variable {A : FwkAdapter} {P : Platform AttrValue} {fuel : Nat}

/-! ## §1. The statuses of a call. -/

/-- What the method of `CpuKernelRegister` returns for the updated context. -/
def kernelStatus (A : FwkAdapter) (P : Platform AttrValue) (task : Task AttrValue) (r : Request)
    (ctx : CpuKernelContext AttrValue) : UInt32 :=
  match dispatch r.msg with
  | .async =>
      (CpuKernelRegister.runCpuKernelAsync task.runtime (updated A P task r ctx) r.msg.waitType
        r.msg.waitId).1
  | .sync => (CpuKernelRegister.runCpuKernel task.runtime (updated A P task r ctx)).1

/-- What `UpdateFWKOutputShape` returns after the kernel. -/
def shapeStatus (A : FwkAdapter) (P : Platform AttrValue) (task : Task AttrValue) (r : Request)
    (ctx : CpuKernelContext AttrValue) : UInt32 :=
  (updateFWKOutputShape A task.mem (updateTensor A P task.mem r.ioAddrs r.msg ctx).2.1
    (leftBehind A P task r ctx)).1

/-- `UpdateFWKOutputShape` succeeds or rejects a descriptor. -/
theorem tensorDescs_status (A : FwkAdapter) (ctx : CpuKernelContext AttrValue) :
    ∀ (descs : List (UInt32 × UInt64)) (mem : Mem),
      (updateFWKOutputShape.tensorDescs A ctx descs mem).1 = KERNEL_STATUS_OK ∨
      (updateFWKOutputShape.tensorDescs A ctx descs mem).1 = KERNEL_STATUS_PARAM_INVALID := by
  intro descs
  induction descs with
  | nil => exact fun mem => Or.inl rfl
  | cons desc rest ih =>
      intro mem
      obtain ⟨index, addr⟩ := desc
      rw [updateFWKOutputShape.tensorDescs]
      cases ctx.outputs[index.toNat]? with
      | none => exact Or.inr rfl
      | some output =>
          dsimp only
          split_ifs
          · exact ih _
          · exact Or.inr rfl

/-- Writing shapes back never ends a sequence. -/
theorem shapeStatus_ne_end (task : Task AttrValue) (r : Request)
    (ctx : CpuKernelContext AttrValue) :
    shapeStatus A P task r ctx ≠ KERNEL_STATUS_END_OF_SEQUENCE := by
  intro h
  rcases tensorDescs_status A (leftBehind A P task r ctx) _ _ with hok | hinvalid
  · exact absurd (hok.symm.trans h) (by decide)
  · exact absurd (hinvalid.symm.trans h) (by decide)

/-! ## §2. The law. -/

/-- One mapping for both paths. -/
structure StatusLaw (A : FwkAdapter) (P : Platform AttrValue) (task : Task AttrValue)
    (r : Request) (ctx : CpuKernelContext AttrValue) (code : Int) : Prop where
  /-- The end of the sequence comes from the kernel and goes to the caller. -/
  endOfSequence : Accepts A P task r ctx →
    kernelStatus A P task r ctx = KERNEL_STATUS_END_OF_SEQUENCE →
    code = KERNEL_STATUS_END_OF_SEQUENCE.toNat
  /-- Every other failure is -1: of `UpdateTensor`, ... -/
  rejected : ¬ Accepts A P task r ctx → code = -1
  /-- ... of the kernel or its launch, ... -/
  failed : Accepts A P task r ctx → kernelStatus A P task r ctx ≠ KERNEL_STATUS_OK →
    kernelStatus A P task r ctx ≠ KERNEL_STATUS_END_OF_SEQUENCE → code = -1
  /-- ... and of `UpdateFWKOutputShape`. -/
  unwritten : Accepts A P task r ctx → kernelStatus A P task r ctx = KERNEL_STATUS_OK →
    dispatch r.msg = .sync → shapeStatus A P task r ctx ≠ KERNEL_STATUS_OK → code = -1
  /-- No failure is reported as success. -/
  success : code = 0 → Accepts A P task r ctx ∧ kernelStatus A P task r ctx = KERNEL_STATUS_OK ∧
    (dispatch r.msg = .sync → shapeStatus A P task r ctx = KERNEL_STATUS_OK)

/-- What the code returns, by the statuses. -/
theorem returnCode_plain (task : Task AttrValue) (r : Request) (ctx : CpuKernelContext AttrValue) :
    returnCode A P (plain P).toCode task r ctx =
      if ¬ Accepts A P task r ctx then -1
      else if dispatch r.msg = .async then (plain P).toCode (kernelStatus A P task r ctx)
      else if kernelStatus A P task r ctx ≠ KERNEL_STATUS_OK then -1
      else (plain P).toCode (shapeStatus A P task r ctx) := by
  unfold returnCode kernelStatus shapeStatus leftBehind dispatch
  by_cases hacc : Accepts A P task r ctx
  · cases r.msg.asyncFlag with
    | true => simp [hacc]
    | false => simp [hacc]
  · simp [hacc]

theorem toCode_end : (plain P).toCode KERNEL_STATUS_END_OF_SEQUENCE = 201 := rfl

/-- Every other status becomes -1. -/
theorem toCode_failure {ret : UInt32} (hok : ret ≠ KERNEL_STATUS_OK)
    (hend : ret ≠ KERNEL_STATUS_END_OF_SEQUENCE) : (plain P).toCode ret = -1 := by
  show (if ret = KERNEL_STATUS_END_OF_SEQUENCE then (ret.toNat : Int)
    else if ret ≠ KERNEL_STATUS_OK then -1 else 0) = -1
  rw [if_neg hend, if_pos hok]

/-- Only success is mapped to 0. -/
theorem toCode_eq_zero {ret : UInt32} (h : (plain P).toCode ret = 0) : ret = KERNEL_STATUS_OK := by
  by_contra hok
  by_cases hend : ret = KERNEL_STATUS_END_OF_SEQUENCE
  · rw [hend, toCode_end] at h
    exact absurd h (by decide)
  · rw [toCode_failure hok hend] at h
    exact absurd h (by decide)

/-- The law of the code that a call with a context returns. -/
theorem statusLaw_returnCode_iff (task : Task AttrValue) (r : Request)
    (ctx : CpuKernelContext AttrValue) :
    StatusLaw A P task r ctx (returnCode A P (plain P).toCode task r ctx) ↔
      ¬ (Accepts A P task r ctx ∧ dispatch r.msg = .sync ∧
        kernelStatus A P task r ctx = KERNEL_STATUS_END_OF_SEQUENCE) := by
  rw [returnCode_plain]
  by_cases hacc : Accepts A P task r ctx
  swap
  · -- rejected by `UpdateTensor`
    rw [if_pos hacc]
    refine ⟨fun _ h => hacc h.1, fun _ => ?_⟩
    exact ⟨fun h => absurd h hacc, fun _ => rfl, fun h => absurd h hacc, fun h => absurd h hacc,
      fun h => absurd h (by decide)⟩
  rw [if_neg (not_not_intro hacc)]
  cases hpath : dispatch r.msg with
  | async =>
      -- the status of the kernel comes to the mapping as it is
      rw [if_pos rfl]
      refine ⟨fun _ h => Dispatch.noConfusion h.2.1, fun _ => ?_⟩
      refine ⟨fun _ hend => ?_, fun h => absurd hacc h, fun _ hok hend => toCode_failure hok hend,
        fun _ _ hsync => ?_, fun hzero => ⟨hacc, toCode_eq_zero hzero, fun hsync => ?_⟩⟩
      · rw [hend]
        rfl
      all_goals
        rw [hpath] at hsync
        exact Dispatch.noConfusion hsync
  | sync =>
      rw [if_neg (by decide)]
      by_cases hok : kernelStatus A P task r ctx = KERNEL_STATUS_OK
      · -- the kernel succeeds, and the mapping gets the status of the shapes
        rw [if_neg (fun h => h hok)]
        refine ⟨fun _ h => absurd (hok.symm.trans h.2.2) (by decide), fun _ => ?_⟩
        refine ⟨fun _ hend => absurd (hok.symm.trans hend) (by decide), fun h => absurd hacc h,
          fun _ h => absurd hok h, fun _ _ _ hshape => ?_, fun hzero => ?_⟩
        · exact toCode_failure hshape (shapeStatus_ne_end task r ctx)
        · exact ⟨hacc, hok, fun _ => toCode_eq_zero hzero⟩
      · -- the kernel fails: -1, whatever its status is
        rw [if_pos hok]
        constructor
        · intro hlaw hend
          exact absurd (hlaw.endOfSequence hacc hend.2.2) (by decide)
        · intro hend
          refine ⟨fun _ h => absurd ⟨hacc, rfl, h⟩ hend, fun h => absurd hacc h,
            fun _ _ _ => rfl, fun _ h => absurd h hok, fun h => absurd h (by decide)⟩

/-! ## §3. `RunKernel`. -/

/-- The code a call returns that has a request and gets a context. -/
theorem launch_code {e : EntryPoint AttrValue} {c : CpuKernelCache AttrValue}
    {task : Task AttrValue} {r : Request} (hr : task.request A fuel = some (some r))
    {ctx : CpuKernelContext AttrValue} (hctx : e.context c r = some ctx) :
    ∃ o, e.launch A P fuel c task = some o ∧ o.code = returnCode A P e.toCode task r ctx := by
  unfold EntryPoint.context at hctx
  -- The context is a cached one, or is built for the call.
  cases hserved : e.served c r.msg with
  | some hit =>
      rw [hserved] at hctx
      obtain ⟨ref, cached⟩ := hit
      obtain rfl : cached = ctx := Option.some.inj hctx
      exact ⟨_, launch_served hr hserved, (execute_spec _ _ task r _ _).1⟩
  | none =>
      rw [hserved] at hctx
      exact ⟨_, launch_built hr hserved hctx, (execute_spec _ _ task r _ _).1⟩

/-- **The status law of `RunKernel`**: a call that gets a context returns what the
mapping makes of its statuses exactly if it is not a synchronous call whose kernel
reports the end of the sequence. -/
theorem status_law_iff {c : CpuKernelCache AttrValue} {task : Task AttrValue} {r : Request}
    {ctx : CpuKernelContext AttrValue} {o : Outcome AttrValue}
    (hr : task.request A fuel = some (some r)) (hctx : (plain P).context c r = some ctx)
    (ho : runKernel A P fuel c task = some o) :
    StatusLaw A P task r ctx o.code ↔
      ¬ (Accepts A P task r ctx ∧ dispatch r.msg = .sync ∧
        kernelStatus A P task r ctx = KERNEL_STATUS_END_OF_SEQUENCE) := by
  obtain ⟨o', ho', hcode⟩ := launch_code (P := P) hr hctx
  rw [runKernel_eq, ho', Option.some.injEq] at ho
  rw [← ho, hcode]
  exact statusLaw_returnCode_iff task r ctx

/-- Every op has a kernel, which reports this status. -/
def runtimeOf (status : UInt32) : Runtime Int where
  creatorMap _ := some { compute := fun _ => (status, fun _ => []), computeAsync := none }
  setThreadLocalCtx := none

/-- A synchronous call of that kernel: no tensors, no extend info, an empty nodedef. -/
def taskOf (status : UInt32) : Task Int where
  mem := fun _ => 0
  paramHead := bareBlock
  runtime := runtimeOf status

/-- What it asks for, ... -/
def bareRequest : Request := ⟨[], [], ExtInfoMsg.new⟩

/-- ... and the context it gets. -/
def bareContext : CpuKernelContext Int where
  op := ""
  deviceType := .device
  inputs := []
  outputs := []
  attrs := Function.update (Function.update (fun _ => none) "wait_type" (some 0)) "wait_id" (some 0)

theorem request_ok : (taskOf KERNEL_STATUS_OK).request .packed 1 = some (some bareRequest) := rfl

theorem request_end :
    (taskOf KERNEL_STATUS_END_OF_SEQUENCE).request .packed 1 = some (some bareRequest) := rfl

theorem context_bareRequest :
    (plain .bare).context (create true) bareRequest = some bareContext := rfl

/-- `status_law_iff` of a kernel that succeeds. -/
theorem status_law_iff_ok : ∃ o,
    runKernel .packed .bare 1 (create true) (taskOf KERNEL_STATUS_OK) = some o ∧
    (StatusLaw .packed .bare (taskOf KERNEL_STATUS_OK) bareRequest bareContext o.code ↔
      ¬ (Accepts .packed .bare (taskOf KERNEL_STATUS_OK) bareRequest bareContext ∧
        dispatch bareRequest.msg = .sync ∧
        kernelStatus .packed .bare (taskOf KERNEL_STATUS_OK) bareRequest bareContext =
          KERNEL_STATUS_END_OF_SEQUENCE)) := by
  obtain ⟨o, ho, -⟩ := launch_code (A := .packed) (P := .bare) request_ok
    context_bareRequest
  exact ⟨o, ho, status_law_iff request_ok context_bareRequest ho⟩

/-- A kernel that reports the end of the sequence, run synchronously: -1. -/
theorem sync_end_of_sequence : ¬ ∀ o,
    runKernel .packed .bare 1 (create true) (taskOf KERNEL_STATUS_END_OF_SEQUENCE) = some o →
    StatusLaw .packed .bare (taskOf KERNEL_STATUS_END_OF_SEQUENCE) bareRequest bareContext
      o.code := by
  intro h
  obtain ⟨o, ho, hcode⟩ := launch_code (A := .packed) (P := .bare)
    request_end context_bareRequest
  have hlaw := (h o ho).endOfSequence (by decide +kernel) (by decide +kernel)
  have hminus : o.code = -1 := by
    rw [hcode]
    decide +kernel
  rw [hminus] at hlaw
  exact absurd hlaw (by decide)

end CpuKernelCache

end HwEfat.Aicpu
