/-
  HwEfat.Aicpu.AsyncCpuKernel — `AsyncCpuKernel` of `async_cpu_kernel.cc`: one kernel
  that can be run in two ways.

  An asynchronous kernel has two things to report, the status `ComputeAsync` returns
  and the status it calls `done` with, once, before it returns or any time later.
  `RunCpuKernelAsync` passes both on: the one is its own return value, the other the
  `retCode` of `NotifyWait`.  Run synchronously, the kernel gets a callback that wakes
  `Compute` up (`Notification` is the module on that) and looks at nothing; `Compute`
  returns the first status and loses the second.

  Main result: `outcome_reported_iff` — the synchronous run reports what the
  asynchronous one does exactly if the completion succeeds or the launch fails.
-/
import HwEfat.Aicpu.CpuKernel.Register

namespace HwEfat.Aicpu

variable {AttrValue : Type}

/-! ## §1. A kernel and its two statuses. -/

/-- What one call of `ComputeAsync` comes to: the status it returns, the status it calls
`done` with, whether it does so before it returns, and the output shapes it writes. -/
structure AsyncRun where
  launch : UInt32
  completion : UInt32
  doneFirst : Bool
  dims : Nat → List Int64

/-- An asynchronous kernel, by what a call of `ComputeAsync` comes to. -/
structure AsyncCpuKernel (AttrValue : Type) where
  computeAsync : CpuKernelContext AttrValue → AsyncRun

namespace AsyncCpuKernel

/-- What the caller of `ComputeAsync` gets to see. -/
inductive Event where
  | returned (status : UInt32)
  | done (status : UInt32)
  deriving Repr, DecidableEq

/-- In this order. -/
def events (r : AsyncRun) : List Event :=
  if r.doneFirst then [.done r.completion, .returned r.launch]
  else [.returned r.launch, .done r.completion]

/-! ## §2. `Compute`. -/

/-- The frame of `Compute`: `ret`, once it is assigned, and the notification. -/
structure Frame where
  ret : Option UInt32
  notified : Bool

/-- The callback is `[&n](uint32_t status) { n.Notify(); }`. -/
def Frame.on (f : Frame) : Event → Frame
  | .returned status => { f with ret := some status }
  | .done _ => { f with notified := true }

/-- `n.WaitForNotification(); return ret;` -- `none` as long as this blocks. -/
def Frame.returns (f : Frame) : Option UInt32 := if f.notified then f.ret else none

/-- Where a run stands after all its events. -/
def runFrame (r : AsyncRun) : Frame := (events r).foldl Frame.on ⟨none, false⟩

/-- `Compute` returns, with the launch status. -/
theorem returns_runFrame (r : AsyncRun) : (runFrame r).returns = some r.launch := by
  unfold runFrame events
  cases r.doneFirst <;> rfl

/-- `AsyncCpuKernel::Compute` -/
def compute (k : AsyncCpuKernel AttrValue) (ctx : CpuKernelContext AttrValue) : UInt32 :=
  (runFrame (k.computeAsync ctx)).returns.get (by rw [returns_runFrame]; rfl)

/-- `Compute` returns the status of the launch, not that of the completion. -/
theorem compute_eq (k : AsyncCpuKernel AttrValue) (ctx : CpuKernelContext AttrValue) :
    k.compute ctx = (k.computeAsync ctx).launch := by
  unfold compute
  simp only [returns_runFrame, Option.get_some]

/-- The kernel as it is registered. -/
def toKernel (k : AsyncCpuKernel AttrValue) : Kernel AttrValue where
  compute ctx := (k.compute ctx, (k.computeAsync ctx).dims)
  computeAsync := some fun ctx => ((k.computeAsync ctx).launch, (k.computeAsync ctx).dims)

end AsyncCpuKernel

/-! ## §3. The callback of `RunCpuKernelAsync`. -/

/-- What `NotifyWait` is told of an event that somebody waits for. -/
structure AsyncNotifyInfo where
  waitType : UInt8
  waitId : UInt32
  retCode : UInt32
  deriving Repr, DecidableEq

namespace CpuKernelRegister

open AsyncCpuKernel (Event events)

/-- The lambda `done`; `cb` is what the callback `cb()` returns, by which the caller
writes the output shapes. -/
def done (waitType : UInt8) (waitId : UInt32) (cb : UInt32) (status : UInt32) : AsyncNotifyInfo :=
  let status := if status = KERNEL_STATUS_OK then cb else status
  { waitType := waitType, waitId := waitId, retCode := status }

/-- The calls of `NotifyWait`. -/
def notifyWaits (waitType : UInt8) (waitId : UInt32) (cb : UInt32) (r : AsyncRun) :
    List AsyncNotifyInfo :=
  (events r).filterMap fun
    | .done status => some (done waitType waitId cb status)
    | .returned _ => none

/-- There is one. -/
theorem notifyWaits_eq (waitType : UInt8) (waitId : UInt32) (cb : UInt32) (r : AsyncRun) :
    notifyWaits waitType waitId cb r = [done waitType waitId cb r.completion] := by
  unfold notifyWaits events
  cases r.doneFirst <;> rfl

/-- When the shapes can be written, `retCode` is a success exactly if the completion is. -/
theorem retCode_done (waitType : UInt8) (waitId : UInt32) {cb : UInt32} (status : UInt32)
    (hcb : cb = KERNEL_STATUS_OK) :
    (done waitType waitId cb status).retCode = KERNEL_STATUS_OK ↔ status = KERNEL_STATUS_OK := by
  show (if status = KERNEL_STATUS_OK then cb else status) = KERNEL_STATUS_OK ↔ _
  by_cases h : status = KERNEL_STATUS_OK
  · rw [if_pos h]
    exact ⟨fun _ => h, fun _ => hcb⟩
  · rw [if_neg h]

section Modes

variable {R : Runtime AttrValue} {k : AsyncCpuKernel AttrValue} {ctx : CpuKernelContext AttrValue}

/-- `RunCpuKernel` on an asynchronous kernel returns its launch status. -/
theorem runCpuKernel_async (hreg : R.creatorMap ctx.op = some k.toKernel)
    (hset : ∀ key value, setThreadLocal R key value = true) :
    (runCpuKernel R ctx).1 = (k.computeAsync ctx).launch := by
  unfold runCpuKernel
  rw [hreg]
  simp only [hset, Bool.not_true, Bool.false_eq_true, if_false]
  exact k.compute_eq ctx

/-- So does `RunCpuKernelAsync`. -/
theorem runCpuKernelAsync_async (hreg : R.creatorMap ctx.op = some k.toKernel)
    (hset : ∀ key value, setThreadLocal R key value = true) (waitType : UInt8)
    (waitId : UInt32) :
    (runCpuKernelAsync R ctx waitType waitId).1 = (k.computeAsync ctx).launch := by
  unfold runCpuKernelAsync
  rw [hreg]
  simp only [AsyncCpuKernel.toKernel, hset, Bool.not_true, Bool.false_eq_true, if_false]

/-- The asynchronous path reports a success: by its return value, and to whoever waits. -/
def AsyncSucceeds (R : Runtime AttrValue) (k : AsyncCpuKernel AttrValue)
    (ctx : CpuKernelContext AttrValue) (waitType : UInt8) (waitId : UInt32) (cb : UInt32) : Prop :=
  (runCpuKernelAsync R ctx waitType waitId).1 = KERNEL_STATUS_OK ∧
    ∀ info ∈ notifyWaits waitType waitId cb (k.computeAsync ctx), info.retCode = KERNEL_STATUS_OK

/-- **The asynchronous path reports the outcome**: launched and completed. -/
theorem asyncSucceeds_iff (hreg : R.creatorMap ctx.op = some k.toKernel)
    (hset : ∀ key value, setThreadLocal R key value = true) (waitType : UInt8)
    (waitId : UInt32) {cb : UInt32} (hcb : cb = KERNEL_STATUS_OK) :
    AsyncSucceeds R k ctx waitType waitId cb ↔
      (k.computeAsync ctx).launch = KERNEL_STATUS_OK ∧
        (k.computeAsync ctx).completion = KERNEL_STATUS_OK := by
  unfold AsyncSucceeds
  rw [runCpuKernelAsync_async hreg hset, notifyWaits_eq, List.forall_mem_singleton,
    retCode_done _ _ _ hcb]

/-- The synchronous run reports the outcome of the kernel, the same as the asynchronous
one. -/
structure OutcomeReported (R : Runtime AttrValue) (k : AsyncCpuKernel AttrValue)
    (ctx : CpuKernelContext AttrValue) (waitType : UInt8) (waitId : UInt32) (cb : UInt32) :
    Prop where
  failure : (k.computeAsync ctx).completion ≠ KERNEL_STATUS_OK →
    (runCpuKernel R ctx).1 ≠ KERNEL_STATUS_OK
  outcome : (runCpuKernel R ctx).1 = KERNEL_STATUS_OK ↔
    (k.computeAsync ctx).launch = KERNEL_STATUS_OK ∧
      (k.computeAsync ctx).completion = KERNEL_STATUS_OK
  modes : cb = KERNEL_STATUS_OK → ((runCpuKernel R ctx).1 = KERNEL_STATUS_OK ↔
    AsyncSucceeds R k ctx waitType waitId cb)

/-- **When a synchronous run reports the outcome of its kernel**: exactly if the
completion succeeds, or the launch has failed already. -/
theorem outcome_reported_iff (hreg : R.creatorMap ctx.op = some k.toKernel)
    (hset : ∀ key value, setThreadLocal R key value = true) (waitType : UInt8)
    (waitId : UInt32) (cb : UInt32) :
    OutcomeReported R k ctx waitType waitId cb ↔
      (k.computeAsync ctx).completion = KERNEL_STATUS_OK ∨
        (k.computeAsync ctx).launch ≠ KERNEL_STATUS_OK := by
  have hsync := runCpuKernel_async hreg hset
  constructor
  · intro h
    -- A completion that fails after a launch is lost.
    by_contra hlost
    rw [not_or, not_not] at hlost
    exact h.failure hlost.1 (hsync.trans hlost.2)
  · intro h
    -- Otherwise the launch status is the outcome.
    have houtcome : (runCpuKernel R ctx).1 = KERNEL_STATUS_OK ↔
        (k.computeAsync ctx).launch = KERNEL_STATUS_OK ∧
          (k.computeAsync ctx).completion = KERNEL_STATUS_OK := by
      rw [hsync]
      constructor
      · intro hlaunch
        exact ⟨hlaunch, h.resolve_right (not_not_intro hlaunch)⟩
      · exact fun hboth => hboth.1
    exact
      { failure := fun hfail hok => hfail (houtcome.mp hok).2
        outcome := houtcome
        modes := fun hcb => houtcome.trans (asyncSucceeds_iff hreg hset waitType waitId hcb).symm }

end Modes

/-! ## Kernels with fixed statuses. -/

/-- It calls `done` before it returns. -/
def kernelOf (launch completion : UInt32) : AsyncCpuKernel Int where
  computeAsync _ := ⟨launch, completion, true, fun _ => []⟩

def asyncRuntimeOf (launch completion : UInt32) : Runtime Int where
  creatorMap _ := some (kernelOf launch completion).toKernel
  setThreadLocalCtx := none

def emptyCtx : CpuKernelContext Int :=
  { op := "", deviceType := .device, inputs := [], outputs := [], attrs := fun _ => none }

/-- `outcome_reported_iff` of a kernel that succeeds. -/
theorem outcome_reported_iff_ok :
    OutcomeReported (asyncRuntimeOf 0 0) (kernelOf 0 0) emptyCtx 0 0 0 ↔
      ((kernelOf 0 0).computeAsync emptyCtx).completion = KERNEL_STATUS_OK ∨
        ((kernelOf 0 0).computeAsync emptyCtx).launch ≠ KERNEL_STATUS_OK :=
  outcome_reported_iff rfl (fun _ _ => rfl) 0 0 0

/-- A kernel that is launched and then fails: a success, run synchronously. -/
theorem failed_completion_lost :
    ¬ OutcomeReported (asyncRuntimeOf KERNEL_STATUS_OK KERNEL_STATUS_INNER_ERROR)
      (kernelOf KERNEL_STATUS_OK KERNEL_STATUS_INNER_ERROR) emptyCtx 0 0 0 := by
  intro h
  exact h.failure (by decide) (by decide +kernel)

end CpuKernelRegister

end HwEfat.Aicpu
