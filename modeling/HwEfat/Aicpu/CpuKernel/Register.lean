/-
  HwEfat.Aicpu.CpuKernel.Register — `CpuKernelRegister` of
  `cpu_kernel_register.cc`: look a kernel up by op type and run it on a context.

  What a kernel computes is given by the runtime of the call: a status, and the
  output shapes it writes into its own context.  The completion callback of an
  asynchronous kernel runs after the call has returned; it touches neither the
  context nor the cache, and is not part of the call.
-/
import Mathlib.Tactic.SplitIfs
import HwEfat.Aicpu.CpuKernel.Context

namespace HwEfat.Aicpu

variable {AttrValue : Type}

/-- A registered `CpuKernel`; `computeAsync` is `none` when it is no
`AsyncCpuKernel`. -/
structure Kernel (AttrValue : Type) where
  compute : CpuKernelContext AttrValue → UInt32 × (Nat → List Int64)
  computeAsync : Option (CpuKernelContext AttrValue → UInt32 × (Nat → List Int64))

/-- The keys of the thread local context. -/
inductive ContextKey where
  | opName
  | waitType
  | waitId
  deriving Repr, DecidableEq

/-- The process around a call.  `setThreadLocalCtx` is a weak symbol: `none` when
it is not linked, else whether setting a key succeeds. -/
structure Runtime (AttrValue : Type) where
  creatorMap : String → Option (Kernel AttrValue)
  setThreadLocalCtx : Option (ContextKey → String → Bool)

namespace CpuKernelRegister

/-- `SetThreadLocalCtx`: only some keys can be set. -/
def setThreadLocal (R : Runtime AttrValue) (key : ContextKey) (value : String) : Bool :=
  match R.setThreadLocalCtx with
  | none => true
  | some set => set key value

/-- `RunCpuKernel`: the status, and the context after the kernel. -/
def runCpuKernel (R : Runtime AttrValue) (ctx : CpuKernelContext AttrValue) :
    UInt32 × CpuKernelContext AttrValue :=
  match R.creatorMap ctx.op with
  | none => (KERNEL_STATUS_INNER_ERROR, ctx)
  | some kernel =>
      if !setThreadLocal R .opName ctx.op then (KERNEL_STATUS_INNER_ERROR, ctx)
      else
        let (ret, dims) := kernel.compute ctx
        (ret, ctx.setOutputDims dims)

/-- `RunCpuKernelAsync`. -/
def runCpuKernelAsync (R : Runtime AttrValue) (ctx : CpuKernelContext AttrValue)
    (waitType : UInt8) (waitId : UInt32) : UInt32 × CpuKernelContext AttrValue :=
  match R.creatorMap ctx.op with
  | none => (KERNEL_STATUS_INNER_ERROR, ctx)
  | some kernel =>
      match kernel.computeAsync with
      | none => (KERNEL_STATUS_INNER_ERROR, ctx)
      | some computeAsync =>
          if !setThreadLocal R .opName ctx.op then (KERNEL_STATUS_INNER_ERROR, ctx)
          else if !setThreadLocal R .waitType (toString waitType.toNat) then
            (KERNEL_STATUS_INNER_ERROR, ctx)
          else if !setThreadLocal R .waitId (toString waitId.toNat) then
            (KERNEL_STATUS_INNER_ERROR, ctx)
          else
            let (ret, dims) := computeAsync ctx
            (ret, ctx.setOutputDims dims)

/-- A kernel changes the dims of its outputs at most. -/
theorem sameFrame_runCpuKernel (R : Runtime AttrValue) (ctx : CpuKernelContext AttrValue) :
    ctx.SameFrame (runCpuKernel R ctx).2 := by
  unfold runCpuKernel
  cases R.creatorMap ctx.op with
  | none => exact .refl ctx
  | some kernel =>
      simp only
      split_ifs
      · exact .refl ctx
      · exact ctx.sameFrame_setOutputDims _

/-- A kernel changes dimensions only, as far as the context goes. -/
theorem sameFrame_runCpuKernelAsync (R : Runtime AttrValue) (ctx : CpuKernelContext AttrValue)
    (waitType : UInt8) (waitId : UInt32) :
    ctx.SameFrame (runCpuKernelAsync R ctx waitType waitId).2 := by
  unfold runCpuKernelAsync
  cases R.creatorMap ctx.op with
  | none => exact .refl ctx
  | some kernel =>
      cases hasync : kernel.computeAsync with
      | none =>
          simp only [hasync]
          exact .refl ctx
      | some computeAsync =>
          simp only [hasync]
          split_ifs
          · exact .refl ctx
          · exact .refl ctx
          · exact .refl ctx
          · exact ctx.sameFrame_setOutputDims _

end CpuKernelRegister

end HwEfat.Aicpu
