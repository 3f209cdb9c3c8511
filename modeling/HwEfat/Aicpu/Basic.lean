/-
  HwEfat.Aicpu.Basic — status codes (`status.h`) and the block record of a
  blocked launch (`device_cpu_kernel.h`).
-/

namespace HwEfat.Aicpu

/-! 0-3 is fixed error code, runtime need interprete 0-3 error codes -/

def KERNEL_STATUS_OK : UInt32 := 0
def KERNEL_STATUS_PARAM_INVALID : UInt32 := 1
def KERNEL_STATUS_INNER_ERROR : UInt32 := 2
def KERNEL_STATUS_END_OF_SEQUENCE : UInt32 := 201

/-- The number of blocks, and which one this is. -/
structure BlkDimInfo where
  blockNum : UInt32
  blockId : UInt32
  deriving Repr, DecidableEq

end HwEfat.Aicpu
