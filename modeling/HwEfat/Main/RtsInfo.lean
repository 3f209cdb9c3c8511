/-
  HwEfat.Main.RtsInfo — the tables of the runtime: `rts_info.py`.

  A code of the runtime is a magic number, a type and a code of that type.  The table of
  the codes has a name for every code of a type, from 0 on.
-/
import HwEfat.Lib.Python

namespace HwEfat.Main

namespace RtsInfo

/-! ## §1. Handles. -/

def MAGIC_MAP : List (String × Nat) :=
  [("RT_DEV_BINARY_MAGIC_ELF_AIVEC", 0x41415246), ("RT_DEV_BINARY_MAGIC_ELF_AIVECTOR", 0x41415246),
    ("RT_DEV_BINARY_MAGIC_ELF", 0x43554245), ("RT_DEV_BINARY_MAGIC_ELF_AICPU", 0x41415243),
    ("RT_DEV_BINARY_MAGIC_PLAIN_AIVEC", 0xabceed52),
    ("RT_DEV_BINARY_MAGIC_PLAIN_AICPU", 0xabceed51), ("RT_DEV_BINARY_MAGIC_PLAIN", 0xabceed50),
    ("RT_DEV_BINARY_MAGIC_ELF_AICUBE", 0x41494343)]

def RT_CONTEXT_MODE : List (String × Nat) := [("RT_CTX_NORMAL_MODE", 0), ("RT_CTX_GEN_MODE", 1)]

/-! ## §2. Codes. -/

def RT_ERROR_CODE_DICT : List (Nat × List String) :=
  [(0x00000000, ["RT_ERROR_UNKNOWN_UNKNOWN0", "RT_ERROR_UNKNOWN_UNKNOWN1",
      "RT_ERROR_UNKNOWN_UNKNOWN2", "RT_ERROR_UNKNOWN_UNKNOWN3", "RT_ERROR_UNKNOWN_UNKNOWN4",
      "RT_ERROR_UNKNOWN_UNKNOWN5", "RT_ERROR_UNKNOWN_UNKNOWN6", "RT_ERROR_UNKNOWN_UNKNOWN7",
      "RT_ERROR_UNKNOWN_UNKNOWN8", "RT_ERROR_UNKNOWN_UNKNOWN9", "RT_ERROR_UNKNOWN_UNKNOWNA",
      "RT_ERROR_UNKNOWN_UNKNOWNB", "RT_ERROR_UNKNOWN_UNKNOWNC", "RT_ERROR_UNKNOWN_UNKNOWND",
      "RT_ERROR_UNKNOWN_UNKNOWNE", "RT_ERROR_UNKNOWN_UNKNOWNF"]),
    (0x00010000, ["RT_ERROR_DEVICE_BASE", "RT_ERROR_DEVICE_NULL", "RT_ERROR_DEVICE_NEW",
      "RT_ERROR_DEVICE_ID", "RT_ERROR_DEVICE_CHIPTYPE", "RT_ERROR_DEVICE_DEPLOY",
      "RT_ERROR_DEVICE_RETAIN", "RT_ERROR_DEVICE_PLATFORM", "RT_ERROR_DEVICE_LOADER",
      "RT_ERROR_DEVICE_LIMIT", "RT_ERROR_DEVICE_PROC_HANG_OUT", "RT_ERROR_DEVICE_POWER_UP_FAIL",
      "RT_ERROR_DEVICE_POWER_DOWN_FAIL", "RT_ERROR_DEVICE_INVALID"]),
    (0x00020000, ["RT_ERROR_DRV_BASE", "RT_ERROR_DRV_NULL", "RT_ERROR_DRV_NEW",
      "RT_ERROR_DRV_MEMORY", "RT_ERROR_DRV_INPUT", "RT_ERROR_DRV_PTRNULL",
      "RT_ERROR_DRV_OPEN_AICPU", "RT_ERROR_DRV_CLOSE_AICPU", "RT_ERROR_DRV_SYM_AICPU",
      "RT_ERROR_DRV_OPEN_TSD", "RT_ERROR_DRV_CLOSE_TSD", "RT_ERROR_DRV_SYM_TSD",
      "RT_ERROR_DRV_SOURCE", "RT_ERROR_DRV_REPORT", "RT_ERROR_DRV_COMMAND",
      "RT_ERROR_DRV_OCCUPY", "RT_ERROR_DRV_ERR"]),
    (0x00030000, ["RT_ERROR_STREAM_BASE", "RT_ERROR_STREAM_NULL", "RT_ERROR_STREAM_NEW",
      "RT_ERROR_STREAM_CONTEXT", "RT_ERROR_STREAM_INVALID", "RT_ERROR_STREAM_MODEL",
      "RT_ERROR_STREAM_FUSION", "RT_ERROR_STREAM_FULL", "RT_ERROR_STREAM_EMPTY",
      "RT_ERROR_STREAM_NOT_COMPLETE", "RT_ERROR_STREAM_SYNC", "RT_ERROR_STREAM_NO_CB_REG",
      "RT_ERROR_STREAM_DUPLICATE", "RT_ERROR_STREAM_NOT_EXIST",
      "RT_ERROR_SQ_NO_EXIST_SQ_TO_REUSE", "RT_ERROR_SQID_FULL"]),
    (0x00040000, ["RT_ERROR_MODEL_BASE", "RT_ERROR_MODEL_NULL", "RT_ERROR_MODEL_NEW",
      "RT_ERROR_MODEL_CONTEXT", "RT_ERROR_MODEL_ENDGRAPH", "RT_ERROR_MODEL_STREAM",
      "RT_ERROR_MODEL_EXCUTOR", "RT_ERROR_MODEL_SETUP", "RT_ERROR_MODEL_ID",
      "RT_ERROR_MODEL_EXE_FAILED", "RT_ERROR_END_OF_SEQUENCE"]),
    (0x00050000, ["RT_ERROR_EVENT_BASE", "RT_ERROR_EVENT_NULL", "RT_ERROR_EVENT_NEW",
      "RT_ERROR_EVENT_RECORDER_NULL", "RT_ERROR_EVENT_TIMESTAMP_INVALID",
      "RT_ERROR_EVENT_TIMESTAMP_REVERSAL", "RT_ERROR_EVENT_NOT_COMPLETE"]),
    (0x00060000, ["RT_ERROR_NOTIFY_BASE", "RT_ERROR_NOTIFY_NULL", "RT_ERROR_NOTIFY_NEW",
      "RT_ERROR_NOTIFY_TYPE", "RT_ERROR_NOTIFY_NOT_COMPLETE"]),
    (0x00070000, ["RT_ERROR_CONTEXT_BASE", "RT_ERROR_CONTEXT_NULL", "RT_ERROR_CONTEXT_NEW",
      "RT_ERROR_CONTEXT_DEL", "RT_ERROR_CONTEXT_DEFAULT_STREAM_NULL",
      "RT_ERROR_CONTEXT_ONLINE_STREAM_NULL"]),
    (0x00080000, ["RT_ERROR_KERNEL_BASE", "RT_ERROR_KERNEL_NULL", "RT_ERROR_KERNEL_NEW",
      "RT_ERROR_KERNEL_LOOKUP", "RT_ERROR_KERNEL_NAME", "RT_ERROR_KERNEL_TYPE",
      "RT_ERROR_KERNEL_OFFSET", "RT_ERROR_KERNEL_DUPLICATE", "RT_ERROR_KERNEL_UNREGISTERING"]),
    (0x00090000, ["RT_ERROR_PROGRAM_BASE", "RT_ERROR_PROGRAM_NULL", "RT_ERROR_PROGRAM_NEW",
      "RT_ERROR_PROGRAM_DATA", "RT_ERROR_PROGRAM_SIZE", "RT_ERROR_PROGRAM_MEM_TYPE",
      "RT_ERROR_PROGRAM_MACHINE_TYPE", "RT_ERROR_PROGRAM_USEOUT"]),
    (0x000a0000, ["RT_ERROR_MODULE_BASE", "RT_ERROR_MODULE_NULL", "RT_ERROR_MODULE_NEW"]),
    (0x000b0000, ["RT_ERROR_INSTANCE_BASE", "RT_ERROR_INSTANCE_NULL", "RT_ERROR_INSTANCE_NEW",
      "RT_ERROR_INSTANCE_VERSION"]),
    (0x000c0000, ["RT_ERROR_API_BASE", "RT_ERROR_API_NULL", "RT_ERROR_API_NEW"]),
    (0x000d0000, ["RT_ERROR_DATADUMP_BASE", "RT_ERROR_DATADUMP_NULL", "RT_ERROR_DATADUMP_NEW",
      "RT_ERROR_DATADUMP_TIME", "RT_ERROR_DATADUMP_FILE", "RT_ERROR_DATADUMP_ADDRESS",
      "RT_ERROR_DATADUMP_LOAD_FAILED", "RT_ERROR_DUMP_ADDR_SET_FAILED"]),
    (0x000e0000, ["RT_ERROR_PROF_BASE", "RT_ERROR_PROF_NULL", "RT_ERROR_PROF_NEW",
      "RT_ERROR_PROF_START", "RT_ERROR_PROF_DEVICE_MEM", "RT_ERROR_PROF_HOST_MEM",
      "RT_ERROR_PROF_SET_DIR", "RT_ERROR_PROF_OPER", "RT_ERROR_PROF_FULL", "RT_ERROR_PROF_NAME"]),
    (0x000f0000, ["RT_ERROR_PCTRACE_BASE", "RT_ERROR_PCTRACE_NULL", "RT_ERROR_PCTRACE_NEW",
      "RT_ERROR_PCTRACE_TIME", "RT_ERROR_PCTRACE_FILE"]),
    (0x00100000, ["RT_ERROR_TASK_BASE", "RT_ERROR_TASK_NULL", "RT_ERROR_TASK_NEW",
      "RT_ERROR_TASK_TYPE", "RT_ERROR_TASK_ALLOCATOR"]),
    (0x00110000, ["RT_ERROR_COMMON_BASE", "RT_ERROR_INVALID_VALUE",
      "RT_ERROR_MEMORY_ADDRESS_UNALIGNED", "RT_ERROR_SEC_HANDLE", "RT_ERROR_OS_HANDLE",
      "RT_ERROR_MUTEX_LOCK", "RT_ERROR_MUTEX_UNLOCK", "RT_ERROR_CALLOC",
      "RT_ERROR_POOL_RESOURCE", "RT_ERROR_TRANS_ARGS", "RT_ERROR_METADATA",
      "RT_ERROR_LOST_HEARTBEAT", "RT_ERROR_REPORT_TIMEOUT", "RT_ERROR_FEATURE_NOT_SUPPORT",
      "RT_ERROR_MEMORY_ALLOCATION", "RT_ERROR_MEMORY_FREE", "RT_ERROR_INVALID_MEMORY_TYPE"]),
    (0x00120000, ["RT_ERROR_DEBUG_BASE", "RT_ERROR_DEBUG_NULL", "RT_ERROR_DEBUG_NEW",
      "RT_ERROR_DEBUG_SIGNAL", "RT_ERROR_DEBUG_OPEN", "RT_ERROR_DEBUG_WRITE",
      "RT_ERROR_DEBUG_REGISTER_FAILED", "RT_ERROR_DEBUG_UNREGISTER_FAILED"]),
    (0x00130000, ["RT_ERROR_ENGINE_BASE", "RT_ERROR_ENGINE_NULL", "RT_ERROR_ENGINE_NEW",
      "RT_ERROR_ENGINE_THREAD"]),
    (0x00140000, ["RT_ERROR_LABEL_BASE", "RT_ERROR_LABEL_NULL", "RT_ERROR_LABEL_NEW",
      "RT_ERROR_LABEL_CONTEXT", "RT_ERROR_LABEL_STREAM", "RT_ERROR_LABEL_MODEL",
      "RT_ERROR_LABEL_ALLOCATOR", "RT_ERROR_LABEL_FREE", "RT_ERROR_LABEL_SET",
      "RT_ERROR_LABEL_ID"]),
    (0x00150000, ["RT_ERROR_TSFW_BASE", "RT_ERROR_TSFW_UNKNOWN", "RT_ERROR_TSFW_NULL_PTR",
      "RT_ERROR_TSFW_ILLEGAL_AI_CORE_ID", "RT_ERROR_TSFW_ILLEGAL_PARAM",
      "RT_ERROR_TSFW_TASK_CMD_QUEUE_FULL", "RT_ERROR_TSFW_TASK_CMD_QUEUE_EMPTY",
      "RT_ERROR_TSFW_TASK_REPORT_QUEUE_FULL", "RT_ERROR_TSFW_TASK_REPORT_QUEUE_EMPTY",
      "RT_ERROR_TSFW_TASK_NODE_BUFF_ALL_OCCUPYED", "RT_ERROR_TSFW_TASK_NODE_BUFF_ALL_FREED",
      "RT_ERROR_TSFW_L2_MEM_INSUFFICIENT_SPACE", "RT_ERROR_TSFW_L2_MALLOC_FAILED",
      "RT_ERROR_TSFW_DMA_CHANNEL_ALL_OCCUPYED", "RT_ERROR_TSFW_MEMCPY_OP_FAILED",
      "RT_ERROR_TSFW_BS_SLOT_ALL_OCCUPYED", "RT_ERROR_TSFW_TBS_SLOT_REPEAT_FREE",
      "RT_ERROR_TSFW_PRIORITY_TASK_LIST_FULL", "RT_ERROR_TSFW_PRIORITY_TASK_LIST_EMPTY",
      "RT_ERROR_TSFW_NO_STREAM_LIST_NEED_TO_BE_PROCESSED",
      "RT_ERROR_TSFW_REPEAT_MARK_STREAM_NEED_SERVICE",
      "RT_ERROR_TSFW_SYS_DMA_CHANNEL_ALL_OCCUPAPYED", "RT_ERROR_TSFW_NO_HBML2TASKNODE_FOUND",
      "RT_ERROR_TSFW_SQNODE_NODE_SLOT_ALL_OCCUPAPYED",
      "RT_ERROR_TSFW_CQNODE_NODE_SLOT_ALL_OCCUPAPYED", "RT_ERROR_TSFW_SQNODE_NOT_ENOUGH",
      "RT_ERROR_TSFW_SQNODE_SLOT_REPEAT_FREE", "RT_ERROR_TSFW_CQNODE_SLOT_REPEAT_FREE",
      "RT_ERROR_TSFW_CQ_REPORT_FAILED", "RT_ERROR_TSFW_SYS_DMA_RESET_SUCCESS",
      "RT_ERROR_TSFW_SYS_DMA_RESET_FAILED", "RT_ERROR_TSFW_SYS_DMA_TRNSFER_FAILED",
      "RT_ERROR_TSFW_SYS_DMA_MEMADDRALIGN_FAILED", "RT_ERROR_TSFW_SYS_DMA_ERROR_QUEUE_FULL",
      "RT_ERROR_TSFW_SYS_DMA_ERROR_QUEUE_EMPTY", "RT_ERROR_TSFW_TIMER_EVENT_FULL",
      "RT_ERROR_TSFW_TASK_L2_DESC_ENTRY_NOT_ENOUGH", "RT_ERROR_TSFW_AICORE_TIMEOUT",
      "RT_ERROR_TSFW_AICORE_EXCEPTION", "RT_ERROR_TSFW_AICORE_TRAP_EXCEPTION",
      "RT_ERROR_TSFW_AICPU_TIMEOUT", "RT_ERROR_TSFW_SDMA_L2_TO_DDR_MALLOC_FAIL",
      "RT_ERROR_TSFW_AICPU_EXCEPTION", "RT_ERROR_TSFW_AICPU_DATADUMP_RSP_ERR",
      "RT_ERROR_TSFW_AICPU_MODEL_RSP_ERR", "RT_ERROR_TSFW_REPEAT_ACTIVE_MODEL_STREAM",
      "RT_ERROR_TSFW_REPEAT_NOTIFY_WAIT", "RT_ERROR_TSFW_DEBUG_INVALID_SQCQ",
      "RT_ERROR_TSFW_DEBUG_WRONG_COMMAND_TYPE", "RT_ERROR_TSFW_DEBUG_CMD_PROCESS",
      "RT_ERROR_TSFW_DEBUG_INVALID_DEVICE_STATUS", "RT_ERROR_TSFW_DEBUG_NOT_IN_DEBUG_STATUS",
      "RT_ERROR_TSFW_DEBUG_INVALID_TASK_STATUS", "RT_ERROR_TSFW_DEBUG_TASK_EMPTY",
      "RT_ERROR_TSFW_DEBUG_TASK_FULL", "RT_ERROR_TSFW_DEBUG_TASK_NOT_EXIST",
      "RT_ERROR_TSFW_DEBUG_AI_CORE_FULL", "RT_ERROR_TSFW_DEBUG_AI_CORE_NOT_EXIST",
      "RT_ERROR_TSFW_DEBUG_AI_CORE_EXCEPTION", "RT_ERROR_TSFW_DEBUG_AI_CORE_TIMEOUT",
      "RT_ERROR_TSFW_DEBUG_BREAKPOINT_FULL", "RT_ERROR_TSFW_DEBUG_READ_ERROR",
      "RT_ERROR_TSFW_DEBUG_WRITE_FAIL", "RT_ERROR_TSFW_QUEUE_FULL", "RT_ERROR_TSFW_QUEUE_EMPTY",
      "RT_ERROR_TSFW_QUEUE_ALLOC_MEM_FAIL", "RT_ERROR_TSFW_QUEUE_DATA_SIZE_UNMATCH",
      "RT_ERROR_TSFW_PCIE_DMA_INVLD_CPY_TYPE", "RT_ERROR_TSFW_INVLD_CPY_DIR",
      "RT_ERROR_TSFW_PCIE_DMA_INVLD_CQ_DES", "RT_ERROR_TSFW_PCIE_DMA_CPY_ERR",
      "RT_ERROR_TSFW_PCIE_DMA_LNK_CHN_BUSY", "RT_ERROR_TSFW_PROFILE_BUFF_FULL",
      "RT_ERROR_TSFW_PROFILE_MODE_CONFLICT", "RT_ERROR_TSFW_PROFILE_OTHER_PID_ON",
      "RT_ERROR_TSFW_SCHD_AIC_TASK_PRELOAD_FAILED", "RT_ERROR_TSFW_TSCPU_CLOSE_FAILED",
      "RT_ERROR_TSFW_EXPECT_FAIL", "RT_ERROR_TSFW_REPEAT_MODEL_STREAM",
      "RT_ERROR_TSFW_STREAM_MODEL_UNBIND", "RT_ERROR_TSFW_MODEL_EXE_FAILED",
      "RT_ERROR_TSFW_IPC_SEND_FAILED", "RT_ERROR_TSFW_IPC_PROC_REG_FAILED",
      "RT_ERROR_TSFW_STREAM_FULL", "RT_ERROR_TSFW_END_OF_SEQUENCE",
      "RT_ERROR_TSFW_SWITCH_STREAM_LABEL", "RT_ERROR_TSFW_TRANS_SQE_FAIL",
      "RT_ERROR_TSFW_RESERVED"]),
    (0x00160000, ["RT_ERROR_SUBSCRIBE_BASE", "RT_ERROR_SUBSCRIBE_NULL",
      "RT_ERROR_SUBSCRIBE_NEW", "RT_ERROR_SUBSCRIBE_STREAM", "RT_ERROR_SUBSCRIBE_THREAD",
      "RT_ERROR_SUBSCRIBE_GROUP"]),
    (0x00170000, ["RT_ERROR_GROUP_BASE", "RT_ERROR_GROUP_NOT_SET", "RT_ERROR_GROUP_NOT_CREATE"]),
    (0x00ff0000, ["RT_ERROR_RESERVED"])]

end RtsInfo

end HwEfat.Main
