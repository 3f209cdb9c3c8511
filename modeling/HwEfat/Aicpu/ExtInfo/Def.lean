/-
  HwEfat.Aicpu.ExtInfo.Def — the extend info of a task, and the two loops that
  walk it: `CpuKernelCache::ParseExtMsg` with its record parsers
  (`cpu_kernel_cache.cc`) and `ParseExtSessionInfo` of `device_cpu_kernel.cc`.

  The buffer is a sequence of records, each an 8-byte head (a signed `infoType`,
  an unsigned `infoLen`) and `infoLen` bytes of `infoMsg`.  The offset is a
  `uint32_t` and wraps.  Sizes, field offsets and enumerators that come from
  `fwk_adpt_struct.h` and `aicpu_task_struct.h` are the parameter `FwkAdapter`.

  Addresses are natural numbers.  Every parser runs under `Logged Access`, which
  records the bytes it reads and the pointers it keeps.
-/
import Mathlib.Algebra.Group.Nat.Defs
import Std.Data.ExtTreeMap
import HwEfat.Lib.Memory
import HwEfat.Aicpu.Basic

namespace HwEfat.Aicpu

open HwEfat.Lib (Mem Access Logged Pass read8 read32 read64 keep)

/-! ## §1. The external layout. -/

/-- The record kinds `ParseExtMsg` has a case for. -/
inductive ExtInfoType where
  | shapeType
  | inputShape
  | outputShape
  | sessionInfo
  | bitmap
  | topicType
  | asyncWait
  | unknownShapeInputIndex
  | unknownShapeOutputIndex
  deriving Repr, DecidableEq

/-- All kinds of records. -/
def ExtInfoType.all : List ExtInfoType :=
  [.shapeType, .inputShape, .outputShape, .sessionInfo, .bitmap, .topicType, .asyncWait,
   .unknownShapeInputIndex, .unknownShapeOutputIndex]

/-- What the code uses of the `FWKAdapter` declarations, of `SessionInfo`, of
`AicpuParamHead` and of `ge::RuntimeTensorDesc`.  The labels of a `switch` are
distinct: `code_injective`. -/
structure FwkAdapter where
  code : ExtInfoType → Int32
  code_injective : Function.Injective code
  sizeofShapeAndType : Nat
  dimsOffset : Nat
  kMaxShapeDims : Nat
  sizeofSessionInfo : Nat
  sessionIdOffset : Nat
  kernelIdOffset : Nat
  sessFlagOffset : Nat
  sizeofAsyncWait : Nat
  waitTypeOffset : Nat
  waitIdOffset : Nat
  waitTypeNull : UInt8
  waitTypeInvalid : UInt8
  sizeofAicpuParamHead : UInt32
  dataAddrOffset : Nat
  shapeOffset : Nat
  originalShapeOffset : Nat
  kMaxDimSize : Nat

/-- One concrete layout: packed structures and small consecutive enumerators. -/
def FwkAdapter.packed : FwkAdapter where
  code
    | .shapeType => 0
    | .inputShape => 1
    | .outputShape => 2
    | .sessionInfo => 5
    | .bitmap => 6
    | .topicType => 7
    | .asyncWait => 8
    | .unknownShapeInputIndex => 9
    | .unknownShapeOutputIndex => 10
  code_injective := by
    intro a b h
    cases a <;> cases b <;> first | rfl | exact absurd h (by decide)
  sizeofShapeAndType := 68
  dimsOffset := 4
  kMaxShapeDims := 8
  sizeofSessionInfo := 17
  sessionIdOffset := 0
  kernelIdOffset := 8
  sessFlagOffset := 16
  sizeofAsyncWait := 17
  waitTypeOffset := 0
  waitIdOffset := 1
  waitTypeNull := 0
  waitTypeInvalid := 2
  sizeofAicpuParamHead := 20
  dataAddrOffset := 0
  shapeOffset := 24
  originalShapeOffset := 288
  kMaxDimSize := 32

/-- What the declarations behind a `FwkAdapter` promise: fields lie inside their
structures, and `kMaxDimSize` is an `int64_t`. -/
structure FwkAdapter.Layout (A : FwkAdapter) : Prop where
  dims : A.dimsOffset + 8 * A.kMaxShapeDims ≤ A.sizeofShapeAndType
  kernelId : A.kernelIdOffset + 8 ≤ A.sizeofSessionInfo
  waitType : A.waitTypeOffset + 1 ≤ A.sizeofAsyncWait
  waitId : A.waitIdOffset + 4 ≤ A.sizeofAsyncWait
  maxDimSize : A.kMaxDimSize < 2 ^ 63

theorem FwkAdapter.packed_layout : FwkAdapter.packed.Layout where
  dims := by decide
  kernelId := by decide
  waitType := by decide
  waitId := by decide
  maxDimSize := by decide

/-- The case of the `switch` an `infoType` selects; `none` is `default`. -/
def FwkAdapter.classify (A : FwkAdapter) (infoType : Int32) : Option ExtInfoType :=
  ExtInfoType.all.find? fun kind => A.code kind == infoType

def kExtInfoHeadSize : UInt32 := 8

/-- `AicpuParamHead`; `base` is the address of the param block it heads. -/
structure AicpuParamHead where
  base : Nat
  length : UInt32
  ioAddrNum : UInt32
  extInfoLength : UInt32
  extInfoAddr : UInt64
  deriving Repr, DecidableEq

/-- max extend info len limit 30k. -/
def kMaxExtendLen : UInt32 := 30720

/-- What is collected from the records. -/
structure ExtInfoMsg where
  hasSessInfo : Bool
  kernelId : UInt64
  unknownShape : Bool
  asyncFlag : Bool
  devicetypeHostFlag : Bool
  waitType : UInt8
  waitId : UInt32
  inputShapeAndType : List Nat
  outputShapeAndType : List Nat
  unknownShapeInputIndexAddr : Std.ExtTreeMap UInt32 UInt64
  unknownShapeOutputIndexAddr : Std.ExtTreeMap UInt32 UInt64

/-- A default-constructed `ExtInfoMsg`. -/
def ExtInfoMsg.new : ExtInfoMsg :=
  { hasSessInfo := false, kernelId := 0, unknownShape := false, asyncFlag := false,
    devicetypeHostFlag := false, waitType := 0, waitId := 0,
    inputShapeAndType := [], outputShapeAndType := [],
    unknownShapeInputIndexAddr := ∅, unknownShapeOutputIndexAddr := ∅ }

namespace ExtInfo

/-- `sizeof(FWKAdapter::ExtInfo)` -/
def size : Nat := 8

/-- `FWKAdapter::ExtInfo::infoType`, the first field of a record. -/
def infoType (mem : Mem) (extInfo : Nat) : Logged Access UInt32 := read32 mem extInfo

/-- `FWKAdapter::ExtInfo::infoLen`, the second one. -/
def infoLen (mem : Mem) (extInfo : Nat) : Logged Access UInt32 := read32 mem (extInfo + 4)

/-- The address of `infoMsg`. -/
def infoMsg (extInfo : Nat) : Nat := extInfo + 8

/-- The pointer `ext_info` at an offset of the buffer; address 0 is `nullptr`. -/
def recordAt (paramHead : AicpuParamHead) (offset : UInt32) : Nat :=
  paramHead.extInfoAddr.toNat + offset.toNat

end ExtInfo

namespace CpuKernelCache

/-! ## §2. The record parsers.

Each returns its status and the new value of its reference argument. -/

/-- use bit16 to indicate the value of topictype devicetype -/
def kTopicTypeDeviceTypePostion : UInt32 := 7
def kTopicTypeDeviceTypeMask : UInt32 := 0x0080

/-- `ParseExtShapeType` -/
def parseExtShapeType (mem : Mem) (extInfo : Nat) (unknownShape : Bool) :
    Logged Access (UInt32 × Bool) := do
  let infoLen ← ExtInfo.infoLen mem extInfo
  if infoLen.toNat ≠ 4 then pure (KERNEL_STATUS_PARAM_INVALID, unknownShape)
  else pure (KERNEL_STATUS_OK, true)

/-- `ParseExtShapeAndType` -/
def parseExtShapeAndType (A : FwkAdapter) (mem : Mem) (unknownShape : Bool) (extInfo : Nat)
    (shapeAndType : List Nat) : Logged Access (UInt32 × List Nat) :=
  if !unknownShape then pure (KERNEL_STATUS_OK, shapeAndType)
  else do
    let infoLen ← ExtInfo.infoLen mem extInfo
    let size := infoLen.toNat / A.sizeofShapeAndType
    let check := infoLen.toNat % A.sizeofShapeAndType
    if check ≠ 0 then pure (KERNEL_STATUS_PARAM_INVALID, shapeAndType)
    else do
      let shapes := ExtInfo.infoMsg extInfo
      let kept ← (List.range size).foldlM (fun l index => do
        let ptr ← keep (shapes + index * A.sizeofShapeAndType)
        pure (l ++ [ptr])) shapeAndType
      pure (KERNEL_STATUS_OK, kept)

/-- `ParseExtSessionInfo` -/
def parseExtSessionInfo (A : FwkAdapter) (mem : Mem) (extInfo : Nat) (kernelId : UInt64) :
    Logged Access (UInt32 × UInt64) := do
  let infoLen ← ExtInfo.infoLen mem extInfo
  if infoLen.toNat ≠ A.sizeofSessionInfo then pure (KERNEL_STATUS_PARAM_INVALID, kernelId)
  else do
    let sessionInfo := ExtInfo.infoMsg extInfo
    let id ← read64 mem (sessionInfo + A.kernelIdOffset)
    pure (KERNEL_STATUS_OK, id)

/-- The bit at a position. -/
def getBitStatus (num pos : UInt64) : Bool := (num &&& (1 <<< pos)) != 0

/-- `ParseExtBitMap` -/
def parseExtBitMap (mem : Mem) (extInfo : Nat) (unknownShape : Bool) :
    Logged Access (UInt32 × Bool) := do
  let infoLen ← ExtInfo.infoLen mem extInfo
  if infoLen.toNat ≠ 8 then pure (KERNEL_STATUS_PARAM_INVALID, unknownShape)
  else do
    let bitMapInfo ← read64 mem (ExtInfo.infoMsg extInfo)
    pure (KERNEL_STATUS_OK, !getBitStatus bitMapInfo 0)

/-- `ParseExtTopicTypeDeviceType` -/
def parseExtTopicTypeDeviceType (mem : Mem) (extInfo : Nat) (devicetypeHostFlag : Bool) :
    Logged Access (UInt32 × Bool) := do
  let infoLen ← ExtInfo.infoLen mem extInfo
  if infoLen.toNat ≠ 4 then pure (KERNEL_STATUS_PARAM_INVALID, devicetypeHostFlag)
  else do
    let topicTypeInfo ← read32 mem (ExtInfo.infoMsg extInfo)
    pure (KERNEL_STATUS_OK,
      ((topicTypeInfo &&& kTopicTypeDeviceTypeMask) >>> kTopicTypeDeviceTypePostion) != 0)

/-- `ParseAsyncWait` -/
def parseAsyncWait (A : FwkAdapter) (mem : Mem) (extInfo : Nat) (waitType : UInt8)
    (waitId : UInt32) : Logged Access (UInt32 × UInt8 × UInt32) := do
  let infoLen ← ExtInfo.infoLen mem extInfo
  if infoLen.toNat ≠ A.sizeofAsyncWait then
    pure (KERNEL_STATUS_PARAM_INVALID, waitType, waitId)
  else do
    let asyncInfo := ExtInfo.infoMsg extInfo
    let type ← read8 mem (asyncInfo + A.waitTypeOffset)
    let id ← read32 mem (asyncInfo + A.waitIdOffset)
    pure (KERNEL_STATUS_OK, type, id)

/-- `ParseExtUnknownShapeIndex` -/
def parseExtUnknownShapeIndex (mem : Mem) (extInfo : Nat)
    (unknownShapeIndexAddr : Std.ExtTreeMap UInt32 UInt64) :
    Logged Access (UInt32 × Std.ExtTreeMap UInt32 UInt64) := do
  let infoLen ← ExtInfo.infoLen mem extInfo
  if infoLen.toNat % 4 ≠ 0 then pure (KERNEL_STATUS_PARAM_INVALID, unknownShapeIndexAddr)
  else do
    let indexes := ExtInfo.infoMsg extInfo
    let addrs ← (List.range (infoLen.toNat / 4)).foldlM (fun m i => do
      let index ← read32 mem (indexes + i * 4)
      pure (m.insert index 0)) unknownShapeIndexAddr
    pure (KERNEL_STATUS_OK, addrs)

/-! ## §3. `ParseExtMsg`. -/

/-- The `switch` on the record's type. -/
def parseExtInfo (A : FwkAdapter) (mem : Mem) (extInfo : Nat) (msg : ExtInfoMsg) :
    Logged Access (UInt32 × ExtInfoMsg) := do
  let infoType ← ExtInfo.infoType mem extInfo
  match A.classify infoType.toInt32 with
  | some .shapeType => do
      let (ret, unknownShape) ← parseExtShapeType mem extInfo msg.unknownShape
      pure (ret, { msg with unknownShape := unknownShape })
  | some .inputShape => do
      let (ret, shapes) ←
        parseExtShapeAndType A mem msg.unknownShape extInfo msg.inputShapeAndType
      pure (ret, { msg with inputShapeAndType := shapes })
  | some .outputShape => do
      let (ret, shapes) ←
        parseExtShapeAndType A mem msg.unknownShape extInfo msg.outputShapeAndType
      pure (ret, { msg with outputShapeAndType := shapes })
  | some .sessionInfo => do
      let (ret, kernelId) ← parseExtSessionInfo A mem extInfo msg.kernelId
      pure (ret, { msg with hasSessInfo := true, kernelId := kernelId })
  | some .bitmap => do
      let (ret, unknownShape) ← parseExtBitMap mem extInfo msg.unknownShape
      pure (ret, { msg with unknownShape := unknownShape })
  | some .topicType => do
      let (ret, host) ← parseExtTopicTypeDeviceType mem extInfo msg.devicetypeHostFlag
      pure (ret, { msg with devicetypeHostFlag := host })
  | some .asyncWait => do
      let (ret, waitType, waitId) ← parseAsyncWait A mem extInfo msg.waitType msg.waitId
      let flag := ret = KERNEL_STATUS_OK ∧ waitType ≠ A.waitTypeNull ∧
        waitType ≠ A.waitTypeInvalid
      pure (ret, { msg with
        waitType := waitType
        waitId := waitId
        asyncFlag := if flag then true else msg.asyncFlag })
  | some .unknownShapeInputIndex => do
      let (ret, addrs) ← parseExtUnknownShapeIndex mem extInfo msg.unknownShapeInputIndexAddr
      pure (ret, { msg with unknownShapeInputIndexAddr := addrs })
  | some .unknownShapeOutputIndex => do
      let (ret, addrs) ← parseExtUnknownShapeIndex mem extInfo msg.unknownShapeOutputIndexAddr
      pure (ret, { msg with unknownShapeOutputIndexAddr := addrs })
  | none => pure (KERNEL_STATUS_OK, msg)

/-- One pass of the loop; the state is `offset` and the message so far. -/
def parseExtMsgPass (A : FwkAdapter) (mem : Mem) (paramHead : AicpuParamHead)
    (s : UInt32 × ExtInfoMsg) :
    Logged Access (Pass (UInt32 × ExtInfoMsg) (UInt32 × ExtInfoMsg)) :=
  if s.1.toNat + ExtInfo.size ≤ paramHead.extInfoLength.toNat then
    let extInfo := ExtInfo.recordAt paramHead s.1
    if extInfo = 0 then pure (.exit (KERNEL_STATUS_PARAM_INVALID, s.2))
    else do
      let (ret, msg) ← parseExtInfo A mem extInfo s.2
      if ret ≠ KERNEL_STATUS_OK then pure (.exit (ret, msg))
      else do
        let infoLen ← ExtInfo.infoLen mem extInfo
        pure (.next (s.1 + kExtInfoHeadSize + infoLen, msg))
  else pure (.exit (KERNEL_STATUS_OK, s.2))

/-- `ParseExtMsg`: the return code and the message filled; `none` while the loop
still runs after `fuel` passes. -/
def parseExtMsg (A : FwkAdapter) (mem : Mem) (paramHead : AicpuParamHead) (msg : ExtInfoMsg)
    (fuel : Nat) : Logged Access (Option (UInt32 × ExtInfoMsg)) :=
  Lib.loop (parseExtMsgPass A mem paramHead) fuel (0, { msg with asyncFlag := false })

end CpuKernelCache

namespace DeviceCpuKernel

/-! ## §4. The session walker. -/

/-- One pass of the loop of `ParseExtSessionInfo`; its result is the return code
and the pointer `session` (`none` is `nullptr`). -/
def parseExtSessionInfoPass (A : FwkAdapter) (mem : Mem) (paramHead : AicpuParamHead)
    (offset : UInt32) : Logged Access (Pass UInt32 (UInt32 × Option Nat)) :=
  if offset.toNat + ExtInfo.size ≤ paramHead.extInfoLength.toNat then
    let extInfo := ExtInfo.recordAt paramHead offset
    if extInfo = 0 then pure (.exit (KERNEL_STATUS_PARAM_INVALID, none))
    else do
      let infoType ← ExtInfo.infoType mem extInfo
      if infoType.toInt32 = A.code .sessionInfo then do
        let infoLen ← ExtInfo.infoLen mem extInfo
        if infoLen.toNat ≠ A.sizeofSessionInfo then
          pure (.exit (KERNEL_STATUS_PARAM_INVALID, none))
        else pure (.exit (KERNEL_STATUS_OK, some (ExtInfo.infoMsg extInfo)))
      else do
        let infoLen ← ExtInfo.infoLen mem extInfo
        pure (.next (offset + kExtInfoHeadSize + infoLen))
  else pure (.exit (KERNEL_STATUS_OK, none))

def parseExtSessionInfo (A : FwkAdapter) (mem : Mem) (paramHead : AicpuParamHead) (fuel : Nat) :
    Logged Access (Option (UInt32 × Option Nat)) :=
  Lib.loop (parseExtSessionInfoPass A mem paramHead) fuel 0

end DeviceCpuKernel

end HwEfat.Aicpu
