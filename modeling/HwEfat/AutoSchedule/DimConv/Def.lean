/-
  HwEfat.AutoSchedule.DimConv.Def — the conversions between NCHW and NC1HWC0 of
  `dim_conv.py`.

  Each conversion has a reference (`convert_4d_to_5d_for_protogenes` and its inverse) and
  a program for the device that `_four2five_ir` or `_five2four_ir` emits: copies between
  global memory and the unified buffer, and 16x16 transposes within it.  Here the emitted
  program is a list of instructions, the loops unrolled in program order.

  Memory is element by element, two bytes each.  `input_ub` is at the start of the unified
  buffer and `output_ub` right after it, as the addresses that `_set_array_config` writes
  demand; `output_head_ub` comes third.  Scopes, names and DMA stream ids are left out.
-/
import Mathlib.Algebra.Group.Nat.Defs
import HwEfat.Lib.Transfer

namespace HwEfat.AutoSchedule.DimConv

open HwEfat.Lib

/-! ## §1. Tensors and memory. -/

/-- The bits of a `float16`. -/
abbrev Fp16 : Type := UInt16

/-- `get_soc_spec("UB_SIZE")`, in bytes: a multiple of 2 KiB. -/
structure UbSpec where
  ubSize : Nat
  dvd : 2048 ∣ ubSize
  pos : 0 < ubSize

/-- A unified buffer below 8 MiB, as on every device. -/
structure SocSpec extends UbSpec where
  lt : ubSize < 2 ^ 23

instance : Coe SocSpec UbSpec := ⟨SocSpec.toUbSpec⟩

/-- `raw_shape_4D` -/
structure Shape4D where
  n : Nat
  c : Nat
  h : Nat
  w : Nat
  n_pos : 0 < n
  c_pos : 0 < c
  h_pos : 0 < h
  w_pos : 0 < w

/-- The input and the output tensor in global memory, and the unified buffer. -/
inductive Mem where
  | input
  | output
  | ub
  deriving Repr, DecidableEq

/-- What all memory holds; beyond a tensor, anything. -/
abbrev Memory : Type := Transfer.Cell Mem → Fp16

namespace Shape4D

/-- The number of blocks of 16 channels. -/
def c1 (shape : Shape4D) : Nat := (shape.c + 16 - 1) / 16

/-- The place of an element of the NCHW tensor. -/
def index4 (shape : Shape4D) (n c h w : Nat) : Nat :=
  ((n * shape.c + c) * shape.h + h) * shape.w + w

/-- The place of an element of the NC1HWC0 tensor. -/
def index5 (shape : Shape4D) (n c1 h w c0 : Nat) : Nat :=
  (((n * shape.c1 + c1) * shape.h + h) * shape.w + w) * 16 + c0

end Shape4D

/-- `convert_4d_to_5d_for_protogenes` -/
def convert4dTo5dForProtogenes (shape : Shape4D) (input : Nat → Nat → Nat → Nat → Fp16)
    (n c1 h w c0 : Nat) : Fp16 :=
  if c0 + c1 * 16 < shape.c then input n (c0 + c1 * 16) h w else 0

/-- `convert_5d_to_4d_for_protogenes` -/
def convert5dTo4dForProtogenes (shape : Shape4D) (input : Nat → Nat → Nat → Nat → Nat → Fp16)
    (n c h w : Nat) : Fp16 :=
  if c < shape.c then input n (c / 16) h w (c % 16) else 0

/-! ## §2. Instructions. -/

/-- The registers `VA0` and `VA1`, and `VA2` and `VA3`: 16 source and 16 destination
addresses, in bytes. -/
structure VaConfig where
  src : Nat → Nat
  dst : Nat → Nat

/-- The instructions that move data. -/
inductive Instr where
  /-- `copy_gm_to_ubuf` and `copy_ubuf_to_gm`, in bursts of 16 elements. -/
  | copyBurst (dst src : Transfer.Cell Mem) (lenBurst : Nat)
  | scatterVnchwconvB16 (va : VaConfig) (repeats dstStride srcStride : Nat)

/-- Where row `i` of the destination starts in repeat `k`. -/
def VaConfig.dstRow (va : VaConfig) (dstStride k i : Nat) : Nat :=
  va.dst i / 2 + 16 * (dstStride * k)

/-- Where row `j` of the source starts in repeat `k`. -/
def VaConfig.srcRow (va : VaConfig) (srcStride k j : Nat) : Nat :=
  va.src j / 2 + 16 * (srcStride * k)

/-- One repeat: element `j` of row `i` of the destination is element `i` of row `j` of the
source. -/
def transpose (va : VaConfig) (dstStride srcStride k : Nat) : Transfer (Transfer.Cell Mem) :=
  fun c =>
    if c.buf = .ub then
      (List.range 16).findSome? fun i =>
        if va.dstRow dstStride k i ≤ c.addr ∧ c.addr < va.dstRow dstStride k i + 16 then
          some ⟨.ub, va.srcRow srcStride k (c.addr - va.dstRow dstStride k i) + i⟩
        else none
    else none

/-- A loop, unrolled. -/
def forRange {α : Type} (n : Nat) (body : Nat → List α) : List α := (List.range n).flatMap body

/-- What an instruction does to memory. -/
def Instr.transfers : Instr → List (Transfer (Transfer.Cell Mem))
  | copyBurst dst src lenBurst =>
      [Transfer.copy dst.buf dst.addr src.buf src.addr (16 * lenBurst)]
  | scatterVnchwconvB16 va repeats dstStride srcStride =>
      forRange repeats fun k => [transpose va dstStride srcStride k]

/-- The memory after a program. -/
def execute (prog : List Instr) (m : Memory) : Memory :=
  Transfer.run (prog.flatMap Instr.transfers) m

/-! ## §3. Emitting instructions. -/

/-- A buffer: where it starts. -/
structure Buffer where
  mem : Mem
  base : Nat

/-- `access_ptr`: a place in a buffer. -/
def Buffer.accessPtr (buffer : Buffer) (offset : Nat) : Transfer.Cell Mem :=
  ⟨buffer.mem, buffer.base + offset⟩

/-- `_emit_copy_gm_ubuf`: what is left over from transfers of 2^16 * 32 elements is
copied, in whole bursts; the transfers themselves are not emitted. -/
def emitCopyGmUbuf (size : Nat) (dst : Buffer) (dstOffset : Nat) (src : Buffer)
    (srcOffset : Nat) : List Instr :=
  let nBurst := size / (2 ^ 16 * 32)
  let tail := size % (2 ^ 16 * 32)
  let burstEleNum := 256 / 16
  if tail > 0 then
    let dstOffset := dstOffset + nBurst * (2 ^ 16 * 32)
    let srcOffset := srcOffset + nBurst * (2 ^ 16 * 32)
    let lenBurst := (tail + burstEleNum - 1) / burstEleNum
    [.copyBurst (dst.accessPtr dstOffset) (src.accessPtr srcOffset) lenBurst]
  else []

/-- `_set_array_config` -/
def setArrayConfig (srcArrayStride dstArrayStride outputOffset : Nat) : VaConfig where
  src := fun i => 2 * srcArrayStride * i
  dst := fun i => 2 * (outputOffset + dstArrayStride * i)

/-- `_get_vnchwconv_cube_buf_max`: the sizes of a cube and of the last cube, in elements. -/
def getVnchwconvCubeBufMax (soc : UbSpec) (actualColSize : Nat) (isFour2five : Bool) :
    Nat × Nat :=
  let actualCubeBufSize := ((actualColSize - 1) / 16 + 1) * 16 * 16 * 2
  let ubCutUpperLimit := soc.ubSize / 2
  if actualCubeBufSize > ubCutUpperLimit then
    if isFour2five then
      let tailCubeSize := actualCubeBufSize % ubCutUpperLimit
      (ubCutUpperLimit / 2, tailCubeSize / 2)
    else
      let ubCutUpperLimit :=
        if actualColSize % 16 ≠ 0 then (soc.ubSize - 512) / 2 / (2 * 16 * 16) * (2 * 16 * 16)
        else ubCutUpperLimit
      let tailCubeSize := actualCubeBufSize % ubCutUpperLimit
      (ubCutUpperLimit / 2, tailCubeSize / 2)
  else (actualCubeBufSize / 2, 0)

/-- The local variables that both emitters compute first. -/
structure Locals where
  actualColSize : Nat
  vnchwconvCubeBufMax : Nat
  tailCubeSize : Nat
  vnchwconvCubeColSize : Nat
  c1Range : Nat
  c1Loop : Nat
  c1Tail : Nat
  bufCubeRange : Nat
  hwTailSize : Nat

/-- The local variables of the conversion, as the code computes them. -/
def locals (soc : UbSpec) (shape : Shape4D) (isFour2five : Bool) : Locals :=
  let actualColSize := shape.h * shape.w
  let cube := getVnchwconvCubeBufMax soc actualColSize isFour2five
  let vnchwconvCubeColSize := cube.1 / 16
  let c1Range := (shape.c + 16 - 1) / 16
  let c1Tail := shape.c % 16
  { actualColSize := actualColSize
    vnchwconvCubeBufMax := cube.1
    tailCubeSize := cube.2
    vnchwconvCubeColSize := vnchwconvCubeColSize
    c1Range := c1Range
    c1Loop := if c1Tail ≠ 0 then c1Range - 1 else c1Range
    c1Tail := c1Tail
    bufCubeRange := (actualColSize + vnchwconvCubeColSize - 1) / vnchwconvCubeColSize
    hwTailSize := actualColSize % vnchwconvCubeColSize }

namespace Locals

/-- The tensor that is read. -/
def inputTensor : Buffer := ⟨.input, 0⟩

/-- The tensor that is written. -/
def output : Buffer := ⟨.output, 0⟩

/-- The part of the unified buffer for what was read. -/
def inputUb : Buffer := ⟨.ub, 0⟩

/-- The part for what will be written. -/
def outputUb (v : Locals) : Buffer := ⟨.ub, v.vnchwconvCubeBufMax⟩

/-- The part for the head of what will be written. -/
def outputHeadUb (v : Locals) : Buffer := ⟨.ub, 2 * v.vnchwconvCubeBufMax⟩

end Locals

/-! ## §4. `_four2five_ir`. -/

section Four2five

variable (shape : Shape4D) (v : Locals)

/-- The columns of `input_ub` become the rows of `output_ub`. -/
def four2fiveScatter (repeats : Nat) : Instr :=
  .scatterVnchwconvB16 (setArrayConfig v.vnchwconvCubeColSize 16 v.vnchwconvCubeBufMax) repeats
    (if repeats = 1 then 0 else 16) (if repeats = 1 then 0 else 1)

/-- The three steps that every cube takes: the columns are copied in, transposed, and
copied out at one time.  The branches differ in the sizes and in the offset of the batch
in the input tensor. -/
def four2fiveMove (c0Loop colSize batchOffset repeats storeSize idxN c1 cubeI : Nat) :
    List Instr :=
  (forRange c0Loop fun col =>
    emitCopyGmUbuf colSize Locals.inputUb (col * v.vnchwconvCubeColSize) Locals.inputTensor
      (batchOffset + (c1 * 16 + col) * v.actualColSize + cubeI * v.vnchwconvCubeColSize)) ++
  [four2fiveScatter v repeats] ++
  emitCopyGmUbuf storeSize Locals.output
    (idxN * (v.c1Range * 16) * shape.h * shape.w + c1 * 16 * v.actualColSize +
      cubeI * v.vnchwconvCubeBufMax)
    v.outputUb 0

/-- The body of the loops of `_four2five_intrin`; `c1` is `idx_c1 + c1_begin`. -/
def four2fiveCube (c0Loop idxN c1 cubeI : Nat) : List Instr :=
  if v.bufCubeRange > 1 then
    if cubeI ≠ v.bufCubeRange - 1 then
      four2fiveMove shape v c0Loop v.vnchwconvCubeColSize (idxN * shape.n * shape.n * shape.n)
        (v.vnchwconvCubeColSize / 16) v.vnchwconvCubeBufMax idxN c1 cubeI
    else
      four2fiveMove shape v c0Loop (v.tailCubeSize / 16) (idxN * shape.c * shape.h * shape.w)
        (v.tailCubeSize / 16 / 16) (v.actualColSize % v.vnchwconvCubeColSize * 16) idxN c1 cubeI
  else
    four2fiveMove shape v c0Loop v.vnchwconvCubeColSize (idxN * shape.c * shape.h * shape.w)
      (v.vnchwconvCubeColSize / 16) (v.actualColSize * 16) idxN c1 cubeI

/-- `_four2five_intrin` -/
def four2fiveIntrin (c0Loop c1Begin c1End : Nat) : List Instr :=
  forRange shape.n fun idxN =>
    forRange (c1End - c1Begin) fun idxC1 =>
      forRange v.bufCubeRange fun cubeI =>
        four2fiveCube shape v c0Loop idxN (idxC1 + c1Begin) cubeI

end Four2five

/-- `_four2five_ir` -/
def four2fiveIr (soc : SocSpec) (shape : Shape4D) : List Instr :=
  let v := locals soc shape true
  four2fiveIntrin shape v 16 0 v.c1Loop ++
    if v.c1Tail ≠ 0 then four2fiveIntrin shape v v.c1Tail v.c1Loop v.c1Range else []

/-! ## §5. `_five2four_ir`. -/

section Five2four

variable (shape : Shape4D) (v : Locals)

/-- The rows of `input_ub` become the columns of `output_ub`. -/
def five2fourScatter (repeats : Nat) : Instr :=
  .scatterVnchwconvB16 (setArrayConfig 16 v.vnchwconvCubeColSize v.vnchwconvCubeBufMax) repeats
    (if repeats = 1 then 0 else 1) (if repeats = 1 then 0 else 16)

/-- The cube is copied in at one time, and transposed. -/
def five2fourLoad (size repeats idxN c1 cubeI : Nat) : List Instr :=
  emitCopyGmUbuf size Locals.inputUb 0 Locals.inputTensor
    (idxN * v.c1Range * 16 * shape.h * shape.w + c1 * 16 * v.actualColSize +
      cubeI * v.vnchwconvCubeBufMax) ++
  [five2fourScatter v repeats]

/-- Where column `col` starts in the output tensor. -/
def five2fourCol (idxN c1 col : Nat) : Nat :=
  idxN * shape.c * shape.h * shape.w + c1 * 16 * v.actualColSize + col * v.actualColSize

/-- The columns are copied out one by one, from row `offset` on. -/
def five2fourStore (c0Loop size idxN c1 offset : Nat) : List Instr :=
  forRange c0Loop fun col =>
    emitCopyGmUbuf size Locals.output (five2fourCol shape v idxN c1 col + offset) v.outputUb
      (col * v.vnchwconvCubeColSize)

/-- The body of the loops of `_five2four_intrin`; `c1` is `idx_c1 + c1_begin`. -/
def five2fourCube (c0Loop idxN c1 cubeI : Nat) : List Instr :=
  if v.bufCubeRange > 1 then
    if cubeI ≠ v.bufCubeRange - 1 then
      five2fourLoad shape v v.vnchwconvCubeBufMax (v.vnchwconvCubeColSize / 16) idxN c1 cubeI ++
      five2fourStore shape v c0Loop v.vnchwconvCubeColSize idxN c1
        (cubeI * v.vnchwconvCubeColSize)
    else
      five2fourLoad shape v v.tailCubeSize (v.tailCubeSize / 16 / 16) idxN c1 cubeI ++
      if v.hwTailSize % 16 = 0 then
        five2fourStore shape v c0Loop v.hwTailSize idxN c1 (cubeI * v.vnchwconvCubeColSize)
      else
        -- The padding that is copied out overwrites the head of the next column, so the
        -- heads of the columns are saved before and restored after.
        (forRange c0Loop fun headColWrite =>
          emitCopyGmUbuf 16 v.outputHeadUb (headColWrite * 16) Locals.output
            (five2fourCol shape v idxN c1 headColWrite)) ++
        five2fourStore shape v c0Loop v.hwTailSize idxN c1 (cubeI * v.vnchwconvCubeColSize) ++
        forRange c0Loop fun headColRead =>
          emitCopyGmUbuf 16 Locals.output (five2fourCol shape v idxN c1 headColRead)
            v.outputHeadUb (headColRead * 16)
  else
    five2fourLoad shape v v.vnchwconvCubeBufMax (v.vnchwconvCubeColSize / 16) idxN c1 cubeI ++
    if v.hwTailSize = 0 then
      five2fourStore shape v c0Loop v.vnchwconvCubeColSize idxN c1 0
    else five2fourStore shape v c0Loop v.hwTailSize idxN c1 0

/-- `_five2four_intrin` -/
def five2fourIntrin (c0Loop c1Begin c1End : Nat) : List Instr :=
  forRange shape.n fun idxN =>
    forRange (c1End - c1Begin) fun idxC1 =>
      forRange v.bufCubeRange fun cubeI =>
        five2fourCube shape v c0Loop idxN (idxC1 + c1Begin) cubeI

end Five2four

/-- `_five2four_ir` -/
def five2fourIr (soc : SocSpec) (shape : Shape4D) : List Instr :=
  let v := locals soc shape false
  five2fourIntrin shape v 16 0 v.c1Loop ++
    if v.c1Tail ≠ 0 then five2fourIntrin shape v v.c1Tail v.c1Loop v.c1Range else []

end HwEfat.AutoSchedule.DimConv
