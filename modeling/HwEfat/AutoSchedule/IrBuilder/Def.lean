/-
  HwEfat.AutoSchedule.IrBuilder.Def — the emitters of vector instructions of
  `irbuilder_api.py`.

  An emitter is given buffers with offsets and a length, and emits code for the vector
  unit: an instruction that repeats over the full blocks of `align_len` elements, and
  one more, under a mask, for the rest.  The emitted code is a tree, as the loop and the
  conditions of `kernel_cast_to_fuc` are evaluated on the device and not by Python.

  The meaning of an instruction is what its programmer takes it to be: with `repeats` it
  works on `repeats * align_len` consecutive elements, of each block on those in the
  mask.  The limit of the field is a property of its own (`Repeats`).
-/
import HwEfat.Lib.Lanes

namespace HwEfat.AutoSchedule.IrBuilder

open HwEfat.Lib

/-! ## §1. Emitted code. -/

/-- A buffer of the unified buffer. -/
structure Buffer where
  name : String
  dtype : String
  deriving Repr, DecidableEq

/-- The mode of an `access_ptr`. -/
inductive Access where
  | r
  | rw
  deriving Repr, DecidableEq

/-- `buffer.access_ptr(mode, offset=offset)` -/
structure Ptr where
  buffer : Buffer
  access : Access
  offset : Int
  deriving Repr, DecidableEq

/-- `buffer.access_ptr(mode, offset=offset)` -/
def Buffer.accessPtr (buffer : Buffer) (access : Access) (offset : Int) : Ptr :=
  ⟨buffer, access, offset⟩

/-- A scalar the caller gives: a number (`ν`), or an expression (`ε`). -/
inductive Scalar (ν ε : Type) where
  | number (v : ν)
  | expr (e : ε)
  deriving Repr, DecidableEq

/-- A scalar as an argument of an instruction. -/
inductive Value (ν ε : Type) where
  | const (v : ν) (dtype : String)
  | expr (e : ε)
  deriving Repr, DecidableEq

/-- `tvm.const` for a number; an expression as it is. -/
def Scalar.toValue {ν ε : Type} (dtype : String) : Scalar ν ε → Value ν ε
  | .number v => .const v dtype
  | .expr e => .expr e

/-- `tvm.call_extern(dtype, name, dst, *srcs, [value,] repeats, *strides)` -/
structure VectorCall (ν ε : Type) where
  dtype : String
  name : String
  dst : Ptr
  srcs : List Ptr
  value : Option (Value ν ε)
  repeats : Nat
  strides : List Nat
  deriving Repr, DecidableEq

/-- An instruction: set the mask register, or call a vector operation. -/
inductive Instr (ν ε : Type) where
  | setVectorMask (mask1 mask0 : Nat)
  | vector (call : VectorCall ν ε)
  deriving Repr, DecidableEq

/-- What an `ir_builder` builds.  The body of a loop is given its index. -/
inductive Stmt (ν ε : Type) where
  | skip
  | emit (i : Instr ν ε)
  | seq (first second : Stmt ν ε)
  | forRange (extent : Nat) (body : Nat → Stmt ν ε)
  | ifScope (condition : Bool) (thenScope elseScope : Stmt ν ε)

namespace Stmt

variable {ν ε : Type}

/-- The instructions that are executed, in order. -/
def executed : Stmt ν ε → List (Instr ν ε)
  | skip => []
  | emit i => [i]
  | seq first second => first.executed ++ second.executed
  | forRange extent body => (List.range extent).flatMap fun i => (body i).executed
  | ifScope condition thenScope elseScope =>
      if condition then thenScope.executed else elseScope.executed

/-- The vector instructions that are emitted, executed or not. -/
def Emits : Stmt ν ε → VectorCall ν ε → Prop
  | skip, _ => False
  | emit i, call => i = .vector call
  | seq first second, call => first.Emits call ∨ second.Emits call
  | forRange extent body, call => ∃ i, i < extent ∧ (body i).Emits call
  | ifScope _ thenScope elseScope, call => thenScope.Emits call ∨ elseScope.Emits call

end Stmt

/-! ## §2. The vector unit. -/

/-- An operation on one element: element `dst.2` of a buffer is computed from the
elements `srcs` of others. -/
structure ElementOp (ν ε : Type) where
  name : String
  value : Option (Value ν ε)
  dst : Buffer × Int
  srcs : List (Buffer × Int)
  deriving Repr, DecidableEq

/-- What an instruction does at distance `j` from its offsets. -/
def VectorCall.at {ν ε : Type} (call : VectorCall ν ε) (j : Nat) : ElementOp ν ε where
  name := call.name
  value := call.value
  dst := (call.dst.buffer, call.dst.offset + j)
  srcs := call.srcs.map fun src => (src.buffer, src.offset + j)

/-- The mask register, of 128 bits, and all operations so far. -/
structure VectorUnit (ν ε : Type) where
  mask : Nat
  log : List (ElementOp ν ε)

/-- `tvm.const(-1, "uint64")` in both words. -/
def fullMask : Nat := 2 ^ 128 - 1

section Execute

variable {ν ε : Type}

/-- Execute one instruction. -/
def VectorUnit.step (alignLen : Nat) (u : VectorUnit ν ε) : Instr ν ε → VectorUnit ν ε
  | .setVectorMask mask1 mask0 => { u with mask := mask1 * 2 ^ 64 + mask0 }
  | .vector call =>
      { u with log := u.log ++ (Lanes.elements u.mask alignLen call.repeats).map call.at }

/-- Run emitted code. -/
def VectorUnit.run (alignLen : Nat) (u : VectorUnit ν ε) (code : Stmt ν ε) : VectorUnit ν ε :=
  code.executed.foldl (VectorUnit.step alignLen) u

end Execute

/-! ## §3. The emitters. -/

/-- the max value int 64bit, 2**64 - 1 -/
def MAX_VALUE_UINT64 : Nat := 18446744073709551615

/-- `for _ in range(n): mask = mask*2 + 1`, from zero. -/
def pushOnes (n : Nat) : Nat := (List.range n).foldl (fun mask _ => mask * 2 + 1) 0

/-- What `get_loopnum_and_masklist` returns. -/
structure MaskParas where
  loop : Nat
  isNeedMask : Nat
  mask0 : Nat
  mask1 : Nat
  deriving Repr, DecidableEq

/-- `get_loopnum_and_masklist` -/
def getLoopnumAndMasklist (dataLen alignLen : Nat) : MaskParas :=
  let loop := dataLen / alignLen
  let tmp := dataLen % alignLen
  if tmp ≠ 0 then
    if tmp < 64 then { loop := loop, isNeedMask := 1, mask0 := pushOnes tmp, mask1 := 0 }
    else
      { loop := loop, isNeedMask := 1, mask0 := MAX_VALUE_UINT64 / 2 * 2 + 1,
        mask1 := pushOnes (tmp - 64) }
  else { loop := loop, isNeedMask := 0, mask0 := 0, mask1 := 0 }

section Emitters

variable {ν ε : Type}

/-- `set_vector_mask` -/
def setVectorMask (mask1 mask0 : Nat) : Stmt ν ε := .emit (.setVectorMask mask1 mask0)

/-- `if c: ...` in Python: what is emitted, if anything. -/
def when (c : Prop) [Decidable c] (code : Stmt ν ε) : Stmt ν ε := if c then code else .skip

/-- The last part of every emitter: one instruction under the mask of the rest. -/
def emitTail (paras : MaskParas) (call : VectorCall ν ε) : Stmt ν ε :=
  when (paras.isNeedMask = 1)
    (.seq (setVectorMask paras.mask1 paras.mask0)
      (.seq (.emit (.vector call)) (setVectorMask MAX_VALUE_UINT64 MAX_VALUE_UINT64)))

/-- What four of the emitters do with the call they make of a shift of all offsets and a
number of repeats. -/
def emitBlocksAndTail (dataLen alignLen : Nat) (call : Nat → Nat → VectorCall ν ε) : Stmt ν ε :=
  let paras := getLoopnumAndMasklist dataLen alignLen
  .seq (when (paras.loop ≠ 0) (.emit (.vector (call 0 paras.loop))))
    (emitTail paras (call (alignLen * paras.loop) 1))

/-- `kernel_two_to_one_common_fuc` -/
def kernelTwoToOneCommonFuc (out input1 input2 : Buffer × Int) (dataLen alignLen : Nat)
    (fucType : String) : Stmt ν ε :=
  emitBlocksAndTail dataLen alignLen fun shift repeats =>
    { dtype := out.1.dtype
      name := fucType
      dst := out.1.accessPtr .rw (out.2 + shift)
      srcs := [input1.1.accessPtr .r (input1.2 + shift), input2.1.accessPtr .r (input2.2 + shift)]
      value := none
      repeats := repeats
      strides := [1, 1, 1, 8, 8, 8] }

/-- `kernel_one_to_one_common_fuc` -/
def kernelOneToOneCommonFuc (out input1 : Buffer × Int) (dataLen alignLen : Nat)
    (fucType : String) : Stmt ν ε :=
  emitBlocksAndTail dataLen alignLen fun shift repeats =>
    { dtype := out.1.dtype
      name := fucType
      dst := out.1.accessPtr .rw (out.2 + shift)
      srcs := [input1.1.accessPtr .r (input1.2 + shift)]
      value := none
      repeats := repeats
      strides := [1, 1, 8, 8] }

/-- `kernel_scalar_to_one_fuc` -/
def kernelScalarToOneFuc (out input1 : Buffer × Int) (dataLen alignLen : Nat) (opFuc : String)
    (opValue : Scalar ν ε) : Stmt ν ε :=
  emitBlocksAndTail dataLen alignLen fun shift repeats =>
    { dtype := out.1.dtype
      name := opFuc
      dst := out.1.accessPtr .rw (out.2 + shift)
      srcs := [input1.1.accessPtr .r (input1.2 + shift)]
      value := some (opValue.toValue out.1.dtype)
      repeats := repeats
      strides := [1, 1, 8, 8] }

/-- `kernel_vector_dup_fuc` -/
def kernelVectorDupFuc (des : Buffer × Int) (dupValue : Scalar ν ε) (dataLen alignLen : Nat) :
    Stmt ν ε :=
  emitBlocksAndTail dataLen alignLen fun shift repeats =>
    { dtype := des.1.dtype
      name := "vector_dup"
      dst := des.1.accessPtr .rw (des.2 + shift)
      srcs := []
      value := some (dupValue.toValue des.1.dtype)
      repeats := repeats
      strides := [1, 1, 8, 8] }

/-- `stride0, stride1` of a conversion; unbound for a name that is not listed. -/
def castStrides (fucType : String) : Option (Nat × Nat) :=
  if fucType ∈ ["vconv_u82f16", "vconv_s82f16"] then some (4, 2)
  else if fucType ∈ ["vconv_f162f32", "vconv_f162s32r", "vconv_f162s32f"] then some (8, 4)
  else if fucType ∈ ["vconv_deq", "vconv_f322f16"] then some (4, 8)
  else if fucType ∈ ["vconv_f322s32r", "vconv_s322f32", "vconv_f322s32f"] then some (8, 8)
  else none

/-- The call of `_ib_fun`. -/
def castCall (out input : Buffer × Int) (fucType : String) (strides : Nat × Nat) (shift : Nat)
    (repeats : Nat) : VectorCall ν ε where
  dtype := out.1.dtype
  name := fucType
  dst := out.1.accessPtr .rw (out.2 + shift)
  srcs := [input.1.accessPtr .r (input.2 + shift)]
  value := none
  repeats := repeats
  strides := [1, 1, strides.1, strides.2]

/-- The rounds of `kernel_cast_to_fuc`, 255 repeats each; the last one takes what is
left. -/
def castRounds (out input : Buffer × Int) (fucType : String) (strides : Nat × Nat)
    (alignLen loop : Nat) : Stmt ν ε :=
  let loopRound := (loop + 255 - 1) / 255
  let loopRoundLeft := loop % 255
  .forRange loopRound fun loopRd =>
    let shift := alignLen * 255 * loopRd
    .ifScope (loopRd != loopRound - 1)
      (.emit (.vector (castCall out input fucType strides shift 255)))
      (.emit (.vector (castCall out input fucType strides shift loopRoundLeft)))

/-- `kernel_cast_to_fuc`; `none` where it fails on the strides. -/
def kernelCastToFuc (out input : Buffer × Int) (dataLen alignLen : Nat) (fucType : String) :
    Option (Stmt ν ε) :=
  let paras := getLoopnumAndMasklist dataLen alignLen
  match castStrides fucType with
  | none => if paras.loop = 0 ∧ paras.isNeedMask = 0 then some .skip else none
  | some strides =>
      some (.seq
        (when (paras.loop ≠ 0) (castRounds out input fucType strides alignLen paras.loop))
        (emitTail paras (castCall out input fucType strides (alignLen * paras.loop) 1)))

end Emitters

end HwEfat.AutoSchedule.IrBuilder
