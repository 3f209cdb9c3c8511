/-
  HwEfat.AutoSchedule.TupleSum.Def — `tuple_sum` of `auto_schedule/python/reduction_compute.py`.

  The sum of two tensors over some of their dimensions.  The decorator
  `_auto_cast_of_tuple_reduce` casts the tensors first, `refine_axis` sorts the axes, and
  `compute_func` pairs a reduce axis with every dimension that is reduced.  (`decorator`
  calls with all three arguments, the default of `keepdims` included.)

  A tensor is a shape of integers, a type, and the value at every index; an index outside
  of the shape has some value too.  Values are rationals, and sums are exact.  What the
  hardware supports and what casts do to a value is given by a `TvmEnv`.
-/
import HwEfat.Lib.Box
import HwEfat.Lib.Python
import Mathlib.Algebra.Order.Ring.Rat

namespace HwEfat.AutoSchedule.TupleSum

open HwEfat.Lib HwEfat.Lib.Box

/-! ## §1. Tensors and axes. -/

/-- A tensor with its values, which are exact. -/
structure Tensor where
  shape : List Nat
  dtype : String
  value : List Nat → ℚ

/-- What the platform and TVM provide. -/
structure TvmEnv where
  /-- `intrinsic_check_support` -/
  intrinsicCheckSupport : String → String → Bool
  /-- `astype` from one type to another. -/
  cast : String → String → ℚ → ℚ
  /-- `vmuls(tensor, tvm.const(1, dtype=tensor.dtype))` -/
  vmulsOne : Tensor → Except PyError Tensor

/-- An axis argument: an integer, or a list or tuple of integers. -/
inductive Axis where
  | int (i : Int)
  | list (l : List Int)

/-- `local_axis` -/
def Axis.localAxis : Axis → List Int
  | .int i => [i]
  | .list l => l

/-- `check_input_tensor_shape`, for a shape of integers. -/
def checkInputTensorShape (shape : List Nat) : Except PyError Unit :=
  raiseIf (0 ∈ shape) (.runtimeError
    "The static input shape value must be a positive integer while val is [0]")

/-- The axis counted from the front, as `refine_axis` and `_axis_value_type_check` do. -/
def fromFront (shapeLen : Nat) (i : Int) : Int :=
  if i < 0 then shapeLen + i else i

/-- `refine_axis`, with the length of the shape. -/
def refineAxis (axis : Axis) (shapeLen : Nat) : Except PyError (List Nat) := do
  let resAxis ← axis.localAxis.mapM fun i => do
    let laxis := fromFront shapeLen i
    raiseIf (laxis ≥ shapeLen ∨ laxis < 0) (.runtimeError
      ("laxis [" ++ toString laxis ++ "] must less than shape_len [" ++ toString shapeLen ++
        "] and bigger than zero!"))
    return laxis.toNat
  return resAxis.mergeSort (· ≤ ·)

/-- `_axis_value_type_check`, for an integer. -/
def axisValueTypeCheck (shapeLen : Nat) (value : Int) : Except PyError Nat := do
  raiseIf (value ≥ shapeLen ∨ value < -shapeLen) (.runtimeError
    ("input axis [" ++ toString value ++ "] is out of range, axis value can be from [" ++
      toString (-(shapeLen : Int)) ++ "] to [" ++ toString ((shapeLen : Int) - 1) ++ "]"))
  return (fromFront shapeLen value).toNat

/-- `reduce_axis_check`: the axes without repetitions, in order. -/
def reduceAxisCheck (shapeLen : Nat) (axis : List Int) : Except PyError (List Nat) := do
  let axis ← axis.mapM (axisValueTypeCheck shapeLen)
  return axis.dedup.mergeSort (· ≤ ·)

/-! ## §2. Casts. -/

/-- `DTYPE_MAP` -/
def dtypeMap (dtype : String) : Option String :=
  match dtype with
  | "float32" => some "f32"
  | "float16" => some "f16"
  | "int8" => some "s8"
  | "uint8" => some "u8"
  | "int32" => some "s32"
  | _ => none

/-- A type that `DTYPE_MAP` does not have. -/
def unsupportedDtype (dtype : String) : PyError :=
  .runtimeError ("The dtype must be f16, f32, u8, s8 or s32, [" ++ dtype ++
    "] is unsupported dtype!")

/-- `get_cast_type` -/
def getCastType (srcType dstType : String) : Except PyError String :=
  match dtypeMap srcType, dtypeMap dstType with
  | none, _ => .error (unsupportedDtype srcType)
  | some _, none => .error (unsupportedDtype dstType)
  | some src, some dst =>
      let castType := src ++ "2" ++ dst
      .ok (if castType = "s322f16" then "deq" else castType)

/-- `is_cast_support` -/
def isCastSupport (env : TvmEnv) (srcType dstType : String) : Except PyError Bool :=
  if srcType = dstType then .ok true
  else do
    let castType ← getCastType srcType dstType
    if env.intrinsicCheckSupport "Intrinsic_vconv" castType then return true
    else return env.intrinsicCheckSupport "Intrinsic_vconv" (castType ++ "z")

/-- `_cast_op` -/
def castOp (env : TvmEnv) (inputTensor : Tensor) (outputDtype : String) :
    Except PyError Tensor := do
  checkInputTensorShape inputTensor.shape
  return { inputTensor with
    dtype := outputDtype
    value := fun indice => env.cast inputTensor.dtype outputDtype (inputTensor.value indice) }

/-- What `_cast` first casts a tensor to, where the cast itself is not supported. -/
def castVia (env : TvmEnv) (src dst : String) : Except PyError String := do
  if (← isCastSupport env src "float32") && (← isCastSupport env "float32" dst) then
    return "float32"
  else if (← isCastSupport env src "float16") && (← isCastSupport env "float16" dst) then
    return "float16"
  else if !env.intrinsicCheckSupport "Intrinsic_vconv" "deq" &&
      env.intrinsicCheckSupport "Intrinsic_vcbd" "s322s16" then
    return "int16"
  else
    .error (.runtimeError ("Unsupported cast type! src_dtype is [" ++ src ++
      "], dst_dtype is [" ++ dst ++ "]"))

/-- `_cast` to a float type, which is never a `trunc`.  Types are in lower case, as `lower()`
leaves them. -/
def cast (env : TvmEnv) (rawTensor : Tensor) (dstDtype : String) : Except PyError Tensor := do
  if dstDtype = rawTensor.dtype then return rawTensor
  else if ← isCastSupport env rawTensor.dtype dstDtype then castOp env rawTensor dstDtype
  else
    let via ← castVia env rawTensor.dtype dstDtype
    castOp env (← castOp env rawTensor via) dstDtype

/-! ## §3. The decorator. -/

/-- `_is_last_axis` -/
def isLastAxis (shapeLen : Nat) (axis : Axis) : Bool :=
  ((shapeLen : Int) - 1) ∈ axis.localAxis

/-- `_deal_tensor_dtype` -/
def dealTensorDtype (env : TvmEnv) (axis : Axis) (rawTensor : Tensor) :
    Except PyError Tensor := do
  let supportedTypes := ["float16", "float32"] ++
    if isLastAxis rawTensor.shape.length axis then [] else ["int32"]
  if rawTensor.dtype ∈ supportedTypes then return rawTensor
  else if ← isCastSupport env rawTensor.dtype "float32" then cast env rawTensor "float32"
  else cast env rawTensor "float16"

/-! ## §4. The sum. -/

/-- The two sums, or what becomes of the two tensors without an axis. -/
structure Reduced where
  shape : List Nat
  dtypes : String × String
  value : List Nat → ℚ × ℚ

/-- `res_indice`: a dimension takes the next reduce axis or the next index. -/
def resIndice (axis : List Nat) (keepdims : Bool) :
    List Nat → List Nat → List Nat → List Nat
  | [], _, _ => []
  | index :: rest, indice, reduceAxises =>
      if index ∈ axis then
        reduceAxises.headD 0 ::
          resIndice axis keepdims rest (if keepdims then indice.tail else indice)
            reduceAxises.tail
      else indice.headD 0 :: resIndice axis keepdims rest indice.tail reduceAxises

/-- `res_reshape` -/
def resReshape (dataShape axis : List Nat) (keepdims : Bool) : List Nat :=
  let kept := dataShape.zipIdx.flatMap fun (extent, index) =>
    if index ∈ axis then (if keepdims then [1] else []) else [extent]
  -- All axes are reduced.
  if kept.isEmpty then [1] else kept

/-- `__tuple_reduce_compute` with the reducer `tuple_sum_func`: there is a reduce axis for
every entry of `axis`. -/
def tupleReduceCompute (dataShape axis : List Nat) (keepdims : Bool) (t₁ t₂ : Tensor) :
    Reduced where
  shape := resReshape dataShape axis keepdims
  dtypes := (t₁.dtype, t₂.dtype)
  value := fun indice =>
    sumOver (axis.map fun axisNum => dataShape.getD axisNum 0) fun reduceAxises =>
      let res := resIndice axis keepdims (List.range dataShape.length) indice reduceAxises
      (t₁.value res, t₂.value res)

/-- `_tuple_reduce_op` with `tuple_reduce_sum` -/
def tupleReduceOp (env : TvmEnv) (t₁ t₂ : Tensor) (axis : Axis) (keepdims : Bool) :
    Except PyError Reduced := do
  checkInputTensorShape t₁.shape
  match axis with
  | .list [] =>
      let res₁ ← env.vmulsOne t₁
      let res₂ ← env.vmulsOne t₂
      return { shape := res₁.shape
               dtypes := (res₁.dtype, res₂.dtype)
               value := fun indice => (res₁.value indice, res₂.value indice) }
  | axis =>
      let resAxis ← refineAxis axis t₁.shape.length
      return tupleReduceCompute t₁.shape resAxis keepdims t₁ t₂

/-- `tuple_sum`, with its decorator. -/
def tupleSum (env : TvmEnv) (t₁ t₂ : Tensor) (axis : Axis) (keepdims : Bool) :
    Except PyError Reduced := do
  raiseIf (t₁.shape ≠ t₂.shape) (.runtimeError
    ("Tuple reduce input tensors must have same shape. while shape1 is [" ++
      toString t₁.shape ++ "], shape2 is [" ++ toString t₂.shape ++ "]"))
  let t₁ ← dealTensorDtype env axis t₁
  let t₂ ← dealTensorDtype env axis t₂
  tupleReduceOp env t₁ t₂ axis keepdims

end HwEfat.AutoSchedule.TupleSum
