/-
  HwEfat.AutoSchedule.Segment.Def — the segment reductions of `segment_compute.py`.

  Each of them has two implementations, chosen by the type of `segment_ids`: with a
  tensor of ids, one masked reduction over all rows (`__segment_tensor_op`); with a
  list of ids, an expression unrolled over the rows of each segment (`__segment_op`).

  A tensor is its dtype, its shape and its value at each index.  Values are exact: `α`
  is an ordered field.  `tvm.compute` is the value at an index, `tvm.select` an `if`,
  and a reduction a fold over its axis.  Tags and names of tensors are left out, and so
  is the decorator that checks dtypes, which is the same for both implementations.
-/
import Mathlib.Algebra.Order.Field.Basic
import HwEfat.Lib.Python

namespace HwEfat.AutoSchedule

open HwEfat.Lib (PyError raiseIf index first pyMax)

variable {α : Type} [Field α] [LinearOrder α]

/-- A `tvm.tensor`. -/
structure Tensor (α : Type) where
  dtype : String
  shape : List Int
  data : List Int → α

/-- An expression over the index variables of a `tvm.compute`. -/
abbrev Expr (α : Type) : Type := List Int → α

/-! ## §1. The operations. -/

/-- The reductions, `"segment_sum"` and so on. -/
inductive SegmentOp where
  | sum
  | mean
  | prod
  | min
  | max
  deriving Repr, DecidableEq

namespace SegmentOp

/-- The source's word for the operation. -/
def name : SegmentOp → String
  | sum => "sum"
  | mean => "mean"
  | prod => "prod"
  | min => "min"
  | max => "max"

/-- One more row. -/
def combine : SegmentOp → α → α → α
  | sum, a, tmp => a + tmp
  | mean, a, tmp => a + tmp
  | prod, a, tmp => a * tmp
  | min, a, tmp => Min.min a tmp
  | max, a, tmp => Max.max a tmp

end SegmentOp

/-- `max_value` and `min_value` of the dtype, where `tvm.min` and `tvm.max` start.  In
exact arithmetic they show on an empty axis only. -/
structure Limits (α : Type) where
  minValue : α
  maxValue : α

/-- A reduction over an axis, given by the values on it. -/
def reduce (f : α → α → α) (identity : α) : List α → α
  | [] => identity
  | a :: l => l.foldl f a

/-! ## §2. `__segment_tensor_op`. -/

/-- `__segment_select`: at row `k`, the data of the row if it belongs to the segment. -/
def segmentSelect (tensor : Tensor α) (segmentIds : Tensor Int) (initValue : α) (k : Nat) :
    Expr α
  | [] => initValue
  | i :: rest => if i = segmentIds.data [k] then tensor.data (k :: rest) else initValue

/-- `__segment_tensor_op` -/
def segmentTensorOp (L : Limits α) (tensor : Tensor α) (segmentIds : Tensor Int)
    (numSegments : Int) (initValue : α) (op : SegmentOp) : Except PyError (Tensor α) := do
  let reduceK ← first segmentIds.shape
  raiseIf (tensor.dtype ∉ ["float16", "float32", "int32", "int16"])
    (.runtimeError "data not support this dtype")
  raiseIf (segmentIds.dtype ≠ "int32") (.runtimeError "segment_ids not support this dtype")
  let rows ← first tensor.shape
  raiseIf (reduceK ≠ rows) (.runtimeError
    "the rank of segment_ids should be equal tothe rank of data's first dimension")
  raiseIf (segmentIds.shape.length ≠ 1)
    (.runtimeError "segment_ids's shape should be 1 dimension")
  let lambdaFunc (f : α → α → α) (identity : α) : Tensor α :=
    { dtype := tensor.dtype
      shape := numSegments :: tensor.shape.tail
      data := fun indices => reduce f identity
        ((List.range reduceK.toNat).map fun k =>
          segmentSelect tensor segmentIds initValue k indices) }
  match op with
  | .min => return lambdaFunc Min.min L.maxValue
  | .max => return lambdaFunc Max.max L.minValue
  | .prod => return lambdaFunc (· * ·) 1
  | op => throw (.runtimeError ("operation segmentensor_" ++ op.name ++ " not support yet"))

/-! ## §3. `__segment_op`. -/

/-- `check_input_tensor_shape`, for shapes of integers. -/
def checkInputTensorShape : List Int → Except PyError Unit
  | [] => .ok ()
  | val :: shape =>
      if val ≤ 0 then
        .error (.runtimeError "The static input shape value must be a positive integer")
      else checkInputTensorShape shape

/-- The loop that collects the ids without repetition. -/
def uniqueId (segmentIds : List Int) : List Int :=
  segmentIds.foldl (fun unique i => if i ∈ unique then unique else unique ++ [i]) []

/-- The row of a tensor, as an expression in the index variables. -/
def row (tensor : Tensor α) (idx : Nat) : Expr α := fun indices =>
  tensor.data (idx :: indices.tail)

/-- The loop of `__compute_outer_dim`: mark the row just taken, take the next one. -/
def addRows (tensor : Tensor α) (op : SegmentOp) (i : Int) :
    Nat → List Int → Nat → Expr α → Except PyError (Expr α)
  | 0, _, _, tmp => .ok tmp
  | turns + 1, newSegmentId, idx, tmp => do
      let newSegmentId := newSegmentId.set idx (-1)
      let idx ← index newSegmentId i
      addRows tensor op i turns newSegmentId idx
        (fun indices => op.combine (row tensor idx indices) (tmp indices))

/-- `__compute_outer_dim` -/
def computeOuterDim (tensor : Tensor α) (segmentIds : List Int) (initValue : α) (op : SegmentOp)
    (i : Int) : Except PyError (Expr α) := do
  if i ∈ uniqueId segmentIds then
    let idx ← index segmentIds i
    let newSegmentId := segmentIds.set idx (-1)
    let tmp ← addRows tensor op i (segmentIds.count i - 1) newSegmentId idx (row tensor idx)
    match op with
    | .mean => return fun indices => tmp indices / (segmentIds.count i : α)
    | _ => return tmp
  else return fun _ => initValue

/-- `tvm.select(indices[0] == i, a, b)` -/
def selectFirst (i : Int) (a b : Expr α) : Expr α := fun indices =>
  if indices.head? = some i then a indices else b indices

/-- `__segment_compute`: one alternative for each segment. -/
def segmentCompute (tensor : Tensor α) (segmentIds : List Int) (numSegments : Int)
    (initValue : α) (op : SegmentOp) : Except PyError (Expr α) := do
  let res ← computeOuterDim tensor segmentIds initValue op 0
  ((List.range numSegments.toNat).drop 1).foldlM
    (fun res (i : Nat) => do
      let other ← computeOuterDim tensor segmentIds initValue op i
      return selectFirst i other res)
    res

/-- `__segment_op` -/
def segmentOp (tensor : Tensor α) (segmentIds : List Int) (numSegments : Int) (initValue : α)
    (op : SegmentOp) : Except PyError (Tensor α) := do
  checkInputTensorShape tensor.shape
  let rows ← first tensor.shape
  raiseIf ((segmentIds.length : Int) ≠ rows) (.runtimeError
    "the rank of segment_ids should be equal tothe rank of data's first dimension")
  let maxId ← pyMax segmentIds
  raiseIf (maxId + 1 > numSegments)
    (.runtimeError ("num_segments must be larger than max value of segment_ids," ++
      "while num_segments is " ++ toString numSegments ++ " and max value of segment_ids is " ++
      toString maxId))
  let shape := numSegments :: tensor.shape.tail
  if maxId < 0 then
    -- no row belongs to a segment: zeros made of row 0, plus the init value
    return { dtype := tensor.dtype, shape := shape, data := fun indices =>
      (row tensor 0 indices - row tensor 0 indices) + initValue }
  else
    let expr ← segmentCompute tensor segmentIds numSegments initValue op
    return { dtype := tensor.dtype, shape := shape, data := expr }

/-! ## §4. The interface. -/

/-- What a caller may pass as `segment_ids`. -/
inductive SegmentIds where
  | tensor (segmentIds : Tensor Int)
  | list (segmentIds : List Int)

/-- `unsorted_segment_prod`; for a tensor of ids, the init value is not passed on. -/
def unsortedSegmentProd (L : Limits α) (tensor : Tensor α) (segmentIds : SegmentIds)
    (numSegments : Int) (initValue : α) : Except PyError (Tensor α) :=
  match segmentIds with
  | .tensor segmentIds => segmentTensorOp L tensor segmentIds numSegments 1 .prod
  | .list segmentIds => segmentOp tensor segmentIds numSegments initValue .prod

/-- `unsorted_segment_min` -/
def unsortedSegmentMin (L : Limits α) (tensor : Tensor α) (segmentIds : SegmentIds)
    (numSegments : Int) (initValue : α) : Except PyError (Tensor α) :=
  match segmentIds with
  | .tensor segmentIds => segmentTensorOp L tensor segmentIds numSegments initValue .min
  | .list segmentIds => segmentOp tensor segmentIds numSegments initValue .min

/-- `unsorted_segment_max` -/
def unsortedSegmentMax (L : Limits α) (tensor : Tensor α) (segmentIds : SegmentIds)
    (numSegments : Int) (initValue : α) : Except PyError (Tensor α) :=
  match segmentIds with
  | .tensor segmentIds => segmentTensorOp L tensor segmentIds numSegments initValue .max
  | .list segmentIds => segmentOp tensor segmentIds numSegments initValue .max

/-- `unsorted_segment_sum` -/
def unsortedSegmentSum (tensor : Tensor α) (segmentIds : List Int) (numSegments : Int)
    (initValue : α) : Except PyError (Tensor α) :=
  segmentOp tensor segmentIds numSegments initValue .sum

/-- `unsorted_segment_mean` -/
def unsortedSegmentMean (tensor : Tensor α) (segmentIds : List Int) (numSegments : Int)
    (initValue : α) : Except PyError (Tensor α) :=
  segmentOp tensor segmentIds numSegments initValue .mean

end HwEfat.AutoSchedule
