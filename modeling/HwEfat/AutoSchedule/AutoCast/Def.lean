/-
  HwEfat.AutoSchedule.AutoCast.Def — the decorators of `auto_schedule/python/auto_cast.py`,
  with `auto_cast_tensor`, `judge_var` and `get_tvm_scalar` of `util.py`.

  A decorator casts the arguments to types that the hardware has the operation for, and calls
  the operation.  `decorator` hands every argument on by its position, defaults included, so
  that the flag of a `vrec(raw_tensor, priority_flag=1)` is an argument like any scalar.

  The operation is a parameter, `func`; so are the tables of the hardware and what `tvm.const`
  makes of a number, in a `DslEnv`.  Casts are those of `cast_compute.py`
  (`HwEfat.AutoSchedule.TupleSum.Def`).  Python numbers are of any type `ν`.
-/
import HwEfat.AutoSchedule.AutoCast.Support
import HwEfat.AutoSchedule.TupleSum.Def

namespace HwEfat.AutoSchedule.AutoCast

open HwEfat.Lib HwEfat.AutoSchedule.TupleSum

/-! ## §1. Arguments. -/

/-- What may stand for a scalar. -/
inductive Scalar (ν : Type) where
  /-- An `int` or a `float`. -/
  | number (value : ν)
  /-- An `IntImm`, `UIntImm` or `FloatImm`. -/
  | imm (dtype : String) (value : ν)
  | var (name : String)
  | str (text : String)
  /-- A value of any other class, a `bool` for one. -/
  | other (id : Nat)

/-- An argument of an operation: a tensor or a scalar. -/
inductive Arg (ν : Type) where
  | tensor (t : TupleSum.Tensor)
  | scalar (s : Scalar ν)

/-- What the decorators depend on: what the target supports, and how scalars are made. -/
structure DslEnv (ν : Type) extends TvmEnv where
  /-- `intrinsic_check_support`, of a name alone. -/
  intrinsicSupported : String → Bool
  /-- The value of `tvm.const(value, dtype=dtype)`. -/
  constValue : String → ν → ν
  /-- The text of `type(x)`. -/
  typeText : Arg ν → String
  /-- `pver().get_product_version()` -/
  productVersion : Version
  /-- `get_soc_spec("SHORT_SOC_VERSION")` -/
  shortSocVersion : String
  /-- `in_dynamic_and_static_unify()` -/
  unify : Bool

section

variable {ν β : Type} (env : DslEnv ν)

/-- The names that `judge_var` gives: `python_const`, `tvm_const`, `tvm_var`. -/
inductive VarType where
  | pythonConst | tvmConst | tvmVar
  deriving DecidableEq

/-- A scalar of a kind that `get_tvm_scalar` does not know. -/
def unknownVarType (s : Scalar ν) : PyError :=
  .runtimeError ("The input var type must be int, float, tvm.expr.IntImm, tvm.expr.UIntImm, " ++
    "tvm.expr.FloatImm or tvm.expr.Var, while type is [" ++ env.typeText (.scalar s) ++ "]")

/-- `judge_var` -/
def judgeVar : Scalar ν → Except PyError VarType
  | .number _ => .ok .pythonConst
  | .imm _ _ => .ok .tvmConst
  | .var _ => .ok .tvmVar
  | .str text => .error (unknownVarType env (.str text))
  | .other id => .error (unknownVarType env (.other id))

/-- `tvm.const(value, dtype=dtype)` -/
def tvmConst (value : ν) (dtype : String) : Scalar ν := .imm dtype (env.constValue dtype value)

/-- `get_tvm_scalar`; the decorator has these lines written out, for its `tmp_arg`. -/
def getTvmScalar (scalar : Scalar ν) (dtype : String) : Except PyError (Scalar ν) := do
  let _ ← judgeVar env scalar
  match scalar with
  | .number value => return tvmConst env value dtype
  | .imm own value => return if own = dtype then .imm own value else tvmConst env value dtype
  | s => return s

/-! ## §2. `auto_cast_of_elewise`. -/

/-- The name under which the target knows an intrinsic. -/
def intrinsic (intr : String) : String := "Intrinsic_" ++ intr

/-- `_intrinsic_check` -/
def intrinsicCheck (intr : String) : String :=
  if env.intrinsicSupported (intrinsic intr) then intr
  else
    match intr with
    | "vdiv" => "vrec"
    | "vsqrt" => "vrsqrt"
    | "vlog" => "vln"
    | "vmaxs" => "vmax"
    | "vmins" => "vmin"
    | _ => intr

/-- An argument that should be a tensor. -/
def notTensor (place : String) (a : Arg ν) : PyError :=
  .runtimeError ("The " ++ place ++ " input type must be [tvm.tensor], while type is [" ++
    env.typeText a ++ "]")

/-- `_check_args_type`.  What it prints of the second argument is the type of the first. -/
def checkArgsType : List (Arg ν) → Except PyError Unit
  | [a] | [a, _] => checkFirst a
  | [a, b, _] => do
      checkFirst a
      match b with
      | .tensor _ => return ()
      | .scalar _ => .error (notTensor env "second" a)
  | _ => return ()
where
  checkFirst : Arg ν → Except PyError Unit
    | .tensor _ => return ()
    | .scalar s => .error (notTensor env "first" (.scalar s))

/-- `intrinsic_check_support("Intrinsic_" + intr, dtype)` -/
def supports (intr dtype : String) : Bool := env.intrinsicCheckSupport (intrinsic intr) dtype

/-- `is_support_fp32 and is_cast_support(dtype, "float32") and …`, up to the first that is
false. -/
def castSupported (isSupport : Bool) : List String → Except PyError Bool
  | [] => return isSupport
  | dtype :: dtypes =>
      if isSupport then
        isCastSupport env.toTvmEnv dtype "float32" >>= fun ok => castSupported ok dtypes
      else return false

/-- `_cast_one_input_tensor` -/
def castOneInputTensor (intr : String) (isSupportFp32 : Bool) (tensor : TupleSum.Tensor) :
    Except PyError TupleSum.Tensor := do
  if supports env intr tensor.dtype then return tensor
  else if ← castSupported env isSupportFp32 [tensor.dtype] then
    cast env.toTvmEnv tensor "float32"
  else cast env.toTvmEnv tensor "float16"

/-- The types of two tensors that need no cast. -/
def Agreed (intr dtypeL dtypeR : String) : Prop :=
  supports env intr dtypeL = true ∧ supports env intr dtypeR = true ∧ dtypeL = dtypeR

instance (intr dtypeL dtypeR : String) : Decidable (Agreed env intr dtypeL dtypeR) :=
  inferInstanceAs (Decidable (_ ∧ _ ∧ _))

/-- `_cast_two_input_tensor` -/
def castTwoInputTensor (intr : String) (isSupportFp32 : Bool) (lhs rhs : TupleSum.Tensor) :
    Except PyError (TupleSum.Tensor × TupleSum.Tensor) := do
  if Agreed env intr lhs.dtype rhs.dtype then return (lhs, rhs)
  else if ← castSupported env isSupportFp32 [lhs.dtype, rhs.dtype] then
    return (← cast env.toTvmEnv lhs "float32", ← cast env.toTvmEnv rhs "float32")
  else
    return (← cast env.toTvmEnv lhs "float16", ← cast env.toTvmEnv rhs "float16")

/-- `_cast_tensor_scalar_two_input` -/
def castTensorScalarTwoInput (intr : String) (isSupportFp32 : Bool) (tensor : TupleSum.Tensor)
    (scalar : Scalar ν) : Except PyError (TupleSum.Tensor × Scalar ν) := do
  if supports env intr tensor.dtype then
    return (tensor, ← getTvmScalar env scalar tensor.dtype)
  else if ← castSupported env isSupportFp32 [tensor.dtype] then
    return (← cast env.toTvmEnv tensor "float32", ← getTvmScalar env scalar "float32")
  else
    return (← cast env.toTvmEnv tensor "float16", ← getTvmScalar env scalar "float16")

/-- Three tensors of different types. -/
def differentTypes (dtype₀ dtype₁ dtype₂ : String) : PyError :=
  .runtimeError ("Input tensors must has same dtype! while dtype_0 is [" ++ dtype₀ ++
    "], dtype_1 is [" ++ dtype₁ ++ "], dtype_2 is [" ++ dtype₂ ++ "]")

/-- `_cast_three_input_tensor` -/
def castThreeInputTensor (intr : String) (isSupportFp32 : Bool) (t₀ t₁ t₂ : TupleSum.Tensor) :
    Except PyError (TupleSum.Tensor × TupleSum.Tensor × TupleSum.Tensor) := do
  raiseIf (t₀.dtype ≠ t₁.dtype ∨ t₀.dtype ≠ t₂.dtype ∨ t₂.dtype ≠ t₁.dtype)
    (differentTypes t₀.dtype t₁.dtype t₂.dtype)
  if supports env intr t₀.dtype then return (t₀, t₁, t₂)
  else if ← castSupported env isSupportFp32 [t₀.dtype] then
    return (← cast env.toTvmEnv t₀ "float32", ← cast env.toTvmEnv t₁ "float32",
      ← cast env.toTvmEnv t₂ "float32")
  else
    return (← cast env.toTvmEnv t₀ "float16", ← cast env.toTvmEnv t₁ "float16",
      ← cast env.toTvmEnv t₂ "float16")

/-- The scalar of three arguments: a `str` stays. -/
def scalarOrStr (scalar : Scalar ν) (dtype : String) : Except PyError (Scalar ν) :=
  match scalar with
  | .str text => return .str text
  | s => getTvmScalar env s dtype

/-- `_cast_tensors_scalar_in_three_input` -/
def castTensorsScalarInThreeInput (intr : String) (isSupportFp32 : Bool)
    (lhs rhs : TupleSum.Tensor) (scalar : Scalar ν) :
    Except PyError (TupleSum.Tensor × TupleSum.Tensor × Scalar ν) := do
  if Agreed env intr lhs.dtype rhs.dtype then
    return (lhs, rhs, ← scalarOrStr env scalar lhs.dtype)
  else if ← castSupported env isSupportFp32 [lhs.dtype, rhs.dtype] then
    return (← cast env.toTvmEnv lhs "float32", ← cast env.toTvmEnv rhs "float32",
      ← scalarOrStr env scalar "float32")
  else
    return (← cast env.toTvmEnv lhs "float16", ← cast env.toTvmEnv rhs "float16",
      ← scalarOrStr env scalar "float16")

/-- `auto_cast_of_elewise`, of a function with a `__name__`. -/
def autoCastOfElewise (name : String) (func : List (Arg ν) → Except PyError β)
    (args : List (Arg ν)) : Except PyError β :=
  if env.unify then func args
  else do
    checkArgsType env args
    let intr := intrinsicCheck env name
    let isSupportFp32 := supports env intr "float32"
    match args with
    | [.tensor t] =>
        castOneInputTensor env intr isSupportFp32 t >>= fun t => func [.tensor t]
    | [.tensor lhs, .tensor rhs] =>
        castTwoInputTensor env intr isSupportFp32 lhs rhs >>= fun (lhs, rhs) =>
          func [.tensor lhs, .tensor rhs]
    | [.tensor t, .scalar s] =>
        castTensorScalarTwoInput env intr isSupportFp32 t s >>= fun (t, s) =>
          func [.tensor t, .scalar s]
    | [.tensor t₀, .tensor t₁, .tensor t₂] =>
        castThreeInputTensor env intr isSupportFp32 t₀ t₁ t₂ >>= fun (t₀, t₁, t₂) =>
          func [.tensor t₀, .tensor t₁, .tensor t₂]
    | [.tensor lhs, .tensor rhs, .scalar s] =>
        castTensorsScalarInThreeInput env intr isSupportFp32 lhs rhs s >>=
          fun (lhs, rhs, s) => func [.tensor lhs, .tensor rhs, .scalar s]
    | args => func args

/-! ## §3. `auto_cast_tensor` and the other two decorators. -/

/-- `auto_cast_tensor`, for a tensor.  Without `supported_types` it asks for the intrinsic. -/
def autoCastTensor (tensor : TupleSum.Tensor) (intr : String)
    (supportedTypes : Option (List String)) : Except PyError TupleSum.Tensor := do
  let (isSupportDtype, isSupportFp32) :=
    match supportedTypes with
    | none => (supports env intr tensor.dtype, supports env intr "float32")
    | some types => (decide (tensor.dtype ∈ types), decide ("float32" ∈ types))
  if isSupportDtype then return tensor
  else if ← castSupported env isSupportFp32 [tensor.dtype] then
    cast env.toTvmEnv tensor "float32"
  else cast env.toTvmEnv tensor "float16"

/-- An intrinsic that the target does not support. -/
def notSupported (intr : String) : PyError :=
  .runtimeError ("[" ++ intr ++ "] is not supported!")

/-- `auto_cast_of_cast`, of a function of one argument. -/
def autoCastOfCast (name : String) (func : Arg ν → Except PyError β) (arg : Arg ν) :
    Except PyError β :=
  if env.unify then func arg
  else
    match arg with
    | .scalar s => .error (notTensor env "first" (.scalar s))
    | .tensor rawTensor => do
        let supportedDtypes := dslSupportDtype env.unify env.productVersion name
        raiseIf (supportedDtypes = []) (notSupported name)
        let tempTensor ← autoCastTensor env rawTensor name (some supportedDtypes)
        func (.tensor tempTensor)

/-- `_is_last_axis` of `auto_cast_of_reduce`. -/
def isLastAxisOf (shapeLen : Nat) (axis : List Nat) : Bool :=
  ((shapeLen : Int) - 1) ∈ axis.map fun i => fromFront shapeLen i

/-- `_check_dynamic_dtype` -/
def checkDynamicDtype (rawTensor : TupleSum.Tensor) (intr : String) (supportedDtypes : List String)
    (isLastAxis : Bool) : Except PyError Unit :=
  let supportedDtypes := if isLastAxis then supportedDtypes else supportedDtypes ++ ["int32"]
  raiseIf (rawTensor.dtype ∉ supportedDtypes) (.runtimeError
    ("[" ++ intr ++ "] do not support [" ++ rawTensor.dtype ++ "] in [" ++
      env.shortSocVersion ++ "] !"))

/-- The types of a static shape: `float32` goes where the last axis is reduced by a maximum
or a minimum that neither the hardware nor the flag allows it for. -/
def staticDtypes (intr : String) (supportedDtypes : List String)
    (isLastAxis priorityFlag : Bool) : List String :=
  let vcmaxSupportFp32 := supports env "vcmax" "float32"
  let supportFp32 := vcmaxSupportFp32 || priorityFlag
  let supportedDtypes :=
    if intr ∈ ["reduce_max", "reduce_min"] ∧ isLastAxis = true ∧ supportFp32 = false then
      supportedDtypes.filter (· != "float32")
    else supportedDtypes
  if intr ∈ ["reduce_max", "reduce_min", "reduce_sum"] ∧ isLastAxis = false then
    supportedDtypes ++ ["int32"]
  else supportedDtypes

/-- The name that a reduction is looked up by. -/
def reduceIntr (name : String) : String := if name = "sum" then "reduce_sum" else name

/-- `auto_cast_of_reduce`, of a function of a tensor, axes and `keepdims`, and perhaps a
`priority_flag`, which is not handed on.  What is not a tensor has no shape: the message that
is made for it is not raised. -/
def autoCastOfReduce (name : String) (func : TupleSum.Tensor → List Nat → Bool → Except PyError β)
    (rawTensor : Arg ν) (axis : Axis) (keepdims : Bool) (priorityFlag : Option Bool) :
    Except PyError β :=
  match rawTensor with
  | .scalar s => .error (.attributeError (env.typeText (.scalar s) ++ " has no shape"))
  | .tensor rawTensor => do
      let intr := reduceIntr name
      let axis ← reduceAxisCheck rawTensor.shape.length axis.localAxis
      let isLastAxis := isLastAxisOf rawTensor.shape.length axis
      let supportedDtypes := dslSupportDtype env.unify env.productVersion intr
      raiseIf (supportedDtypes = []) (notSupported intr)
      if env.unify then
        checkDynamicDtype env rawTensor intr supportedDtypes isLastAxis
        func rawTensor axis keepdims
      else
        let types := staticDtypes env intr supportedDtypes isLastAxis (priorityFlag.getD false)
        let tempTensor ← autoCastTensor env rawTensor intr (some types)
        func tempTensor axis keepdims

end

end HwEfat.AutoSchedule.AutoCast
