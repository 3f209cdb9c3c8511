/-
  HwEfat.AutoSchedule.AutoCast.Elewise — what `auto_cast_of_elewise` hands to an operation.

  The five branches of the decorator, by the number of arguments and the kind of the last,
  are one procedure (`castArgs`): a type is chosen from those of the tensors, and every
  argument is brought to it.

  Main results: `auto_cast_of_elewise_eq`, that the decorator is that procedure, its errors
  included; `elewise_arguments`, on the arguments that an operation gets;
  `auto_cast_of_elewise_twice`, that a second decorator changes nothing.
-/
import HwEfat.AutoSchedule.AutoCast.Def
import HwEfat.Lib.Collect

namespace HwEfat.AutoSchedule.AutoCast

open HwEfat.Lib HwEfat.AutoSchedule.TupleSum

variable {ν β : Type} {env : DslEnv ν}

/-! ## §1. Casts. -/

/-- A cast to the own type does nothing. -/
@[simp] theorem cast_self (env : TvmEnv) (t : TupleSum.Tensor) : cast env t t.dtype = .ok t := by
  unfold TupleSum.cast
  rw [if_pos rfl]
  rfl

/-- One cast gives the type, and leaves the shape. -/
theorem castOp_spec {env : TvmEnv} {t t' : TupleSum.Tensor} {dst : String}
    (h : castOp env t dst = .ok t') : t'.dtype = dst ∧ t'.shape = t.shape := by
  obtain ⟨_, _, h⟩ := bind_eq_ok.mp h
  cases h
  exact ⟨rfl, rfl⟩

/-- A cast gives the type that is asked for, and leaves the shape. -/
theorem cast_spec {env : TvmEnv} {t t' : TupleSum.Tensor} {dst : String}
    (h : cast env t dst = .ok t') : t'.dtype = dst ∧ t'.shape = t.shape := by
  unfold TupleSum.cast at h
  split at h
  · next heq =>
      cases h
      exact ⟨heq.symm, rfl⟩
  · obtain ⟨support, _, h⟩ := bind_eq_ok.mp h
    cases support with
    | true => exact castOp_spec h
    | false =>
        obtain ⟨via, _, h⟩ := bind_eq_ok.mp h
        obtain ⟨middle, hmiddle, h⟩ := bind_eq_ok.mp h
        obtain ⟨hdtype, hshape⟩ := castOp_spec h
        exact ⟨hdtype, hshape.trans (castOp_spec hmiddle).2⟩

/-- The chain of `and` starts with `is_support_fp32`. -/
theorem isSupport_of_castSupported {isSupport : Bool} {dtypes : List String}
    (h : castSupported env isSupport dtypes = .ok true) : isSupport = true := by
  cases isSupport with
  | true => rfl
  | false =>
      cases dtypes with
      | nil => cases h
      | cons d dtypes => cases h

/-- Asking for one type several times is asking once. -/
theorem castSupported_const (env : DslEnv ν) (isSupport : Bool) {dtype : String}
    {dtypes : List String} (h : ∀ d ∈ dtypes, d = dtype) :
    castSupported env isSupport (dtype :: dtypes) = castSupported env isSupport [dtype] := by
  induction dtypes with
  | nil => rfl
  | cons d dtypes ih =>
      obtain rfl : d = dtype := h d List.mem_cons_self
      have ih := ih fun d' hd' => h d' (List.mem_cons_of_mem d hd')
      cases isSupport with
      | false => rfl
      | true =>
          rw [← ih]
          show (isCastSupport env.toTvmEnv d "float32" >>= fun ok =>
              castSupported env ok (d :: dtypes))
            = isCastSupport env.toTvmEnv d "float32" >>= fun ok => castSupported env ok dtypes
          cases hcast : isCastSupport env.toTvmEnv d "float32" with
          | error e => rfl
          | ok ok =>
              show castSupported env ok (d :: dtypes) = castSupported env ok dtypes
              -- After a type that cannot be cast the others are not looked at.
              cases ok with
              | false =>
                  cases dtypes with
                  | nil => rfl
                  | cons d' dtypes => rfl
              | true =>
                  show (isCastSupport env.toTvmEnv d "float32" >>= fun ok =>
                    castSupported env ok dtypes) = _
                  rw [hcast]
                  rfl

/-! ## §2. The procedure. -/

/-- The types of the tensors among the arguments. -/
def dtypesOf (args : List (Arg ν)) : List String :=
  args.filterMap fun a =>
    match a with
    | .tensor t => some t.dtype
    | .scalar _ => none

/-- The type for tensors of the given types: their own, where it is one and the operation has
it; `float32`, where the operation has that and all can be cast; else `float16`. -/
def targetDtype (env : DslEnv ν) (intr first : String) (rest : List String) :
    Except PyError String :=
  if supports env intr first = true ∧ ∀ d ∈ rest, d = first then .ok first
  else castSupported env (supports env intr "float32") (first :: rest) >>= fun ok =>
    .ok (if ok then "float32" else "float16")

/-- An argument, brought to a type. -/
def toDtype (env : DslEnv ν) (three : Bool) (dtype : String) : Arg ν → Except PyError (Arg ν)
  | .tensor t => (cast env.toTvmEnv t dtype).map .tensor
  | .scalar s =>
      (if three then scalarOrStr env s dtype else getTvmScalar env s dtype).map .scalar

/-- Three tensors are not of different types. -/
def checkThree (first : String) : List String → Except PyError Unit
  | [d₁, d₂] => raiseIf (first ≠ d₁ ∨ first ≠ d₂ ∨ d₂ ≠ d₁) (differentTypes first d₁ d₂)
  | _ => .ok ()

/-- One to three arguments, the tensors among them of the given types, brought to one type. -/
def bringTogether (env : DslEnv ν) (intr : String) (args : List (Arg ν)) :
    List String → Except PyError (List (Arg ν))
  | [] => .ok args
  | first :: rest =>
      if 3 < args.length then .ok args
      else do
        checkThree first rest
        let dtype ← targetDtype env intr first rest
        args.mapM (toDtype env (args.length == 3) dtype)

/-- **The arguments that the operation gets.** -/
def castArgs (env : DslEnv ν) (name : String) (args : List (Arg ν)) :
    Except PyError (List (Arg ν)) :=
  if env.unify then .ok args
  else do
    checkArgsType env args
    bringTogether env (intrinsicCheck env name) args (dtypesOf args)

/-! ## §3. The branches of the decorator. -/

/-- What is done with the target. -/
theorem targetDtype_bind {α : Type} (env : DslEnv ν) (intr first : String)
    (rest : List String) (f : String → Except PyError α) :
    targetDtype env intr first rest >>= f
      = if supports env intr first = true ∧ ∀ d ∈ rest, d = first then f first
        else castSupported env (supports env intr "float32") (first :: rest) >>= fun ok =>
          if ok then f "float32" else f "float16" := by
  unfold targetDtype
  split
  · rfl
  · cases castSupported env (supports env intr "float32") (first :: rest) with
    | error e => rfl
    | ok ok => cases ok <;> rfl

/-- Two tensors agree if both have the first one's type, and the operation has it. -/
theorem agreed_iff {intr dtypeL dtypeR : String} :
    Agreed env intr dtypeL dtypeR
      ↔ supports env intr dtypeL = true ∧ ∀ d ∈ [dtypeR], d = dtypeL := by
  unfold Agreed
  constructor
  · rintro ⟨hl, _, heq⟩
    exact ⟨hl, fun d hd => (List.mem_singleton.mp hd).trans heq.symm⟩
  · rintro ⟨hl, hall⟩
    obtain rfl := hall dtypeR (List.mem_singleton.mpr rfl)
    exact ⟨hl, hl, rfl⟩

/-- What is checked of three tensors. -/
theorem checkThree_pair (first d₁ d₂ : String) :
    checkThree first [d₁, d₂]
      = raiseIf (first ≠ d₁ ∨ first ≠ d₂ ∨ d₂ ≠ d₁) (differentTypes first d₁ d₂) := rfl

section Branches

variable (env) (intr : String)

/-- One tensor is brought to the type that is chosen for it. -/
theorem castOneInputTensor_eq (t : TupleSum.Tensor) :
    castOneInputTensor env intr (supports env intr "float32") t
      = targetDtype env intr t.dtype [] >>= fun d => cast env.toTvmEnv t d := by
  rw [targetDtype_bind]
  unfold castOneInputTensor
  by_cases h : supports env intr t.dtype = true
  · rw [if_pos h, if_pos ⟨h, fun d hd => by cases hd⟩, cast_self]
    rfl
  · rw [if_neg h, if_neg fun hboth => h hboth.1]

/-- Two tensors are brought to one type, in order. -/
theorem castTwoInputTensor_eq (lhs rhs : TupleSum.Tensor) :
    castTwoInputTensor env intr (supports env intr "float32") lhs rhs
      = targetDtype env intr lhs.dtype [rhs.dtype] >>= fun d =>
        cast env.toTvmEnv lhs d >>= fun lhs => cast env.toTvmEnv rhs d >>= fun rhs =>
          .ok (lhs, rhs) := by
  rw [targetDtype_bind]
  unfold castTwoInputTensor
  by_cases h : Agreed env intr lhs.dtype rhs.dtype
  · rw [if_pos h, if_pos (agreed_iff.mp h)]
    obtain ⟨_, _, heq⟩ := h
    rw [cast_self, heq, cast_self]
    rfl
  · rw [if_neg h, if_neg fun hboth => h (agreed_iff.mpr hboth)]
    rfl

/-- A scalar goes with the type of the tensor. -/
theorem castTensorScalarTwoInput_eq (t : TupleSum.Tensor) (s : Scalar ν) :
    castTensorScalarTwoInput env intr (supports env intr "float32") t s
      = targetDtype env intr t.dtype [] >>= fun d =>
        cast env.toTvmEnv t d >>= fun t => getTvmScalar env s d >>= fun s => .ok (t, s) := by
  rw [targetDtype_bind]
  unfold castTensorScalarTwoInput
  by_cases h : supports env intr t.dtype = true
  · rw [if_pos h, if_pos ⟨h, fun d hd => by cases hd⟩, cast_self]
    rfl
  · rw [if_neg h, if_neg fun hboth => h hboth.1]
    rfl

/-- Three tensors have to be of one type already. -/
theorem castThreeInputTensor_eq (t₀ t₁ t₂ : TupleSum.Tensor) :
    castThreeInputTensor env intr (supports env intr "float32") t₀ t₁ t₂
      = checkThree t₀.dtype [t₁.dtype, t₂.dtype] >>= fun _ =>
        targetDtype env intr t₀.dtype [t₁.dtype, t₂.dtype] >>= fun d =>
        cast env.toTvmEnv t₀ d >>= fun t₀ => cast env.toTvmEnv t₁ d >>= fun t₁ =>
          cast env.toTvmEnv t₂ d >>= fun t₂ => .ok (t₀, t₁, t₂) := by
  rw [checkThree_pair]
  unfold castThreeInputTensor
  by_cases hdiffer : t₀.dtype ≠ t₁.dtype ∨ t₀.dtype ≠ t₂.dtype ∨ t₂.dtype ≠ t₁.dtype
  · unfold raiseIf
    rw [if_pos hdiffer]
    rfl
  · -- One type: it is asked for once, and three times by `targetDtype`.
    have h₁ : t₁.dtype = t₀.dtype := by
      by_contra hne
      exact hdiffer (.inl (Ne.symm hne))
    have h₂ : t₂.dtype = t₀.dtype := by
      by_contra hne
      exact hdiffer (.inr (.inl (Ne.symm hne)))
    have hall : ∀ d ∈ [t₁.dtype, t₂.dtype], d = t₀.dtype := by
      rw [h₁, h₂]
      simp
    rw [show raiseIf _ (differentTypes t₀.dtype t₁.dtype t₂.dtype) = .ok () from if_neg hdiffer]
    refine Eq.trans ?_ (targetDtype_bind env intr t₀.dtype [t₁.dtype, t₂.dtype] _).symm
    have hself₁ := cast_self env.toTvmEnv t₁
    have hself₂ := cast_self env.toTvmEnv t₂
    rw [h₁] at hself₁
    rw [h₂] at hself₂
    by_cases h : supports env intr t₀.dtype = true
    · rw [if_pos h, if_pos ⟨h, hall⟩, cast_self, hself₁, hself₂]
      rfl
    · rw [if_neg h, if_neg fun hboth => h hboth.1, castSupported_const env _ hall]
      rfl

/-- Behind two tensors a scalar that is text stays text. -/
theorem castTensorsScalarInThreeInput_eq (lhs rhs : TupleSum.Tensor) (s : Scalar ν) :
    castTensorsScalarInThreeInput env intr (supports env intr "float32") lhs rhs s
      = targetDtype env intr lhs.dtype [rhs.dtype] >>= fun d =>
        cast env.toTvmEnv lhs d >>= fun lhs => cast env.toTvmEnv rhs d >>= fun rhs =>
          scalarOrStr env s d >>= fun s => .ok (lhs, rhs, s) := by
  rw [targetDtype_bind]
  unfold castTensorsScalarInThreeInput
  by_cases h : Agreed env intr lhs.dtype rhs.dtype
  · rw [if_pos h, if_pos (agreed_iff.mp h)]
    obtain ⟨_, _, heq⟩ := h
    rw [cast_self, heq, cast_self]
    rfl
  · rw [if_neg h, if_neg fun hboth => h (agreed_iff.mpr hboth)]
    rfl

/-! With what the operation makes of the arguments, each branch is the procedure. -/

variable (func : List (Arg ν) → Except PyError β)

/-- One tensor. -/
theorem bringTogether_tensor (t : TupleSum.Tensor) :
    (castOneInputTensor env intr (supports env intr "float32") t >>= fun t => func [.tensor t])
      = bringTogether env intr [.tensor t] [t.dtype] >>= func := by
  rw [castOneInputTensor_eq]
  show _ = (targetDtype env intr t.dtype [] >>= _) >>= func
  cases targetDtype env intr t.dtype [] with
  | error e => rfl
  | ok d =>
      show (cast env.toTvmEnv t d >>= fun t => func [.tensor t])
        = [Arg.tensor t].mapM (toDtype env false d) >>= func
      rw [List.mapM_cons, List.mapM_nil, toDtype]
      cases cast env.toTvmEnv t d <;> rfl

/-- Two tensors. -/
theorem bringTogether_tensors (lhs rhs : TupleSum.Tensor) :
    (castTwoInputTensor env intr (supports env intr "float32") lhs rhs >>= fun r =>
        func [.tensor r.1, .tensor r.2])
      = bringTogether env intr [.tensor lhs, .tensor rhs] [lhs.dtype, rhs.dtype] >>= func := by
  rw [castTwoInputTensor_eq]
  show _ = (targetDtype env intr lhs.dtype [rhs.dtype] >>= _) >>= func
  cases targetDtype env intr lhs.dtype [rhs.dtype] with
  | error e => rfl
  | ok d =>
      show ((cast env.toTvmEnv lhs d >>= _) >>= _)
        = [Arg.tensor lhs, Arg.tensor rhs].mapM (toDtype env false d) >>= func
      rw [List.mapM_cons, List.mapM_cons, List.mapM_nil, toDtype, toDtype]
      cases cast env.toTvmEnv lhs d <;> cases cast env.toTvmEnv rhs d <;> rfl

/-- A tensor and a scalar. -/
theorem bringTogether_tensor_scalar (t : TupleSum.Tensor) (s : Scalar ν) :
    (castTensorScalarTwoInput env intr (supports env intr "float32") t s >>= fun r =>
        func [.tensor r.1, .scalar r.2])
      = bringTogether env intr [.tensor t, .scalar s] [t.dtype] >>= func := by
  rw [castTensorScalarTwoInput_eq]
  show _ = (targetDtype env intr t.dtype [] >>= _) >>= func
  cases targetDtype env intr t.dtype [] with
  | error e => rfl
  | ok d =>
      show ((cast env.toTvmEnv t d >>= _) >>= _)
        = [Arg.tensor t, Arg.scalar s].mapM (toDtype env false d) >>= func
      -- Two arguments: the scalar goes through `get_tvm_scalar`.
      rw [List.mapM_cons, List.mapM_cons, List.mapM_nil, toDtype, toDtype,
        if_neg Bool.false_ne_true]
      cases cast env.toTvmEnv t d <;> cases getTvmScalar env s d <;> rfl

/-- Three tensors. -/
theorem bringTogether_three (t₀ t₁ t₂ : TupleSum.Tensor) :
    (castThreeInputTensor env intr (supports env intr "float32") t₀ t₁ t₂ >>= fun r =>
        func [.tensor r.1, .tensor r.2.1, .tensor r.2.2])
      = bringTogether env intr [.tensor t₀, .tensor t₁, .tensor t₂]
          [t₀.dtype, t₁.dtype, t₂.dtype] >>= func := by
  rw [castThreeInputTensor_eq]
  show _ = (checkThree t₀.dtype [t₁.dtype, t₂.dtype] >>= _) >>= func
  cases checkThree t₀.dtype [t₁.dtype, t₂.dtype] with
  | error e => rfl
  | ok u =>
      show ((targetDtype env intr t₀.dtype [t₁.dtype, t₂.dtype] >>= _) >>= _)
        = (targetDtype env intr t₀.dtype [t₁.dtype, t₂.dtype] >>= _) >>= func
      cases targetDtype env intr t₀.dtype [t₁.dtype, t₂.dtype] with
      | error e => rfl
      | ok d =>
          show ((cast env.toTvmEnv t₀ d >>= _) >>= _)
            = [Arg.tensor t₀, Arg.tensor t₁, Arg.tensor t₂].mapM (toDtype env true d) >>= func
          rw [List.mapM_cons, List.mapM_cons, List.mapM_cons, List.mapM_nil, toDtype, toDtype,
            toDtype]
          cases cast env.toTvmEnv t₀ d <;> cases cast env.toTvmEnv t₁ d <;>
            cases cast env.toTvmEnv t₂ d <;> rfl

/-- Two tensors and a scalar. -/
theorem bringTogether_tensors_scalar (lhs rhs : TupleSum.Tensor) (s : Scalar ν) :
    (castTensorsScalarInThreeInput env intr (supports env intr "float32") lhs rhs s >>= fun r =>
        func [.tensor r.1, .tensor r.2.1, .scalar r.2.2])
      = bringTogether env intr [.tensor lhs, .tensor rhs, .scalar s] [lhs.dtype, rhs.dtype]
          >>= func := by
  rw [castTensorsScalarInThreeInput_eq]
  show _ = (targetDtype env intr lhs.dtype [rhs.dtype] >>= _) >>= func
  cases targetDtype env intr lhs.dtype [rhs.dtype] with
  | error e => rfl
  | ok d =>
      show ((cast env.toTvmEnv lhs d >>= _) >>= _)
        = [Arg.tensor lhs, Arg.tensor rhs, Arg.scalar s].mapM (toDtype env true d) >>= func
      -- Three arguments: a scalar that is text stays text.
      rw [List.mapM_cons, List.mapM_cons, List.mapM_cons, List.mapM_nil, toDtype, toDtype,
        toDtype, if_pos rfl]
      cases cast env.toTvmEnv lhs d <;> cases cast env.toTvmEnv rhs d <;>
        cases scalarOrStr env s d <;> rfl

end Branches

/-- More than three arguments stay as they are. -/
theorem bringTogether_many (intr : String) {args : List (Arg ν)} (hlen : 3 < args.length)
    (dtypes : List String) : bringTogether env intr args dtypes = .ok args := by
  cases dtypes with
  | nil => rfl
  | cons first rest => rw [bringTogether, if_pos hlen]

/-- **The decorator is the procedure.** -/
theorem auto_cast_of_elewise_eq (env : DslEnv ν) (name : String)
    (func : List (Arg ν) → Except PyError β) (args : List (Arg ν)) :
    autoCastOfElewise env name func args = castArgs env name args >>= func := by
  unfold autoCastOfElewise castArgs
  by_cases hunify : env.unify = true
  · rw [if_pos hunify, if_pos hunify]
    rfl
  · rw [if_neg hunify, if_neg hunify]
    -- The branches, by the number of arguments and the kind of each.
    match args with
    | [] => rfl
    | [.scalar _] => rfl
    | [.tensor t] => exact bringTogether_tensor env _ func t
    | [.scalar _, _] => rfl
    | [.tensor lhs, .tensor rhs] => exact bringTogether_tensors env _ func lhs rhs
    | [.tensor t, .scalar s] => exact bringTogether_tensor_scalar env _ func t s
    | [.scalar _, _, _] => rfl
    | [.tensor _, .scalar _, _] => rfl
    | [.tensor t₀, .tensor t₁, .tensor t₂] => exact bringTogether_three env _ func t₀ t₁ t₂
    | [.tensor lhs, .tensor rhs, .scalar s] =>
        exact bringTogether_tensors_scalar env _ func lhs rhs s
    | a :: b :: c :: d :: rest =>
        have hlen : 3 < (a :: b :: c :: d :: rest).length := by
          simp only [List.length_cons]
          omega
        rw [bringTogether_many _ hlen]
        cases a <;> cases b <;> cases c <;> rfl

/-! ## §4. What the operation gets. -/

/-- An argument and what becomes of it with a target type. -/
inductive BroughtTo (env : DslEnv ν) (dtype : String) : Arg ν → Arg ν → Prop where
  | tensor {t t' : TupleSum.Tensor} : cast env.toTvmEnv t dtype = .ok t' → t'.dtype = dtype →
      t'.shape = t.shape → BroughtTo env dtype (.tensor t) (.tensor t')
  | number (value : ν) :
      BroughtTo env dtype (.scalar (.number value)) (.scalar (tvmConst env value dtype))
  | sameImm (value : ν) :
      BroughtTo env dtype (.scalar (.imm dtype value)) (.scalar (.imm dtype value))
  | otherImm {own : String} (value : ν) : own ≠ dtype →
      BroughtTo env dtype (.scalar (.imm own value)) (.scalar (tvmConst env value dtype))
  | var (name : String) : BroughtTo env dtype (.scalar (.var name)) (.scalar (.var name))
  | str (text : String) : BroughtTo env dtype (.scalar (.str text)) (.scalar (.str text))

/-- A scalar that was made is of the type that was asked for. -/
theorem broughtTo_of_getTvmScalar {dtype : String} {s s' : Scalar ν}
    (h : getTvmScalar env s dtype = .ok s') : BroughtTo env dtype (.scalar s) (.scalar s') := by
  unfold getTvmScalar at h
  obtain ⟨_, hjudge, h⟩ := bind_eq_ok.mp h
  cases s with
  | number value =>
      cases h
      exact .number value
  | imm own value =>
      dsimp only at h
      by_cases heq : own = dtype
      · rw [if_pos heq] at h
        cases h
        subst heq
        exact .sameImm value
      · rw [if_neg heq] at h
        cases h
        exact .otherImm value heq
  | var name =>
      cases h
      exact .var name
  | str text => cases hjudge
  | other id => cases hjudge

/-- So it is, or it is text and stays as it is. -/
theorem broughtTo_of_scalarOrStr {dtype : String} {s s' : Scalar ν}
    (h : scalarOrStr env s dtype = .ok s') : BroughtTo env dtype (.scalar s) (.scalar s') := by
  cases s with
  | str text =>
      cases h
      exact .str text
  | number value => exact broughtTo_of_getTvmScalar h
  | imm own value => exact broughtTo_of_getTvmScalar h
  | var name => exact broughtTo_of_getTvmScalar h
  | other id => exact broughtTo_of_getTvmScalar h

/-- **Every argument** is brought to the type. -/
theorem broughtTo_of_toDtype {three : Bool} {dtype : String} {a a' : Arg ν}
    (h : toDtype env three dtype a = .ok a') : BroughtTo env dtype a a' := by
  cases a with
  | tensor t =>
      obtain ⟨t', ht', rfl⟩ := map_eq_ok.mp h
      obtain ⟨hdtype, hshape⟩ := cast_spec ht'
      exact .tensor ht' hdtype hshape
  | scalar s =>
      obtain ⟨s', hs', rfl⟩ := map_eq_ok.mp h
      cases three with
      | true => exact broughtTo_of_scalarOrStr hs'
      | false => exact broughtTo_of_getTvmScalar hs'

/-- The tensors come out with the target type. -/
theorem BroughtTo.dtype_eq {dtype : String} {a : Arg ν} {t' : TupleSum.Tensor}
    (h : BroughtTo env dtype a (.tensor t')) : t'.dtype = dtype := by
  cases h with
  | tensor _ hdtype _ => exact hdtype

/-- So do the constants. -/
theorem BroughtTo.imm_eq {dtype own : String} {a : Arg ν} {value : ν}
    (h : BroughtTo env dtype a (.scalar (.imm own value))) : own = dtype := by
  cases h with
  | number _ => rfl
  | sameImm _ => rfl
  | otherImm _ _ => rfl

/-- The types of the tensors among the arguments. -/
theorem mem_dtypesOf {args : List (Arg ν)} {dtype : String} :
    dtype ∈ dtypesOf args ↔ ∃ t, .tensor t ∈ args ∧ t.dtype = dtype := by
  unfold dtypesOf
  rw [List.mem_filterMap]
  constructor
  · rintro ⟨a, ha, heq⟩
    cases a with
    | tensor t => exact ⟨t, ha, Option.some.inj heq⟩
    | scalar s => cases heq
  · rintro ⟨t, ht, rfl⟩
    exact ⟨.tensor t, ht, rfl⟩

/-- With one to three arguments, the first is a tensor. -/
theorem dtypesOf_ne_nil {args : List (Arg ν)} (hne : args ≠ []) (hlen : args.length ≤ 3)
    (h : checkArgsType env args = .ok ()) : dtypesOf args ≠ [] := by
  have hfirst : ∃ t, .tensor t ∈ args := by
    match args with
    | [] => exact absurd rfl hne
    | .tensor t :: rest => exact ⟨t, List.mem_cons_self⟩
    | [.scalar _] => cases h
    | [.scalar _, _] => cases h
    | [.scalar _, _, _] => cases h
    | .scalar _ :: _ :: _ :: _ :: rest =>
        simp only [List.length_cons] at hlen
        omega
  obtain ⟨t, ht⟩ := hfirst
  exact List.ne_nil_of_mem (mem_dtypesOf.mpr ⟨t, ht, rfl⟩)

/-- All tensors have the type, and the operation has it. -/
def IsOwn (env : DslEnv ν) (intr : String) (dtypes : List String) (dtype : String) : Prop :=
  (∀ d ∈ dtypes, d = dtype) ∧ supports env intr dtype = true

/-- The operation has `float32`, and all tensors can be cast to it. -/
def FitsFloat32 (env : DslEnv ν) (intr : String) (dtypes : List String) : Prop :=
  supports env intr "float32" = true ∧
    ∀ d ∈ dtypes, isCastSupport env.toTvmEnv d "float32" = .ok true

/-- The chosen type: the own type of all tensors, where they have one and the operation has it;
else `float32`, where the operation has that and all tensors can be cast to it; else
`float16`. -/
structure Chosen (env : DslEnv ν) (intr : String) (dtypes : List String) (dtype : String) :
    Prop where
  own : ∀ d, IsOwn env intr dtypes d → dtype = d
  float32 : (¬∃ d, IsOwn env intr dtypes d) → FitsFloat32 env intr dtypes → dtype = "float32"
  float16 : (¬∃ d, IsOwn env intr dtypes d) → ¬FitsFloat32 env intr dtypes → dtype = "float16"

/-- No type is chosen that the operation lacks, other than `float16`. -/
theorem Chosen.offered {intr dtype : String} {dtypes : List String}
    (h : Chosen env intr dtypes dtype) : supports env intr dtype = true ∨ dtype = "float16" := by
  by_cases hown : ∃ d, IsOwn env intr dtypes d
  · obtain ⟨d, hd⟩ := hown
    rw [h.own d hd]
    exact .inl hd.2
  · by_cases hfloat : FitsFloat32 env intr dtypes
    · rw [h.float32 hown hfloat]
      exact .inl hfloat.1
    · exact .inr (h.float16 hown hfloat)

/-- When `float32` can be chosen. -/
theorem fitsFloat32_iff {intr : String} {dtypes : List String} :
    castSupported env (supports env intr "float32") dtypes = .ok true
      ↔ FitsFloat32 env intr dtypes := by
  unfold FitsFloat32
  generalize supports env intr "float32" = isSupport
  induction dtypes generalizing isSupport with
  | nil =>
      rw [and_iff_left (List.forall_mem_nil _)]
      exact ⟨Except.ok.inj, congrArg Except.ok⟩
  | cons d dtypes ih =>
      cases isSupport with
      | false => exact iff_of_false (fun h => by cases h) fun h => Bool.false_ne_true h.1
      | true =>
          show (isCastSupport env.toTvmEnv d "float32" >>= fun ok => castSupported env ok dtypes)
            = .ok true ↔ _
          rw [bind_eq_ok, List.forall_mem_cons, and_iff_right rfl]
          constructor
          · rintro ⟨ok, hok, h⟩
            obtain ⟨rfl, hall⟩ := (ih ok).mp h
            exact ⟨hok, hall⟩
          · rintro ⟨hok, hall⟩
            exact ⟨true, hok, (ih true).mpr ⟨rfl, hall⟩⟩

/-- **The chosen type** is one that the rule allows. -/
theorem chosen_of_targetDtype {intr first dtype : String} {rest : List String}
    (h : targetDtype env intr first rest = .ok dtype) :
    Chosen env intr (first :: rest) dtype := by
  unfold targetDtype at h
  by_cases hown : supports env intr first = true ∧ ∀ d ∈ rest, d = first
  · rw [if_pos hown] at h
    cases h
    have hfirst : IsOwn env intr (first :: rest) first :=
      ⟨List.forall_mem_cons.mpr ⟨rfl, hown.2⟩, hown.1⟩
    exact ⟨fun d hd => hd.1 first List.mem_cons_self, fun hnot => absurd ⟨first, hfirst⟩ hnot,
      fun hnot => absurd ⟨first, hfirst⟩ hnot⟩
  · rw [if_neg hown] at h
    obtain ⟨ok, hok, h⟩ := bind_eq_ok.mp h
    have hnone : ¬∃ d, IsOwn env intr (first :: rest) d := by
      rintro ⟨d, hall, hd⟩
      have hfirst := hall first List.mem_cons_self
      exact hown ⟨hfirst ▸ hd, fun d' hd' =>
        (hall d' (List.mem_cons_of_mem _ hd')).trans hfirst.symm⟩
    cases h
    cases ok with
    | true =>
        exact ⟨fun d hd => absurd ⟨d, hd⟩ hnone, fun _ _ => rfl,
          fun _ hnot => absurd (fitsFloat32_iff.mp hok) hnot⟩
    | false =>
        refine ⟨fun d hd => absurd ⟨d, hd⟩ hnone, fun _ hfits => ?_, fun _ _ => rfl⟩
        rw [fitsFloat32_iff.mpr hfits] at hok
        cases hok

/-- A call of one to three arguments that returns has handed on arguments of one type. -/
theorem castArgs_spec {name : String} {args args' : List (Arg ν)}
    (hstatic : env.unify = false) (hne : args ≠ []) (hlen : args.length ≤ 3)
    (h : castArgs env name args = .ok args') :
    ∃ dtype, Chosen env (intrinsicCheck env name) (dtypesOf args) dtype ∧
      args.mapM (toDtype env (args.length == 3) dtype) = .ok args' := by
  unfold castArgs at h
  rw [if_neg (by rw [hstatic]; exact Bool.false_ne_true)] at h
  obtain ⟨_, hcheck, h⟩ := bind_eq_ok.mp h
  cases hdtypes : dtypesOf args with
  | nil => exact absurd hdtypes (dtypesOf_ne_nil hne hlen hcheck)
  | cons first rest =>
      rw [hdtypes] at h
      rw [bringTogether, if_neg (Nat.not_lt.mpr hlen)] at h
      obtain ⟨_, _, h⟩ := bind_eq_ok.mp h
      obtain ⟨dtype, htarget, h⟩ := bind_eq_ok.mp h
      exact ⟨dtype, chosen_of_targetDtype htarget, h⟩

/-- **The arguments that an operation gets.**  With a static shape and one to three arguments,
a call that returns has called the operation with all tensors and all constants of one type:
the type of the tensors, where they have one and the operation has it, and otherwise `float32`,
where the operation has that and all tensors can be cast to it, or `float16`.  Every argument stands for the one at its place,
and no tensor has another shape. -/
theorem elewise_arguments {name : String} {func : List (Arg ν) → Except PyError β}
    {args : List (Arg ν)} {r : β} (hstatic : env.unify = false)
    (hne : args ≠ []) (hlen : args.length ≤ 3)
    (h : autoCastOfElewise env name func args = .ok r) :
    ∃ dtype args', func args' = .ok r ∧
      Chosen env (intrinsicCheck env name) (dtypesOf args) dtype ∧
      List.Forall₂ (BroughtTo env dtype) args args' ∧
      (∀ t, .tensor t ∈ args' → t.dtype = dtype) ∧
      (∀ own value, .scalar (.imm own value) ∈ args' → own = dtype) := by
  rw [auto_cast_of_elewise_eq] at h
  obtain ⟨args', hargs, hfunc⟩ := bind_eq_ok.mp h
  obtain ⟨dtype, hchosen, hmap⟩ := castArgs_spec hstatic hne hlen hargs
  have hall : List.Forall₂ (BroughtTo env dtype) args args' :=
    (mapM_eq_ok.mp hmap).imp fun a a' => broughtTo_of_toDtype
  refine ⟨dtype, args', hfunc, hchosen, hall, fun t ht => ?_, fun own value hmem => ?_⟩
  · obtain ⟨a, _, ha⟩ := exists_of_forall₂ hall ht
    exact ha.dtype_eq
  · obtain ⟨a, _, ha⟩ := exists_of_forall₂ hall hmem
    exact ha.imm_eq

/-- A product that adds numbers of `float16`, `float32` and `int32`, and casts `int8` to
`float16` only. -/
def vaddEnv : DslEnv Int where
  intrinsicCheckSupport intr dtype :=
    (intr == "Intrinsic_vadd" && dtype ∈ f16F32S32) ||
      (intr == "Intrinsic_vconv" && dtype ∈ ["s82f16", "f162f32", "f322f16"])
  cast _ _ x := x
  vmulsOne t := .ok t
  intrinsicSupported intr := intr ∈ ["Intrinsic_vadd", "Intrinsic_vconv"]
  constValue _ value := value
  typeText _ := "int"
  productVersion := .cloud
  shortSocVersion := "Ascend910"
  unify := false

/-- A tensor of a type that the operation does not have. -/
def int8Tensor : TupleSum.Tensor where
  shape := [2]
  dtype := "int8"
  value _ := 1

/-- An operation that counts its arguments. -/
def countArgs (args : List (Arg Int)) : Except PyError Nat := .ok args.length

/-- A tensor and a number. -/
theorem elewise_arguments_vadd :
    ∃ dtype args', countArgs args' = .ok 2 ∧
      Chosen vaddEnv (intrinsicCheck vaddEnv "vadd")
        (dtypesOf [Arg.tensor int8Tensor, .scalar (.number 3)]) dtype ∧
      List.Forall₂ (BroughtTo vaddEnv dtype) [.tensor int8Tensor, .scalar (.number 3)] args' ∧
      (∀ t, .tensor t ∈ args' → t.dtype = dtype) ∧
      (∀ own value, .scalar (.imm own value) ∈ args' → own = dtype) := by
  have hlen : [Arg.tensor int8Tensor, .scalar (.number (3 : Int))].length ≤ 3 := Nat.le_succ 2
  exact elewise_arguments rfl (List.cons_ne_nil _ _) hlen rfl

/-! ## §5. A second decorator. -/

/-- A scalar that has been made is made again, -/
theorem getTvmScalar_imm (dtype : String) (value : ν) :
    getTvmScalar env (.imm dtype value) dtype = .ok (.imm dtype value) := by
  show (.ok (if dtype = dtype then .imm dtype value else tvmConst env value dtype) :
    Except PyError (Scalar ν)) = _
  rw [if_pos rfl]

/-- as it is. -/
theorem getTvmScalar_again {dtype : String} {s s' : Scalar ν}
    (h : getTvmScalar env s dtype = .ok s') : getTvmScalar env s' dtype = .ok s' := by
  cases broughtTo_of_getTvmScalar h with
  | number value => exact getTvmScalar_imm dtype _
  | sameImm value => exact getTvmScalar_imm dtype _
  | otherImm value _ => exact getTvmScalar_imm dtype _
  | var name => rfl
  | str text => exact h

/-- Text stays text. -/
theorem scalarOrStr_again {dtype : String} {s s' : Scalar ν}
    (h : scalarOrStr env s dtype = .ok s') : scalarOrStr env s' dtype = .ok s' := by
  cases broughtTo_of_scalarOrStr h with
  | number value => exact getTvmScalar_imm dtype _
  | sameImm value => exact getTvmScalar_imm dtype _
  | otherImm value _ => exact getTvmScalar_imm dtype _
  | var name => rfl
  | str text => rfl

/-- What has been brought to a type stays as it is. -/
theorem toDtype_again {three : Bool} {dtype : String} {a a' : Arg ν}
    (h : toDtype env three dtype a = .ok a') : toDtype env three dtype a' = .ok a' := by
  cases a with
  | tensor t =>
      obtain ⟨t', ht', rfl⟩ := map_eq_ok.mp h
      refine map_eq_ok.mpr ⟨t', ?_, rfl⟩
      have hself := cast_self env.toTvmEnv t'
      rwa [(cast_spec ht').1] at hself
  | scalar s =>
      obtain ⟨s', hs', rfl⟩ := map_eq_ok.mp h
      refine map_eq_ok.mpr ⟨s', ?_, rfl⟩
      cases three with
      | true => exact scalarOrStr_again hs'
      | false => exact getTvmScalar_again hs'

/-- A tensor stays a tensor. -/
theorem checkFirst_of_broughtTo {dtype : String} {a a' : Arg ν} (h : BroughtTo env dtype a a')
    (hcheck : checkArgsType.checkFirst env a = .ok ()) :
    checkArgsType.checkFirst env a' = .ok () := by
  cases h with
  | tensor _ _ _ => rfl
  | number _ => cases hcheck
  | sameImm _ => cases hcheck
  | otherImm _ _ => cases hcheck
  | var _ => cases hcheck
  | str _ => cases hcheck

/-- Arguments that were brought to a type pass the check again. -/
theorem checkArgsType_of_broughtTo {dtype : String} {args args' : List (Arg ν)}
    (h : List.Forall₂ (BroughtTo env dtype) args args') (hlen : args.length ≤ 3)
    (hcheck : checkArgsType env args = .ok ()) : checkArgsType env args' = .ok () := by
  match h with
  | .nil => rfl
  | .cons ha .nil => exact checkFirst_of_broughtTo ha hcheck
  | .cons ha (.cons _ .nil) => exact checkFirst_of_broughtTo ha hcheck
  | .cons ha (.cons hb (.cons _ .nil)) =>
      obtain ⟨_, hfirst, hsecond⟩ := bind_eq_ok.mp hcheck
      refine bind_eq_ok.mpr ⟨(), checkFirst_of_broughtTo ha hfirst, ?_⟩
      cases hb with
      | tensor _ _ _ => rfl
      | number _ => cases hsecond
      | sameImm _ => cases hsecond
      | otherImm _ _ => cases hsecond
      | var _ => cases hsecond
      | str _ => cases hsecond
  | .cons _ (.cons _ (.cons _ (.cons _ _))) =>
      simp only [List.length_cons] at hlen
      omega

/-- Tensors of one type pass. -/
theorem checkThree_const {dtype : String} {rest : List String} (h : ∀ d ∈ rest, d = dtype) :
    checkThree dtype rest = .ok () := by
  match rest with
  | [] => rfl
  | [_] => rfl
  | [d₁, d₂] =>
      rw [checkThree_pair, h d₁ (by simp), h d₂ (by simp)]
      exact if_neg (by simp)
  | _ :: _ :: _ :: _ => rfl

/-- The type that was chosen is chosen again. -/
theorem targetDtype_again {intr dtype : String} {rest : List String}
    (hoffered : supports env intr dtype = true ∨ dtype = "float16")
    (hfloat : supports env intr "float32" = true → supports env intr "float16" = true)
    (h : ∀ d ∈ rest, d = dtype) : targetDtype env intr dtype rest = .ok dtype := by
  unfold targetDtype
  by_cases hsupports : supports env intr dtype = true
  · rw [if_pos ⟨hsupports, h⟩]
  · -- Then it is `float16`, which the operation lacks, and so it lacks `float32`.
    obtain rfl := hoffered.resolve_left hsupports
    have hfp32 : supports env intr "float32" = false :=
      Bool.eq_false_iff.mpr fun hcontra => hsupports (hfloat hcontra)
    rw [if_neg fun hboth => hsupports hboth.1, hfp32]
    rfl

/-- **A second round of casts changes nothing.** -/
theorem castArgs_again {name : String} {args args' : List (Arg ν)}
    (hfloat : supports env (intrinsicCheck env name) "float32" = true →
      supports env (intrinsicCheck env name) "float16" = true)
    (h : castArgs env name args = .ok args') : castArgs env name args' = .ok args' := by
  -- With unified shapes the decorator casts nothing.
  cases hunify : env.unify with
  | true =>
      unfold castArgs
      rw [if_pos hunify]
  | false =>
      have hstatic : ¬ env.unify = true := by rw [hunify]; exact Bool.false_ne_true
      by_cases hlen : args.length ≤ 3
      · by_cases hne : args = []
        · subst hne
          unfold castArgs at h
          rw [if_neg hstatic] at h
          cases h
          unfold castArgs
          rw [if_neg hstatic]
          rfl
        · -- All arguments have the chosen type now, and it is chosen for them again.
          obtain ⟨dtype, hchosen, hmap⟩ := castArgs_spec hunify hne hlen h
          have hall := mapM_eq_ok.mp hmap
          have hbrought : List.Forall₂ (BroughtTo env dtype) args args' :=
            hall.imp fun a a' => broughtTo_of_toDtype
          have hlength := hall.length_eq
          have hagain : args'.mapM (toDtype env (args'.length == 3) dtype) = .ok args' := by
            rw [← hlength, mapM_eq_ok, List.forall₂_same]
            intro a' ha'
            obtain ⟨a, _, ha⟩ := exists_of_forall₂ hall ha'
            exact toDtype_again ha
          unfold castArgs at h ⊢
          rw [if_neg hstatic] at h ⊢
          obtain ⟨_, hcheck, _⟩ := bind_eq_ok.mp h
          have hcheck' := checkArgsType_of_broughtTo hbrought hlen hcheck
          refine bind_eq_ok.mpr ⟨(), hcheck', ?_⟩
          cases hdtypes : dtypesOf args' with
          | nil => rfl
          | cons first rest =>
              have htypes : ∀ d ∈ first :: rest, d = dtype := by
                intro d hd
                rw [← hdtypes] at hd
                obtain ⟨t, ht, rfl⟩ := mem_dtypesOf.mp hd
                obtain ⟨a, _, ha⟩ := exists_of_forall₂ hbrought ht
                exact ha.dtype_eq
              obtain rfl : first = dtype := htypes first List.mem_cons_self
              have hrest : ∀ d ∈ rest, d = first := fun d hd =>
                htypes d (List.mem_cons_of_mem _ hd)
              rw [bringTogether, if_neg (Nat.not_lt.mpr (hlength ▸ hlen)), checkThree_const hrest]
              exact bind_eq_ok.mpr ⟨(), rfl, bind_eq_ok.mpr
                ⟨first, targetDtype_again hchosen.offered hfloat hrest, hagain⟩⟩
      · -- More than three arguments are checked and passed on.
        have hmany : 3 < args.length := Nat.lt_of_not_le hlen
        unfold castArgs at h
        rw [if_neg hstatic] at h
        obtain ⟨_, hcheck, hbring⟩ := bind_eq_ok.mp h
        rw [bringTogether_many _ hmany] at hbring
        cases hbring
        unfold castArgs
        rw [if_neg hstatic]
        exact bind_eq_ok.mpr ⟨(), hcheck, bringTogether_many _ hmany _⟩

/-- **A second decorator changes nothing**, where the operation has `float16` whenever it has
`float32`. -/
theorem auto_cast_of_elewise_twice {name : String}
    (hfloat : supports env (intrinsicCheck env name) "float32" = true →
      supports env (intrinsicCheck env name) "float16" = true)
    (func : List (Arg ν) → Except PyError β) (args : List (Arg ν)) :
    autoCastOfElewise env name (autoCastOfElewise env name func) args
      = autoCastOfElewise env name func args := by
  rw [auto_cast_of_elewise_eq, auto_cast_of_elewise_eq]
  cases hargs : castArgs env name args with
  | error e => rfl
  | ok args' =>
      show autoCastOfElewise env name func args' = func args'
      rw [auto_cast_of_elewise_eq, castArgs_again hfloat hargs]
      rfl

/-- A tensor and a number, once more. -/
theorem auto_cast_of_elewise_twice_vadd :
    autoCastOfElewise vaddEnv "vadd" (autoCastOfElewise vaddEnv "vadd" countArgs)
        [.tensor int8Tensor, .scalar (.number 3)]
      = autoCastOfElewise vaddEnv "vadd" countArgs [.tensor int8Tensor, .scalar (.number 3)] :=
  auto_cast_of_elewise_twice (fun _ => rfl) _ _

end HwEfat.AutoSchedule.AutoCast
