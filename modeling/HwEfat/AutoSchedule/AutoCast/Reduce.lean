/-
  HwEfat.AutoSchedule.AutoCast.Reduce — what `auto_cast_of_reduce` and `auto_cast_of_cast`
  hand to an operation.

  The axes of a reduction are normalised before anything is decided by them, so that, unlike
  with `tuple_sum`, two ways to write the same axes are one (`reduce_spelling`).  The tables
  offer every reduction for `float16`; a tensor of a type that is not offered goes there, or
  to `float32`, and so never comes out with a type that is not offered.

  Main results: `reduce_arguments`, `reduce_spelling`, `cast_arguments`.
-/
import HwEfat.AutoSchedule.AutoCast.Elewise
import HwEfat.AutoSchedule.TupleSum.Axes

namespace HwEfat.AutoSchedule.AutoCast

open HwEfat.Lib HwEfat.AutoSchedule.TupleSum

variable {ν β : Type} {env : DslEnv ν}

/-! ## §1. `auto_cast_tensor`. -/

/-- A tensor, and what becomes of it where some types are offered. -/
structure CastInto (types : List String) (t t' : TupleSum.Tensor) : Prop where
  offered : t'.dtype ∈ types
  shape : t'.shape = t.shape
  kept : t.dtype ∈ types → t' = t

/-- **A tensor comes out with a type that is offered**, where `float16` is. -/
theorem castInto_of_autoCastTensor {intr : String} {types : List String} {t t' : TupleSum.Tensor}
    (hfloat : "float16" ∈ types) (h : autoCastTensor env t intr (some types) = .ok t') :
    CastInto types t t' := by
  unfold autoCastTensor at h
  dsimp only at h
  by_cases hmem : t.dtype ∈ types
  · rw [if_pos (decide_eq_true hmem)] at h
    cases h
    exact ⟨hmem, rfl, fun _ => rfl⟩
  · rw [if_neg (by rwa [decide_eq_true_iff])] at h
    obtain ⟨ok, hok, h⟩ := bind_eq_ok.mp h
    cases ok with
    | true =>
        have hsingle : "float32" ∈ types :=
          decide_eq_true_iff.mp (isSupport_of_castSupported hok)
        obtain ⟨hdtype, hshape⟩ := cast_spec h
        exact ⟨hdtype ▸ hsingle, hshape, fun hcontra => absurd hcontra hmem⟩
    | false =>
        obtain ⟨hdtype, hshape⟩ := cast_spec h
        exact ⟨hdtype ▸ hfloat, hshape, fun hcontra => absurd hcontra hmem⟩

/-! ## §2. The axes. -/

/-- A check that is passed has given the dimensions that are meant, each once. -/
theorem normal_of_reduceAxisCheck {n : Nat} {axis : Axis} {dims : List Nat}
    (h : reduceAxisCheck n axis.localAxis = .ok dims) : axis.InRange n ∧ dims = axis.normal n := by
  have hrange : axis.InRange n := by
    obtain ⟨checked, hchecked, _⟩ := bind_eq_ok.mp h
    intro i hi
    obtain ⟨place, hplace⟩ := List.getElem?_of_mem hi
    obtain ⟨d, _, hd⟩ := exists_mapM hchecked hplace
    obtain ⟨_, hin, _⟩ := bind_eq_ok.mp hd
    have hnot := raiseIf_eq_ok.mp hin
    omega
  rw [reduceAxisCheck_eq hrange] at h
  cases h
  exact ⟨hrange, rfl⟩

/-- The axes in increasing order, each once. -/
theorem pairwise_lt_normal {n : Nat} {axis : Axis} : (axis.normal n).Pairwise (· < ·) :=
  (pairwise_normal.and nodup_normal).imp fun ⟨hle, hne⟩ => lt_of_le_of_ne hle hne

/-! ## §3. `auto_cast_of_reduce`. -/

/-- The types that a reduction of these axes is offered for: with unified shapes, those of the
table, and `int32` unless the last axis is reduced. -/
def reduceTypes (env : DslEnv ν) (intr : String) (n : Nat) (axis : List Nat)
    (priorityFlag : Option Bool) : List String :=
  let types := dslSupportDtype env.unify env.productVersion intr
  if env.unify then (if isLastAxisOf n axis then types else types ++ ["int32"])
  else staticDtypes env intr types (isLastAxisOf n axis) (priorityFlag.getD false)

/-- A type other than `float32` stays in the list where it is in it. -/
theorem mem_staticDtypes {intr : String} {types : List String} {isLastAxis priorityFlag : Bool}
    {dtype : String} (hne : dtype ≠ "float32") (h : dtype ∈ types) :
    dtype ∈ staticDtypes env intr types isLastAxis priorityFlag := by
  have hfilter : dtype ∈ types.filter (· != "float32") :=
    List.mem_filter.mpr ⟨h, bne_iff_ne.mpr hne⟩
  have hkept : ∀ c : Prop, ∀ _ : Decidable c,
      dtype ∈ if c then types.filter (· != "float32") else types := by
    intro c _
    by_cases hc : c
    · rwa [if_pos hc]
    · rwa [if_neg hc]
  unfold staticDtypes
  dsimp only
  split
  · exact List.mem_append_left _ (hkept _ _)
  · exact hkept _ _

/-- Every reduce operation has an intrinsic. -/
theorem reduceIntr_mem {name : String} (h : name ∈ reduceApis) : reduceIntr name ∈ reduceIntrs := by
  have hnames : name = "sum" ∨ name = "reduce_min" ∨ name = "reduce_max" ∨
      name = "reduce_prod" := by
    simpa [reduceApis] using h
  rcases hnames with rfl | rfl | rfl | rfl <;> decide

/-- **What a reduction gets**: axes inside of the shape, each once and in order, and a tensor
of the same shape with a type that the reduction is offered for, which is the tensor itself if
its type is offered, and always with unified shapes. -/
theorem reduce_arguments {name : String} (hname : name ∈ reduceApis)
    {func : TupleSum.Tensor → List Nat → Bool → Except PyError β} {t : TupleSum.Tensor}
    {axis : Axis} {keepdims : Bool} {priorityFlag : Option Bool} {r : β}
    (h : autoCastOfReduce env name func (.tensor t) axis keepdims priorityFlag = .ok r) :
    axis.InRange t.shape.length ∧ (axis.normal t.shape.length).Pairwise (· < ·) ∧
      ∃ t', func t' (axis.normal t.shape.length) keepdims = .ok r ∧
        CastInto (reduceTypes env (reduceIntr name) t.shape.length
          (axis.normal t.shape.length) priorityFlag) t t' ∧
        (env.unify = true → t' = t) := by
  unfold autoCastOfReduce at h
  obtain ⟨dims, hdims, h⟩ := bind_eq_ok.mp h
  obtain ⟨hrange, rfl⟩ := normal_of_reduceAxisCheck hdims
  obtain ⟨_, _, h⟩ := bind_eq_ok.mp h
  refine ⟨hrange, pairwise_lt_normal, ?_⟩
  have hfloat := float16_mem_reduce env.unify env.productVersion (reduceIntr_mem hname)
  unfold reduceTypes
  dsimp only
  by_cases hunify : env.unify = true
  · rw [if_pos hunify] at h ⊢
    obtain ⟨_, hcheck, hfunc⟩ := bind_eq_ok.mp h
    refine ⟨t, hfunc, ⟨?_, rfl, fun _ => rfl⟩, fun _ => rfl⟩
    exact Decidable.not_not.mp (raiseIf_eq_ok.mp hcheck)
  · rw [if_neg hunify] at h ⊢
    obtain ⟨t', ht', hfunc⟩ := bind_eq_ok.mp h
    exact ⟨t', hfunc, castInto_of_autoCastTensor (mem_staticDtypes (by decide) hfloat) ht',
      fun hcontra => absurd hcontra hunify⟩

/-- An operation that tells the type that it gets. -/
def tellDtype (t : TupleSum.Tensor) (_ : List Nat) (_ : Bool) : Except PyError String := .ok t.dtype

/-- A matrix of two rows and three columns. -/
def matrix : TupleSum.Tensor where
  shape := [2, 3]
  dtype := "float32"
  value _ := 1

/-- The last axis, counted from behind. -/
theorem inRange_last : Axis.InRange (.int (-1)) 2 := fun i hi => by
  rw [List.mem_singleton.mp hi]
  decide

/-- It is axis 1. -/
theorem normal_last : Axis.normal (.int (-1)) 2 = [1] := List.mergeSort_singleton 1

/-- A maximum over the last axis, without the flag, of numbers of `float32`. -/
theorem reduce_arguments_max :
    Axis.InRange (.int (-1)) matrix.shape.length ∧
      (Axis.normal (.int (-1)) matrix.shape.length).Pairwise (· < ·) ∧
      ∃ t', tellDtype t' (Axis.normal (.int (-1)) matrix.shape.length) true = .ok "float16" ∧
        CastInto (reduceTypes vaddEnv (reduceIntr "reduce_max") matrix.shape.length
          (Axis.normal (.int (-1)) matrix.shape.length) (some false)) matrix t' ∧
        (vaddEnv.unify = true → t' = matrix) := by
  refine reduce_arguments (by decide) ?_
  unfold autoCastOfReduce
  dsimp only
  rw [show matrix.shape.length = 2 from rfl, reduceAxisCheck_eq inRange_last, normal_last]
  rfl

/-- **How the axes are written does not matter**: axes that mean the same dimensions are one
call, whatever the operation and the mode. -/
theorem reduce_spelling {t : TupleSum.Tensor} {axis axis' : Axis}
    (hrange : axis.InRange t.shape.length) (hrange' : axis'.InRange t.shape.length)
    (hdims : ∀ d, d ∈ axis.dims t.shape.length ↔ d ∈ axis'.dims t.shape.length)
    (name : String) (func : TupleSum.Tensor → List Nat → Bool → Except PyError β) (keepdims : Bool)
    (priorityFlag : Option Bool) :
    autoCastOfReduce env name func (.tensor t) axis keepdims priorityFlag
      = autoCastOfReduce env name func (.tensor t) axis' keepdims priorityFlag := by
  unfold autoCastOfReduce
  dsimp only
  rw [reduceAxisCheck_eq hrange, reduceAxisCheck_eq hrange', normal_congr hdims]

/-- The last axis in two spellings. -/
theorem reduce_spelling_last :
    autoCastOfReduce vaddEnv "reduce_max" tellDtype (.tensor matrix) (.int (-1)) true none
      = autoCastOfReduce vaddEnv "reduce_max" tellDtype (.tensor matrix) (.list [1, -1]) true
          none := by
  have hrange' : Axis.InRange (.list [1, -1]) 2 := fun i hi => by
    have hcases : i = 1 ∨ i = -1 := by simpa [Axis.localAxis] using hi
    omega
  have hdims : ∀ d, d ∈ Axis.dims (.int (-1)) 2 ↔ d ∈ Axis.dims (.list [1, -1]) 2 := fun d => by
    show d ∈ [1] ↔ d ∈ [1, 1]
    simp
  exact reduce_spelling inRange_last hrange' hdims "reduce_max" tellDtype true none

/-- **A maximum or a minimum over the last axis gets `float32` only where the hardware or the
flag allows it.** -/
theorem reduce_no_float32 {intr : String} {n : Nat} {dims : List Nat}
    {priorityFlag : Option Bool} {t t' : TupleSum.Tensor} (hstatic : env.unify = false)
    (hintr : intr ∈ ["reduce_max", "reduce_min"]) (hlast : isLastAxisOf n dims = true)
    (hvcmax : supports env "vcmax" "float32" = false) (hflag : priorityFlag.getD false = false)
    (h : CastInto (reduceTypes env intr n dims priorityFlag) t t') : t'.dtype ≠ "float32" := by
  have hoffered := h.offered
  unfold reduceTypes staticDtypes at hoffered
  dsimp only at hoffered
  rw [hstatic, if_neg Bool.false_ne_true, hlast, hvcmax, hflag,
    if_neg (fun hcontra => Bool.false_ne_true hcontra.2.symm),
    if_pos ⟨hintr, rfl, rfl⟩] at hoffered
  exact bne_iff_ne.mp (List.mem_filter.mp hoffered).2

/-! ## §4. `auto_cast_of_cast`. -/

/-- **What an operation that rounds gets**, with a static shape: a tensor of a type that the
operation is offered for on this product. -/
theorem cast_arguments {name : String} (hname : name ∈ castApis) (hstatic : env.unify = false)
    {func : Arg ν → Except PyError β} {t : TupleSum.Tensor} {r : β}
    (h : autoCastOfCast env name func (.tensor t) = .ok r) :
    ∃ t', func (.tensor t') = .ok r ∧
      CastInto (dslSupportDtype env.unify env.productVersion name) t t' := by
  unfold autoCastOfCast at h
  rw [if_neg (by rw [hstatic]; exact Bool.false_ne_true)] at h
  obtain ⟨_, hoffered, h⟩ := bind_eq_ok.mp h
  obtain ⟨t', ht', hfunc⟩ := bind_eq_ok.mp h
  have hfloat := (float16_mem_or_nil env.unify env.productVersion hname).resolve_left
    (raiseIf_eq_ok.mp hoffered)
  exact ⟨t', hfunc, castInto_of_autoCastTensor hfloat ht'⟩

end HwEfat.AutoSchedule.AutoCast
