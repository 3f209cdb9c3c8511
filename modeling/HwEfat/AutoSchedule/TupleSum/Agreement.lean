/-
  HwEfat.AutoSchedule.TupleSum.Agreement — when `tuple_sum` sees only the dimensions that
  are meant.

  The decorator looks for the last axis among the axes as they are written, and so misses
  -1: an `int32` tensor is cast under the one spelling and not under the other.  And a
  repeated axis makes a reduce axis of its own, so that the sum is multiplied, and the
  dimensions behind are given the wrong extents.

  Main result: `tuple_sum_axes_iff`.
-/
import HwEfat.AutoSchedule.TupleSum.Axes

namespace HwEfat.AutoSchedule.TupleSum

open HwEfat.Lib HwEfat.Lib.Box

/-! ## §1. Results. -/

/-- The same shape, types, and values at the indices of the shape. -/
structure SameReduced (r r' : Reduced) : Prop where
  shape : r.shape = r'.shape
  dtypes : r.dtypes = r'.dtypes
  value : ∀ indice, InBox indice r.shape → r.value indice = r'.value indice

/-- Both calls raise, or both return the same. -/
def SameResult : Except PyError Reduced → Except PyError Reduced → Prop
  | .ok r, .ok r' => SameReduced r r'
  | .error _, .error _ => True
  | _, _ => False

/-- The same result, the other way round. -/
theorem SameResult.symm {x y : Except PyError Reduced} (h : SameResult x y) :
    SameResult y x := by
  cases x <;> cases y
  · trivial
  · exact h
  · exact h
  · obtain ⟨hshape, hdtypes, hvalue⟩ := h
    exact ⟨hshape.symm, hdtypes.symm, fun indice hbox =>
      (hvalue indice (hshape ▸ hbox)).symm⟩

/-- The same result over a third one. -/
theorem SameResult.trans {x y z : Except PyError Reduced} (h : SameResult x y)
    (h' : SameResult y z) : SameResult x z := by
  cases x <;> cases y <;> cases z
  all_goals first | trivial | exact h.elim | exact h'.elim | skip
  obtain ⟨hshape, hdtypes, hvalue⟩ := h
  obtain ⟨hshape', hdtypes', hvalue'⟩ := h'
  exact ⟨hshape.trans hshape', hdtypes.trans hdtypes', fun indice hbox =>
    (hvalue indice hbox).trans (hvalue' indice (hshape ▸ hbox))⟩

/-! ## §2. The decorator. -/

/-- Casts keep zero and one. -/
def CastsUnits (env : TvmEnv) : Prop :=
  ∀ src dst, env.cast src dst 0 = 0 ∧ env.cast src dst 1 = 1

/-- The tensor that a cast makes, for any values: it works on each of them by itself. -/
structure Casts (f : Tensor → Except PyError Tensor) (t t' : Tensor) : Prop where
  shape : t'.shape = t.shape
  each : ∃ φ : ℚ → ℚ, φ 0 = 0 ∧ φ 1 = 1 ∧
    ∀ v, f { t with value := v } = .ok { t' with value := fun indice => φ (v indice) }

section Casts

variable {env : TvmEnv} {t t' : Tensor}

/-- A single cast works on each value, and has the type it is to have. -/
theorem castOp_casts (henv : CastsUnits env) {dst : String}
    (h : castOp env t dst = .ok t') :
    Casts (castOp env · dst) t t' ∧ t'.dtype = dst := by
  obtain ⟨_, hshape, h⟩ := bind_eq_ok.mp h
  cases h
  obtain ⟨hzero, hone⟩ := henv t.dtype dst
  refine ⟨⟨rfl, env.cast t.dtype dst, hzero, hone, fun v => ?_⟩, rfl⟩
  exact bind_eq_ok.mpr ⟨_, hshape, rfl⟩

/-- So does a cast by way of a further type. -/
theorem cast_casts (henv : CastsUnits env) {dst : String} (h : cast env t dst = .ok t') :
    Casts (cast env · dst) t t' ∧ t'.dtype = dst := by
  unfold cast at h
  split at h
  · next heq =>
      cases h
      refine ⟨⟨rfl, id, rfl, rfl, fun v => ?_⟩, heq.symm⟩
      unfold cast
      rw [if_pos heq]
      rfl
  · next hne =>
      obtain ⟨support, hsupport, h⟩ := bind_eq_ok.mp h
      -- Without a direct cast there are two, by way of a type between.
      cases support with
      | true =>
          obtain ⟨hcasts, hdtype⟩ := castOp_casts henv h
          refine ⟨⟨hcasts.shape, ?_⟩, hdtype⟩
          obtain ⟨φ, hzero, hone, hall⟩ := hcasts.each
          refine ⟨φ, hzero, hone, fun v => ?_⟩
          unfold cast
          rw [if_neg hne]
          exact bind_eq_ok.mpr ⟨true, hsupport, hall v⟩
      | false =>
          obtain ⟨via, hvia, h⟩ := bind_eq_ok.mp h
          obtain ⟨middle, hmiddle, h⟩ := bind_eq_ok.mp h
          obtain ⟨hfirst, _⟩ := castOp_casts henv hmiddle
          obtain ⟨hsecond, hdtype⟩ := castOp_casts henv h
          obtain ⟨φ, hzero, hone, hall⟩ := hfirst.each
          obtain ⟨ψ, hzero', hone', hall'⟩ := hsecond.each
          refine ⟨⟨hsecond.shape.trans hfirst.shape, ψ ∘ φ, ?_, ?_, fun v => ?_⟩, hdtype⟩
          · rw [Function.comp_apply, hzero, hzero']
          · rw [Function.comp_apply, hone, hone']
          · unfold cast
            rw [if_neg hne]
            refine bind_eq_ok.mpr ⟨false, hsupport, bind_eq_ok.mpr ⟨via, hvia, ?_⟩⟩
            exact bind_eq_ok.mpr ⟨_, hall v, hall' _⟩

/-- The types that are left as they are. -/
def supportedTypes (shapeLen : Nat) (axis : Axis) : List String :=
  ["float16", "float32"] ++ if isLastAxis shapeLen axis then [] else ["int32"]

/-- A tensor of a supported type is left as it is. -/
theorem deal_of_supported {axis : Axis} (h : t.dtype ∈ supportedTypes t.shape.length axis) :
    dealTensorDtype env axis t = .ok t :=
  if_pos h

/-- Any other one is cast to float32, or to float16 if there is no cast to float32. -/
theorem deal_of_not_supported (env : TvmEnv) {t : Tensor} {axis : Axis}
    (h : t.dtype ∉ supportedTypes t.shape.length axis) :
    dealTensorDtype env axis t
      = isCastSupport env t.dtype "float32" >>= fun support =>
        cast env t (if support then "float32" else "float16") := by
  refine (if_neg h).trans ?_
  cases isCastSupport env t.dtype "float32" with
  | error e => rfl
  | ok support => cases support <;> rfl

/-- A tensor that the decorator has dealt with. -/
theorem deal_casts (henv : CastsUnits env) {axis : Axis}
    (h : dealTensorDtype env axis t = .ok t') : Casts (dealTensorDtype env axis) t t' := by
  by_cases hmem : t.dtype ∈ supportedTypes t.shape.length axis
  · rw [deal_of_supported hmem] at h
    cases h
    exact ⟨rfl, id, rfl, rfl, fun v => deal_of_supported hmem⟩
  · rw [deal_of_not_supported env hmem] at h
    obtain ⟨support, hsupport, h⟩ := bind_eq_ok.mp h
    obtain ⟨hshape, φ, hzero, hone, hall⟩ := (cast_casts henv h).1
    refine ⟨hshape, φ, hzero, hone, fun v => ?_⟩
    have hdeal := deal_of_not_supported env (t := { t with value := v }) hmem
    exact hdeal.trans (bind_eq_ok.mpr ⟨support, hsupport, hall v⟩)

/-- Only for `int32` does it matter whether the last axis is reduced. -/
theorem deal_congr {axis axis' : Axis}
    (h : t.dtype = "int32" →
      isLastAxis t.shape.length axis = isLastAxis t.shape.length axis') :
    dealTensorDtype env axis t = dealTensorDtype env axis' t := by
  have hmem : t.dtype ∈ supportedTypes t.shape.length axis
      ↔ t.dtype ∈ supportedTypes t.shape.length axis' := by
    unfold supportedTypes
    by_cases hdtype : t.dtype = "int32"
    · rw [h hdtype]
    · cases isLastAxis t.shape.length axis <;> cases isLastAxis t.shape.length axis' <;>
        simp [hdtype]
  by_cases hsupported : t.dtype ∈ supportedTypes t.shape.length axis
  · rw [deal_of_supported hsupported, deal_of_supported (hmem.mp hsupported)]
  · rw [deal_of_not_supported env hsupported,
      deal_of_not_supported env fun hcontra => hsupported (hmem.mpr hcontra)]

/-- An `int32` tensor stays as it is ... -/
theorem deal_int32_of_not_last {axis : Axis} (hdtype : t.dtype = "int32")
    (hlast : isLastAxis t.shape.length axis = false) :
    dealTensorDtype env axis t = .ok t := by
  apply deal_of_supported
  unfold supportedTypes
  simp [hdtype, hlast]

/-- ... and else becomes a float tensor. -/
theorem deal_int32_of_last (henv : CastsUnits env) {axis : Axis} (hdtype : t.dtype = "int32")
    (hlast : isLastAxis t.shape.length axis = true)
    (h : dealTensorDtype env axis t = .ok t') : t'.dtype ≠ "int32" := by
  have hmem : t.dtype ∉ supportedTypes t.shape.length axis := by
    unfold supportedTypes
    simp [hdtype, hlast]
  rw [deal_of_not_supported env hmem] at h
  obtain ⟨support, _, h⟩ := bind_eq_ok.mp h
  have hfloat : (if support then "float32" else "float16") ≠ "int32" := by
    cases support <;> decide
  rw [(cast_casts henv h).2]
  exact hfloat

end Casts

/-! ## §3. The sums. -/

/-- From the first dimension that is meant twice on, all dimensions that are meant have one
element. -/
def RepeatsHarmless (shape : List Nat) (axis : Axis) : Prop :=
  ∀ r, 1 < (axis.dims shape.length).count r →
    ∀ d ∈ axis.dims shape.length, r ≤ d → shape.getD d 0 = 1

section Sums

variable {shape : List Nat} {axis : Axis} {keepdims : Bool} {t₁ t₂ : Tensor}

/-- What is added for an index and the reduce axes, by the normalised axes. -/
def term (shape : List Nat) (axis : Axis) (keepdims : Bool) (t₁ t₂ : Tensor)
    (indice ks : List Nat) : ℚ × ℚ :=
  let res := resIndice (axis.normal shape.length) keepdims (List.range shape.length) indice ks
  (t₁.value res, t₂.value res)

/-- There is a dimension for each of the normalised axes. -/
theorem used_normal (h : axis.InRange shape.length) :
    used (axis.normal shape.length) (List.range shape.length)
      = (axis.normal shape.length).length :=
  used_range nodup_normal fun _ hd => lt_of_mem_dims h (mem_normal.mp hd)

/-- Normalising drops axes and adds none. -/
theorem length_normal_le {shape : List Nat} {axis : Axis} :
    (axis.normal shape.length).length
      ≤ (extents shape (axis.sorted shape.length)).length := by
  have hsub := (List.dedup_sublist (axis.sorted shape.length)).length_le
  rw [dedup_sorted] at hsub
  unfold extents
  rwa [List.length_map]

/-- **The sum over the sorted axes**: a box of the first extents, as often as the others
say. -/
theorem value_sorted (h : axis.InRange shape.length) (indice : List Nat) :
    (tupleReduceCompute shape (axis.sorted shape.length) keepdims t₁ t₂).value indice
      = ((extents shape (axis.sorted shape.length)).drop
            (axis.normal shape.length).length).prod •
          sumOver ((extents shape (axis.sorted shape.length)).take
            (axis.normal shape.length).length) (term shape axis keepdims t₁ t₂ indice) := by
  set m := (axis.normal shape.length).length with hm
  set es := extents shape (axis.sorted shape.length) with hes
  have hlen : (es.take m).length = m := by
    rw [List.length_take, min_eq_left length_normal_le]
  have hterm : ∀ ks, (fun reduceAxises =>
      let res := resIndice (axis.sorted shape.length) keepdims (List.range shape.length) indice
        reduceAxises
      (t₁.value res, t₂.value res)) ks
        = term shape axis keepdims t₁ t₂ indice (ks.take (es.take m).length) := by
    intro ks
    unfold term
    rw [hlen, hm, ← used_normal h, resIndice_take]
    simp only [resIndice_congr (fun d => mem_sorted.trans mem_normal.symm)]
  have hsplit := sumOver_take (es.take m) (es.drop m) (term shape axis keepdims t₁ t₂ indice)
  rw [List.take_append_drop] at hsplit
  rw [← hsplit]
  exact sumOver_congr fun ks _ => hterm ks

/-- The sum over the normalised axes. -/
theorem value_normal (indice : List Nat) :
    (tupleReduceCompute shape (axis.normal shape.length) keepdims t₁ t₂).value indice
      = sumOver (extents shape (axis.normal shape.length))
          (term shape axis keepdims t₁ t₂ indice) := rfl

/-- The shape of the result. -/
theorem resReshape_congr {dims dims' : List Nat} (h : ∀ d, d ∈ dims ↔ d ∈ dims') :
    resReshape shape dims keepdims = resReshape shape dims' keepdims := by
  unfold resReshape
  simp only [h]

/-- A tensor with positive extents has a result with an index. -/
theorem exists_index (hshape : 0 ∉ shape) (dims : List Nat) (keepdims : Bool) :
    ∃ indice, InBox indice (resReshape shape dims keepdims) := by
  have hkept : ∀ e ∈ shape.zipIdx.flatMap (fun p =>
      if p.2 ∈ dims then (if keepdims then [1] else []) else [p.1]), 0 < e := by
    intro e he
    obtain ⟨⟨extent, index⟩, hmem, hin⟩ := List.mem_flatMap.mp he
    have hextent : extent ∈ shape := List.fst_mem_of_mem_zipIdx hmem
    dsimp only at hin
    split at hin
    · split at hin
      · rw [List.mem_singleton.mp hin]
        exact one_pos
      · cases hin
    · rw [List.mem_singleton.mp hin]
      exact Nat.pos_of_ne_zero fun hzero => hshape (hzero ▸ hextent)
  have hpos : ∀ e ∈ resReshape shape dims keepdims, 0 < e := by
    unfold resReshape
    dsimp only
    intro e he
    -- Where every dimension is reduced, the result has a single element.
    by_cases hempty : (shape.zipIdx.flatMap (fun p =>
        if p.2 ∈ dims then (if keepdims then [1] else []) else [p.1])).isEmpty = true
    · rw [if_pos hempty] at he
      rw [List.mem_singleton.mp he]
      exact one_pos
    · rw [if_neg hempty] at he
      exact hkept e he
  refine ⟨(resReshape shape dims keepdims).map fun _ => 0, ?_⟩
  exact List.forall₂_map_left_iff.mpr (List.forall₂_same.mpr hpos)

/-- Any function of the reduce axes is that of some values. -/
theorem exists_value (h : axis.InRange shape.length) (keepdims : Bool) (indice : List Nat)
    (f : List Nat → ℚ) :
    ∃ v : List Nat → ℚ, ∀ ks, ks.length = (axis.normal shape.length).length →
      v (resIndice (axis.normal shape.length) keepdims (List.range shape.length) indice ks)
        = f ks := by
  classical
  refine ⟨fun res =>
    if hex : ∃ ks : List Nat, ks.length = (axis.normal shape.length).length ∧
        resIndice (axis.normal shape.length) keepdims (List.range shape.length) indice ks = res
    then f hex.choose else 0, fun ks hks => ?_⟩
  have hex : ∃ ks' : List Nat, ks'.length = (axis.normal shape.length).length ∧
      resIndice (axis.normal shape.length) keepdims (List.range shape.length) indice ks'
        = resIndice (axis.normal shape.length) keepdims (List.range shape.length) indice ks :=
    ⟨ks, hks, rfl⟩
  dsimp only
  rw [dif_pos hex]
  obtain ⟨hlen, heq⟩ := hex.choose_spec
  rw [resIndice_inj _ _ (hlen.trans (used_normal h).symm) (hks.trans (used_normal h).symm) heq]

/-- The extents of the sorted axes, where repetitions are harmless. -/
theorem harmless_iff (hshape : 0 ∉ shape) (h : axis.InRange shape.length) :
    RepeatsHarmless shape axis ↔ ∃ k, extents shape (axis.sorted shape.length)
      = extents shape (axis.normal shape.length) ++ List.replicate k 1 := by
  have hpos := extents_pos hshape fun d hd => lt_of_mem_dims h (mem_sorted.mp hd)
  have hiff := extents_iff pairwise_sorted hpos
  rw [dedup_sorted] at hiff
  simp only [count_sorted, mem_sorted] at hiff
  exact hiff.symm

/-- One extent for each of the normalised axes. -/
theorem length_extents_normal :
    (extents shape (axis.normal shape.length)).length = (axis.normal shape.length).length :=
  List.length_map ..

/-- Harmless repetitions leave the sums. -/
theorem value_of_harmless (hshape : 0 ∉ shape) (h : axis.InRange shape.length)
    (hharmless : RepeatsHarmless shape axis) (indice : List Nat) :
    (tupleReduceCompute shape (axis.sorted shape.length) keepdims t₁ t₂).value indice
      = (tupleReduceCompute shape (axis.normal shape.length) keepdims t₁ t₂).value indice := by
  obtain ⟨k, hk⟩ := (harmless_iff hshape h).mp hharmless
  rw [value_sorted h, value_normal, hk, ← length_extents_normal, List.drop_left,
    List.take_left, List.prod_replicate, one_pow, one_smul]

/-- **Repetitions are harmless if, whatever the values, the sums are those of the normalised
axes.** -/
theorem harmless_of_sums (t₁ t₂ : Tensor) (keepdims : Bool) (φ₁ φ₂ : ℚ → ℚ)
    (hshape : 0 ∉ shape) (h : axis.InRange shape.length) (hzero : φ₁ 0 = 0) (hone : φ₁ 1 = 1)
    (hall : ∀ (v₁ v₂ : List Nat → ℚ) indice,
      InBox indice (resReshape shape (axis.sorted shape.length) keepdims) →
      (tupleReduceCompute shape (axis.sorted shape.length) keepdims
          { t₁ with value := fun i => φ₁ (v₁ i) }
          { t₂ with value := fun i => φ₂ (v₂ i) }).value indice
        = (tupleReduceCompute shape (axis.normal shape.length) keepdims
          { t₁ with value := fun i => φ₁ (v₁ i) }
          { t₂ with value := fun i => φ₂ (v₂ i) }).value indice) :
    RepeatsHarmless shape axis := by
  have hpos := extents_pos hshape fun d hd => lt_of_mem_dims h (mem_sorted.mp hd)
  have hpos' : ∀ e ∈ extents shape (axis.normal shape.length), 1 ≤ e :=
    extents_pos hshape fun d hd => lt_of_mem_dims h (mem_normal.mp hd)
  rw [harmless_iff hshape h]
  set m := (axis.normal shape.length).length with hm
  have hlentake : ((extents shape (axis.sorted shape.length)).take m).length = m := by
    rw [List.length_take, min_eq_left length_normal_le]
  obtain ⟨indice, hbox⟩ := exists_index hshape (axis.sorted shape.length) keepdims
  -- The first values are made so that what is summed is any function of the reduce axes.
  have hsums : ∀ f : List Nat → ℚ, (∀ ks, f ks = 0 ∨ f ks = 1) →
      ((extents shape (axis.sorted shape.length)).drop m).prod •
          sumOver ((extents shape (axis.sorted shape.length)).take m) f
        = sumOver (extents shape (axis.normal shape.length)) f := by
    intro f hf
    obtain ⟨v, hv⟩ := exists_value h keepdims indice f
    have hterm : ∀ es : List Nat, es.length = m → ∀ ks, InBox ks es →
        AddMonoidHom.fst ℚ ℚ (term shape axis keepdims { t₁ with value := fun i => φ₁ (v i) }
          { t₂ with value := fun i => φ₂ (v i) } indice ks) = f ks := by
      intro es hes ks hks
      show φ₁ (v _) = f ks
      rw [hv ks (hks.length_eq.trans hes)]
      rcases hf ks with heq | heq
      · rw [heq, hzero]
      · rw [heq, hone]
    have hfst := congrArg (AddMonoidHom.fst ℚ ℚ) (hall v v indice hbox)
    rw [value_sorted h, value_normal, map_nsmul, map_sumOver, map_sumOver,
      sumOver_congr (hterm _ hlentake), sumOver_congr (hterm _ length_extents_normal)] at hfst
    exact hfst
  have hpostake : ∀ e ∈ (extents shape (axis.sorted shape.length)).take m, 1 ≤ e :=
    fun e he => hpos e (List.mem_of_mem_take he)
  have hposdrop : ∀ e ∈ (extents shape (axis.sorted shape.length)).drop m, 1 ≤ e :=
    fun e he => hpos e (List.mem_of_mem_drop he)
  obtain ⟨hdrop, htake⟩ := eq_of_sums hpostake hpos'
    (List.one_le_prod_of_one_le hposdrop) hsums
  have hones := eq_ones_of_prod hdrop
  refine ⟨((extents shape (axis.sorted shape.length)).drop m).length, ?_⟩
  rw [← hones, ← htake, List.take_append_drop]

end Sums

/-! ## §4. Calls. -/

/-- Where there is a way from one type to another. -/
def CastSupported (env : TvmEnv) (src dst : String) : Prop :=
  dst = src ∨ ∃ support, isCastSupport env src dst = .ok support ∧
    (support = false → ∃ via, castVia env src dst = .ok via)

/-- A type that the decorator leaves or can cast. -/
def TypeAccepted (env : TvmEnv) (shapeLen : Nat) (axis : Axis) (dtype : String) : Prop :=
  dtype ∈ supportedTypes shapeLen axis ∨
    ∃ support, isCastSupport env dtype "float32" = .ok support ∧
      CastSupported env dtype (if support then "float32" else "float16")

/-- What `tuple_sum` does not raise for. -/
structure Accepted (env : TvmEnv) (shape : List Nat) (d₁ d₂ : String) (axis : Axis) :
    Prop where
  positive : 0 ∉ shape
  first : TypeAccepted env shape.length axis d₁
  second : TypeAccepted env shape.length axis d₂

section Calls

variable {env : TvmEnv} {shape : List Nat} {d d₁ d₂ : String} {axis : Axis} {keepdims : Bool}
  {v v₁ v₂ : List Nat → ℚ} {t t₁ t₂ : Tensor}

/-- A shape without zeros passes. -/
theorem check_shape_ok (h : 0 ∉ shape) : checkInputTensorShape shape = .ok () :=
  if_neg h

/-- A shape that passes has no zeros. -/
theorem not_mem_of_check_shape {u : Unit} (h : checkInputTensorShape shape = .ok u) :
    0 ∉ shape := by
  intro hzero
  unfold checkInputTensorShape raiseIf at h
  rw [if_pos hzero] at h
  cases h

/-- A single cast of a tensor without empty dimensions does not raise. -/
theorem castOp_ok (env : TvmEnv) (h : 0 ∉ t.shape) (dst : String) :
    ∃ t', castOp env t dst = .ok t' := by
  unfold castOp
  rw [check_shape_ok h]
  exact ⟨_, rfl⟩

/-- When a cast does not raise. -/
theorem cast_isOk_iff (h : 0 ∉ t.shape) {dst : String} :
    (∃ t', cast env t dst = .ok t') ↔ CastSupported env t.dtype dst := by
  unfold CastSupported cast
  by_cases heq : dst = t.dtype
  · rw [if_pos heq]
    exact iff_of_true ⟨t, rfl⟩ (Or.inl heq)
  · rw [if_neg heq]
    constructor
    · rintro ⟨t', hok⟩
      obtain ⟨support, hsupport, hok⟩ := bind_eq_ok.mp hok
      refine Or.inr ⟨support, hsupport, fun hfalse => ?_⟩
      subst hfalse
      obtain ⟨via, hvia, _⟩ := bind_eq_ok.mp hok
      exact ⟨via, hvia⟩
    · rintro (hcontra | ⟨support, hsupport, hvia⟩)
      · exact absurd hcontra heq
      rw [hsupport]
      cases support with
      | true => exact castOp_ok env h dst
      | false =>
          obtain ⟨via, hvia⟩ := hvia rfl
          obtain ⟨middle, hmiddle⟩ := castOp_ok env h via
          -- The cast in between leaves the shape.
          have hshape : 0 ∉ middle.shape := by
            obtain ⟨_, _, hmade⟩ := bind_eq_ok.mp hmiddle
            cases hmade
            exact h
          obtain ⟨t', ht'⟩ := castOp_ok env hshape dst
          exact ⟨t', bind_eq_ok.mpr ⟨false, rfl,
            bind_eq_ok.mpr ⟨via, hvia, bind_eq_ok.mpr ⟨middle, hmiddle, ht'⟩⟩⟩⟩

/-- When the decorator does not raise. -/
theorem deal_isOk_iff (h : 0 ∉ t.shape) :
    (∃ t', dealTensorDtype env axis t = .ok t')
      ↔ TypeAccepted env t.shape.length axis t.dtype := by
  unfold TypeAccepted
  by_cases hmem : t.dtype ∈ supportedTypes t.shape.length axis
  · exact iff_of_true ⟨t, deal_of_supported hmem⟩ (Or.inl hmem)
  · rw [deal_of_not_supported env hmem, or_iff_right hmem]
    simp only [bind_eq_ok, ← cast_isOk_iff h]
    constructor
    · rintro ⟨t', support, hsupport, hcast⟩
      exact ⟨support, hsupport, t', hcast⟩
    · rintro ⟨support, hsupport, t', hcast⟩
      exact ⟨t', support, hsupport, hcast⟩

/-- A call once the tensors are dealt with. -/
theorem tupleSum_of_deals (hne : axis.localAxis ≠ []) (hin : axis.InRange shape.length)
    (hshape : 0 ∉ shape) (h₁ : dealTensorDtype env axis ⟨shape, d₁, v₁⟩ = .ok t₁)
    (h₂ : dealTensorDtype env axis ⟨shape, d₂, v₂⟩ = .ok t₂) (hshape₁ : t₁.shape = shape) :
    tupleSum env ⟨shape, d₁, v₁⟩ ⟨shape, d₂, v₂⟩ axis keepdims
      = .ok (tupleReduceCompute shape (axis.sorted shape.length) keepdims t₁ t₂) := by
  have hop : tupleReduceOp env t₁ t₂ axis keepdims
      = .ok (tupleReduceCompute shape (axis.sorted shape.length) keepdims t₁ t₂) := by
    have hrefine := refineAxis_eq hin
    unfold tupleReduceOp
    rw [hshape₁, check_shape_ok hshape]
    cases axis with
    | int i => exact bind_eq_ok.mpr ⟨(), rfl, bind_eq_ok.mpr ⟨_, hrefine, rfl⟩⟩
    | list l =>
        cases l with
        | nil => exact absurd rfl hne
        | cons i l => exact bind_eq_ok.mpr ⟨(), rfl, bind_eq_ok.mpr ⟨_, hrefine, rfl⟩⟩
  unfold tupleSum raiseIf
  rw [if_neg (not_not.mpr rfl)]
  exact bind_eq_ok.mpr ⟨(), rfl, bind_eq_ok.mpr ⟨t₁, h₁, bind_eq_ok.mpr ⟨t₂, h₂, hop⟩⟩⟩

/-- The decorator keeps the shape. -/
theorem deal_shape (henv : CastsUnits env)
    (h : dealTensorDtype env axis ⟨shape, d, v⟩ = .ok t) : t.shape = shape :=
  (deal_casts henv h).shape

/-- When a call does not raise. -/
theorem tupleSum_isOk_iff (v₁ v₂ : List Nat → ℚ) (keepdims : Bool) (henv : CastsUnits env)
    (hne : axis.localAxis ≠ []) (hin : axis.InRange shape.length) :
    (∃ r, tupleSum env ⟨shape, d₁, v₁⟩ ⟨shape, d₂, v₂⟩ axis keepdims = .ok r)
      ↔ Accepted env shape d₁ d₂ axis := by
  constructor
  · rintro ⟨r, h⟩
    obtain ⟨_, _, h⟩ := bind_eq_ok.mp h
    obtain ⟨t₁, h₁, h⟩ := bind_eq_ok.mp h
    obtain ⟨t₂, h₂, h⟩ := bind_eq_ok.mp h
    obtain ⟨_, hcheck, _⟩ := bind_eq_ok.mp h
    have hshape : 0 ∉ shape := deal_shape henv h₁ ▸ not_mem_of_check_shape hcheck
    exact ⟨hshape, (deal_isOk_iff hshape).mp ⟨t₁, h₁⟩, (deal_isOk_iff hshape).mp ⟨t₂, h₂⟩⟩
  · rintro ⟨hshape, hfirst, hsecond⟩
    obtain ⟨t₁, h₁⟩ := (deal_isOk_iff (t := ⟨shape, d₁, v₁⟩) hshape).mpr hfirst
    obtain ⟨t₂, h₂⟩ := (deal_isOk_iff (t := ⟨shape, d₂, v₂⟩) hshape).mpr hsecond
    exact ⟨_, tupleSum_of_deals hne hin hshape h₁ h₂ (deal_shape henv h₁)⟩

/-- What the normalised axes take, the axes as written take. -/
theorem accepted_of_normalised (hn : 0 < shape.length)
    (h : Accepted env shape d₁ d₂ (axis.normalised shape.length)) :
    Accepted env shape d₁ d₂ axis := by
  have hsupported : ∀ d, d ∈ supportedTypes shape.length (axis.normalised shape.length) →
      d ∈ supportedTypes shape.length axis := by
    intro d hd
    unfold supportedTypes at hd ⊢
    cases hlast : isLastAxis shape.length axis with
    | true =>
        rw [(isLastAxis_normalised hn).mpr (mem_dims_of_isLastAxis hn hlast)] at hd
        exact hd
    | false =>
        rcases List.mem_append.mp hd with hfloat | hint
        · exact List.mem_append_left _ hfloat
        · refine List.mem_append_right _ ?_
          split at hint
          · cases hint
          · exact hint
  exact ⟨h.positive, h.first.imp_left (hsupported d₁), h.second.imp_left (hsupported d₂)⟩

/-- The last axis is found, or there is no tensor that it matters for. -/
def LastAxisSeen (shapeLen : Nat) (d₁ d₂ : String) (axis : Axis) : Prop :=
  d₁ = "int32" ∨ d₂ = "int32" → shapeLen - 1 ∈ axis.dims shapeLen →
    isLastAxis shapeLen axis = true

/-- The axes are taken as they are meant, or the call raises. -/
def AxesTakenAsMeant (env : TvmEnv) (shape : List Nat) (d₁ d₂ : String) (axis : Axis) : Prop :=
  Accepted env shape d₁ d₂ axis →
    LastAxisSeen shape.length d₁ d₂ axis ∧ RepeatsHarmless shape axis

/-- If the last axis is found, a tensor is dealt with as for the normalised axes. -/
theorem deal_normalised (hn : 0 < shape.length)
    (h : d = "int32" → shape.length - 1 ∈ axis.dims shape.length →
      isLastAxis shape.length axis = true) :
    dealTensorDtype env axis ⟨shape, d, v⟩
      = dealTensorDtype env (axis.normalised shape.length) ⟨shape, d, v⟩ := by
  refine deal_congr fun hdtype => ?_
  rw [Bool.eq_iff_iff]
  show isLastAxis shape.length axis = true
    ↔ isLastAxis shape.length (axis.normalised shape.length) = true
  rw [isLastAxis_normalised hn]
  exact ⟨mem_dims_of_isLastAxis hn, h hdtype⟩

/-- If it is not, an `int32` tensor gets another type. -/
theorem deal_dtype_ne (henv : CastsUnits env) (hn : 0 < shape.length)
    (hmeant : shape.length - 1 ∈ axis.dims shape.length)
    (hmissed : isLastAxis shape.length axis = false)
    (h : dealTensorDtype env axis ⟨shape, "int32", v⟩ = .ok t)
    (h' : dealTensorDtype env (axis.normalised shape.length) ⟨shape, "int32", v⟩ = .ok t₁) :
    t.dtype ≠ t₁.dtype := by
  rw [deal_int32_of_not_last rfl hmissed] at h
  cases h
  exact (deal_int32_of_last henv rfl ((isLastAxis_normalised hn).mpr hmeant) h').symm

end Calls

section Main

variable {env : TvmEnv} {shape : List Nat} {d₁ d₂ : String} {axis : Axis} {keepdims : Bool}

/-- A call with the normalised axes, from one with the axes as they are written. -/
theorem normalised_of_deals {v₁ v₂ : List Nat → ℚ} {t₁ t₂ : Tensor}
    (hne : axis.localAxis ≠ []) (hin : axis.InRange shape.length) (hshape : 0 ∉ shape)
    (h₁ : dealTensorDtype env (axis.normalised shape.length) ⟨shape, d₁, v₁⟩ = .ok t₁)
    (h₂ : dealTensorDtype env (axis.normalised shape.length) ⟨shape, d₂, v₂⟩ = .ok t₂)
    (hshape₁ : t₁.shape = shape) :
    tupleSum env ⟨shape, d₁, v₁⟩ ⟨shape, d₂, v₂⟩ (axis.normalised shape.length) keepdims
      = .ok (tupleReduceCompute shape (axis.normal shape.length) keepdims t₁ t₂) := by
  rw [← sorted_normalised]
  exact tupleSum_of_deals (normalised_ne_nil hne) (inRange_normalised hin) hshape h₁ h₂ hshape₁

/-- **Axes as they are written give what the normalised axes give, whatever the values,
exactly if they are taken as they are meant.** -/
theorem same_as_normalised_iff (keepdims : Bool) (henv : CastsUnits env)
    (hne : axis.localAxis ≠ []) (hin : axis.InRange shape.length) (hn : 0 < shape.length) :
    (∀ v₁ v₂, SameResult (tupleSum env ⟨shape, d₁, v₁⟩ ⟨shape, d₂, v₂⟩ axis keepdims)
        (tupleSum env ⟨shape, d₁, v₁⟩ ⟨shape, d₂, v₂⟩ (axis.normalised shape.length) keepdims))
      ↔ AxesTakenAsMeant env shape d₁ d₂ axis := by
  have hin' := inRange_normalised hin
  have hne' := normalised_ne_nil (n := shape.length) hne
  constructor
  · intro hall hacc
    have hshape := hacc.positive
    obtain ⟨t₁, h₁⟩ := (deal_isOk_iff (t := ⟨shape, d₁, fun _ => 0⟩) hshape).mpr hacc.first
    obtain ⟨t₂, h₂⟩ := (deal_isOk_iff (t := ⟨shape, d₂, fun _ => 0⟩) hshape).mpr hacc.second
    have hseen : LastAxisSeen shape.length d₁ d₂ axis := by
      intro hint hmeant
      by_contra hmissed
      rw [Bool.not_eq_true] at hmissed
      have hsame := hall (fun _ => 0) (fun _ => 0)
      rw [tupleSum_of_deals hne hin hshape h₁ h₂ (deal_shape henv h₁)] at hsame
      -- The other call returns as well, and so the types can be compared.
      cases hnormal : tupleSum env ⟨shape, d₁, fun _ => 0⟩ ⟨shape, d₂, fun _ => 0⟩
          (axis.normalised shape.length) keepdims with
      | error e =>
          rw [hnormal] at hsame
          exact hsame
      | ok r =>
          have hacc' := (tupleSum_isOk_iff _ _ _ henv hne' hin').mp ⟨r, hnormal⟩
          obtain ⟨t₁', h₁'⟩ :=
            (deal_isOk_iff (t := ⟨shape, d₁, fun _ => 0⟩) hshape).mpr hacc'.first
          obtain ⟨t₂', h₂'⟩ :=
            (deal_isOk_iff (t := ⟨shape, d₂, fun _ => 0⟩) hshape).mpr hacc'.second
          rw [normalised_of_deals hne hin hshape h₁' h₂' (deal_shape henv h₁')] at hsame
          obtain ⟨hfirst, hsecond⟩ := Prod.mk.inj hsame.dtypes
          rcases hint with rfl | rfl
          · exact deal_dtype_ne henv hn hmeant hmissed h₁ h₁' hfirst
          · exact deal_dtype_ne henv hn hmeant hmissed h₂ h₂' hsecond
    refine ⟨hseen, ?_⟩
    obtain ⟨hshape₁, φ₁, hzero, hone, heach₁⟩ := deal_casts henv h₁
    obtain ⟨_, φ₂, _, _, heach₂⟩ := deal_casts henv h₂
    refine harmless_of_sums t₁ t₂ keepdims φ₁ φ₂ hshape hin hzero hone fun v₁ v₂ indice hbox => ?_
    have hsame := hall v₁ v₂
    rw [tupleSum_of_deals hne hin hshape (heach₁ v₁) (heach₂ v₂) hshape₁,
      normalised_of_deals hne hin hshape
        ((deal_normalised hn fun h => hseen (Or.inl h)).symm.trans (heach₁ v₁))
        ((deal_normalised hn fun h => hseen (Or.inr h)).symm.trans (heach₂ v₂)) hshape₁]
      at hsame
    exact hsame.value indice hbox
  · intro htaken v₁ v₂
    by_cases hacc : Accepted env shape d₁ d₂ axis
    · obtain ⟨hseen, hrepeats⟩ := htaken hacc
      have hshape := hacc.positive
      obtain ⟨t₁, h₁⟩ := (deal_isOk_iff (t := ⟨shape, d₁, v₁⟩) hshape).mpr hacc.first
      obtain ⟨t₂, h₂⟩ := (deal_isOk_iff (t := ⟨shape, d₂, v₂⟩) hshape).mpr hacc.second
      rw [tupleSum_of_deals hne hin hshape h₁ h₂ (deal_shape henv h₁),
        normalised_of_deals hne hin hshape
          ((deal_normalised hn fun h => hseen (Or.inl h)).symm.trans h₁)
          ((deal_normalised hn fun h => hseen (Or.inr h)).symm.trans h₂) (deal_shape henv h₁)]
      have hdims : ∀ d, d ∈ axis.sorted shape.length ↔ d ∈ axis.normal shape.length :=
        fun d => mem_sorted.trans mem_normal.symm
      exact ⟨resReshape_congr hdims, rfl, fun indice _ =>
        value_of_harmless hshape hin hrepeats indice⟩
    · -- Neither call returns.
      have hacc' : ¬ Accepted env shape d₁ d₂ (axis.normalised shape.length) := fun h =>
        hacc (accepted_of_normalised hn h)
      rw [← tupleSum_isOk_iff v₁ v₂ keepdims henv hne hin] at hacc
      rw [← tupleSum_isOk_iff v₁ v₂ keepdims henv hne' hin'] at hacc'
      cases hx : tupleSum env ⟨shape, d₁, v₁⟩ ⟨shape, d₂, v₂⟩ axis keepdims with
      | ok r => exact absurd ⟨r, hx⟩ hacc
      | error e =>
          cases hy : tupleSum env ⟨shape, d₁, v₁⟩ ⟨shape, d₂, v₂⟩
              (axis.normalised shape.length) keepdims with
          | ok r => exact absurd ⟨r, hy⟩ hacc'
          | error e' => trivial

/-- **`tuple_sum` depends only on the dimensions that are meant exactly if the axes are taken
as they are meant.**  Values are arbitrary, and so are the axes, as long as they mean the same
dimensions. -/
theorem tuple_sum_axes_iff (env : TvmEnv) (shape : List Nat) (d₁ d₂ : String)
    (keepdims : Bool) (axis₁ axis₂ : Axis) (henv : CastsUnits env)
    (hin₁ : axis₁.InRange shape.length) (hin₂ : axis₂.InRange shape.length)
    (hne : axis₁.dims shape.length ≠ [])
    (hsame : ∀ d, d ∈ axis₁.dims shape.length ↔ d ∈ axis₂.dims shape.length) :
    ∃ checked, reduceAxisCheck shape.length axis₁.localAxis = .ok checked ∧
      reduceAxisCheck shape.length axis₂.localAxis = .ok checked ∧
      ((∀ v₁ v₂,
          SameResult (tupleSum env ⟨shape, d₁, v₁⟩ ⟨shape, d₂, v₂⟩ axis₁ keepdims)
            (tupleSum env ⟨shape, d₁, v₁⟩ ⟨shape, d₂, v₂⟩ axis₂ keepdims) ∧
          SameResult (tupleSum env ⟨shape, d₁, v₁⟩ ⟨shape, d₂, v₂⟩ axis₁ keepdims)
            (tupleSum env ⟨shape, d₁, v₁⟩ ⟨shape, d₂, v₂⟩ (.list (checked.map (↑))) keepdims))
        ↔ AxesTakenAsMeant env shape d₁ d₂ axis₁ ∧
          AxesTakenAsMeant env shape d₁ d₂ axis₂) := by
  have hnormal : axis₁.normal shape.length = axis₂.normal shape.length := normal_congr hsame
  obtain ⟨d, hd⟩ := List.exists_mem_of_ne_nil _ hne
  have hn : 0 < shape.length := Nat.zero_lt_of_lt (lt_of_mem_dims hin₁ hd)
  have hne₁ : axis₁.localAxis ≠ [] := fun h => hne (List.map_eq_nil_iff.mpr h)
  -- The two arguments mean the same dimensions, so the second one is not empty either.
  have hne₂ : axis₂.localAxis ≠ [] := by
    intro h
    have hnil : axis₂.dims shape.length = [] := List.map_eq_nil_iff.mpr h
    have hmem := (hsame d).mp hd
    rw [hnil] at hmem
    cases hmem
  refine ⟨axis₁.normal shape.length, reduceAxisCheck_eq hin₁,
    hnormal ▸ reduceAxisCheck_eq hin₂, ?_⟩
  -- Each argument is compared with the normalised one, which both share.
  rw [← same_as_normalised_iff keepdims henv hne₁ hin₁ hn,
    ← same_as_normalised_iff keepdims henv hne₂ hin₂ hn]
  have hlist : axis₂.normalised shape.length = .list ((axis₁.normal shape.length).map (↑)) := by
    rw [hnormal]
    rfl
  rw [hlist]
  constructor
  · intro h
    exact ⟨fun v₁ v₂ => (h v₁ v₂).2, fun v₁ v₂ => (h v₁ v₂).1.symm.trans (h v₁ v₂).2⟩
  · rintro ⟨h₁, h₂⟩ v₁ v₂
    exact ⟨(h₁ v₁ v₂).trans (h₂ v₁ v₂).symm, h₁ v₁ v₂⟩

end Main

/-- Every cast is supported, and keeps the value. -/
def plainEnv : TvmEnv where
  intrinsicCheckSupport := fun _ _ => true
  cast := fun _ _ value => value
  vmulsOne := .ok

/-- The first dimension, written in two ways. -/
theorem tuple_sum_axes_iff_first :
    ∃ checked, reduceAxisCheck 2 [0] = .ok checked ∧ reduceAxisCheck 2 [-2] = .ok checked ∧
      ((∀ v₁ v₂,
          SameResult (tupleSum plainEnv ⟨[2, 3], "int32", v₁⟩ ⟨[2, 3], "int8", v₂⟩ (.int 0) true)
            (tupleSum plainEnv ⟨[2, 3], "int32", v₁⟩ ⟨[2, 3], "int8", v₂⟩ (.list [-2]) true) ∧
          SameResult (tupleSum plainEnv ⟨[2, 3], "int32", v₁⟩ ⟨[2, 3], "int8", v₂⟩ (.int 0) true)
            (tupleSum plainEnv ⟨[2, 3], "int32", v₁⟩ ⟨[2, 3], "int8", v₂⟩
              (.list (checked.map (↑))) true))
        ↔ AxesTakenAsMeant plainEnv [2, 3] "int32" "int8" (.int 0) ∧
          AxesTakenAsMeant plainEnv [2, 3] "int32" "int8" (.list [-2])) :=
  tuple_sum_axes_iff plainEnv [2, 3] "int32" "int8" true (.int 0) (.list [-2])
    (fun _ _ => ⟨rfl, rfl⟩) (by unfold Axis.InRange; decide) (by unfold Axis.InRange; decide)
    (by decide) fun d => by
      show d ∈ [0] ↔ d ∈ [0]
      rfl

/-- The last dimension of `int32` tensors, as -1 and as the index: the types are not the
same.  And the one dimension of `float32` tensors, once and twice: the sums are not. -/
theorem spelling_matters :
    ¬ SameResult
        (tupleSum plainEnv ⟨[2, 3], "int32", fun _ => 1⟩ ⟨[2, 3], "int32", fun _ => 1⟩
          (.int (-1)) false)
        (tupleSum plainEnv ⟨[2, 3], "int32", fun _ => 1⟩ ⟨[2, 3], "int32", fun _ => 1⟩
          (.int 1) false) ∧
      ¬ SameResult
        (tupleSum plainEnv ⟨[2], "float32", fun _ => 1⟩ ⟨[2], "float32", fun _ => 1⟩
          (.list [0, 0]) false)
        (tupleSum plainEnv ⟨[2], "float32", fun _ => 1⟩ ⟨[2], "float32", fun _ => 1⟩
          (.list [0]) false) := by
  constructor
  · intro h
    -- A negative axis is not recognised as the last one, and the type is cast.
    have hdtypes : ("int32", "int32") = ("float32", "float32") := h.dtypes
    exact absurd hdtypes (by decide)
  · intro h
    -- A repeated axis is summed over twice.
    have hboth : ∀ l : List Int, l ≠ [] → (Axis.list l).InRange 1 →
        tupleSum plainEnv ⟨[2], "float32", fun _ => 1⟩ ⟨[2], "float32", fun _ => 1⟩ (.list l)
            false
          = .ok (tupleReduceCompute [2] ((Axis.list l).sorted 1) false
            ⟨[2], "float32", fun _ => 1⟩ ⟨[2], "float32", fun _ => 1⟩) := fun l hne hin =>
      tupleSum_of_deals hne hin (by decide) rfl rfl rfl
    rw [hboth [0, 0] (by decide) (by unfold Axis.InRange; decide),
      hboth [0] (by decide) (by unfold Axis.InRange; decide),
      show (Axis.list [0, 0]).sorted 1 = [0, 0] from List.mergeSort_of_pairwise (by decide),
      show (Axis.list [0]).sorted 1 = [0] from List.mergeSort_of_pairwise (by decide)] at h
    have hbox : InBox [0] [1] := .cons one_pos .nil
    have hvalue : sumOver [2, 2] (fun _ => ((1 : ℚ), (1 : ℚ))) = sumOver [2] fun _ => (1, 1) :=
      h.value [0] hbox
    rw [sumOver_const, sumOver_const, Prod.smul_mk, Prod.smul_mk, Prod.mk.injEq,
      nsmul_eq_mul, nsmul_eq_mul, mul_one, mul_one, Nat.cast_inj] at hvalue
    exact absurd hvalue.1 (by decide)

end HwEfat.AutoSchedule.TupleSum
