/-
  HwEfat.Main.SubCaseDesign.TypicalShape — the shape that a generated case is executed
  with.

  A dynamic shape, one with a dimension -1 or -2, is executed with the typical shape of
  its description.  A design by crossing demands one for every dynamic shape, and gives
  it to no other shape, so all its cases can be executed
  (`SubCaseDesignCross.subcaseGenerate_executable`).
-/
import HwEfat.Main.SubCaseDesign.Count
import HwEfat.Main.SubCaseDesign.Generates

namespace HwEfat.Main

open HwEfat.Lib (PyError PyVal PyDict raiseIf_eq_ok bind_eq_ok forM_eq_ok foldlM_history
  mem_positions mem_of_first)

/-! ## §1. Shapes. -/

/-- A list of dimensions none of which is negative. -/
def NonNegative (shape : PyVal) : Prop :=
  ∃ dims, shape = .list dims ∧ ∀ dim ∈ dims, ∃ i, dim.asInt = some i ∧ 0 ≤ i

/-- A dimension is -1 or -2. -/
def IsDynamic (dims : List PyVal) : Prop := ∃ dim ∈ dims, checkDynamicShape dim = 1

/-- The effective shape of a description can be executed, and is the declared one unless
that is dynamic. -/
def Executable (desc : Desc) : Prop :=
  ∃ shape, replaceShapeToTypicalShape desc = .ok shape ∧ NonNegative shape ∧
    ∀ dims, desc.lookup "shape" = some (.list dims) → ¬ IsDynamic dims → shape = .list dims

/-- A shape that has passed `_check_shape_valid`. -/
def ValidShape (shape : PyVal) : Prop :=
  ∃ dims, shape = .list dims ∧
    ∀ dim ∈ dims, ∃ i, dim.asInt = some i ∧ SHAPE_DYNAMIC_SCENARIOS_TWO ≤ i

/-- A shape that passes the check. -/
theorem validShape_of_check {dims : List PyVal}
    (h : SubCaseDesign.checkShapeValid (.list dims) = .ok ()) : ValidShape (.list dims) := by
  refine ⟨dims, rfl, fun dim hdim => ?_⟩
  have hdim' := forM_eq_ok.mp h dim hdim
  split at hdim'
  · next i hi =>
      rw [raiseIf_eq_ok] at hdim'
      exact ⟨i, hi, by omega⟩
  · cases hdim'

/-- A typical shape that passes the check. -/
theorem nonNegative_of_check {dims : List PyVal}
    (h : checkTypicalShapeValid (.list dims) = .ok ()) : NonNegative (.list dims) := by
  refine ⟨dims, rfl, fun dim hdim => ?_⟩
  have hdim' := forM_eq_ok.mp h dim hdim
  split at hdim'
  · next i hi =>
      rw [raiseIf_eq_ok] at hdim'
      exact ⟨i, hi, by omega⟩
  · cases hdim'

/-- A dimension is dynamic if it is -1 or -2. -/
theorem checkDynamicShape_of_asInt {dim : PyVal} {i : Int} (h : dim.asInt = some i) :
    checkDynamicShape dim = 1 ↔ i = -1 ∨ i = -2 := by
  have hnumber : dim.asNumber = some (.finite (i : Rat)) := by
    unfold PyVal.asNumber
    rw [h]
    cases dim <;> first | rfl | cases h
  unfold checkDynamicShape
  rw [hnumber]
  simp only [Option.some.injEq, Lib.PyFloat.finite.injEq, Rat.intCast_inj]
  show (if i = -1 ∨ i = -2 then 1 else 0) = 1 ↔ i = -1 ∨ i = -2
  by_cases hi : i = -1 ∨ i = -2 <;> simp [hi]

/-- A valid shape that is not dynamic has no negative dimension. -/
theorem ValidShape.nonNegative {dims : List PyVal} (h : ValidShape (.list dims))
    (hstatic : ¬ IsDynamic dims) : NonNegative (.list dims) := by
  obtain ⟨dims', heq, hvalid⟩ := h
  cases heq
  refine ⟨dims, rfl, fun dim hdim => ?_⟩
  obtain ⟨i, hi, hlow⟩ := hvalid dim hdim
  have hnot : ¬ (i = -1 ∨ i = -2) := fun hcontra =>
    hstatic ⟨dim, hdim, (checkDynamicShape_of_asInt hi).mpr hcontra⟩
  have htwo : SHAPE_DYNAMIC_SCENARIOS_TWO = -2 := rfl
  exact ⟨i, hi, by omega⟩

/-- A dynamic shape has a negative dimension. -/
theorem IsDynamic.not_nonNegative {dims : List PyVal} (hdynamic : IsDynamic dims) :
    ¬ NonNegative (.list dims) := by
  intro ⟨dims', heq, hdims⟩
  cases heq
  obtain ⟨dim, hdim, hone⟩ := hdynamic
  obtain ⟨i, hi, hnonneg⟩ := hdims dim hdim
  rcases (checkDynamicShape_of_asInt hi).mp hone with rfl | rfl <;> omega

/-- What a description is executed with. -/
theorem executable_iff {desc : Desc} {dims : List PyVal}
    (hshape : desc.lookup "shape" = some (.list dims)) (hvalid : ValidShape (.list dims))
    (htypical : ∀ typical, desc.lookup TYPICAL_SHAPE = some typical →
      IsDynamic dims ∧ NonNegative typical) :
    Executable desc ↔ (IsDynamic dims → desc.lookup TYPICAL_SHAPE ≠ none) := by
  unfold Executable replaceShapeToTypicalShape
  -- Without a typical shape the declared one is executed, which a dynamic one cannot be.
  cases hlookup : desc.lookup TYPICAL_SHAPE with
  | none =>
      rw [hshape]
      constructor
      · intro ⟨shape, heq, hnonneg, _⟩ hdynamic
        cases heq
        exact absurd hnonneg hdynamic.not_nonNegative
      · intro hstatic
        have hstatic : ¬ IsDynamic dims := fun hdynamic => hstatic hdynamic rfl
        refine ⟨_, rfl, hvalid.nonNegative hstatic, fun dims' heq _ => ?_⟩
        cases heq
        rfl
  | some typical =>
      obtain ⟨hdynamic, hnonneg⟩ := htypical typical hlookup
      constructor
      · intro _ _ hcontra
        cases hcontra
      · intro _
        obtain ⟨typicalDims, rfl, hdims⟩ := hnonneg
        refine ⟨.list typicalDims, rfl, ⟨typicalDims, rfl, hdims⟩, fun dims' heq hstatic => ?_⟩
        rw [hshape] at heq
        cases heq
        exact absurd hdynamic hstatic

/-- A name leaves the shapes. -/
theorem Executable.named {desc : Desc} (h : Executable desc) (name : PyVal) :
    Executable (desc.set "name" name) := by
  unfold Executable replaceShapeToTypicalShape at h ⊢
  rw [PyDict.lookup_set, PyDict.lookup_set, if_neg (by decide), if_neg (by decide)]
  exact h

/-! ## §2. The profiles of a description. -/

namespace SubCaseDesignCross

/-- The profiles of the shape and of the typical shape have been checked. -/
structure ShapesChecked (tensor : Tensor) : Prop where
  shape : ∀ v ∈ profiles tensor "shape", ValidShape v
  typical : ∀ l, tensor.lookup TYPICAL_SHAPE = some l → ∀ v ∈ l, NonNegative v

section Tensor

variable {env : DesignEnv} {jsonPath : String} {desc : PyVal} {tensor tensor' : Tensor}

/-- The shapes of a description have been checked. -/
theorem getShapeList_valid {l : List PyVal} (h : getShapeList desc = .ok l) :
    ∀ v ∈ l, ValidShape v := by
  unfold getShapeList at h
  obtain ⟨shapeList, hlist, h⟩ := bind_eq_ok.mp h
  obtain ⟨_, hcheck, h⟩ := bind_eq_ok.mp h
  cases h
  intro v hv
  obtain ⟨dims, rfl⟩ := SubCaseDesign.checkListListValid_lists hlist v hv
  exact validShape_of_check (forM_eq_ok.mp hcheck _ hv)

/-- Another field may be set. -/
theorem ShapesChecked.set (h : ShapesChecked tensor) {key : String}
    (hkey : key ∉ ["shape", TYPICAL_SHAPE]) (l : List PyVal) :
    ShapesChecked (tensor.set key l) := by
  rw [List.mem_cons, List.mem_singleton, not_or] at hkey
  constructor
  · rw [profiles_set_ne (Ne.symm hkey.1)]
    exact h.shape
  · rw [PyDict.lookup_set, if_neg (Ne.symm hkey.2)]
    exact h.typical

/-- Typical shapes may be set that are not negative. -/
theorem ShapesChecked.setTypical (h : ShapesChecked tensor) {l : List PyVal}
    (hl : ∀ v ∈ l, NonNegative v) : ShapesChecked (tensor.set TYPICAL_SHAPE l) := by
  constructor
  · rw [profiles_set_ne (by decide)]
    exact h.shape
  · intro l' hl'
    rw [PyDict.lookup_set, if_pos rfl] at hl'
    cases hl'
    exact hl

/-- Fields behind a shape do no harm. -/
theorem shapesChecked_append (tensor rest : Tensor) {shapeList : List PyVal}
    (hshape : tensor.lookup "shape" = some shapeList)
    (htypical : tensor.lookup TYPICAL_SHAPE = none) (hrest : rest.lookup TYPICAL_SHAPE = none)
    (hvalid : ∀ v ∈ shapeList, ValidShape v) : ShapesChecked (tensor ++ rest) := by
  constructor
  · unfold profiles
    rw [List.lookup_append, hshape]
    exact hvalid
  · intro l hl
    rw [List.lookup_append, htypical, hrest] at hl
    cases hl

/-- Typical shapes have been checked, and no other field that is added matters. -/
theorem ShapesChecked.extended (h : ShapesChecked tensor) (hext : Extended tensor tensor') :
    ShapesChecked tensor' := by
  induction hext with
  | refl => exact h
  | typical _ hl ih =>
      apply ih.setTypical
      intro v hv
      obtain ⟨dims, rfl, hcheck⟩ := hl v hv
      exact nonNegative_of_check hcheck
  | one _ hkey ih =>
      apply ih.set _ _
      intro hmem
      rcases List.mem_pair.mp hmem with rfl | rfl <;> exact absurd hkey (by decide)

/-- Original formats and shapes leave the shapes. -/
theorem shapesChecked_withOriFields (formatList typeList : List PyVal) {shapeList : List PyVal}
    (oriFiledList : Option (List PyVal × List PyVal)) (rest : Tensor)
    (hshape : getShapeList desc = .ok shapeList) (hrest : rest.lookup TYPICAL_SHAPE = none) :
    ShapesChecked (withOriFields formatList typeList shapeList oriFiledList ++ rest) := by
  cases oriFiledList with
  | none => exact shapesChecked_append _ rest rfl rfl hrest (getShapeList_valid hshape)
  | some ori => exact shapesChecked_append _ rest rfl rfl hrest (getShapeList_valid hshape)

/-- The shapes of an input have been checked. -/
theorem shapesChecked_makeInputDesc (h : makeInputDesc env jsonPath desc = .ok tensor) :
    ShapesChecked tensor := by
  unfold makeInputDesc at h
  obtain ⟨formatList, _, h⟩ := bind_eq_ok.mp h
  obtain ⟨typeList, _, h⟩ := bind_eq_ok.mp h
  obtain ⟨shapeList, hshape, h⟩ := bind_eq_ok.mp h
  obtain ⟨dataDistributeList, _, h⟩ := bind_eq_ok.mp h
  obtain ⟨valueRangeList, _, h⟩ := bind_eq_ok.mp h
  obtain ⟨oriFiledList, _, h⟩ := bind_eq_ok.mp h
  obtain ⟨oneInputDesc, hdynamic, h⟩ := bind_eq_ok.mp h
  have hfields := shapesChecked_withOriFields formatList typeList oriFiledList
    [("value_range", valueRangeList), ("data_distribute", dataDistributeList)] hshape rfl
  exact hfields.extended ((Extended.refl.withDynamicShapeInfo hdynamic).dealWithValue h)

/-- Those of an output, too. -/
theorem shapesChecked_makeOutputDesc (h : makeOutputDesc env desc = .ok tensor) :
    ShapesChecked tensor := by
  unfold makeOutputDesc at h
  obtain ⟨formatList, _, h⟩ := bind_eq_ok.mp h
  obtain ⟨typeList, _, h⟩ := bind_eq_ok.mp h
  obtain ⟨shapeList, hshape, h⟩ := bind_eq_ok.mp h
  obtain ⟨oriFiledList, _, h⟩ := bind_eq_ok.mp h
  have hfields := shapesChecked_withOriFields formatList typeList oriFiledList [] hshape rfl
  rw [List.append_nil] at hfields
  exact hfields.extended (Extended.refl.withDynamicShapeInfo h)

/-- In the other mode, those of an input. -/
theorem shapesChecked_makeInputDescMs (h : makeInputDescMs env jsonPath desc = .ok tensor) :
    ShapesChecked tensor := by
  unfold makeInputDescMs at h
  obtain ⟨typeList, _, h⟩ := bind_eq_ok.mp h
  obtain ⟨shapeList, hshape, h⟩ := bind_eq_ok.mp h
  obtain ⟨dataDistributeList, _, h⟩ := bind_eq_ok.mp h
  obtain ⟨valueRangeList, _, h⟩ := bind_eq_ok.mp h
  have hfields := shapesChecked_append [("type", typeList), ("shape", shapeList)]
    [("value_range", valueRangeList), ("data_distribute", dataDistributeList)]
    rfl rfl rfl (getShapeList_valid hshape)
  exact ShapesChecked.extended hfields (Extended.refl.dealWithValue h)

/-- And those of an output. -/
theorem shapesChecked_makeOutputDescMs (h : makeOutputDescMs env desc = .ok tensor) :
    ShapesChecked tensor := by
  unfold makeOutputDescMs at h
  obtain ⟨typeList, _, h⟩ := bind_eq_ok.mp h
  obtain ⟨shapeList, hshape, h⟩ := bind_eq_ok.mp h
  cases h
  exact shapesChecked_append [("type", typeList), ("shape", shapeList)] []
    rfl rfl rfl (getShapeList_valid hshape)

/-- All descriptions of a case, in either mode. -/
theorem shapesChecked_makeDescs {jsonObj : PyVal} {descs : Descs}
    (h : makeDescs env jsonPath jsonObj = .ok descs) :
    ∀ tensor ∈ descs.inputDescList ++ descs.outputDescList, ShapesChecked tensor :=
  forall_makeDescs (fun _ _ => shapesChecked_makeInputDesc)
    (fun _ _ => shapesChecked_makeOutputDesc) (fun _ _ => shapesChecked_makeInputDescMs)
    (fun _ _ => shapesChecked_makeOutputDescMs) h

end Tensor

/-! ## §3. The typical shape of a combination. -/

/-- The description has this shape, and a typical shape exactly if `dynamic`. -/
structure TypicalIf (dims : List PyVal) (dynamic : Prop) (desc : Desc) : Prop where
  shape : desc.lookup "shape" = some (.list dims)
  some : dynamic → desc.lookup TYPICAL_SHAPE ≠ none
  typical : ∀ typical, desc.lookup TYPICAL_SHAPE = .some typical → dynamic ∧ NonNegative typical

section Combination

variable {keys : List String} {tensor : Tensor} {dims : List PyVal} {dynamic : Prop}
  {desc desc' : Desc}

/-- The condition may be put in other words. -/
theorem TypicalIf.congr {dynamic' : Prop} (h : TypicalIf dims dynamic desc)
    (hiff : dynamic ↔ dynamic') : TypicalIf dims dynamic' desc := by
  rw [← propext hiff]
  exact h

/-- Other fields do not matter. -/
theorem TypicalIf.of_lookup (h : TypicalIf dims dynamic desc)
    (hsame : ∀ key ∈ ["shape", TYPICAL_SHAPE], desc'.lookup key = desc.lookup key) :
    TypicalIf dims dynamic desc' := by
  have hshape := hsame "shape" (by decide)
  have htypical := hsame TYPICAL_SHAPE (by decide)
  refine ⟨hshape.trans h.shape, ?_, ?_⟩
  · rw [htypical]
    exact h.some
  · rw [htypical]
    exact h.typical

/-- A typical shape that is set is there. -/
theorem TypicalIf.setTypical (h : TypicalIf dims dynamic desc) {typical : PyVal}
    (htypical : NonNegative typical) :
    TypicalIf dims True (desc.set TYPICAL_SHAPE typical) := by
  refine ⟨?_, ?_, ?_⟩
  · rw [PyDict.lookup_set, if_neg (by decide)]
    exact h.shape
  · intro _
    rw [PyDict.lookup_set, if_pos rfl]
    exact Option.some_ne_none _
  · intro t ht
    rw [PyDict.lookup_set, if_pos rfl] at ht
    cases ht
    exact ⟨trivial, htypical⟩

/-- **One dimension** of the loop of `set_typical_shape_in_cur_params`, and then all of
them. -/
theorem typicalIf_setTypicalShape (hchecked : ShapesChecked tensor)
    (h : TypicalIf dims False desc) (hok : setTypicalShapeInCurParams tensor desc = .ok desc') :
    TypicalIf dims (IsDynamic dims) desc' := by
  unfold setTypicalShapeInCurParams at hok
  rw [h.shape] at hok
  dsimp only at hok
  -- What has been passed decides whether there is a typical shape.
  apply foldlM_history (I := fun passed d => TypicalIf dims (IsDynamic passed) d) _ _ hok
  · intro passed dim d d' hd hstep
    have hsnoc : IsDynamic passed ∨ checkDynamicShape dim = 1 ↔ IsDynamic (passed ++ [dim]) := by
      simp [IsDynamic, or_and_right, exists_or]
    split at hstep
    · next hone =>
        split at hstep
        · cases hstep
        · next typicalShapeList hlookup =>
            obtain ⟨typical, hfirst, hstep⟩ := bind_eq_ok.mp hstep
            have hset := (hd.setTypical
              (hchecked.typical _ hlookup typical (mem_of_first hfirst))).congr
              (iff_of_true trivial (hsnoc.mp (Or.inr hone)))
            split at hstep
            · cases hstep
              apply hset.of_lookup
              intro key hkey
              apply PyDict.lookup_pop_ne
              rintro rfl
              exact absurd hkey (by decide)
            · cases hstep
              exact hset
    · next hzero =>
        cases hstep
        exact hd.congr (by rw [← hsnoc]; simp [hzero])
  · exact h.congr (by simp [IsDynamic])

/-- The keys of a combination. -/
theorem key_of_mem_profilesAt {key : String} {v : PyVal} {p : List Nat} {ks : List String}
    (h : (key, v) ∈ profilesAt tensor ks p) :
    key ∈ ks ∨ key = "ori_format" ∨ key = "ori_shape" := by
  unfold profilesAt at h
  obtain ⟨⟨k, i⟩, hk, h⟩ := List.mem_flatMap.mp h
  obtain ⟨key', hkey', h⟩ := List.mem_flatMap.mp h
  obtain ⟨w, _, heq⟩ := List.mem_map.mp h
  cases heq
  have hmem : k ∈ ks := (List.of_mem_zip hk).1
  unfold tied at hkey'
  split at hkey'
  · exact Or.inl (List.mem_singleton.mp hkey' ▸ hmem)
  · split at hkey'
    · next hformat =>
        rcases List.mem_pair.mp hkey' with rfl | rfl
        · exact Or.inl (hformat ▸ hmem)
        · exact Or.inr (Or.inl rfl)
    · split at hkey'
      · next hshape =>
          rcases List.mem_pair.mp hkey' with rfl | rfl
          · exact Or.inl (hshape ▸ hmem)
          · exact Or.inr (Or.inr rfl)
      · exact Or.inl (List.mem_singleton.mp hkey' ▸ hmem)

/-- What a combination takes, before a typical shape is added. -/
theorem typicalIf_profilesAt (hchecked : ShapesChecked tensor) (hshape : "shape" ∈ keys)
    (htypical : TYPICAL_SHAPE ∉ keys) {p : List Nat} (hp : p ∈ combinations keys tensor) :
    ∃ dims, ValidShape (.list dims) ∧
      TypicalIf dims False (profilesAt tensor (crossKeys keys tensor) p) := by
  -- No field of a combination is a typical shape: it is neither crossed nor tied.
  have hnone : (profilesAt tensor (crossKeys keys tensor) p).lookup TYPICAL_SHAPE = none := by
    cases hlookup : (profilesAt tensor (crossKeys keys tensor) p).lookup TYPICAL_SHAPE with
    | none => rfl
    | some v =>
        rcases key_of_mem_profilesAt (PyDict.mem_of_lookup hlookup) with hkey | hkey | hkey
        · rcases List.mem_append.mp hkey with hkey | hkey
          · exact absurd hkey htypical
          · exact absurd (List.mem_filter.mp hkey).1 (by decide)
        · exact absurd hkey (by decide)
        · exact absurd hkey (by decide)
  obtain ⟨v, hv⟩ := exists_mem_profilesAt (mem_positions.mp hp)
    (List.mem_append_left _ hshape : "shape" ∈ crossKeys keys tensor)
  cases hlookup : (profilesAt tensor (crossKeys keys tensor) p).lookup "shape" with
  | none =>
      have hne := List.lookup_eq_none_iff.mp hlookup _ hv
      rw [bne_self_eq_false] at hne
      cases hne
  | some w =>
      have hvalid : ValidShape w := hchecked.shape w (mem_profilesAt (PyDict.mem_of_lookup hlookup))
      obtain ⟨dims, rfl, hdims⟩ := hvalid
      refine ⟨dims, ⟨dims, rfl, hdims⟩, hlookup, False.elim, fun t ht => ?_⟩
      rw [hnone] at ht
      cases ht

/-- **Every description that is crossed can be executed.** -/
theorem executable_describe (hchecked : ShapesChecked tensor) (hshape : "shape" ∈ keys)
    (htypical : TYPICAL_SHAPE ∉ keys) {p : List Nat} (hp : p ∈ combinations keys tensor)
    (hok : describe keys tensor p = .ok desc) : Executable desc := by
  obtain ⟨dims, hvalid, hprofiles⟩ := typicalIf_profilesAt hchecked hshape htypical hp
  have hstart : TypicalIf dims False
      (SubCaseDesign.checkCurParamsUndefined (profilesAt tensor (crossKeys keys tensor) p)) :=
    hprofiles.of_lookup fun key hkey =>
      lookup_checkCurParamsUndefined (by revert key; decide) _
  unfold describe getCase at hok
  dsimp only at hok
  have hdesc : TypicalIf dims (IsDynamic dims) desc := by
    split at hok
    · exact typicalIf_setTypicalShape hchecked hstart hok
    · next hfalse =>
        -- A shape that is not looked at has no dimension.
        cases hok
        rw [hstart.shape] at hfalse
        cases dims with
        | nil => exact hstart.congr (by simp [IsDynamic])
        | cons dim rest => exact absurd rfl hfalse
  exact (executable_iff hdesc.shape hvalid hdesc.typical).mpr hdesc.some

end Combination

/-- The cross lists of either mode. -/
theorem crossLists_makeDescs {env : DesignEnv} {jsonPath : String} {jsonObj : PyVal}
    {descs : Descs} (h : makeDescs env jsonPath jsonObj = .ok descs) :
    (descs.inputCrossList = MS_INPUT_CROSS_LIST ∧ descs.outputCrossList = MS_OUTPUT_CROSS_LIST) ∨
      descs.inputCrossList = INPUT_CROSS_LIST ∧ descs.outputCrossList = OUTPUT_CROSS_LIST := by
  cases makeDescs_cases h with
  | ms _ _ _ => exact Or.inl ⟨rfl, rfl⟩
  | other _ _ _ => exact Or.inr ⟨rfl, rfl⟩

/-- **All cases of a design by crossing can be executed.** -/
theorem subcaseGenerate_executable {env : DesignEnv} {design design' : SubCaseDesign}
    (h : subcaseGenerate env design = .ok design') :
    Generates (fun _ case => ∀ desc ∈ case.inputDesc ++ case.outputDesc, Executable desc)
      design design' := by
  unfold subcaseGenerate at h
  obtain ⟨prepared, hprepare, h⟩ := bind_eq_ok.mp h
  obtain ⟨descs, ms, caseName, hprepared⟩ := prepare_inv hprepare
  have hchecked := shapesChecked_makeDescs hprepared.made
  have hmade := descsOk_makeDescs hprepared.made
  -- Shapes are crossed; typical shapes go along with them.
  have hlists : ∀ keys ∈ [descs.inputCrossList, descs.outputCrossList],
      "shape" ∈ keys ∧ TYPICAL_SHAPE ∉ keys := by
    rcases crossLists_makeDescs hprepared.made with ⟨hin, hout⟩ | ⟨hin, hout⟩
    · rw [hin, hout]
      decide
    · rw [hin, hout]
      decide
  obtain ⟨hgen, -⟩ := subcaseGenerate_generates (D := Executable)
    (fun _ name hdesc => hdesc.named name) hprepared
    (forall_rows hmade.input hprepared.input fun tensor htensor p hp desc hdesc => by
      obtain ⟨hshape, htypical⟩ := hlists descs.inputCrossList List.mem_cons_self
      exact executable_describe (hchecked tensor (List.mem_append_left _ htensor)) hshape
        htypical hp hdesc)
    (forall_rows hmade.output hprepared.output fun tensor htensor p hp desc hdesc => by
      obtain ⟨hshape, htypical⟩ := hlists descs.outputCrossList (by simp)
      exact executable_describe (hchecked tensor (List.mem_append_right _ htensor)) hshape
        htypical hp hdesc) h
  apply hgen.imp
  intro idx case hcase desc hdesc
  exact (List.mem_append.mp hdesc).elim (hcase.input desc) (hcase.output desc)

end SubCaseDesignCross

end HwEfat.Main
