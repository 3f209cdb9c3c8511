/-
  HwEfat.Main.SubCaseDesign.Profiles — what the descriptions of an accepted case look
  like.

  Every field that is crossed has a profile, `ori_format` and `ori_shape` are as long as
  the fields that they go with, and a field that is crossed beyond the cross list has
  exactly one profile (`Crossable`).  The four methods that read a description establish
  this (`crossable_makeDescs`).
-/
import HwEfat.Main.SubCaseDesign.Cross

namespace HwEfat.Main

open HwEfat.Lib (PyError PyVal PyDict raiseIf_eq_ok bind_eq_ok forM_eq_ok exists_of_mapM
  length_of_mapM)

/-! ## §1. Lists that are checked. -/

namespace SubCaseDesign

/-- A list of strings has a string. -/
theorem checkListStrValid_spec {jsonObj : PyVal} {key : String} {supportList : List String}
    {l : List PyVal} (h : checkListStrValid jsonObj key supportList = .ok l) :
    l ≠ [] ∧ ∀ v ∈ l, ∃ s, v = .str s := by
  unfold checkListStrValid at h
  obtain ⟨_, _, h⟩ := bind_eq_ok.mp h
  obtain ⟨_, _, h⟩ := bind_eq_ok.mp h
  obtain ⟨_, _, h⟩ := bind_eq_ok.mp h
  obtain ⟨valueList, _, h⟩ := bind_eq_ok.mp h
  obtain ⟨_, hempty, h⟩ := bind_eq_ok.mp h
  obtain ⟨_, hitems, h⟩ := bind_eq_ok.mp h
  cases h
  constructor
  · intro hnil
    rw [raiseIf_eq_ok, hnil] at hempty
    exact hempty rfl
  · intro v hv
    have hitem := forM_eq_ok.mp hitems v hv
    cases v with
    | str s => exact ⟨s, rfl⟩
    | _ => cases hitem

/-- A list of lists has a list. -/
theorem checkListListValid_ne_nil {jsonObj : PyVal} {key : String} {l : List PyVal}
    (h : checkListListValid jsonObj key = .ok l) : l ≠ [] := by
  unfold checkListListValid at h
  obtain ⟨_, _, h⟩ := bind_eq_ok.mp h
  obtain ⟨_, _, h⟩ := bind_eq_ok.mp h
  obtain ⟨v, _, h⟩ := bind_eq_ok.mp h
  cases v with
  | list m =>
      cases m with
      | nil =>
          cases h
          exact List.cons_ne_nil _ _
      | cons first rest =>
          obtain ⟨_, _, h⟩ := bind_eq_ok.mp h
          split at h <;> cases h <;> exact List.cons_ne_nil _ _
  | _ => cases h

/-- A list of lists has lists. -/
theorem checkListListValid_lists {jsonObj : PyVal} {key : String} {l : List PyVal}
    (h : checkListListValid jsonObj key = .ok l) :
    ∀ v ∈ l, ∃ items, v = .list items := by
  unfold checkListListValid at h
  obtain ⟨_, _, h⟩ := bind_eq_ok.mp h
  obtain ⟨_, _, h⟩ := bind_eq_ok.mp h
  obtain ⟨value, _, h⟩ := bind_eq_ok.mp h
  split at h
  · cases h
    intro v hv
    exact ⟨[], List.mem_singleton.mp hv⟩
  · next first rest _ =>
      obtain ⟨_, hsame, h⟩ := bind_eq_ok.mp h
      rw [raiseIf_eq_ok] at hsame
      split at h
      · next hlist =>
          cases h
          -- The items are of one kind, and the first one is a list.
          have hall : ∀ v ∈ first :: rest, v.isList = true := by
            intro v hv
            rcases List.mem_cons.mp hv with rfl | hv
            · exact hlist
            · by_cases hv' : v.isList = true
              · exact hv'
              · exact absurd (List.any_eq_true.mpr ⟨v, hv, by simp [hlist, hv']⟩) hsame
          intro v hv
          have hv' := hall v hv
          cases v with
          | list items => exact ⟨items, rfl⟩
          | _ => cases hv'
      · cases h
        intro v hv
        exact ⟨_, List.mem_singleton.mp hv⟩
  · cases h

/-- As many original formats as formats. -/
theorem getOriFormat_spec {desc : PyVal} {formatList f : List PyVal}
    (h : getOriFormat desc formatList = .ok (some f)) : f.length = formatList.length := by
  unfold getOriFormat at h
  obtain ⟨oriFormat, _, h⟩ := bind_eq_ok.mp h
  split at h
  · cases h
  · obtain ⟨_, hlen, h⟩ := bind_eq_ok.mp h
    cases h
    unfold checkOriFiledLengthValid at hlen
    rw [raiseIf_eq_ok, not_not] at hlen
    exact hlen

/-- As many original shapes as shapes. -/
theorem getOriShape_spec {desc : PyVal} {shapeList s : List PyVal}
    (h : getOriShape desc shapeList = .ok (some s)) : s.length = shapeList.length := by
  unfold getOriShape at h
  obtain ⟨oriShape, _, h⟩ := bind_eq_ok.mp h
  split at h
  · cases h
  · obtain ⟨oriShapeList, _, h⟩ := bind_eq_ok.mp h
    obtain ⟨_, hlen, h⟩ := bind_eq_ok.mp h
    cases h
    unfold checkOriFiledLengthValid at hlen
    rw [raiseIf_eq_ok, not_not] at hlen
    exact hlen

/-- The fields that go with `format` and `shape` are as long. -/
theorem getOriFiledData_spec {desc : PyVal} {formatList shapeList f s : List PyVal}
    (h : getOriFiledData desc formatList shapeList = .ok (some (f, s))) :
    f.length = formatList.length ∧ s.length = shapeList.length := by
  unfold getOriFiledData at h
  obtain ⟨f', hf, h⟩ := bind_eq_ok.mp h
  obtain ⟨s', hs, h⟩ := bind_eq_ok.mp h
  split at h
  · cases h
    exact ⟨getOriFormat_spec hf, getOriShape_spec hs⟩
  · cases h
  · cases h

end SubCaseDesign

/-! ## §2. Descriptions that can be crossed. -/

/-- The profiles of a field. -/
def profiles (tensor : Tensor) (key : String) : List PyVal := (tensor.lookup key).getD []

/-- A description whose profiles of `keys` can be crossed. -/
structure Crossable (keys : List String) (tensor : Tensor) : Prop where
  filled : ∀ key ∈ keys, ∃ l, tensor.lookup key = some l ∧ l ≠ []
  /-- A field that is not in the cross list has one profile. -/
  single : ∀ key ∈ [SHAPE_RANGE, VALUE, IS_CONST], ∀ l, tensor.lookup key = some l → l.length = 1
  text : ∀ key ∈ ["format", "type"], ∀ v ∈ profiles tensor key, ∃ s, v = .str s
  ori : tensor.lookup "ori_format" = none ∨
    (profiles tensor "ori_format").length = (profiles tensor "format").length ∧
    (profiles tensor "ori_shape").length = (profiles tensor "shape").length ∧
    ∃ rest, keys = "format" :: "shape" :: rest ∧ "format" ∉ rest ∧ "shape" ∉ rest

/-- The keys that are neither crossed by a cross list nor tied to such a key. -/
def extraKeys : List String := [TYPICAL_SHAPE, SHAPE_RANGE, VALUE, IS_CONST]

section Crossable

variable {keys : List String} {tensor tensor' : Tensor} {key : String} {l : List PyVal}

/-- A crossed field has profiles. -/
theorem Crossable.profiles_ne_nil (h : Crossable keys tensor) (hkey : key ∈ keys) :
    profiles tensor key ≠ [] := by
  obtain ⟨l, hl, hne⟩ := h.filled key hkey
  unfold profiles
  rw [hl]
  exact hne

/-- Setting another field. -/
theorem profiles_set_ne {k : String} (hne : k ≠ key) :
    profiles (tensor.set key l) k = profiles tensor k := by
  unfold profiles
  rw [PyDict.lookup_set, if_neg hne]

/-- A further field does no harm, as long as it has one profile. -/
theorem Crossable.set (h : Crossable keys tensor) (hkey : key ∈ extraKeys)
    (hdisjoint : ∀ k ∈ extraKeys, k ∉ keys) (hl : key = TYPICAL_SHAPE ∨ l.length = 1) :
    Crossable keys (tensor.set key l) := by
  have hnot : ∀ k, k ∉ extraKeys → k ≠ key := fun k hk heq => hk (heq ▸ hkey)
  -- The field that is set is none of those that are asked for.
  have hformat := hnot "format" (by decide)
  have hshape := hnot "shape" (by decide)
  have horiFormat := hnot "ori_format" (by decide)
  have horiShape := hnot "ori_shape" (by decide)
  have htype := hnot "type" (by decide)
  refine ⟨?_, ?_, ?_, ?_⟩
  · intro k hk
    have hne : k ≠ key := fun heq => hdisjoint key hkey (heq ▸ hk)
    rw [PyDict.lookup_set, if_neg hne]
    exact h.filled k hk
  · intro k hk m hm
    rw [PyDict.lookup_set] at hm
    split at hm
    · next heq =>
        cases hm
        rcases hl with htypical | hone
        · rw [heq, htypical] at hk
          exact absurd hk (by decide)
        · exact hone
    · exact h.single k hk m hm
  · intro k hk
    have hne : k ≠ key := hnot k (by
      rcases List.mem_cons.mp hk with rfl | hk
      · decide
      · rw [List.mem_singleton.mp hk]
        decide)
    rw [profiles_set_ne hne]
    exact h.text k hk
  · rw [PyDict.lookup_set, if_neg horiFormat, profiles_set_ne horiFormat,
      profiles_set_ne horiShape, profiles_set_ne hformat, profiles_set_ne hshape]
    exact h.ori

/-- The second description has further fields, as the checks add them: typical shapes, or one
profile of a field. -/
inductive Extended (tensor : Tensor) : Tensor → Prop where
  | refl : Extended tensor tensor
  | typical {t : Tensor} {l : List PyVal} (h : Extended tensor t)
      (hl : ∀ v ∈ l, ∃ dims, v = .list dims ∧ checkTypicalShapeValid v = .ok ()) :
      Extended tensor (t.set TYPICAL_SHAPE l)
  | one {t : Tensor} {key : String} {v : PyVal} (h : Extended tensor t)
      (hkey : key ∈ [SHAPE_RANGE, VALUE, IS_CONST]) : Extended tensor (t.set key [v])

section Extended

variable {env : DesignEnv} {jsonPath : String} {desc : PyVal} {t t' : Tensor}

/-- What `_get_dynamic_shape_info` adds. -/
theorem Extended.withDynamicShapeInfo (h : Extended tensor t)
    (hok : SubCaseDesignCross.withDynamicShapeInfo desc t = .ok t') : Extended tensor t' := by
  unfold SubCaseDesignCross.withDynamicShapeInfo SubCaseDesign.getDynamicShapeInfo at hok
  obtain ⟨_, _, hok⟩ := bind_eq_ok.mp hok
  split at hok
  · cases hok
    exact h
  · obtain ⟨_, _, hok⟩ := bind_eq_ok.mp hok
    obtain ⟨_, _, hok⟩ := bind_eq_ok.mp hok
    split at hok
    · cases hok
      exact h
    · obtain ⟨typicalShapeList, hlist, hok⟩ := bind_eq_ok.mp hok
      obtain ⟨_, hcheck, hok⟩ := bind_eq_ok.mp hok
      obtain ⟨_, _, hok⟩ := bind_eq_ok.mp hok
      have htypical : Extended tensor (t.set TYPICAL_SHAPE typicalShapeList) := by
        apply h.typical
        intro v hv
        obtain ⟨dims, hdims⟩ := SubCaseDesign.checkListListValid_lists hlist v hv
        exact ⟨dims, hdims, forM_eq_ok.mp hcheck v hv⟩
      split at hok
      · obtain ⟨shapeRangeList, _, hok⟩ := bind_eq_ok.mp hok
        obtain ⟨_, _, hok⟩ := bind_eq_ok.mp hok
        cases hok
        exact htypical.one (by decide)
      · cases hok
        exact htypical

/-- What `_deal_with_value` adds. -/
theorem Extended.dealWithValue (h : Extended tensor t)
    (hok : SubCaseDesign.dealWithValue env jsonPath desc t = .ok t') : Extended tensor t' := by
  unfold SubCaseDesign.dealWithValue at hok
  obtain ⟨value, _, hok⟩ := bind_eq_ok.mp hok
  obtain ⟨t₁, hvalue, hok⟩ := bind_eq_ok.mp hok
  obtain ⟨isConst, _, hok⟩ := bind_eq_ok.mp hok
  -- A value is added as one profile, or not at all.
  have h₁ : Extended tensor t₁ := by
    unfold SubCaseDesign.withValue at hvalue
    split at hvalue
    · cases hvalue
      exact h
    · obtain ⟨valueList, hlist, hvalue⟩ := bind_eq_ok.mp hvalue
      cases hvalue
      unfold SubCaseDesign.checkValueValid at hlist
      obtain ⟨_, _, hlist⟩ := bind_eq_ok.mp hlist
      cases value with
      | str path =>
          obtain ⟨_, _, hlist⟩ := bind_eq_ok.mp hlist
          cases hlist
          exact h.one (by decide)
      | list l =>
          cases hlist
          exact h.one (by decide)
      | _ => cases hlist
  unfold SubCaseDesign.dealWithConst at hok
  cases isConst with
  | none =>
      cases hok
      exact h₁
  | bool b =>
      cases hok
      exact h₁.one (by decide)
  | _ => cases hok

/-- All other fields stay as they are. -/
theorem Extended.lookup (h : Extended tensor t) (hkey : key ∉ extraKeys) :
    t.lookup key = tensor.lookup key := by
  have hset : ∀ (t : Tensor) (k : String) (l : List PyVal), k ∈ extraKeys →
      (t.set k l).lookup key = t.lookup key := by
    intro t k l hk
    rw [PyDict.lookup_set, if_neg fun heq : key = k => hkey (heq ▸ hk)]
  induction h with
  | refl => rfl
  | typical _ _ ih => exact (hset _ _ _ (by decide)).trans ih
  | one _ hk ih => exact (hset _ _ _ (List.mem_cons_of_mem _ hk)).trans ih

/-- Further fields do no harm. -/
theorem Crossable.extended (h : Crossable keys tensor) (hdisjoint : ∀ k ∈ extraKeys, k ∉ keys)
    (hext : Extended tensor t) : Crossable keys t := by
  induction hext with
  | refl => exact h
  | typical _ _ ih => exact ih.set (by decide) hdisjoint (Or.inl rfl)
  | one _ hk ih => exact ih.set (List.mem_cons_of_mem _ hk) hdisjoint (Or.inr rfl)

end Extended

/-- The fields that only inputs have. -/
def rangeKeys : List String := ["data_distribute", "value_range"]

/-- An input is crossed over what an output is, and its ranges. -/
theorem inputCrossList_eq : INPUT_CROSS_LIST = OUTPUT_CROSS_LIST ++ rangeKeys := rfl

/-- An input has the fields of an output and these. -/
theorem Crossable.withRanges (h : Crossable keys tensor)
    (hkeys : ∀ k ∈ rangeKeys, k ∉ keys) (hnone : ∀ k ∈ rangeKeys, tensor.lookup k = none)
    {v d : List PyVal} (hv : v ≠ []) (hd : d ≠ []) :
    Crossable (keys ++ rangeKeys) (tensor ++ [("value_range", v), ("data_distribute", d)]) := by
  -- The two fields stand behind the others, so they hide none.
  have hold : ∀ k, k ∉ rangeKeys →
      List.lookup k (tensor ++ [("value_range", v), ("data_distribute", d)])
        = tensor.lookup k := by
    intro k hk
    have hother : List.lookup k [("value_range", v), ("data_distribute", d)] = none := by
      have hrange : (k == "value_range") = false :=
        beq_false_of_ne fun heq => hk (by rw [heq]; decide)
      have hdistribute : (k == "data_distribute") = false :=
        beq_false_of_ne fun heq => hk (by rw [heq]; decide)
      rw [List.lookup_cons, hrange, List.lookup_cons, hdistribute]
      rfl
    rw [List.lookup_append, hother, Option.or_none]
  have hprofiles : ∀ k, k ∉ rangeKeys →
      profiles (tensor ++ [("value_range", v), ("data_distribute", d)]) k
        = profiles tensor k := by
    intro k hk
    unfold profiles
    rw [hold k hk]
  refine ⟨?_, ?_, ?_, ?_⟩
  · intro k hk
    rcases List.mem_append.mp hk with hk | hk
    · rw [hold k fun hrange => hkeys k hrange hk]
      exact h.filled k hk
    · rw [List.lookup_append, hnone k hk, Option.none_or]
      rcases List.mem_cons.mp hk with rfl | hk
      · exact ⟨d, rfl, hd⟩
      · rw [List.mem_singleton.mp hk]
        exact ⟨v, rfl, hv⟩
  · intro k hk
    have hnot : k ∉ rangeKeys := fun hrange => by
      revert k
      decide
    rw [hold k hnot]
    exact h.single k hk
  · intro k hk
    have hnot : k ∉ rangeKeys := fun hrange => by
      revert k
      decide
    rw [hprofiles k hnot]
    exact h.text k hk
  · rw [hold _ (by decide), hprofiles _ (by decide), hprofiles _ (by decide),
      hprofiles _ (by decide), hprofiles _ (by decide)]
    refine h.ori.imp_right fun ⟨hformat, hshape, rest, hrest, hf, hs⟩ => ?_
    refine ⟨hformat, hshape, rest ++ rangeKeys, by rw [hrest]; rfl, ?_, ?_⟩
    · rw [List.mem_append, not_or]
      exact ⟨hf, by decide⟩
    · rw [List.mem_append, not_or]
      exact ⟨hs, by decide⟩

end Crossable

/-! ## §3. The four methods. -/

namespace SubCaseDesignCross

variable {env : DesignEnv} {jsonPath : String} {desc : PyVal} {tensor : Tensor}

/-- There is a shape. -/
theorem getShapeList_ne_nil {l : List PyVal} (h : getShapeList desc = .ok l) : l ≠ [] := by
  unfold getShapeList at h
  obtain ⟨shapeList, hshape, h⟩ := bind_eq_ok.mp h
  obtain ⟨_, _, h⟩ := bind_eq_ok.mp h
  cases h
  exact SubCaseDesign.checkListListValid_ne_nil hshape

/-- There is a distribution. -/
theorem getDataDistributeList_ne_nil {l : List PyVal}
    (h : getDataDistributeList env desc = .ok l) : l ≠ [] := by
  unfold getDataDistributeList at h
  obtain ⟨_, _, h⟩ := bind_eq_ok.mp h
  obtain ⟨_, _, h⟩ := bind_eq_ok.mp h
  split at h
  · exact (SubCaseDesign.checkListStrValid_spec h).1
  · cases h
    exact List.cons_ne_nil _ _

/-- There is a range. -/
theorem getValueRangeList_ne_nil {l : List PyVal} (h : getValueRangeList desc = .ok l) :
    l ≠ [] := by
  unfold getValueRangeList at h
  obtain ⟨_, _, h⟩ := bind_eq_ok.mp h
  obtain ⟨_, _, h⟩ := bind_eq_ok.mp h
  split at h
  · obtain ⟨valueRangeList, hrange, h⟩ := bind_eq_ok.mp h
    obtain ⟨_, _, h⟩ := bind_eq_ok.mp h
    cases h
    exact SubCaseDesign.checkListListValid_ne_nil hrange
  · cases h
    exact List.cons_ne_nil _ _

/-- A list of strings, as `_check_list_str_valid` returns it. -/
def StrList (l : List PyVal) : Prop := l ≠ [] ∧ ∀ v ∈ l, ∃ s, v = .str s

section Fields

variable {formatList typeList shapeList : List PyVal}
  {oriFiledList : Option (List PyVal × List PyVal)}

/-- The fields of an output. -/
theorem crossable_output (hformat : StrList formatList) (htype : StrList typeList)
    (hshape : shapeList ≠ [])
    (hori : ∀ f s, oriFiledList = some (f, s) →
      f.length = formatList.length ∧ s.length = shapeList.length) :
    Crossable OUTPUT_CROSS_LIST (withOriFields formatList typeList shapeList oriFiledList) := by
  cases oriFiledList with
  | none =>
      refine ⟨?_, ?_, ?_, Or.inl rfl⟩
      · simp only [OUTPUT_CROSS_LIST, List.forall_mem_cons]
        exact ⟨⟨_, rfl, hformat.1⟩, ⟨_, rfl, hshape⟩, ⟨_, rfl, htype.1⟩, List.forall_mem_nil _⟩
      · simp only [List.forall_mem_cons]
        exact ⟨fun _ h => (by cases h), fun _ h => (by cases h), fun _ h => (by cases h),
          List.forall_mem_nil _⟩
      · rw [List.forall_mem_cons, List.forall_mem_singleton]
        exact ⟨hformat.2, htype.2⟩
  | some ori =>
      obtain ⟨f, s⟩ := ori
      obtain ⟨hf, hs⟩ := hori f s rfl
      refine ⟨?_, ?_, ?_, Or.inr ⟨hf, hs, ["type"], rfl, by decide, by decide⟩⟩
      · simp only [OUTPUT_CROSS_LIST, List.forall_mem_cons]
        exact ⟨⟨_, rfl, hformat.1⟩, ⟨_, rfl, hshape⟩, ⟨_, rfl, htype.1⟩, List.forall_mem_nil _⟩
      · simp only [List.forall_mem_cons]
        exact ⟨fun _ h => (by cases h), fun _ h => (by cases h), fun _ h => (by cases h),
          List.forall_mem_nil _⟩
      · rw [List.forall_mem_cons, List.forall_mem_singleton]
        exact ⟨hformat.2, htype.2⟩

/-- The fields of an output in the other mode. -/
theorem crossable_outputMs (htype : StrList typeList) (hshape : shapeList ≠ []) :
    Crossable MS_OUTPUT_CROSS_LIST [("type", typeList), ("shape", shapeList)] := by
  refine ⟨?_, ?_, ?_, Or.inl rfl⟩
  · simp only [MS_OUTPUT_CROSS_LIST, List.forall_mem_cons]
    exact ⟨⟨_, rfl, htype.1⟩, ⟨_, rfl, hshape⟩, List.forall_mem_nil _⟩
  · simp only [List.forall_mem_cons]
    exact ⟨fun _ h => (by cases h), fun _ h => (by cases h), fun _ h => (by cases h),
      List.forall_mem_nil _⟩
  · rw [List.forall_mem_cons, List.forall_mem_singleton]
    exact ⟨List.forall_mem_nil _, htype.2⟩

end Fields

/-- The fields that have passed their checks. -/
theorem crossable_checked {formatList typeList shapeList : List PyVal}
    {oriFiledList : Option (List PyVal × List PyVal)} {formats types : List String}
    (hformat : SubCaseDesign.checkListStrValid desc "format" formats = .ok formatList)
    (htype : SubCaseDesign.checkListStrValid desc "type" types = .ok typeList)
    (hshape : getShapeList desc = .ok shapeList)
    (hori : SubCaseDesign.getOriFiledData desc formatList shapeList = .ok oriFiledList) :
    Crossable OUTPUT_CROSS_LIST (withOriFields formatList typeList shapeList oriFiledList) := by
  refine crossable_output (SubCaseDesign.checkListStrValid_spec hformat)
    (SubCaseDesign.checkListStrValid_spec htype) (getShapeList_ne_nil hshape) ?_
  intro f s heq
  rw [heq] at hori
  exact SubCaseDesign.getOriFiledData_spec hori

/-- An output can be crossed. -/
theorem crossable_makeOutputDesc (h : makeOutputDesc env desc = .ok tensor) :
    Crossable OUTPUT_CROSS_LIST tensor := by
  unfold makeOutputDesc at h
  obtain ⟨formatList, hformat, h⟩ := bind_eq_ok.mp h
  obtain ⟨typeList, htype, h⟩ := bind_eq_ok.mp h
  obtain ⟨shapeList, hshape, h⟩ := bind_eq_ok.mp h
  obtain ⟨oriFiledList, hori, h⟩ := bind_eq_ok.mp h
  exact (crossable_checked hformat htype hshape hori).extended (by decide)
    (Extended.refl.withDynamicShapeInfo h)

/-- An input can be crossed. -/
theorem crossable_makeInputDesc (h : makeInputDesc env jsonPath desc = .ok tensor) :
    Crossable INPUT_CROSS_LIST tensor := by
  unfold makeInputDesc at h
  obtain ⟨formatList, hformat, h⟩ := bind_eq_ok.mp h
  obtain ⟨typeList, htype, h⟩ := bind_eq_ok.mp h
  obtain ⟨shapeList, hshape, h⟩ := bind_eq_ok.mp h
  obtain ⟨dataDistributeList, hdistribute, h⟩ := bind_eq_ok.mp h
  obtain ⟨valueRangeList, hrange, h⟩ := bind_eq_ok.mp h
  obtain ⟨oriFiledList, hori, h⟩ := bind_eq_ok.mp h
  obtain ⟨oneInputDesc, hdynamic, h⟩ := bind_eq_ok.mp h
  refine Crossable.extended ?_ (by decide)
    ((Extended.refl.withDynamicShapeInfo hdynamic).dealWithValue h)
  rw [inputCrossList_eq]
  refine (crossable_checked hformat htype hshape hori).withRanges (by decide) ?_
    (getValueRangeList_ne_nil hrange) (getDataDistributeList_ne_nil hdistribute)
  unfold rangeKeys
  rw [List.forall_mem_cons, List.forall_mem_singleton]
  cases oriFiledList <;> exact ⟨rfl, rfl⟩

/-- So can an output in the other mode. -/
theorem crossable_makeOutputDescMs (h : makeOutputDescMs env desc = .ok tensor) :
    Crossable MS_OUTPUT_CROSS_LIST tensor := by
  unfold makeOutputDescMs at h
  obtain ⟨typeList, htype, h⟩ := bind_eq_ok.mp h
  obtain ⟨shapeList, hshape, h⟩ := bind_eq_ok.mp h
  cases h
  exact crossable_outputMs (SubCaseDesign.checkListStrValid_spec htype)
    (getShapeList_ne_nil hshape)

/-- And an input. -/
theorem crossable_makeInputDescMs (h : makeInputDescMs env jsonPath desc = .ok tensor) :
    Crossable MS_INPUT_CROSS_LIST tensor := by
  unfold makeInputDescMs at h
  obtain ⟨typeList, htype, h⟩ := bind_eq_ok.mp h
  obtain ⟨shapeList, hshape, h⟩ := bind_eq_ok.mp h
  obtain ⟨dataDistributeList, hdistribute, h⟩ := bind_eq_ok.mp h
  obtain ⟨valueRangeList, hrange, h⟩ := bind_eq_ok.mp h
  refine Crossable.extended ?_ (by decide) (Extended.refl.dealWithValue h)
  have houtput := crossable_outputMs (SubCaseDesign.checkListStrValid_spec htype)
    (getShapeList_ne_nil hshape)
  refine houtput.withRanges (by decide) ?_ (getValueRangeList_ne_nil hrange)
    (getDataDistributeList_ne_nil hdistribute)
  unfold rangeKeys
  rw [List.forall_mem_cons, List.forall_mem_singleton]
  exact ⟨rfl, rfl⟩

/-! ## §4. The descriptions of a case. -/

/-- A field can only be read of a dictionary. -/
theorem dict_of_checkListStrValid {key : String} {supportList : List String} {l : List PyVal}
    (h : SubCaseDesign.checkListStrValid desc key supportList = .ok l) :
    ∃ d, desc = .dict d := by
  unfold SubCaseDesign.checkListStrValid SubCaseDesign.checkFuzzInJson at h
  obtain ⟨_, _, h⟩ := bind_eq_ok.mp h
  obtain ⟨_, hfuzz, h⟩ := bind_eq_ok.mp h
  obtain ⟨_, hget, _⟩ := bind_eq_ok.mp hfuzz
  cases desc with
  | dict d => exact ⟨d, rfl⟩
  | _ => cases hget

/-- Only a dictionary is made into an input. -/
theorem dict_of_makeInputDesc (h : makeInputDesc env jsonPath desc = .ok tensor) :
    ∃ d, desc = .dict d := by
  unfold makeInputDesc at h
  obtain ⟨_, hformat, _⟩ := bind_eq_ok.mp h
  exact dict_of_checkListStrValid hformat

/-- Or an output. -/
theorem dict_of_makeOutputDesc (h : makeOutputDesc env desc = .ok tensor) :
    ∃ d, desc = .dict d := by
  unfold makeOutputDesc at h
  obtain ⟨_, hformat, _⟩ := bind_eq_ok.mp h
  exact dict_of_checkListStrValid hformat

/-- The same in the other mode. -/
theorem dict_of_makeInputDescMs (h : makeInputDescMs env jsonPath desc = .ok tensor) :
    ∃ d, desc = .dict d := by
  unfold makeInputDescMs at h
  obtain ⟨_, htype, _⟩ := bind_eq_ok.mp h
  exact dict_of_checkListStrValid htype

/-- For an output, too. -/
theorem dict_of_makeOutputDescMs (h : makeOutputDescMs env desc = .ok tensor) :
    ∃ d, desc = .dict d := by
  unfold makeOutputDescMs at h
  obtain ⟨_, htype, _⟩ := bind_eq_ok.mp h
  exact dict_of_checkListStrValid htype

/-- The elements are as many as the length says. -/
theorem iter_length {v : PyVal} {l : List PyVal} {n : Nat} (hiter : v.iter = .ok l)
    (hlen : v.len = .ok n) : l.length = n := by
  cases v with
  | str s =>
      cases hiter
      cases hlen
      rw [List.length_map, String.length_toList]
  | list m =>
      cases hiter
      cases hlen
      rfl
  | dict d =>
      cases hiter
      cases hlen
      rw [List.length_map]
  | _ => cases hiter

section DescList

variable {jsonObj : PyVal} {key : String} {demanded : Bool}
  {makeDesc : PyVal → Except PyError Tensor} {tensors : List Tensor}

/-- Each description comes from one of the case. -/
theorem exists_of_makeDescList (h : makeDescList jsonObj key demanded makeDesc = .ok tensors) :
    ∀ tensor ∈ tensors, ∃ desc, makeDesc desc = .ok tensor := by
  unfold makeDescList at h
  obtain ⟨descs, _, h⟩ := bind_eq_ok.mp h
  obtain ⟨n, _, h⟩ := bind_eq_ok.mp h
  obtain ⟨_, _, h⟩ := bind_eq_ok.mp h
  obtain ⟨l, _, h⟩ := bind_eq_ok.mp h
  intro tensor htensor
  obtain ⟨i, hi⟩ := List.getElem?_of_mem htensor
  obtain ⟨desc, _, hmake⟩ := exists_of_mapM h hi
  exact ⟨desc, hmake⟩

/-- A list that is demanded is not empty. -/
theorem makeDescList_ne_nil (h : makeDescList jsonObj key true makeDesc = .ok tensors) :
    tensors ≠ [] := by
  unfold makeDescList at h
  obtain ⟨descs, hdescs, h⟩ := bind_eq_ok.mp h
  obtain ⟨n, hlen, h⟩ := bind_eq_ok.mp h
  obtain ⟨_, hdemand, h⟩ := bind_eq_ok.mp h
  obtain ⟨l, hiter, h⟩ := bind_eq_ok.mp h
  have hlength := length_of_mapM h
  have hn := iter_length hiter hlen
  intro hnil
  rw [raiseIf_eq_ok] at hdemand
  rw [hnil, List.length_nil] at hlength
  exact hdemand ⟨rfl, by omega⟩

/-- A description that is made has an entry in the case, which may have a name. -/
theorem nameOf_of_makeDescList
    (hdict : ∀ desc tensor, makeDesc desc = .ok tensor → ∃ d, desc = .dict d)
    (h : makeDescList jsonObj key demanded makeDesc = .ok tensors) :
    ∀ i, i < tensors.length → ∃ name, nameOf jsonObj key i = .ok name := by
  unfold makeDescList at h
  obtain ⟨descs, hdescs, h⟩ := bind_eq_ok.mp h
  obtain ⟨n, _, h⟩ := bind_eq_ok.mp h
  obtain ⟨_, _, h⟩ := bind_eq_ok.mp h
  obtain ⟨l, hiter, h⟩ := bind_eq_ok.mp h
  intro i hi
  obtain ⟨desc, hdesc, hmake⟩ := exists_of_mapM h (List.getElem?_eq_getElem hi)
  -- Only a dictionary has passed the checks, so its name can be looked up.
  obtain ⟨d, rfl⟩ := hdict desc _ hmake
  unfold nameOf
  rw [hdescs]
  cases descs with
  | list m =>
      cases hiter
      have hitem : (PyVal.list l).item i = .ok (.dict d) := by
        simp only [PyVal.item, hdesc]
      refine ⟨(d.lookup "name").getD .none, ?_⟩
      show (PyVal.item (.list l) i >>= fun v => v.get "name") = _
      rw [hitem]
      rfl
  | str s =>
      -- A string has no descriptions, only characters.
      cases hiter
      rw [List.getElem?_map, Option.map_eq_some_iff] at hdesc
      obtain ⟨_, _, heq⟩ := hdesc
      cases heq
  | dict e =>
      cases hiter
      rw [List.getElem?_map, Option.map_eq_some_iff] at hdesc
      obtain ⟨_, _, heq⟩ := hdesc
      cases heq
  | _ => cases hiter

end DescList

/-- How the descriptions of a case are made, in either mode. -/
inductive MadeDescs (env : DesignEnv) (jsonPath : String) (jsonObj : PyVal) : Descs → Prop where
  | ms {input output : List Tensor} (hms : isMs jsonObj = .ok true)
      (hinput : makeDescList jsonObj INPUT_DESC true (makeInputDescMs env jsonPath) = .ok input)
      (houtput : makeDescList jsonObj OUTPUT_DESC true (makeOutputDescMs env) = .ok output) :
      MadeDescs env jsonPath jsonObj ⟨input, output, MS_INPUT_CROSS_LIST, MS_OUTPUT_CROSS_LIST⟩
  | other {input output : List Tensor} (hms : isMs jsonObj = .ok false)
      (hinput : makeDescList jsonObj INPUT_DESC false (makeInputDesc env jsonPath) = .ok input)
      (houtput : makeDescList jsonObj OUTPUT_DESC true (makeOutputDesc env) = .ok output) :
      MadeDescs env jsonPath jsonObj ⟨input, output, INPUT_CROSS_LIST, OUTPUT_CROSS_LIST⟩

/-- `makeDescs` by the two modes. -/
theorem makeDescs_cases {jsonObj : PyVal} {descs : Descs}
    (h : makeDescs env jsonPath jsonObj = .ok descs) : MadeDescs env jsonPath jsonObj descs := by
  unfold makeDescs at h
  obtain ⟨ms, hms, h⟩ := bind_eq_ok.mp h
  cases ms with
  | true =>
      obtain ⟨input, hinput, h⟩ := bind_eq_ok.mp h
      obtain ⟨output, houtput, h⟩ := bind_eq_ok.mp h
      cases h
      exact .ms hms hinput houtput
  | false =>
      obtain ⟨input, hinput, h⟩ := bind_eq_ok.mp h
      obtain ⟨output, houtput, h⟩ := bind_eq_ok.mp h
      cases h
      exact .other hms hinput houtput

/-- The fields of a cross list are different ones, and none of those that go along with them. -/
structure CrossList (keys : List String) : Prop where
  nodup : keys.Nodup
  plain : ∀ key ∈ ["ori_format", "ori_shape", TYPICAL_SHAPE, SHAPE_RANGE, VALUE, IS_CONST, "name"],
    key ∉ keys

/-- What `makeDescs` establishes. -/
structure DescsOk (jsonObj : PyVal) (descs : Descs) : Prop where
  input : ∀ tensor ∈ descs.inputDescList, Crossable descs.inputCrossList tensor
  output : ∀ tensor ∈ descs.outputDescList, Crossable descs.outputCrossList tensor
  cross : descs.inputCrossList = descs.outputCrossList ++ rangeKeys
  keys : CrossList descs.inputCrossList
  type : "type" ∈ descs.outputCrossList
  /-- In the other mode there are no formats. -/
  mode : ∃ ms, isMs jsonObj = .ok ms ∧ (ms = false → "format" ∈ descs.outputCrossList)
  output_ne_nil : descs.outputDescList ≠ []
  inputName : ∀ i, i < descs.inputDescList.length → ∃ name, nameOf jsonObj INPUT_DESC i = .ok name
  outputName : ∀ i, i < descs.outputDescList.length →
    ∃ name, nameOf jsonObj OUTPUT_DESC i = .ok name

/-- Inputs are crossed over their types. -/
theorem DescsOk.type_input {jsonObj : PyVal} {descs : Descs} (h : DescsOk jsonObj descs) :
    "type" ∈ descs.inputCrossList := by
  rw [h.cross]
  exact List.mem_append_left _ h.type

/-- The fields of an input are a cross list. -/
theorem crossList_input : CrossList INPUT_CROSS_LIST := ⟨by decide, by decide⟩

/-- So are those of the other mode. -/
theorem crossList_ms : CrossList MS_INPUT_CROSS_LIST := ⟨by decide, by decide⟩

/-- What `makeDescs` returns can be crossed. -/
theorem descsOk_makeDescs {jsonObj : PyVal} {descs : Descs}
    (h : makeDescs env jsonPath jsonObj = .ok descs) : DescsOk jsonObj descs := by
  -- The two modes differ in their cross lists and in what makes a description.
  cases makeDescs_cases h with
  | ms hms hinput houtput =>
      exact {
        input := fun tensor ht => by
          obtain ⟨desc, hmake⟩ := exists_of_makeDescList hinput tensor ht
          exact crossable_makeInputDescMs hmake
        output := fun tensor ht => by
          obtain ⟨desc, hmake⟩ := exists_of_makeDescList houtput tensor ht
          exact crossable_makeOutputDescMs hmake
        cross := rfl
        keys := crossList_ms
        type := (by decide : "type" ∈ MS_OUTPUT_CROSS_LIST)
        mode := ⟨true, hms, nofun⟩
        output_ne_nil := makeDescList_ne_nil houtput
        inputName := nameOf_of_makeDescList (fun _ _ => dict_of_makeInputDescMs) hinput
        outputName := nameOf_of_makeDescList (fun _ _ => dict_of_makeOutputDescMs) houtput }
  | other hms hinput houtput =>
      exact {
        input := fun tensor ht => by
          obtain ⟨desc, hmake⟩ := exists_of_makeDescList hinput tensor ht
          exact crossable_makeInputDesc hmake
        output := fun tensor ht => by
          obtain ⟨desc, hmake⟩ := exists_of_makeDescList houtput tensor ht
          exact crossable_makeOutputDesc hmake
        cross := rfl
        keys := crossList_input
        type := (by decide : "type" ∈ OUTPUT_CROSS_LIST)
        mode := ⟨false, hms, fun _ => (by decide : "format" ∈ OUTPUT_CROSS_LIST)⟩
        output_ne_nil := makeDescList_ne_nil houtput
        inputName := nameOf_of_makeDescList (fun _ _ => dict_of_makeInputDesc) hinput
        outputName := nameOf_of_makeDescList (fun _ _ => dict_of_makeOutputDesc) houtput }

/-- What holds of every description that is made holds of all descriptions of a case, in
either mode. -/
theorem forall_makeDescs {P : Tensor → Prop} {jsonObj : PyVal} {descs : Descs}
    (hinput : ∀ desc tensor, makeInputDesc env jsonPath desc = .ok tensor → P tensor)
    (houtput : ∀ desc tensor, makeOutputDesc env desc = .ok tensor → P tensor)
    (hinputMs : ∀ desc tensor, makeInputDescMs env jsonPath desc = .ok tensor → P tensor)
    (houtputMs : ∀ desc tensor, makeOutputDescMs env desc = .ok tensor → P tensor)
    (h : makeDescs env jsonPath jsonObj = .ok descs) :
    ∀ tensor ∈ descs.inputDescList ++ descs.outputDescList, P tensor := by
  cases makeDescs_cases h with
  | ms _ hin hout =>
      intro tensor htensor
      rcases List.mem_append.mp htensor with htensor | htensor
      · obtain ⟨desc, hmake⟩ := exists_of_makeDescList hin tensor htensor
        exact hinputMs desc tensor hmake
      · obtain ⟨desc, hmake⟩ := exists_of_makeDescList hout tensor htensor
        exact houtputMs desc tensor hmake
  | other _ hin hout =>
      intro tensor htensor
      rcases List.mem_append.mp htensor with htensor | htensor
      · obtain ⟨desc, hmake⟩ := exists_of_makeDescList hin tensor htensor
        exact hinput desc tensor hmake
      · obtain ⟨desc, hmake⟩ := exists_of_makeDescList hout tensor htensor
        exact houtput desc tensor hmake

end SubCaseDesignCross

end HwEfat.Main
