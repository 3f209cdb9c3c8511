/-
  HwEfat.Main.SubCaseDesign.Combinations — what `_cross_tensor` crosses.

  A combination of the profiles of an input or output is a tuple of positions, one for
  each field that is crossed.  `_cross_tensor` makes one description of each combination,
  in product order, whether or not `ori_format` and `ori_shape` go along
  (`crossTensor_eq`).  Its format and its type are strings (`hasText_describe`).
-/
import HwEfat.Main.SubCaseDesign.Profiles

namespace HwEfat.Main

open HwEfat.Lib (PyError PyVal PyDict product positions pick pick_cons pick_map
  product_eq_pick
  mem_positions mapM_eq_map mapM_congr)

/-- The fields that are crossed. -/
def crossKeys (keys : List String) (tensor : Tensor) : List String :=
  addNewKeyToCrossList tensor keys

/-- The combinations of profiles in product order: a position for each field. -/
def combinations (keys : List String) (tensor : Tensor) : List (List Nat) :=
  positions ((crossKeys keys tensor).map fun key => (profiles tensor key).length)

/-- The fields that take the position of a field. -/
def tied (tensor : Tensor) (key : String) : List String :=
  if tensor.lookup "ori_format" = none then [key]
  else if key = "format" then ["format", "ori_format"]
  else if key = "shape" then ["shape", "ori_shape"]
  else [key]

/-- The profiles at these positions. -/
def profilesAt (tensor : Tensor) (keys : List String) (p : List Nat) : Desc :=
  (keys.zip p).flatMap fun e =>
    (tied tensor e.1).flatMap fun key =>
      (profiles tensor key)[e.2]?.toList.map fun v => (key, v)

/-- The description of a combination. -/
def describe (keys : List String) (tensor : Tensor) (p : List Nat) : Except PyError Desc :=
  SubCaseDesignCross.getCase tensor (profilesAt tensor (crossKeys keys tensor) p)

/-! ## §1. Crossing. -/

/-- The keys with the profiles that are picked. -/
theorem zip_pick {ls : String → List PyVal} {keys : List String} {p : List Nat}
    (h : List.Forall₂ (· < ·) p (keys.map fun key => (ls key).length)) :
    keys.zip (pick (keys.map ls) p)
      = (keys.zip p).flatMap fun e => (ls e.1)[e.2]?.toList.map fun v => (e.1, v) := by
  induction keys generalizing p with
  | nil => rfl
  | cons key keys ih =>
      rw [List.map_cons] at h
      cases h with
      | cons hi hp =>
          rw [List.map_cons, List.zip_cons_cons, List.flatMap_cons, ← ih hp, pick_cons,
            List.getElem?_eq_getElem hi]
          rfl

section Cross

variable {keys : List String} {tensor : Tensor}

/-- Every field that is crossed has profiles. -/
theorem Crossable.getItem_crossKeys (h : Crossable keys tensor) {key : String}
    (hkey : key ∈ crossKeys keys tensor) : tensor.getItem key = .ok (profiles tensor key) := by
  have hsome : ∃ l, tensor.lookup key = some l := by
    unfold crossKeys addNewKeyToCrossList at hkey
    rcases List.mem_append.mp hkey with hkey | hkey
    · obtain ⟨l, hl, _⟩ := h.filled key hkey
      exact ⟨l, hl⟩
    · obtain ⟨_, hfilled⟩ := List.mem_filter.mp hkey
      unfold Main.filled at hfilled
      obtain ⟨l, hl, _⟩ := (Option.any_eq_true _ _).mp hfilled
      exact ⟨l, hl⟩
  obtain ⟨l, hl⟩ := hsome
  rw [PyDict.getItem_eq_ok]
  unfold profiles
  rw [hl]
  rfl

/-- Without `ori_format` the fields are crossed as they are. -/
theorem crossTensor_plain (h : Crossable keys tensor) (hori : tensor.lookup "ori_format" = none) :
    SubCaseDesignCross.crossTensor keys tensor
      = (combinations keys tensor).mapM (describe keys tensor) := by
  have hitems : (crossKeys keys tensor).mapM (fun key => tensor.getItem key)
      = .ok ((crossKeys keys tensor).map (profiles tensor)) :=
    mapM_eq_map fun key hkey => h.getItem_crossKeys hkey
  have hfilled : filled tensor "ori_format" = false := by
    unfold filled
    rw [hori]
    rfl
  unfold SubCaseDesignCross.crossTensor
  dsimp only
  rw [if_neg (by rw [hfilled, Bool.false_and]; decide)]
  show ((crossKeys keys tensor).mapM (fun key => tensor.getItem key) >>= fun crossList =>
    SubCaseDesignCross.getCaseList tensor (product crossList) (crossKeys keys tensor)) = _
  rw [hitems]
  show SubCaseDesignCross.getCaseList tensor
    (product ((crossKeys keys tensor).map (profiles tensor))) (crossKeys keys tensor) = _
  unfold SubCaseDesignCross.getCaseList
  rw [product_eq_pick, List.mapM_map, List.map_map]
  refine mapM_congr fun p hp => ?_
  have hbound := mem_positions.mp hp
  unfold describe profilesAt
  rw [Function.comp_apply, zip_pick hbound]
  simp only [tied, hori, if_true, List.flatMap_cons, List.flatMap_nil, List.append_nil]

/-- The values of a tuple, pairs first. -/
theorem getDataList_pick {f f' s s' : List PyVal} {i j : Nat} (hf : i < f.length)
    (hf' : i < f'.length) (hs : j < s.length) (hs' : j < s'.length) (ls : List (List PyVal))
    (p : List Nat) :
    getDataList (pick (((f.zip f').map fun e => [e.1, e.2]) :: ((s.zip s').map fun e =>
        [e.1, e.2]) :: ls.map fun l => l.map fun v => [v]) (i :: j :: p))
      = f[i] :: f'[i] :: s[j] :: s'[j] :: pick ls p := by
  have hrest : (pick (ls.map fun l => l.map fun v => [v]) p).flatten = pick ls p := by
    rw [pick_map]
    induction pick ls p with
    | nil => rfl
    | cons v l ih => rw [List.map_cons, List.flatten_cons, ih, List.singleton_append]
  have hzip : ∀ (l m : List PyVal) (k : Nat) (hl : k < l.length) (hm : k < m.length),
      ((l.zip m).map fun e => [e.1, e.2])[k]? = some [l[k], m[k]] := by
    intro l m k hl hm
    have hpair : (l.zip m)[k]? = some (l[k], m[k]) := List.getElem?_zip_eq_some.mpr
      ⟨List.getElem?_eq_getElem hl, List.getElem?_eq_getElem hm⟩
    rw [List.getElem?_map, hpair]
    rfl
  unfold getDataList
  rw [pick_cons, pick_cons, hzip f f' i hf hf', hzip s s' j hs hs', Option.toList_some,
    Option.toList_some, List.flatten_append, List.flatten_append, hrest]
  rfl

/-- A field with profiles is filled. -/
theorem filled_of_ne_nil {key : String} (hne : profiles tensor key ≠ []) :
    filled tensor key = true ∧ tensor.getItem key = .ok (profiles tensor key) := by
  unfold profiles filled PyDict.getItem at *
  cases hl : tensor.lookup key with
  | none =>
      rw [hl] at hne
      exact absurd rfl hne
  | some l =>
      rw [hl] at hne
      refine ⟨?_, rfl⟩
      rw [Option.any_some, Bool.not_eq_true', List.isEmpty_eq_false_iff]
      exact hne

/-- A field is filled where one that is as long has profiles. -/
theorem filled_of_length_eq {key key' : String}
    (hlen : (profiles tensor key').length = (profiles tensor key).length)
    (hne : profiles tensor key ≠ []) :
    filled tensor key' = true ∧ tensor.getItem key' = .ok (profiles tensor key') := by
  apply filled_of_ne_nil
  rw [← List.length_pos_iff, hlen, List.length_pos_iff]
  exact hne

/-- The lists that `combine_ori_field_to_cross` crosses: two of pairs, then the others. -/
def oriLists (tensor : Tensor) (rest : List String) : List (List (List PyVal)) :=
  (((profiles tensor "format").zip (profiles tensor "ori_format")).map fun e => [e.1, e.2]) ::
    (((profiles tensor "shape").zip (profiles tensor "ori_shape")).map fun e => [e.1, e.2]) ::
    (rest.map (profiles tensor)).map fun l => l.map fun v => [v]

/-- The pairs are as many as the fields that are crossed. -/
theorem length_oriLists
    (hformat : (profiles tensor "ori_format").length = (profiles tensor "format").length)
    (hshape : (profiles tensor "ori_shape").length = (profiles tensor "shape").length)
    (rest : List String) :
    (oriLists tensor rest).map List.length
      = ("format" :: "shape" :: rest).map fun key => (profiles tensor key).length := by
  unfold oriLists
  rw [List.map_cons, List.map_cons, List.length_map, List.length_map, List.length_zip,
    List.length_zip, hformat, hshape, Nat.min_self, Nat.min_self, List.map_map, List.map_map]
  congr 2
  apply List.map_congr_left
  intro key _
  exact List.length_map _

section Ori

variable {rest : List String}

/-- What `combine_ori_field_to_cross` returns. -/
theorem combineOriFieldToCross_eq (hf : "format" ∉ rest) (hs : "shape" ∉ rest)
    (hitem : ∀ key ∈ "format" :: "shape" :: rest, tensor.getItem key = .ok (profiles tensor key))
    (hformat : tensor.getItem "ori_format" = .ok (profiles tensor "ori_format"))
    (hshape : tensor.getItem "ori_shape" = .ok (profiles tensor "ori_shape")) :
    combineOriFieldToCross tensor ("format" :: "shape" :: rest)
      = .ok ("format" :: "ori_format" :: "shape" :: "ori_shape" :: rest,
        (product (oriLists tensor rest)).map getDataList) := by
  have hothers : ("format" :: "shape" :: rest).filter
      (fun key => !(["format", "shape"].contains key)) = rest := by
    rw [List.filter_cons_of_neg (by decide), List.filter_cons_of_neg (by decide),
      List.filter_eq_self]
    intro key hkey
    have hneF : key ≠ "format" := fun heq => hf (heq ▸ hkey)
    have hneS : key ≠ "shape" := fun heq => hs (heq ▸ hkey)
    simp [hneF, hneS]
  have hrest : rest.mapM (fun key => tensor.getItem key) = .ok (rest.map (profiles tensor)) :=
    mapM_eq_map fun key hkey =>
      hitem key (List.mem_cons_of_mem _ (List.mem_cons_of_mem _ hkey))
  unfold combineOriFieldToCross
  rw [hothers, hrest, hitem "format" List.mem_cons_self, hformat,
    hitem "shape" (List.mem_cons_of_mem _ List.mem_cons_self), hshape]
  rfl

/-- The keys with the values of a tuple are the profiles of a combination. -/
theorem zip_getDataList (hlookup : tensor.lookup "ori_format" ≠ none)
    (hformat : (profiles tensor "ori_format").length = (profiles tensor "format").length)
    (hshape : (profiles tensor "ori_shape").length = (profiles tensor "shape").length)
    (hf : "format" ∉ rest) (hs : "shape" ∉ rest) {p : List Nat}
    (hp : List.Forall₂ (· < ·) p
      (("format" :: "shape" :: rest).map fun key => (profiles tensor key).length)) :
    List.zip ("format" :: "ori_format" :: "shape" :: "ori_shape" :: rest)
        (getDataList (pick (oriLists tensor rest) p))
      = profilesAt tensor ("format" :: "shape" :: rest) p := by
  rw [List.map_cons, List.map_cons] at hp
  cases hp with
  | @cons i _ p₁ _ hi hp =>
  cases hp with
  | @cons j _ q _ hj hq =>
  have htiedF : tied tensor "format" = ["format", "ori_format"] := by
    unfold tied
    rw [if_neg hlookup, if_pos rfl]
  have htiedS : tied tensor "shape" = ["shape", "ori_shape"] := by
    unfold tied
    rw [if_neg hlookup, if_neg (by decide), if_pos rfl]
  -- Behind the two pairs no field is tied to another one.
  have htail : ((rest.zip q).flatMap fun e => (tied tensor e.1).flatMap fun key =>
      (profiles tensor key)[e.2]?.toList.map fun v => (key, v))
      = (rest.zip q).flatMap fun e =>
        (profiles tensor e.1)[e.2]?.toList.map fun v => (e.1, v) := by
    apply List.flatMap_congr
    intro e he
    have hmem := (List.of_mem_zip he).1
    have hneF : e.1 ≠ "format" := fun heq => hf (heq ▸ hmem)
    have hneS : e.1 ≠ "shape" := fun heq => hs (heq ▸ hmem)
    unfold tied
    rw [if_neg hlookup, if_neg hneF, if_neg hneS, List.flatMap_cons, List.flatMap_nil,
      List.append_nil]
  unfold oriLists profilesAt
  rw [getDataList_pick hi (by omega) hj (by omega)]
  simp only [List.zip_cons_cons, List.flatMap_cons, htiedF, htiedS]
  rw [zip_pick hq, htail, List.getElem?_eq_getElem hi, List.getElem?_eq_getElem (by omega),
    List.getElem?_eq_getElem hj, List.getElem?_eq_getElem (by omega)]
  rfl

/-- With `ori_format` the fields `format` and `shape` are crossed in pairs. -/
theorem crossTensor_ori (h : Crossable keys tensor)
    (hlookup : tensor.lookup "ori_format" ≠ none)
    (hformat : (profiles tensor "ori_format").length = (profiles tensor "format").length)
    (hshape : (profiles tensor "ori_shape").length = (profiles tensor "shape").length)
    (hkeys : keys = "format" :: "shape" :: rest) (hf : "format" ∉ rest) (hs : "shape" ∉ rest) :
    SubCaseDesignCross.crossTensor keys tensor
      = (combinations keys tensor).mapM (describe keys tensor) := by
  obtain ⟨rest', hcross, hf', hs'⟩ : ∃ rest', crossKeys keys tensor
      = "format" :: "shape" :: rest' ∧ "format" ∉ rest' ∧ "shape" ∉ rest' := by
    refine ⟨rest ++ [SHAPE_RANGE, VALUE, IS_CONST].filter (filled tensor), ?_, ?_, ?_⟩
    · rw [hkeys]
      rfl
    · rw [List.mem_append, not_or]
      exact ⟨hf, fun hmem => absurd (List.mem_of_mem_filter hmem) (by decide)⟩
    · rw [List.mem_append, not_or]
      exact ⟨hs, fun hmem => absurd (List.mem_of_mem_filter hmem) (by decide)⟩
  obtain ⟨hfilledF, hitemF⟩ := filled_of_length_eq hformat
    (h.profiles_ne_nil (by rw [hkeys]; exact List.mem_cons_self))
  obtain ⟨hfilledS, hitemS⟩ := filled_of_length_eq hshape
    (h.profiles_ne_nil (by rw [hkeys]; exact List.mem_cons_of_mem _ List.mem_cons_self))
  -- `combine_ori_field_to_cross` finds both lists as long as those they go with.
  have hcombine := combineOriFieldToCross_eq hf' hs'
    (fun key hkey => h.getItem_crossKeys (hcross ▸ hkey)) hitemF hitemS
  unfold SubCaseDesignCross.crossTensor
  dsimp only
  rw [if_pos (by rw [hfilledF, hfilledS]; rfl)]
  show (combineOriFieldToCross tensor (crossKeys keys tensor) >>= fun combined =>
    SubCaseDesignCross.getCaseList tensor combined.2 combined.1) = _
  rw [hcross, hcombine]
  show SubCaseDesignCross.getCaseList tensor _ _ = _
  unfold SubCaseDesignCross.getCaseList combinations
  rw [product_eq_pick, length_oriLists hformat hshape, List.map_map, List.mapM_map, hcross]
  refine mapM_congr fun p hp => ?_
  unfold describe
  rw [hcross, ← zip_getDataList hlookup hformat hshape hf' hs' (mem_positions.mp hp)]
  rfl

end Ori

/-- **`_cross_tensor` makes one description of each combination, in product order.** -/
theorem crossTensor_eq (h : Crossable keys tensor) :
    SubCaseDesignCross.crossTensor keys tensor
      = (combinations keys tensor).mapM (describe keys tensor) := by
  by_cases hlookup : tensor.lookup "ori_format" = none
  · exact crossTensor_plain h hlookup
  · obtain ⟨hformat, hshape, rest, hkeys, hf, hs⟩ := h.ori.resolve_left hlookup
    exact crossTensor_ori h hlookup hformat hshape hkeys hf hs

end Cross

/-! ## §2. Fields that are strings. -/

/-- The field `key` is a string. -/
def HasText (desc : Desc) (key : String) : Prop := ∃ s, desc.lookup key = some (.str s)

section Text

variable {keys : List String} {tensor : Tensor} {p : List Nat} {desc desc' : Desc} {key : String}

/-- Another field may be set. -/
theorem HasText.set_ne (h : HasText desc key) {k : String} (hne : key ≠ k) (v : PyVal) :
    HasText (desc.set k v) key := by
  obtain ⟨s, hs⟩ := h
  refine ⟨s, ?_⟩
  rw [PyDict.lookup_set, if_neg hne, hs]

/-- A field may be replaced by another string. -/
theorem HasText.set_str (h : HasText desc key) (k t : String) :
    HasText (desc.set k (.str t)) key := by
  by_cases heq : key = k
  · refine ⟨t, ?_⟩
    rw [PyDict.lookup_set, if_pos heq]
  · exact h.set_ne heq _

/-- Only the format and the type may change. -/
theorem lookup_checkCurParamsUndefined (hkey : key ∉ ["format", "type"]) (d : Desc) :
    (SubCaseDesign.checkCurParamsUndefined d).lookup key = d.lookup key := by
  have hif : ∀ (d : Desc) (c : Bool) (k : String) (v : PyVal), key ≠ k →
      (if c then d.set k v else d).lookup key = d.lookup key := by
    intro d c k v hne
    cases c with
    | false => rfl
    | true => exact (PyDict.lookup_set d k key v).trans (if_neg hne)
  rw [List.mem_cons, List.mem_singleton, not_or] at hkey
  unfold SubCaseDesign.checkCurParamsUndefined
  dsimp only
  rw [hif _ _ "format" _ hkey.1, hif _ _ "type" _ hkey.2]

/-- The check of the optional format and type keeps strings. -/
theorem HasText.checkCurParamsUndefined (h : HasText desc key) :
    HasText (SubCaseDesign.checkCurParamsUndefined desc) key := by
  have hif : ∀ {d : Desc} (c : Bool) (k t : String), HasText d key →
      HasText (if c then d.set k (.str t) else d) key := by
    intro d c k t hd
    cases c with
    | true => exact hd.set_str k t
    | false => exact hd
  unfold SubCaseDesign.checkCurParamsUndefined
  exact hif _ "format" _ (hif _ "type" _ h)

/-- A typical shape changes two fields only. -/
theorem lookup_setTypicalShape (hkey : key ∉ [TYPICAL_SHAPE, SHAPE_RANGE])
    (hok : setTypicalShapeInCurParams tensor desc = .ok desc') :
    desc'.lookup key = desc.lookup key := by
  rw [List.mem_cons, List.mem_singleton, not_or] at hkey
  obtain ⟨htypical, hrange⟩ := hkey
  unfold setTypicalShapeInCurParams at hok
  split at hok
  · -- Each dimension of the shape may set the field anew.
    apply Lib.foldlM_keeps (I := fun d : Desc => d.lookup key = desc.lookup key) _ rfl hok
    intro dim _ d d' hd hstep
    split at hstep
    · split at hstep
      · cases hstep
      · obtain ⟨typical, _, hstep⟩ := Lib.bind_eq_ok.mp hstep
        have hset : (PyDict.set d TYPICAL_SHAPE typical).lookup key = desc.lookup key := by
          rw [PyDict.lookup_set, if_neg htypical]
          exact hd
        dsimp only at hstep
        split at hstep
        · cases hstep
          rw [PyDict.lookup_pop_ne _ hrange]
          exact hset
        · cases hstep
          exact hset
    · cases hstep
      exact hd
  · cases hok

/-- So does the typical shape. -/
theorem HasText.setTypicalShape (h : HasText desc key)
    (hkey : key ∉ [TYPICAL_SHAPE, SHAPE_RANGE])
    (hok : setTypicalShapeInCurParams tensor desc = .ok desc') : HasText desc' key := by
  obtain ⟨s, hs⟩ := h
  exact ⟨s, (lookup_setTypicalShape hkey hok).trans hs⟩

/-- What a combination takes comes from the profiles of its field. -/
theorem mem_profilesAt {e : String × PyVal} (h : e ∈ profilesAt tensor keys p) :
    e.2 ∈ profiles tensor e.1 := by
  unfold profilesAt at h
  obtain ⟨_, _, h⟩ := List.mem_flatMap.mp h
  obtain ⟨key, _, h⟩ := List.mem_flatMap.mp h
  obtain ⟨v, hv, rfl⟩ := List.mem_map.mp h
  exact List.mem_of_getElem? (Option.mem_toList.mp hv)

/-- A combination takes something for every field. -/
theorem exists_mem_profilesAt
    (hp : List.Forall₂ (· < ·) p (keys.map fun key => (profiles tensor key).length))
    (hkey : key ∈ keys) : ∃ v, (key, v) ∈ profilesAt tensor keys p := by
  induction keys generalizing p with
  | nil => cases hkey
  | cons k keys ih =>
      rw [List.map_cons] at hp
      cases hp with
      | @cons i _ q _ hi hq =>
          have hcons : profilesAt tensor (k :: keys) (i :: q)
              = ((tied tensor k).flatMap fun key =>
                  (profiles tensor key)[i]?.toList.map fun v => (key, v))
                ++ profilesAt tensor keys q := rfl
          rw [hcons]
          rcases List.mem_cons.mp hkey with rfl | hkey
          · refine ⟨(profiles tensor key)[i], List.mem_append_left _ ?_⟩
            -- Among the fields that take a position, the field itself is one.
            have htied : key ∈ tied tensor key := by
              unfold tied
              split
              · exact List.mem_singleton_self key
              · split
                · next heq => rw [heq]; exact List.mem_cons_self
                · split
                  · next heq => rw [heq]; exact List.mem_cons_self
                  · exact List.mem_singleton_self key
            refine List.mem_flatMap.mpr ⟨key, htied, ?_⟩
            rw [List.getElem?_eq_getElem hi]
            exact List.mem_singleton_self _
          · obtain ⟨v, hv⟩ := ih hq hkey
            exact ⟨v, List.mem_append_right _ hv⟩

/-- The format and the type of a description are strings. -/
theorem hasText_describe (h : Crossable keys tensor) (hp : p ∈ combinations keys tensor)
    (hkey : key ∈ keys) (htext : key ∈ ["format", "type"])
    (hok : describe keys tensor p = .ok desc) : HasText desc key := by
  have hcross : key ∈ crossKeys keys tensor := List.mem_append_left _ hkey
  have hprofiles : HasText (profilesAt tensor (crossKeys keys tensor) p) key := by
    obtain ⟨v, hv⟩ := exists_mem_profilesAt (mem_positions.mp hp) hcross
    cases hlookup : (profilesAt tensor (crossKeys keys tensor) p).lookup key with
    | none =>
        have hne := List.lookup_eq_none_iff.mp hlookup _ hv
        rw [bne_self_eq_false] at hne
        cases hne
    | some w =>
        have hw : (key, w) ∈ profilesAt tensor (crossKeys keys tensor) p :=
          PyDict.mem_of_lookup hlookup
        obtain ⟨s, rfl⟩ := h.text key htext w (mem_profilesAt hw)
        exact ⟨s, hlookup⟩
  unfold describe SubCaseDesignCross.getCase at hok
  dsimp only at hok
  split at hok
  · refine hprofiles.checkCurParamsUndefined.setTypicalShape ?_ hok
    clear * - htext
    revert key
    decide
  · cases hok
    exact hprofiles.checkCurParamsUndefined

end Text

end HwEfat.Main
