/-
  HwEfat.Main.SubCaseDesign.Taken — what a case has of the combination it is made of.

  Case `k` takes the description of a combination.  It has the profile of every field at the
  position that the combination has for it (`TakenFrom`), but for two fields: a format
  `UNDEFINED` or `RESERVED`, or a type `UNDEFINED`, makes both `UNDEFINED`.  So the case has
  what the combination says exactly if the two are `Whole` (`takenFrom_iff`).

  Main results: `lookup_profilesAt`, `takenFrom_iff`.
-/
import HwEfat.Main.SubCaseDesign.Count

namespace HwEfat.Main

open HwEfat.Lib (PyError PyVal PyDict mem_positions)
open SubCaseDesignCross (CrossList)

/-! ## §1. Formats and types. -/

/-- The format and the type stay as they are: if one of them says that there is no tensor, both
are `UNDEFINED`. -/
def Whole (format type : PyVal) : Prop :=
  format = .str "UNDEFINED" ∨ format = .str "RESERVED" ∨ type = .str "UNDEFINED" →
    format = .str "UNDEFINED" ∧ type = .str "UNDEFINED"

/-- All pairs of a format and a type stay as they are. -/
def WholePairs (keys : List String) (tensor : Tensor) : Prop :=
  "format" ∈ keys → ∀ format ∈ profiles tensor "format", ∀ type ∈ profiles tensor "type",
    Whole format type

section Pair

variable {d : Desc} {format type : PyVal}

/-- A value is this string. -/
theorem isStr_iff {v : PyVal} {s : String} : v.isStr s = true ↔ v = .str s := by
  cases v with
  | str t => exact beq_iff_eq.trans ⟨congrArg PyVal.str, PyVal.str.inj⟩
  | _ => exact iff_of_false Bool.false_ne_true fun h => by cases h

/-- The two words for a format without a tensor. -/
theorem optionalType_iff :
    (OPTIONAL_TYPE_LIST.any fun s => format.isStr s) = true ↔
      format = .str "UNDEFINED" ∨ format = .str "RESERVED" := by
  unfold OPTIONAL_TYPE_LIST
  simp only [List.any_cons, List.any_nil, Bool.or_false, Bool.or_eq_true, isStr_iff]

instance : Decidable (Whole format type) :=
  decidable_of_iff
    (format.isStr "UNDEFINED" ∨ format.isStr "RESERVED" ∨ type.isStr "UNDEFINED" →
      format.isStr "UNDEFINED" ∧ type.isStr "UNDEFINED")
    (by simp only [isStr_iff]; rfl)

/-- **When a format and a type stay as they are.** -/
theorem lookup_pair_iff (hformat : d.lookup "format" = some format)
    (htype : d.lookup "type" = some type) :
    ((SubCaseDesign.checkCurParamsUndefined d).lookup "format" = some format ∧
      (SubCaseDesign.checkCurParamsUndefined d).lookup "type" = some type) ↔
        Whole format type := by
  unfold SubCaseDesign.checkCurParamsUndefined Whole TYPE_UNDEFINED
  rw [hformat, Option.any_some]
  dsimp only
  -- A format without a tensor makes both fields undefined.
  by_cases hout : (OPTIONAL_TYPE_LIST.any fun s => format.isStr s) = true
  · rw [if_pos hout, PyDict.lookup_set, if_pos rfl, Option.any_some, if_pos (isStr_iff.mpr rfl)]
    rw [PyDict.lookup_set, if_pos rfl, PyDict.lookup_set, if_neg (by decide), PyDict.lookup_set,
      if_pos rfl, Option.some.injEq, Option.some.injEq]
    rw [optionalType_iff] at hout
    constructor
    · rintro ⟨hf, ht⟩ _
      exact ⟨hf.symm, ht.symm⟩
    · intro h
      obtain ⟨hf, ht⟩ := h (or_assoc.mp (.inl hout))
      exact ⟨hf.symm, ht.symm⟩
  · rw [if_neg hout, htype, Option.any_some]
    rw [optionalType_iff] at hout
    -- So does an undefined type; otherwise nothing is set.
    by_cases hundefined : type = .str "UNDEFINED"
    · rw [if_pos (isStr_iff.mpr hundefined), PyDict.lookup_set, PyDict.lookup_set, if_pos rfl,
        if_neg (by decide), htype, Option.some.injEq]
      constructor
      · rintro ⟨hf, _⟩
        exact absurd (.inl hf.symm) hout
      · intro h
        exact absurd (.inl (h (.inr (.inr hundefined))).1) hout
    · rw [if_neg (mt isStr_iff.mp hundefined), hformat, htype]
      refine iff_of_true ⟨rfl, rfl⟩ fun h => ?_
      rcases h with h | h | h
      · exact absurd (.inl h) hout
      · exact absurd (.inr h) hout
      · exact absurd h hundefined

/-- Without a format, the type stays as it is. -/
theorem lookup_type_of_no_format (hformat : d.lookup "format" = none) :
    (SubCaseDesign.checkCurParamsUndefined d).lookup "type" = d.lookup "type" := by
  unfold SubCaseDesign.checkCurParamsUndefined
  rw [hformat, Option.any_none, if_neg Bool.false_ne_true]
  dsimp only
  by_cases hundefined : (d.lookup "type").any (PyVal.isStr TYPE_UNDEFINED) = true
  · rw [if_pos hundefined, PyDict.lookup_set, if_neg (by decide)]
  · rw [if_neg hundefined]

end Pair

/-! ## §2. The profiles of a combination. -/

section Combination

variable {keys : List String} {tensor : Tensor} {p : List Nat} {key key' : String} {i j : Nat}

/-- What takes the position of a field. -/
theorem mem_tied (h : key' ∈ tied tensor key) :
    key' = key ∨ (key = "format" ∧ key' = "ori_format") ∨ (key = "shape" ∧ key' = "ori_shape") := by
  unfold tied at h
  split_ifs at h with hori hformat hshape
  · exact .inl (List.mem_singleton.mp h)
  · rcases List.mem_pair.mp h with heq | heq
    · exact .inl (heq.trans hformat.symm)
    · exact .inr (.inl ⟨hformat, heq⟩)
  · rcases List.mem_pair.mp h with heq | heq
    · exact .inl (heq.trans hshape.symm)
    · exact .inr (.inr ⟨hshape, heq⟩)
  · exact .inl (List.mem_singleton.mp h)

/-- The field itself does. -/
theorem self_mem_tied : key ∈ tied tensor key := by
  unfold tied
  split_ifs with hori hformat hshape
  · exact List.mem_singleton_self key
  · rw [hformat]
    exact List.mem_cons_self
  · rw [hshape]
    exact List.mem_cons_self
  · exact List.mem_singleton_self key

/-- A field that goes along has as many profiles. -/
theorem length_tied (h : Crossable keys tensor) (htied : key' ∈ tied tensor key) :
    (profiles tensor key').length = (profiles tensor key).length := by
  rcases h.ori with hnone | ⟨hformat, hshape, _⟩
  · unfold tied at htied
    rw [if_pos hnone] at htied
    rw [List.mem_singleton.mp htied]
  · rcases mem_tied htied with rfl | ⟨rfl, rfl⟩ | ⟨rfl, rfl⟩
    · rfl
    · exact hformat
    · exact hshape

/-- The first fields of a cross list are one. -/
theorem SubCaseDesignCross.CrossList.left {keys' : List String}
    (h : CrossList (keys ++ keys')) : CrossList keys :=
  ⟨(List.nodup_append.mp h.nodup).1, fun key hkey hmem =>
    h.plain key hkey (List.mem_append_left _ hmem)⟩

/-- No field is crossed twice. -/
theorem crossKeys_nodup (h : CrossList keys) : (crossKeys keys tensor).Nodup := by
  unfold crossKeys addNewKeyToCrossList
  refine List.nodup_append.mpr ⟨h.nodup, List.Nodup.filter _ (by decide), ?_⟩
  rintro a ha b hb rfl
  have hextra : ∀ a ∈ [SHAPE_RANGE, VALUE, IS_CONST], a ∈ ["ori_format", "ori_shape",
      TYPICAL_SHAPE, SHAPE_RANGE, VALUE, IS_CONST, "name"] := by
    decide
  exact h.plain a (hextra a (List.mem_filter.mp hb).1) ha

/-- The fields that go along with others are not crossed by themselves. -/
theorem ne_of_mem_crossKeys (h : CrossList keys) (hkey : key ∈ crossKeys keys tensor) :
    key ∉ ["ori_format", "ori_shape", TYPICAL_SHAPE, "name"] := by
  have hextra : ∀ key ∈ [SHAPE_RANGE, VALUE, IS_CONST],
      key ∉ ["ori_format", "ori_shape", TYPICAL_SHAPE, "name"] := by
    decide
  have hplain : ∀ key ∈ ["ori_format", "ori_shape", TYPICAL_SHAPE, "name"],
      key ∈ ["ori_format", "ori_shape", TYPICAL_SHAPE, SHAPE_RANGE, VALUE, IS_CONST, "name"] := by
    decide
  unfold crossKeys addNewKeyToCrossList at hkey
  rcases List.mem_append.mp hkey with hmem | hmem
  · exact fun hnot => h.plain key (hplain key hnot) hmem
  · exact hextra key (List.mem_filter.mp hmem).1

/-- A field goes along with one field of the cross list only. -/
theorem eq_of_tied {k : String} (h : CrossList keys) (hkey : key ∈ crossKeys keys tensor)
    (hk : k ∈ crossKeys keys tensor) (htied : key' ∈ tied tensor key)
    (htied' : key' ∈ tied tensor k) : key = k := by
  have hplain := ne_of_mem_crossKeys h hkey
  have hplain' := ne_of_mem_crossKeys h hk
  rcases mem_tied htied with rfl | ⟨rfl, rfl⟩ | ⟨rfl, rfl⟩
  · rcases mem_tied htied' with rfl | ⟨_, rfl⟩ | ⟨_, rfl⟩
    · rfl
    · exact absurd (by decide) hplain
    · exact absurd (by decide) hplain
  · rcases mem_tied htied' with rfl | ⟨rfl, _⟩ | ⟨_, heq⟩
    · exact absurd (by decide) hplain'
    · rfl
    · exact absurd heq (by decide)
  · rcases mem_tied htied' with rfl | ⟨_, heq⟩ | ⟨rfl, _⟩
    · exact absurd (by decide) hplain'
    · exact absurd heq (by decide)
    · rfl

/-- A field has one position. -/
theorem zip_unique {l : List String} {q : List Nat} (hl : l.Nodup) (hi : (key, i) ∈ l.zip q)
    (hj : (key, j) ∈ l.zip q) : i = j := by
  obtain ⟨n, hn⟩ := List.mem_iff_getElem?.mp hi
  obtain ⟨m, hm⟩ := List.mem_iff_getElem?.mp hj
  obtain ⟨hkey, hi'⟩ := List.getElem?_zip_eq_some.mp hn
  obtain ⟨hkey', hj'⟩ := List.getElem?_zip_eq_some.mp hm
  have hlt : n < l.length := (List.getElem?_eq_some_iff.mp hkey).1
  obtain rfl : n = m := (List.getElem?_inj hlt hl).mp (hkey.trans hkey'.symm)
  exact Option.some.inj (hi'.symm.trans hj')

/-- A position is one of a profile. -/
theorem lt_of_mem_zip (hp : p ∈ combinations keys tensor)
    (hmem : (key, i) ∈ (crossKeys keys tensor).zip p) : i < (profiles tensor key).length := by
  have hbound := mem_positions.mp hp
  obtain ⟨n, hn⟩ := List.mem_iff_getElem?.mp hmem
  obtain ⟨hkey, hi⟩ := List.getElem?_zip_eq_some.mp hn
  have hlen : ((crossKeys keys tensor).map fun key => (profiles tensor key).length)[n]?
      = some (profiles tensor key).length := by
    rw [List.getElem?_map, hkey]
    rfl
  obtain ⟨hi₁, hi₂⟩ := List.getElem?_eq_some_iff.mp hi
  obtain ⟨hl₁, hl₂⟩ := List.getElem?_eq_some_iff.mp hlen
  have hget : p[n] < ((crossKeys keys tensor).map fun key => (profiles tensor key).length)[n] :=
    hbound.get hi₁ hl₁
  rw [hl₂, hi₂] at hget
  exact hget

/-- A combination has a position for every field. -/
theorem exists_position (hp : p ∈ combinations keys tensor) (hkey : key ∈ crossKeys keys tensor) :
    ∃ i, (key, i) ∈ (crossKeys keys tensor).zip p := by
  have hlength := (mem_positions.mp hp).length_eq
  rw [List.length_map] at hlength
  obtain ⟨n, hn⟩ := List.mem_iff_getElem?.mp hkey
  have hlt : n < p.length := hlength ▸ (List.getElem?_eq_some_iff.mp hn).1
  exact ⟨p[n], List.mem_iff_getElem?.mpr
    ⟨n, List.getElem?_zip_eq_some.mpr ⟨hn, List.getElem?_eq_getElem hlt⟩⟩⟩

/-- What is not crossed is not picked. -/
theorem lookup_format_eq_none (hkey : "format" ∉ crossKeys keys tensor) :
    (profilesAt tensor (crossKeys keys tensor) p).lookup "format" = none := by
  cases hlookup : (profilesAt tensor (crossKeys keys tensor) p).lookup "format" with
  | none => rfl
  | some v =>
      obtain ⟨⟨k, j⟩, hk, hv⟩ := List.mem_flatMap.mp (PyDict.mem_of_lookup hlookup)
      obtain ⟨k', htied, hv⟩ := List.mem_flatMap.mp hv
      obtain ⟨_, _, heq⟩ := List.mem_map.mp hv
      cases heq
      rcases mem_tied htied with rfl | ⟨_, heq⟩ | ⟨_, heq⟩
      · exact absurd (List.of_mem_zip hk).1 hkey
      · exact absurd heq (by decide)
      · exact absurd heq (by decide)

/-- **What a combination picks**: the profile of every field at its position. -/
theorem lookup_profilesAt (hcross : Crossable keys tensor) (hkeys : CrossList keys)
    (hp : p ∈ combinations keys tensor) (hmem : (key, i) ∈ (crossKeys keys tensor).zip p)
    (htied : key' ∈ tied tensor key) :
    ∃ v, (profiles tensor key')[i]? = some v ∧
      (profilesAt tensor (crossKeys keys tensor) p).lookup key' = some v := by
  have hlt : i < (profiles tensor key').length :=
    length_tied hcross htied ▸ lt_of_mem_zip hp hmem
  refine ⟨_, List.getElem?_eq_getElem hlt, ?_⟩
  have hin : (key', (profiles tensor key')[i]) ∈ profilesAt tensor (crossKeys keys tensor) p := by
    unfold profilesAt
    refine List.mem_flatMap.mpr ⟨_, hmem, List.mem_flatMap.mpr ⟨key', htied, ?_⟩⟩
    rw [List.getElem?_eq_getElem hlt]
    exact List.mem_singleton_self _
  cases hlookup : (profilesAt tensor (crossKeys keys tensor) p).lookup key' with
  | none =>
      have hne := List.lookup_eq_none_iff.mp hlookup _ hin
      rw [bne_self_eq_false] at hne
      cases hne
  | some w =>
      -- There is no second profile of the field.
      obtain ⟨⟨k, j⟩, hk, hw⟩ := List.mem_flatMap.mp (PyDict.mem_of_lookup hlookup)
      obtain ⟨k', htied', hw⟩ := List.mem_flatMap.mp hw
      obtain ⟨v, hv, heq⟩ := List.mem_map.mp hw
      cases heq
      obtain rfl : key = k := eq_of_tied hkeys (List.of_mem_zip hmem).1 (List.of_mem_zip hk).1
        htied htied'
      obtain rfl : i = j := zip_unique (crossKeys_nodup hkeys) hmem hk
      rw [Option.mem_toList, List.getElem?_eq_getElem hlt] at hv
      exact hv.symm

/-- The format and the type of a combination stay as they are. -/
def WholeAt (keys : List String) (tensor : Tensor) (p : List Nat) : Prop :=
  ∀ i j format type, ("format", i) ∈ (crossKeys keys tensor).zip p →
    ("type", j) ∈ (crossKeys keys tensor).zip p → (profiles tensor "format")[i]? = some format →
      (profiles tensor "type")[j]? = some type → Whole format type

/-- A field with its position. -/
theorem mem_zip_map (f : String → Nat) {l : List String} (hkey : key ∈ l) :
    (key, f key) ∈ l.zip (l.map f) := by
  obtain ⟨n, hn⟩ := List.mem_iff_getElem?.mp hkey
  refine List.mem_iff_getElem?.mpr ⟨n, List.getElem?_zip_eq_some.mpr ⟨hn, ?_⟩⟩
  rw [List.getElem?_map, hn]
  rfl

/-- A crossed field has profiles. -/
theorem profiles_pos (h : Crossable keys tensor) (hkey : key ∈ crossKeys keys tensor) :
    0 < (profiles tensor key).length := by
  unfold crossKeys addNewKeyToCrossList at hkey
  unfold profiles
  rcases List.mem_append.mp hkey with hmem | hmem
  · obtain ⟨l, hl, hne⟩ := h.filled key hmem
    rw [hl]
    exact List.length_pos_iff.mpr hne
  · have hfilled := (List.mem_filter.mp hmem).2
    unfold filled at hfilled
    obtain ⟨l, hl, hne⟩ := (Option.any_eq_true _ _).mp hfilled
    rw [hl]
    refine List.length_pos_iff.mpr fun hnil => ?_
    rw [Option.getD_some] at hnil
    rw [hnil] at hne
    cases hne

/-- A crossed field is in the list, unless it has one profile. -/
theorem mem_keys_of_format (h : key ∈ crossKeys keys tensor)
    (hkey : key ∉ [SHAPE_RANGE, VALUE, IS_CONST]) : key ∈ keys := by
  rcases List.mem_append.mp h with hmem | hmem
  · exact hmem
  · exact absurd (List.mem_filter.mp hmem).1 hkey

/-- All pairs come up in a combination. -/
theorem wholePairs_iff (h : Crossable keys tensor) (htype : "type" ∈ keys) :
    WholePairs keys tensor ↔ ∀ p ∈ combinations keys tensor, WholeAt keys tensor p := by
  constructor
  · intro hpairs p _ i j format type hi _ hformat htype
    have hmem := mem_keys_of_format (List.of_mem_zip hi).1 (by decide)
    exact hpairs hmem format (List.mem_of_getElem? hformat) type (List.mem_of_getElem? htype)
  · intro hall hformat format hf type ht
    obtain ⟨i, hi⟩ := List.mem_iff_getElem?.mp hf
    obtain ⟨j, hj⟩ := List.mem_iff_getElem?.mp ht
    -- The combination of these two and the first profile of every other field.
    let at_ : String → Nat := fun key => if key = "format" then i else if key = "type" then j else 0
    have hp : (crossKeys keys tensor).map at_ ∈ combinations keys tensor := by
      refine mem_positions.mpr (List.forall₂_map_left_iff.mpr (List.forall₂_map_right_iff.mpr
        (List.forall₂_same.mpr fun key hkey => ?_)))
      show (if key = "format" then i else if key = "type" then j else 0) < _
      split_ifs with hkf hkt
      · rw [hkf]
        exact (List.getElem?_eq_some_iff.mp hi).1
      · rw [hkt]
        exact (List.getElem?_eq_some_iff.mp hj).1
      · exact profiles_pos h hkey
    have hmem : ∀ key ∈ keys, (key, at_ key)
        ∈ (crossKeys keys tensor).zip ((crossKeys keys tensor).map at_) :=
      fun key hkey => mem_zip_map at_ (List.mem_append_left _ hkey)
    exact hall _ hp i j format type (hmem "format" hformat) (hmem "type" htype) hi hj

end Combination

namespace SubCaseDesignCross

/-! ## §3. What a case takes. -/

/-- The description has the profile of every field at the position of the combination.  The
range of a dynamic shape is left out: it has one profile, and goes with a shape of an unknown
rank. -/
def HasProfiles (crossList : List String) (tensor : Tensor) (p : List Nat) (desc : Desc) : Prop :=
  ∀ field j, (field, j) ∈ (crossKeys crossList tensor).zip p → field ≠ SHAPE_RANGE →
    ∀ field' ∈ tied tensor field,
      ∃ v, (profiles tensor field')[j]? = some v ∧ desc.lookup field' = some v

/-- The input or output `i` of a case has its name and the profiles of the combination at
`use`. -/
structure TakenFrom (jsonObj : PyVal) (key : String) (crossList : List String) (i : Nat)
    (tensor : Tensor) (use : Nat) (taken : List Desc) (p : List Nat) : Prop where
  combination : (combinations crossList tensor)[use]? = some p
  fields : ∃ desc, taken[i]? = some desc ∧ HasProfiles crossList tensor p desc ∧
    ∀ name, nameOf jsonObj key i = .ok name → name.truthy → desc.lookup "name" = some name

section Taken

variable {crossList : List String} {tensor : Tensor} {p : List Nat} {desc desc' : Desc}

/-- Only the crossed fields of a description count. -/
theorem HasProfiles.congr (hkeys : CrossList crossList)
    (hsame : ∀ key, key ∉ [TYPICAL_SHAPE, SHAPE_RANGE, "name"] → desc'.lookup key = desc.lookup key)
    (h : HasProfiles crossList tensor p desc) : HasProfiles crossList tensor p desc' := by
  intro field j hmem hrange field' htied
  obtain ⟨v, hv, hlookup⟩ := h field j hmem hrange field' htied
  refine ⟨v, hv, (hsame field' ?_).trans hlookup⟩
  have hplain := ne_of_mem_crossKeys hkeys (List.of_mem_zip hmem).1
  rcases mem_tied htied with rfl | ⟨_, rfl⟩ | ⟨_, rfl⟩
  · simp only [List.mem_cons, List.not_mem_nil, or_false, not_or] at hplain ⊢
    exact ⟨hplain.2.2.1, hrange, hplain.2.2.2⟩
  · decide
  · decide

/-- A name leaves the other fields. -/
theorem lookup_named {name : PyVal} {key : String} (hkey : key ≠ "name") :
    (named name desc).lookup key = desc.lookup key := by
  unfold named
  by_cases htruthy : name.truthy
  · rw [if_pos htruthy, PyDict.lookup_set, if_neg hkey]
  · rw [if_neg htruthy]

/-- A description differs from its profiles in the format and the type only. -/
theorem lookup_describe {key : String} (hkey : key ∉ [TYPICAL_SHAPE, SHAPE_RANGE])
    (hok : describe crossList tensor p = .ok desc) : desc.lookup key
      = (SubCaseDesign.checkCurParamsUndefined
          (profilesAt tensor (crossKeys crossList tensor) p)).lookup key := by
  unfold describe getCase at hok
  dsimp only at hok
  split at hok
  · exact lookup_setTypicalShape hkey hok
  · cases hok
    rfl

/-- **When a description has the profiles of its combination.** -/
theorem hasProfiles_iff (hcross : Crossable crossList tensor) (hkeys : CrossList crossList)
    (htype : "type" ∈ crossList) (hp : p ∈ combinations crossList tensor)
    (hok : describe crossList tensor p = .ok desc) :
    HasProfiles crossList tensor p desc ↔ WholeAt crossList tensor p := by
  have hlookup := fun {key key' : String} {i : Nat} =>
    @lookup_profilesAt crossList tensor p key key' i hcross hkeys hp
  constructor
  · intro h i j format type hi hj hformat htype
    obtain ⟨f, hf, hdf⟩ := h "format" i hi (by decide) "format" self_mem_tied
    obtain ⟨t, ht, hdt⟩ := h "type" j hj (by decide) "type" self_mem_tied
    cases hf.symm.trans hformat
    cases ht.symm.trans htype
    obtain ⟨f', hf', hpf⟩ := hlookup hi self_mem_tied
    obtain ⟨t', ht', hpt⟩ := hlookup hj self_mem_tied
    cases hf'.symm.trans hformat
    cases ht'.symm.trans htype
    rw [lookup_describe (by decide) hok] at hdf hdt
    exact (lookup_pair_iff hpf hpt).mp ⟨hdf, hdt⟩
  · intro hwhole field j hmem hrange field' htied
    obtain ⟨v, hv, hpv⟩ := hlookup hmem htied
    refine ⟨v, hv, ?_⟩
    have hplain := ne_of_mem_crossKeys hkeys (List.of_mem_zip hmem).1
    have hnot : field' ∉ [TYPICAL_SHAPE, SHAPE_RANGE] := by
      rcases mem_tied htied with rfl | ⟨_, rfl⟩ | ⟨_, rfl⟩
      · simp only [List.mem_cons, List.not_mem_nil, or_false, not_or] at hplain ⊢
        exact ⟨hplain.2.2.1, hrange⟩
      · decide
      · decide
    rw [lookup_describe hnot hok]
    -- Only the format and the type can be replaced, and only together.
    by_cases hpair : field' ∈ ["format", "type"]
    · have hself : field = field' := by
        rcases mem_tied htied with rfl | ⟨_, rfl⟩ | ⟨_, rfl⟩
        · rfl
        · exact absurd hpair (by decide)
        · exact absurd hpair (by decide)
      subst hself
      have htypes : "type" ∈ crossKeys crossList tensor := List.mem_append_left _ htype
      -- In the mode without formats, the type stays.
      by_cases hformats : "format" ∈ crossKeys crossList tensor
      · obtain ⟨i, hi⟩ := exists_position hp hformats
        obtain ⟨j', hj⟩ := exists_position hp htypes
        obtain ⟨f, hf, hpf⟩ := hlookup hi self_mem_tied
        obtain ⟨t, ht, hpt⟩ := hlookup hj self_mem_tied
        obtain ⟨hkeptFormat, hkeptType⟩ :=
          (lookup_pair_iff hpf hpt).mpr (hwhole i j' f t hi hj hf ht)
        rcases List.mem_pair.mp hpair with rfl | rfl
        · rw [hkeptFormat, ← hpf, hpv]
        · rw [hkeptType, ← hpt, hpv]
      · rcases List.mem_pair.mp hpair with rfl | rfl
        · exact absurd (List.of_mem_zip hmem).1 hformats
        · rw [lookup_type_of_no_format (lookup_format_eq_none hformats), hpv]
    · rw [lookup_checkCurParamsUndefined hpair, hpv]

/-- **Where a case has what it should**, once it has been put together. -/
theorem Drawn.takenFrom {jsonObj : PyVal} {key : String} {k i use : Nat} {tensors : List Tensor}
    {rows : List (List Desc)} {taken : List Desc} (h : Drawn jsonObj key rows k use taken)
    (hcross : ∀ tensor ∈ tensors, Crossable crossList tensor) (hkeys : CrossList crossList)
    (htype : "type" ∈ crossList) (hrows : crossTensors tensors crossList = .ok rows)
    (htensor : tensors[i]? = some tensor) :
    ∃ p, (combinations crossList tensor)[use]? = some p ∧
      (TakenFrom jsonObj key crossList i tensor use taken p ↔ WholeAt crossList tensor p) := by
  obtain ⟨row, hrow, hrow'⟩ := exists_row hcross hrows htensor
  obtain ⟨name, desc, hname, hdesc, _, htaken⟩ := h.row i row hrow
  obtain ⟨p, hp, hdescribe⟩ := hrow'.getElem? hdesc
  have hiff := hasProfiles_iff (hcross tensor (List.mem_of_getElem? htensor)) hkeys htype
    (List.mem_of_getElem? hp) hdescribe
  refine ⟨p, hp, ?_, ?_⟩
  · rintro ⟨_, desc', hdesc', hhas, _⟩
    cases htaken.symm.trans hdesc'
    refine hiff.mp (hhas.congr hkeys fun key hkey => (lookup_named ?_).symm)
    rintro rfl
    exact hkey (by decide)
  · intro hwhole
    refine ⟨hp, _, htaken, (hiff.mpr hwhole).congr hkeys fun key hkey => lookup_named ?_, ?_⟩
    · rintro rfl
      exact hkey (by decide)
    · intro name' hname' htruthy
      cases hname.symm.trans hname'
      unfold named
      rw [if_pos htruthy, PyDict.lookup_set, if_pos rfl]

end Taken

end SubCaseDesignCross

end HwEfat.Main
