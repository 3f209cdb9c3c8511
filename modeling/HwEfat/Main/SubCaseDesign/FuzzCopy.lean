/-
  HwEfat.Main.SubCaseDesign.FuzzCopy — the copy of a case that the dictionaries of one loop
  iteration share.

  A dictionary fills in placeholders of the copy, and the dictionaries behind it find them
  filled.  So a description carries the values of its dictionary (`Carries`) exactly if the
  fields are taken, and the copy has no other values there (`DescReady`).  The attributes of a
  case are those of the copy.

  Main results: `makeDescListFuzz_carries` for the descriptions and
  `checkAttrValidFuzz_copy` for the attributes.
-/
import HwEfat.Main.SubCaseDesign.FuzzMade

namespace HwEfat.Main

open HwEfat.Lib (PyError PyVal PyDict raiseIf raiseIf_eq_ok bind_eq_ok mapM_eq_ok)

namespace SubCaseDesignFuzz

open SubCaseDesign (checkRequiredKeyValid checkNameTypeValid)

/-! ## §1. A description. -/

/-- The description is the one of the case, with some placeholders filled in. -/
def CopiedDesc (desc₀ desc : PyVal) : Prop :=
  desc = desc₀ ∨ ∃ d₀ d, desc₀ = .dict d₀ ∧ desc = .dict d ∧ ∀ key,
    d.lookup key = d₀.lookup key ∨
      (key ∈ FUZZ_KEYS ∧ d₀.lookup key = some FUZZ ∧ (d.lookup key).isSome = true)

/-- A field of a description is there. -/
def IsThere (desc : PyDict PyVal) (key : String) : Prop :=
  ∃ v, desc.lookup key = some v ∧ v.isNone = false

/-- The shape of a description, with the value that the dictionary gives for a placeholder. -/
def ShapeIs (fuzzDict : PyVal) (descType : String) (d₀ : PyDict PyVal) (dims : List PyVal) : Prop :=
  d₀.lookup "shape" = some (.list dims) ∨
    (d₀.lookup "shape" = some FUZZ ∧ Gives fuzzDict descType d₀ "shape" (.list dims))

/-- A case is to have a field of its description.  In the mode `ms_python_train` there are
neither formats nor original data nor typical shapes; only inputs have a distribution and a
range, if there is no `value`, and a value; the original format and shape go together; and
typical shapes are for dynamic shapes. -/
structure Expected (ms : Bool) (fuzzDict : PyVal) (descType : String) (d₀ : PyDict PyVal)
    (key : String) : Prop where
  mode : key ∈ ["format", "ori_format", "ori_shape", TYPICAL_SHAPE, SHAPE_RANGE] → ms = false
  input : key ∈ ["data_distribute", "value_range", VALUE] → descType = INPUT_DESC
  noValue : key ∈ ["data_distribute", "value_range"] → d₀.lookup VALUE = none
  original : key ∈ ["ori_format", "ori_shape"] → IsThere d₀ "ori_format" ∧ IsThere d₀ "ori_shape"
  dynamic : key ∈ [TYPICAL_SHAPE, SHAPE_RANGE] →
    IsThere d₀ TYPICAL_SHAPE ∧ ∃ dims, ShapeIs fuzzDict descType d₀ dims ∧ IsDynamic dims

/-- **The description of a case carries the values of a dictionary**: for every placeholder of
the JSON description, the dictionary gives a value, and the case has it. -/
def Carries (jsonPath : String) (ms : Bool) (fuzzDict : PyVal) (descType : String)
    (desc₀ : PyVal) (oneDesc : Desc) : Prop :=
  ∀ d₀, desc₀ = .dict d₀ → ∀ key ∈ FUZZ_KEYS, d₀.lookup key = some FUZZ →
    Expected ms fuzzDict descType d₀ key →
      ∃ v, Gives fuzzDict descType d₀ key v ∧ oneDesc.lookup key = some (written jsonPath key v)

/-- The placeholder is still open in the copy, or holds what stands for the same as the value
of the dictionary.  Original data must not be empty, and the shape that the copy has must be
dynamic where the field is for dynamic shapes. -/
structure FieldReady (jsonPath : String) (fuzzDict : PyVal) (descType : String)
    (d : PyDict PyVal) (key : String) (v : PyVal) : Prop where
  copy : d.lookup key = some FUZZ ∨
    ∃ u, d.lookup key = some u ∧ written jsonPath key u = written jsonPath key v
  original : key ∈ ["ori_format", "ori_shape"] → OriginalGiven fuzzDict descType d
  dynamic : key ∈ [TYPICAL_SHAPE, SHAPE_RANGE] → DynamicGiven fuzzDict descType d

/-- The dictionary gives a value for every placeholder of the description, and the copy is
ready for it. -/
def DescReady (jsonPath : String) (ms : Bool) (fuzzDict : PyVal) (descType : String)
    (desc₀ desc : PyVal) : Prop :=
  ∀ d₀ d, desc₀ = .dict d₀ → desc = .dict d → ∀ key ∈ FUZZ_KEYS, d₀.lookup key = some FUZZ →
    Expected ms fuzzDict descType d₀ key →
      ∃ v, Gives fuzzDict descType d₀ key v ∧ FieldReady jsonPath fuzzDict descType d key v

section OneDesc

variable {env : FuzzEnv} {jsonPath descType key : String} {fuzzDict desc₀ desc desc' v : PyVal}
  {d₀ d : PyDict PyVal} {oneDesc : Desc} {ms : Bool}

/-- A dictionary is copied from a dictionary, field by field. -/
theorem CopiedDesc.dicts (h : CopiedDesc desc₀ (.dict d)) :
    ∃ d₀, desc₀ = .dict d₀ ∧ ∀ key, d.lookup key = d₀.lookup key ∨
      (key ∈ FUZZ_KEYS ∧ d₀.lookup key = some FUZZ ∧ (d.lookup key).isSome = true) := by
  rcases h with rfl | ⟨d₀, d', rfl, heq, hd⟩
  · exact ⟨d, rfl, fun _ => Or.inl rfl⟩
  · cases heq
    exact ⟨d₀, rfl, hd⟩

/-- Placeholders that are filled in leave a copy. -/
theorem CopiedDesc.fills (hcopied : CopiedDesc desc₀ (.dict d)) {d' : PyDict PyVal}
    (h : Fills fuzzDict descType FUZZ_KEYS d d') : CopiedDesc desc₀ (.dict d') := by
  obtain ⟨d₀, rfl, hd⟩ := hcopied.dicts
  refine Or.inr ⟨d₀, d', rfl, rfl, fun key => ?_⟩
  rcases h key with heq | ⟨hkey, hfuzz, v, _, hv⟩
  · rw [heq]
    exact hd key
  · refine Or.inr ⟨hkey, ?_, by rw [hv]; rfl⟩
    -- A placeholder that is not filled in yet is one of the case.
    rcases hd key with heq | ⟨_, hfuzz₀, _⟩
    · exact heq ▸ hfuzz
    · exact hfuzz₀

/-- The place of a value is a value. -/
theorem valueAt_ne_none (hv : v.isNone = false) : valueAt jsonPath v ≠ .none := by
  cases v with
  | none => cases hv
  | _ => exact fun h => by cases h

/-- A field that is expected and ready is taken. -/
theorem FieldReady.taken (h : FieldReady jsonPath fuzzDict descType d key v)
    (hexpected : Expected ms fuzzDict descType d₀ key)
    (hvalue : (d.lookup VALUE).isSome = (d₀.lookup VALUE).isSome)
    (hv : given fuzzDict descType d key = .ok v) (hsome : v.isNone = false) :
    Taken ms fuzzDict descType d key where
  mode := hexpected.mode
  input := hexpected.input
  noValue hkey := by
    rw [hexpected.noValue hkey] at hvalue
    exact Option.isNone_iff_eq_none.mp (Option.isSome_eq_false_iff.mp hvalue)
  value hkey hnone := by
    subst hkey
    by_cases hfuzz : d.lookup VALUE = some FUZZ
    · rw [filled_of_fuzz hfuzz hv] at hnone
      rw [Option.some.inj hnone] at hsome
      cases hsome
    · obtain ⟨u, hu, hsame⟩ := h.copy.resolve_left hfuzz
      rw [filled_of_ne hfuzz, hu] at hnone
      rw [Option.some.inj hnone] at hsame
      exact valueAt_ne_none hsome hsame.symm
  original := h.original
  dynamic := h.dynamic

/-- **An expected field has the value of the dictionary exactly if it is ready.** -/
theorem Shows.carries_iff (hshows : Shows jsonPath ms fuzzDict descType d oneDesc key)
    (hexpected : Expected ms fuzzDict descType d₀ key)
    (hvalue : (d.lookup VALUE).isSome = (d₀.lookup VALUE).isSome)
    (hthere : (d.lookup key).isSome = true) (hv : given fuzzDict descType d key = .ok v)
    (hsome : v.isNone = false) :
    oneDesc.lookup key = some (written jsonPath key v) ↔
      FieldReady jsonPath fuzzDict descType d key v := by
  obtain ⟨htaken, hnot⟩ := hshows hthere
  constructor
  · intro hlookup
    by_cases h : Taken ms fuzzDict descType d key
    · refine ⟨?_, h.original, h.dynamic⟩
      by_cases hfuzz : d.lookup key = some FUZZ
      · exact Or.inl hfuzz
      · rw [htaken h, filled_of_ne hfuzz] at hlookup
        exact Or.inr (Option.map_eq_some_iff.mp hlookup)
    · -- Only a distribution or a range has a default, and is taken where it is expected.
      rw [hnot h] at hlookup
      have hkey : key ∈ ["data_distribute", "value_range"] := by
        by_contra hkey
        rw [instead_of_notMem hkey] at hlookup
        cases hlookup
      have htype := hexpected.input (List.mem_append_left [VALUE] hkey)
      subst htype
      refine absurd ((taken_default_iff hkey).mpr ?_) h
      rw [hexpected.noValue hkey] at hvalue
      exact Option.isNone_iff_eq_none.mp (Option.isSome_eq_false_iff.mp hvalue)
  · intro h
    rw [htaken (h.taken hexpected hvalue hv hsome)]
    by_cases hfuzz : d.lookup key = some FUZZ
    · rw [filled_of_fuzz hfuzz hv]
      rfl
    · rw [filled_of_ne hfuzz]
      exact Option.map_eq_some_iff.mpr (h.copy.resolve_left hfuzz)

/-- **One dictionary at one description of the copy.** -/
theorem makeDesc_carries (hcopied : CopiedDesc desc₀ desc)
    (h : makeDesc env jsonPath fuzzDict ms descType desc = .ok (oneDesc, desc')) :
    CopiedDesc desc₀ desc' ∧
      (Carries jsonPath ms fuzzDict descType desc₀ oneDesc ↔
        DescReady jsonPath ms fuzzDict descType desc₀ desc) := by
  obtain ⟨d, rfl⟩ := dict_of_makeDesc h
  obtain ⟨d', rfl, hfills, hshows⟩ := makeDesc_shows h
  obtain ⟨d₀, rfl, hd⟩ := hcopied.dicts
  refine ⟨hcopied.fills hfills, ?_⟩
  -- The copy has the same name, so the dictionary gives the same for both.
  have hname : d.lookup "name" = d₀.lookup "name" :=
    (hd "name").resolve_right fun hfilled => absurd hfilled.1 (by decide)
  have hisSome : ∀ key, (d.lookup key).isSome = (d₀.lookup key).isSome := by
    intro key
    rcases hd key with heq | ⟨_, hfuzz, hsome⟩
    · rw [heq]
    · rw [hsome, hfuzz]
      rfl
  have hfield : ∀ key ∈ FUZZ_KEYS, d₀.lookup key = some FUZZ →
      Expected ms fuzzDict descType d₀ key → ∀ v, Gives fuzzDict descType d₀ key v →
        (oneDesc.lookup key = some (written jsonPath key v) ↔
          FieldReady jsonPath fuzzDict descType d key v) := by
    intro key hkey hfuzz hexpected v hgives
    obtain ⟨hv, hsome⟩ := gives_iff.mp hgives
    exact (hshows key hkey).carries_iff hexpected (hisSome VALUE)
      (by rw [hisSome, hfuzz]; rfl) ((given_congr hname key).trans hv) hsome
  constructor
  · intro hcarries e₀ e heq₀ heq key hkey hfuzz hexpected
    cases heq₀
    cases heq
    obtain ⟨v, hgives, hlookup⟩ := hcarries d₀ rfl key hkey hfuzz hexpected
    exact ⟨v, hgives, (hfield key hkey hfuzz hexpected v hgives).mp hlookup⟩
  · intro hready e₀ heq₀ key hkey hfuzz hexpected
    cases heq₀
    obtain ⟨v, hgives, hfieldReady⟩ := hready d₀ d rfl rfl key hkey hfuzz hexpected
    exact ⟨v, hgives, (hfield key hkey hfuzz hexpected v hgives).mpr hfieldReady⟩

end OneDesc

/-! ## §2. The descriptions. -/

/-- The list of a field of the case. -/
def listAt (jsonObj : PyVal) (key : String) : List PyVal :=
  match jsonObj.getItem key with
  | .ok (.list l) => l
  | _ => []

/-- The list of a field is the one of the case, up to a relation of the elements. -/
def CopiedList (R : PyVal → PyVal → Prop) (json₀ jsonObj : PyVal) (key : String) : Prop :=
  jsonObj.getItem key = json₀.getItem key ∨ ∃ l₀ l, json₀.getItem key = .ok (.list l₀) ∧
    jsonObj.getItem key = .ok (.list l) ∧ List.Forall₂ R l₀ l

section Descs

variable {env : FuzzEnv} {jsonPath descType : String} {fuzzDict json₀ jsonObj jsonObj' : PyVal}
  {descs : List Desc} {ms demanded : Bool} {l₀ l : List PyVal}

/-- The list of a field. -/
theorem listAt_eq (h : jsonObj.getItem descType = .ok (.list l)) : listAt jsonObj descType = l := by
  unfold listAt
  rw [h]

/-- A list that is copied comes from a list. -/
theorem CopiedList.exists_list {R : PyVal → PyVal → Prop} (hrefl : ∀ v, R v v)
    (h : CopiedList R json₀ jsonObj descType) (hl : jsonObj.getItem descType = .ok (.list l)) :
    ∃ l₀, json₀.getItem descType = .ok (.list l₀) ∧ List.Forall₂ R l₀ l := by
  rcases h with heq | ⟨l₀, l', hl₀, hl', hR⟩
  · exact ⟨l, heq ▸ hl, List.forall₂_same.mpr fun v _ => hrefl v⟩
  · rw [hl] at hl'
    cases hl'
    exact ⟨l₀, hl₀, hR⟩

/-- Nothing is listed, here or in the case. -/
theorem CopiedList.nil_of_len {R : PyVal → PyVal → Prop} {v : PyVal}
    (h : CopiedList R json₀ jsonObj descType) (hv : jsonObj.getItem descType = .ok v)
    (hlen : v.len = .ok 0) : listAt json₀ descType = [] ∧ listAt jsonObj descType = [] := by
  have hnil : ∀ {json w}, PyVal.getItem json descType = .ok w → w.len = .ok 0 →
      listAt json descType = [] := by
    intro json w hw hlen
    unfold listAt
    rw [hw]
    cases w with
    | list l => exact List.length_eq_zero_iff.mp (Except.ok.inj hlen)
    | _ => rfl
  refine ⟨?_, hnil hv hlen⟩
  rcases h with heq | ⟨l₀, l, hl₀, hl, hR⟩
  · exact hnil (heq ▸ hv) hlen
  · rw [hv] at hl
    cases hl
    have hzero : l = [] := List.length_eq_zero_iff.mp (Except.ok.inj hlen)
    subst hzero
    cases hR
    exact listAt_eq hl₀

/-- The descriptions of a list. -/
abbrev DescsRead (env : FuzzEnv) (jsonPath : String) (fuzzDict : PyVal) (ms : Bool)
    (descType : String) : List PyVal → List (Desc × PyVal) → Prop :=
  List.Forall₂ fun desc e => makeDesc env jsonPath fuzzDict ms descType desc = .ok e

/-- One dictionary at the descriptions of a list. -/
theorem descs_carry {made : List (Desc × PyVal)} (hcopied : List.Forall₂ CopiedDesc l₀ l)
    (hmade : DescsRead env jsonPath fuzzDict ms descType l made) :
    List.Forall₂ CopiedDesc l₀ (made.map Prod.snd) ∧
      (List.Forall₂ (Carries jsonPath ms fuzzDict descType) l₀ (made.map Prod.fst) ↔
        List.Forall₂ (DescReady jsonPath ms fuzzDict descType) l₀ l) := by
  induction hcopied generalizing made with
  | nil =>
      cases hmade
      exact ⟨.nil, iff_of_true .nil .nil⟩
  | @cons desc₀ desc l₀ l hone _ ih =>
      cases hmade with
      | @cons _ e _ made hfirst hrest =>
          obtain ⟨oneDesc, desc'⟩ := e
          obtain ⟨hcopied, hiff⟩ := makeDesc_carries hone hfirst
          obtain ⟨hcopied', hiff'⟩ := ih hrest
          refine ⟨.cons hcopied hcopied', ?_⟩
          rw [List.map_cons, List.forall₂_cons, List.forall₂_cons, hiff, hiff']

/-- The loop over the descriptions has nothing to do, or goes over a list. -/
theorem makeDescListFuzz_cases
    (h : makeDescListFuzz jsonObj descType demanded (makeDesc env jsonPath fuzzDict ms)
      = .ok (descs, jsonObj')) :
    (∃ v, jsonObj.getItem descType = .ok v ∧ v.len = .ok 0 ∧ demanded = false ∧ descs = [] ∧
        jsonObj' = jsonObj) ∨
      ∃ l made, jsonObj.getItem descType = .ok (.list l) ∧ l ≠ [] ∧
        DescsRead env jsonPath fuzzDict ms descType l made ∧ descs = made.map Prod.fst ∧
        setItem jsonObj descType (.list (made.map Prod.snd)) = .ok jsonObj' := by
  unfold makeDescListFuzz at h
  obtain ⟨v, hv, h⟩ := bind_eq_ok.mp h
  obtain ⟨n, hlen, h⟩ := bind_eq_ok.mp h
  split at h
  · next hzero =>
      obtain ⟨_, hdemanded, h⟩ := bind_eq_ok.mp h
      cases h
      exact Or.inl ⟨v, hv, hzero ▸ hlen, by simpa using raiseIf_eq_ok.mp hdemanded, rfl, rfl⟩
  · next hne =>
      obtain ⟨l, hiter, h⟩ := bind_eq_ok.mp h
      obtain ⟨made, hmade, h⟩ := bind_eq_ok.mp h
      obtain ⟨json', hset, h⟩ := bind_eq_ok.mp h
      cases h
      have hreads : DescsRead env jsonPath fuzzDict ms descType l made := mapM_eq_ok.mp hmade
      -- The elements of anything but a list are strings, which are no descriptions.
      have hdict : ∀ s rest, l ≠ .str s :: rest := by
        rintro s rest rfl
        cases hreads with
        | @cons _ e _ _ hfirst _ =>
            obtain ⟨d, hd⟩ := dict_of_makeDesc hfirst
            cases hd
      cases v with
      | list l' =>
          cases hiter
          refine Or.inr ⟨l, made, hv, fun hnil => hne ?_, hreads, rfl, hset⟩
          cases hlen
          rw [hnil]
          rfl
      | str s =>
          cases hiter
          cases hs : s.toList with
          | nil =>
              cases hlen
              exact absurd (by rw [← String.length_toList, hs]; rfl) hne
          | cons c rest => exact absurd (by rw [hs]; rfl) (hdict _ _)
      | dict d =>
          cases hiter
          cases d with
          | nil =>
              cases hlen
              exact absurd rfl hne
          | cons e rest => exact absurd rfl (hdict _ _)
      | _ => cases hlen

/-- **One dictionary at the inputs, or the outputs, of the copy.** -/
theorem makeDescListFuzz_carries (hcopied : CopiedList CopiedDesc json₀ jsonObj descType)
    (h : makeDescListFuzz jsonObj descType demanded (makeDesc env jsonPath fuzzDict ms)
      = .ok (descs, jsonObj')) :
    CopiedList CopiedDesc json₀ jsonObj' descType ∧
      (List.Forall₂ (Carries jsonPath ms fuzzDict descType) (listAt json₀ descType) descs ↔
        List.Forall₂ (DescReady jsonPath ms fuzzDict descType) (listAt json₀ descType)
          (listAt jsonObj descType)) := by
  rcases makeDescListFuzz_cases h with ⟨v, hv, hlen, rfl, rfl, rfl⟩ |
    ⟨l, made, hl, hne, hreads, rfl, hset⟩
  · obtain ⟨hnil₀, hnil⟩ := hcopied.nil_of_len hv hlen
    rw [hnil₀, hnil]
    exact ⟨hcopied, iff_of_true .nil .nil⟩
  · obtain ⟨l₀, hl₀, hR⟩ := hcopied.exists_list (fun _ => Or.inl rfl) hl
    obtain ⟨hcopied', hiff⟩ := descs_carry hR hreads
    rw [listAt_eq hl₀, listAt_eq hl]
    exact ⟨Or.inr ⟨l₀, _, hl₀, getItem_setItem hset, hcopied'⟩, hiff⟩

end Descs

/-! ## §3. The attributes. -/

/-- The attribute is the one of the case, perhaps with its value filled in. -/
def CopiedAttr (attr₀ attr : PyVal) : Prop :=
  attr = attr₀ ∨ ∃ d₀ v, attr₀ = .dict d₀ ∧ d₀.lookup VALUE = some FUZZ ∧
    attr = .dict (PyDict.set d₀ VALUE v)

/-- The dictionary gives a value for the attribute, if that is a placeholder. -/
def GivesAttr (fuzzDict attr₀ : PyVal) : Prop :=
  ∀ d₀, attr₀ = .dict d₀ → d₀.lookup VALUE = some FUZZ → ∃ v, Gives fuzzDict "attr" d₀ VALUE v

/-- **The attribute carries the value of a dictionary**, if that is a placeholder in the
JSON file. -/
def CarriesAttr (fuzzDict attr₀ attr : PyVal) : Prop :=
  ∀ d₀, attr₀ = .dict d₀ → d₀.lookup VALUE = some FUZZ →
    ∃ v, Gives fuzzDict "attr" d₀ VALUE v ∧ attr.get VALUE = .ok v

section Attrs

variable {fuzzDict attr₀ attr attr' : PyVal} {d₀ d : PyDict PyVal}

/-- The field that was set. -/
theorem get_set (d : PyDict PyVal) (key : String) (v : PyVal) :
    PyVal.get (.dict (PyDict.set d key v)) key = .ok v := by
  rw [get_dict, PyDict.lookup_set, if_pos rfl]
  rfl

/-- Nothing gives no value. -/
theorem isNone_of_given {key paramType : String} {v : PyVal}
    (h : given fuzzDict paramType d₀ key = .ok v) : fuzzDict.isNone = false := by
  cases fuzzDict with
  | none => cases h
  | _ => rfl

/-- An attribute stays as it is, or its placeholder is filled in. -/
theorem fuzzAttr_cases (h : fuzzAttr attr fuzzDict = .ok attr') :
    attr' = attr ∨ ∃ d v, attr = .dict d ∧ d.lookup VALUE = some FUZZ ∧
      given fuzzDict "attr" d VALUE = .ok v ∧ attr' = .dict (PyDict.set d VALUE v) := by
  unfold fuzzAttr at h
  split at h
  · exact Or.inl (Except.ok.inj h).symm
  · obtain ⟨d, rfl⟩ := dict_of_replace h
    rcases replaceFuzzParam_eq_ok.mp h with ⟨_, hx⟩ | ⟨hfuzz, v, hv, hx⟩
    · exact Or.inl hx
    · exact Or.inr ⟨d, v, rfl, hfuzz, hv, hx⟩

/-- Where the dictionary gives a value, the placeholder is filled in with it. -/
theorem fuzzAttr_of_gives {v : PyVal} (hfuzz : d.lookup VALUE = some FUZZ)
    (hgives : Gives fuzzDict "attr" d VALUE v) (h : fuzzAttr (.dict d) fuzzDict = .ok attr') :
    attr' = .dict (PyDict.set d VALUE v) := by
  have hv := (gives_iff.mp hgives).1
  unfold fuzzAttr at h
  rw [isNone_of_given hv] at h
  rcases replaceFuzzParam_eq_ok.mp h with ⟨hne, _⟩ | ⟨_, w, hw, hx⟩
  · exact absurd hfuzz hne
  · cases hv.symm.trans hw
    exact hx

/-- A placeholder that the copy's attribute still has is one of the case. -/
theorem CopiedAttr.dicts (h : CopiedAttr attr₀ (.dict d)) (hfuzz : d.lookup VALUE = some FUZZ) :
    ∃ d₀, attr₀ = .dict d₀ ∧ d₀.lookup VALUE = some FUZZ ∧
      d.lookup "name" = d₀.lookup "name" ∧ ∀ v, PyDict.set d VALUE v = PyDict.set d₀ VALUE v := by
  rcases h with heq | ⟨d₀, w, rfl, hfuzz₀, heq⟩
  · exact ⟨d, heq.symm, hfuzz, rfl, fun _ => rfl⟩
  · cases heq
    refine ⟨d₀, rfl, hfuzz₀, ?_, fun v => PyDict.set_set (by rw [hfuzz₀]; rfl) w v⟩
    rw [PyDict.lookup_set, if_neg (by decide)]

/-- Filling in an attribute leaves a copy of it. -/
theorem CopiedAttr.fuzzAttr (hcopied : CopiedAttr attr₀ attr)
    (h : fuzzAttr attr fuzzDict = .ok attr') : CopiedAttr attr₀ attr' := by
  rcases fuzzAttr_cases h with rfl | ⟨d, v, rfl, hfuzz, _, rfl⟩
  · exact hcopied
  · obtain ⟨d₀, rfl, hfuzz₀, _, hset⟩ := hcopied.dicts hfuzz
    exact Or.inr ⟨d₀, v, rfl, hfuzz₀, by rw [hset]⟩

/-- **An attribute that has the value of the dictionary keeps it.** -/
theorem CarriesAttr.kept (hcopied : CopiedAttr attr₀ attr)
    (hcarries : CarriesAttr fuzzDict attr₀ attr) (h : fuzzAttr attr fuzzDict = .ok attr') :
    attr'.get VALUE = attr.get VALUE := by
  rcases fuzzAttr_cases h with rfl | ⟨d, v, rfl, hfuzz, hv, rfl⟩
  · rfl
  · obtain ⟨d₀, rfl, hfuzz₀, hname, _⟩ := hcopied.dicts hfuzz
    obtain ⟨w, hgives, hget⟩ := hcarries d₀ rfl hfuzz₀
    rw [given_congr hname, (gives_iff.mp hgives).1] at hv
    rw [get_set, hget, Except.ok.inj hv]

/-- **An attribute of a fresh copy takes the value of the dictionary.** -/
theorem carriesAttr_of_gives (hgives : GivesAttr fuzzDict attr₀)
    (h : fuzzAttr attr₀ fuzzDict = .ok attr') : CarriesAttr fuzzDict attr₀ attr' := by
  rintro d₀ rfl hfuzz
  obtain ⟨v, hv⟩ := hgives d₀ rfl hfuzz
  refine ⟨v, hv, ?_⟩
  rw [fuzzAttr_of_gives hfuzz hv h, get_set]

/-- The body of the loop over the attributes. -/
theorem checkAttr_spec {st st' : List PyVal × List String × List String}
    (h : checkAttr fuzzDict st attr = .ok st') :
    ∃ attr', fuzzAttr attr fuzzDict = .ok attr' ∧ st'.1 = st.1 ++ [attr'] := by
  unfold checkAttr at h
  obtain ⟨keys, _, h⟩ := bind_eq_ok.mp h
  obtain ⟨name, _, h⟩ := bind_eq_ok.mp h
  obtain ⟨_, _, h⟩ := bind_eq_ok.mp h
  obtain ⟨type, _, h⟩ := bind_eq_ok.mp h
  obtain ⟨attr', hattr, h⟩ := bind_eq_ok.mp h
  cases h
  unfold checkAttrValue at hattr
  obtain ⟨attr₁, hfuzz, hattr⟩ := bind_eq_ok.mp hattr
  obtain ⟨_, _, hattr⟩ := bind_eq_ok.mp hattr
  cases hattr
  exact ⟨attr', hfuzz, rfl⟩

/-- One dictionary at the attributes of a list. -/
theorem attrs_copy {l₀ l : List PyVal} {st st' : List PyVal × List String × List String}
    (hcopied : List.Forall₂ CopiedAttr l₀ l) (h : l.foldlM (checkAttr fuzzDict) st = .ok st') :
    ∃ new, st'.1 = st.1 ++ new ∧ List.Forall₂ CopiedAttr l₀ new ∧
      (List.Forall₂ (CarriesAttr fuzzDict) l₀ l →
        List.Forall₂ (fun attr attr' => PyVal.get attr' VALUE = PyVal.get attr VALUE) l new) ∧
      ((∀ attr₀ ∈ l₀, GivesAttr fuzzDict attr₀) → l = l₀ →
        List.Forall₂ (CarriesAttr fuzzDict) l₀ new) := by
  induction hcopied generalizing st with
  | nil =>
      cases h
      exact ⟨[], (List.append_nil _).symm, .nil, fun _ => .nil, fun _ _ => .nil⟩
  | @cons attr₀ attr l₀ l hone _ ih =>
      rw [List.foldlM_cons] at h
      obtain ⟨st₁, hfirst, hrest⟩ := bind_eq_ok.mp h
      obtain ⟨attr', hattr, hst₁⟩ := checkAttr_spec hfirst
      obtain ⟨new, heq, hcopied', hkept, hcarries⟩ := ih hrest
      refine ⟨attr' :: new, by rw [heq, hst₁, List.append_assoc]; rfl,
        .cons (hone.fuzzAttr hattr) hcopied', fun hall => ?_, fun hall hsame => ?_⟩
      · rw [List.forall₂_cons] at hall
        exact .cons (hall.1.kept hone hattr) (hkept hall.2)
      · cases hsame
        rw [List.forall_mem_cons] at hall
        exact .cons (carriesAttr_of_gives hall.1 hattr) (hcarries hall.2 rfl)

/-- The attributes have the same values. -/
def SameValues (jsonObj jsonObj' : PyVal) : Prop :=
  List.Forall₂ (fun attr attr' => PyVal.get attr' VALUE = PyVal.get attr VALUE)
    (listAt jsonObj ATTR) (listAt jsonObj' ATTR)

/-- The attributes carry the values of the dictionary. -/
def CarriesAttrs (fuzzDict json₀ jsonObj : PyVal) : Prop :=
  List.Forall₂ (CarriesAttr fuzzDict) (listAt json₀ ATTR) (listAt jsonObj ATTR)

section Values

variable {json₀ jsonObj jsonObj' later : PyVal}

/-- Only the value of the attribute counts. -/
theorem CarriesAttr.congr (h : CarriesAttr fuzzDict attr₀ attr)
    (hget : attr'.get VALUE = attr.get VALUE) : CarriesAttr fuzzDict attr₀ attr' := by
  intro d₀ heq hfuzz
  obtain ⟨v, hv, hattr⟩ := h d₀ heq hfuzz
  exact ⟨v, hv, hget.trans hattr⟩

/-- Where two attributes both have what one dictionary gives, they have the same for another. -/
theorem CarriesAttr.transfer (h : CarriesAttr fuzzDict attr₀ attr)
    (h' : CarriesAttr fuzzDict attr₀ attr') (hlater : CarriesAttr later attr₀ attr') :
    CarriesAttr later attr₀ attr := by
  intro d₀ heq hfuzz
  obtain ⟨v, hv, hget⟩ := h d₀ heq hfuzz
  obtain ⟨w, hw, hget'⟩ := h' d₀ heq hfuzz
  obtain ⟨x, hx, hgetLater⟩ := hlater d₀ heq hfuzz
  cases (gives_iff.mp hv).1.symm.trans (gives_iff.mp hw).1
  exact ⟨x, hx, (hget.trans hget'.symm).trans hgetLater⟩

/-- A dictionary whose value is carried gives one. -/
theorem CarriesAttr.gives (h : CarriesAttr fuzzDict attr₀ attr) : GivesAttr fuzzDict attr₀ := by
  intro d₀ heq hfuzz
  obtain ⟨v, hv, _⟩ := h d₀ heq hfuzz
  exact ⟨v, hv⟩

/-- Only the values of the attributes count. -/
theorem CarriesAttrs.congr (h : CarriesAttrs fuzzDict json₀ jsonObj)
    (hsame : SameValues jsonObj jsonObj') : CarriesAttrs fuzzDict json₀ jsonObj' := by
  unfold CarriesAttrs at h ⊢
  unfold SameValues at hsame
  generalize listAt json₀ ATTR = l₀ at h ⊢
  generalize listAt jsonObj ATTR = l at h hsame
  generalize listAt jsonObj' ATTR = l' at hsame ⊢
  induction h generalizing l' with
  | nil =>
      cases hsame
      exact .nil
  | cons hone _ ih =>
      cases hsame with
      | cons hget hrest => exact .cons (hone.congr hget) (ih _ hrest)

/-- Where two copies both have what one dictionary gives, they have the same for another. -/
theorem CarriesAttrs.transfer (h : CarriesAttrs fuzzDict json₀ jsonObj)
    (h' : CarriesAttrs fuzzDict json₀ jsonObj') (hlater : CarriesAttrs later json₀ jsonObj') :
    CarriesAttrs later json₀ jsonObj := by
  unfold CarriesAttrs at h h' hlater ⊢
  generalize listAt json₀ ATTR = l₀ at h h' hlater ⊢
  generalize listAt jsonObj ATTR = l at h ⊢
  generalize listAt jsonObj' ATTR = l' at h' hlater
  induction h generalizing l' with
  | nil => exact .nil
  | cons hone _ ih =>
      cases h' with
      | cons hone' hrest' =>
          rw [List.forall₂_cons] at hlater
          exact .cons (hone.transfer hone' hlater.1) (ih _ hrest' hlater.2)

/-- A dictionary whose values are carried gives one for each attribute. -/
theorem CarriesAttrs.gives (h : CarriesAttrs fuzzDict json₀ jsonObj) :
    ∀ attr₀ ∈ listAt json₀ ATTR, GivesAttr fuzzDict attr₀ := by
  unfold CarriesAttrs at h
  generalize listAt json₀ ATTR = l₀ at h ⊢
  generalize listAt jsonObj ATTR = l at h
  induction h with
  | nil => exact List.forall_mem_nil _
  | cons hone _ ih => exact List.forall_mem_cons.mpr ⟨hone.gives, ih⟩

end Values

section Valid

variable {attrList : List PyVal} {jsonObj' : PyVal} {keys keys' : List String}

/-- `[]` is the look-up. -/
theorem getItem_dict {key : String} {v : PyVal} :
    PyVal.getItem (.dict d) key = .ok v ↔ d.lookup key = some v := by
  unfold PyVal.getItem
  dsimp only
  cases d.lookup key with
  | none => exact iff_of_false (fun h => by cases h) fun h => by cases h
  | some w => exact ⟨fun h => congrArg some (Except.ok.inj h), fun h => h ▸ rfl⟩

/-- `_check_attr_valid` has nothing to do, or goes over a list. -/
theorem checkAttrValidFuzz_eq_ok :
    checkAttrValidFuzz (.dict d) fuzzDict keys = .ok (attrList, jsonObj', keys') ↔
      (d.lookup ATTR = none ∧ attrList = [] ∧ jsonObj' = .dict d ∧ keys' = keys) ∨
        ∃ attrs names, d.lookup ATTR = some (.list attrs) ∧
          attrs.foldlM (checkAttr fuzzDict) ([], [], keys) = .ok (attrList, names, keys') ∧
          jsonObj' = .dict (PyDict.set d ATTR (.list attrList)) := by
  unfold checkAttrValidFuzz
  show (if (!(d.lookup ATTR).isSome) = true then _ else _) = _ ↔ _
  cases hattr : d.lookup ATTR with
  | none =>
      rw [if_pos (show (!(none : Option PyVal).isSome) = true from rfl),
        or_iff_left (by rintro ⟨_, _, h, _⟩; cases h), and_iff_right rfl]
      constructor
      · intro h
        cases h
        exact ⟨rfl, rfl, rfl⟩
      · rintro ⟨rfl, rfl, rfl⟩
        rfl
  | some value =>
      rw [if_neg (show ¬ (!(some value).isSome) = true from Bool.false_ne_true),
        or_iff_right (by rintro ⟨h, _⟩; cases h), getItem_dict.mpr hattr]
      constructor
      · intro h
        obtain ⟨value', heq, h⟩ := bind_eq_ok.mp h
        cases heq
        -- Only a list can be gone through.
        cases value with
        | list attrs =>
            obtain ⟨⟨attrList', names, keys₁⟩, hfold, h⟩ := bind_eq_ok.mp h
            cases h
            exact ⟨attrs, names, rfl, hfold, rfl⟩
        | _ => cases h
      · rintro ⟨attrs, names, heq, hfold, rfl⟩
        cases heq
        exact bind_eq_ok.mpr ⟨_, rfl, bind_eq_ok.mpr ⟨_, hfold, rfl⟩⟩

/-- **One dictionary at the attributes of the copy**, which are then those of the case: the
values stay where the copy has those of the dictionary. -/
theorem checkAttrValidFuzz_copy
    (hcopied : CopiedList CopiedAttr (.dict d₀) (.dict d) ATTR)
    (h : checkAttrValidFuzz (.dict d) fuzzDict keys = .ok (attrList, jsonObj', keys')) :
    CopiedList CopiedAttr (.dict d₀) jsonObj' ATTR ∧ attrList = listAt jsonObj' ATTR ∧
      (CarriesAttrs fuzzDict (.dict d₀) (.dict d) → SameValues (.dict d) jsonObj') ∧
      ((∀ attr₀ ∈ listAt (.dict d₀) ATTR, GivesAttr fuzzDict attr₀) →
        d.lookup ATTR = d₀.lookup ATTR → CarriesAttrs fuzzDict (.dict d₀) jsonObj') := by
  rcases checkAttrValidFuzz_eq_ok.mp h with ⟨hnone, rfl, rfl, rfl⟩ |
    ⟨attrs, names, hattrs, hfold, rfl⟩
  · -- There are no attributes, here or in the case.
    have hnone₀ : d₀.lookup ATTR = none := by
      rcases hcopied with heq | ⟨_, _, _, hl, _⟩
      · cases hlookup : d₀.lookup ATTR with
        | none => rfl
        | some v =>
            rw [getItem_dict.mpr hlookup, getItem_dict, hnone] at heq
            cases heq
      · rw [getItem_dict, hnone] at hl
        cases hl
    have hnil : ∀ {e : PyDict PyVal}, e.lookup ATTR = none → listAt (.dict e) ATTR = [] := by
      intro e he
      unfold listAt PyVal.getItem
      dsimp only
      rw [he]
    refine ⟨hcopied, (hnil hnone).symm, fun _ => ?_, fun _ _ => ?_⟩
    · unfold SameValues
      rw [hnil hnone]
      exact .nil
    · unfold CarriesAttrs
      rw [hnil hnone, hnil hnone₀]
      exact .nil
  · obtain ⟨attrs₀, hattrs₀, hR⟩ :=
      hcopied.exists_list (fun _ => Or.inl rfl) (getItem_dict.mpr hattrs)
    obtain ⟨new, hnew, hcopied', hkept, hcarries⟩ := attrs_copy hR hfold
    rw [List.nil_append] at hnew
    dsimp only at hnew
    subst hnew
    have hset : PyVal.getItem (.dict (PyDict.set d ATTR (.list attrList))) ATTR
        = .ok (.list attrList) := getItem_dict.mpr (by rw [PyDict.lookup_set, if_pos rfl])
    unfold CarriesAttrs SameValues
    rw [listAt_eq hattrs₀, listAt_eq (getItem_dict.mpr hattrs), listAt_eq hset]
    refine ⟨Or.inr ⟨attrs₀, attrList, hattrs₀, hset, hcopied'⟩, rfl, hkept, fun hall hsame =>
      hcarries hall ?_⟩
    rw [hattrs, getItem_dict.mp hattrs₀] at hsame
    cases hsame
    rfl

end Valid

end Attrs

end SubCaseDesignFuzz

end HwEfat.Main
