/-
  HwEfat.Main.SubCaseDesign.FuzzFill — how the descriptions of a fuzz design take the values
  of the fuzz function.

  A field with the value `"fuzz"` is a placeholder, and a dictionary of the fuzz function
  gives values for fields (`Gives`).  The checks of a description fill placeholders in
  (`Fills`).  What a field holds once its placeholder is filled in (`filled`) stays the same
  from one check to the next, so each check can be told in terms of the description that the
  first one finds.

  Main results: `replaceFuzzParam_fills`, and one theorem of this kind for each check.
-/
import HwEfat.Main.SubCaseDesign.FuzzShape

namespace HwEfat.Main

open HwEfat.Lib (PyError PyVal PyDict raiseIf raiseIf_eq_ok bind_eq_ok dirname pathJoin)

namespace SubCaseDesignFuzz

open SubCaseDesign (checkListListValid)

/-! ## §1. Placeholders and what is given for them. -/

/-- The value of a placeholder. -/
def FUZZ : PyVal := .str "fuzz"

/-- The fields of a description that can be placeholders. -/
def FUZZ_KEYS : List String :=
  ["format", "type", "shape", "data_distribute", "value_range", VALUE, "ori_format",
    "ori_shape", TYPICAL_SHAPE, SHAPE_RANGE]

/-- A dictionary of the fuzz function gives a value for a field of a description: it has one
under the kind of the description, its name, and the field. -/
def Gives (fuzzDict : PyVal) (paramType : String) (desc : PyDict PyVal) (key : String)
    (v : PyVal) : Prop :=
  ∃ kinds names fields name, fuzzDict = .dict kinds ∧
    kinds.lookup paramType = some (.dict names) ∧ desc.lookup "name" = some (.str name) ∧
    names.lookup name = some (.dict fields) ∧ fields.lookup key = some v ∧ v.isNone = false

/-- What the source reads for a field, which may be nothing. -/
def given (fuzzDict : PyVal) (paramType : String) (desc : PyDict PyVal) (key : String) :
    Except PyError PyVal :=
  fuzzResultParam fuzzDict paramType ((desc.lookup "name").getD .none) key

/-- What a field holds once its placeholder is filled in. -/
def filled (fuzzDict : PyVal) (paramType : String) (desc : PyDict PyVal) (key : String) :
    Option PyVal :=
  (desc.lookup key).bind fun v =>
    if v.isStr "fuzz" then (given fuzzDict paramType desc key).toOption else some v

/-- The second description is the first one with some of the placeholders filled in. -/
def Fills (fuzzDict : PyVal) (paramType : String) (keys : List String)
    (desc desc' : PyDict PyVal) : Prop :=
  ∀ key, desc'.lookup key = desc.lookup key ∨
    (key ∈ keys ∧ desc.lookup key = some FUZZ ∧
      ∃ v, given fuzzDict paramType desc key = .ok v ∧ desc'.lookup key = some v)

section Given

variable {fuzzDict v : PyVal} {paramType key : String} {desc desc' : PyDict PyVal}

/-- `get` is the look-up, or nothing. -/
theorem get_dict (d : PyDict PyVal) (key : String) :
    PyVal.get (.dict d) key = .ok ((d.lookup key).getD .none) := rfl

/-- Only a dictionary has `get`. -/
theorem get_eq_ok {x : PyVal} :
    x.get key = .ok v ↔ ∃ d, x = .dict d ∧ (d.lookup key).getD .none = v := by
  cases x with
  | dict d =>
      rw [get_dict, Except.ok.injEq]
      exact ⟨fun h => ⟨d, rfl, h⟩, fun ⟨_, heq, h⟩ => by cases heq; exact h⟩
  | _ => exact iff_of_false (fun h => by cases h) (fun ⟨_, heq, _⟩ => by cases heq)

/-- A value that is there. -/
theorem getD_eq_of_ne_none {o : Option PyVal} (hv : v.isNone = false) :
    o.getD .none = v ↔ o = some v := by
  cases o with
  | none =>
      refine iff_of_false (fun h => ?_) fun h => by cases h
      subst h
      cases hv
  | some w => exact ⟨congrArg some, Option.some.inj⟩

/-- A placeholder is the word `fuzz`. -/
theorem isStr_fuzz (v : PyVal) : v.isStr "fuzz" = true ↔ v = FUZZ := by
  cases v with
  | str s => exact beq_iff_eq.trans ⟨congrArg PyVal.str, fun h => PyVal.str.inj h⟩
  | _ => exact iff_of_false Bool.false_ne_true fun h => by cases h

/-- An `AttributeError` is reported; it is no value. -/
theorem fuzzResultParam_eq_ok {name : PyVal} :
    fuzzResultParam fuzzDict paramType name key = .ok v ↔ ∃ names fields,
      fuzzDict.get paramType = .ok names ∧ getNamed names name = .ok fields ∧
        fields.get key = .ok v := by
  unfold fuzzResultParam
  constructor
  · intro h
    dsimp only at h
    split at h
    · cases h
    · obtain ⟨names, hnames, h⟩ := bind_eq_ok.mp h
      obtain ⟨fields, hfields, hget⟩ := bind_eq_ok.mp h
      exact ⟨names, fields, hnames, hfields, hget⟩
  · rintro ⟨names, fields, hnames, hfields, hget⟩
    have hvalue : (do (← getNamed (← fuzzDict.get paramType) name).get key) = .ok v :=
      bind_eq_ok.mpr ⟨names, hnames, bind_eq_ok.mpr ⟨fields, hfields, hget⟩⟩
    dsimp only
    rw [hvalue]

/-- **What a dictionary gives** is what the source reads, unless that is nothing. -/
theorem gives_iff :
    Gives fuzzDict paramType desc key v ↔
      given fuzzDict paramType desc key = .ok v ∧ v.isNone = false := by
  unfold given
  rw [fuzzResultParam_eq_ok]
  constructor
  · rintro ⟨kinds, names, fields, name, rfl, hnames, hname, hfields, hv, hnone⟩
    refine ⟨⟨.dict names, .dict fields, ?_, ?_, ?_⟩, hnone⟩
    · rw [get_dict, hnames]
      rfl
    · rw [hname]
      show Except.ok ((names.lookup name).getD .none) = _
      rw [hfields]
      rfl
    · rw [get_dict, hv]
      rfl
  · rintro ⟨⟨names, fields, hnames, hfields, hget⟩, hnone⟩
    obtain ⟨kinds, rfl, hkinds⟩ := get_eq_ok.mp hnames
    obtain ⟨fields, rfl, hv⟩ := get_eq_ok.mp hget
    -- A description without a name, or with one that is no string, has no entry.
    cases names with
    | dict names =>
        cases hname : (desc.lookup "name").getD .none with
        | str name =>
            rw [hname] at hfields
            exact ⟨kinds, names, fields, name, rfl, (getD_eq_of_ne_none rfl).mp hkinds,
              (getD_eq_of_ne_none rfl).mp hname,
              (getD_eq_of_ne_none rfl).mp (Except.ok.inj hfields),
              (getD_eq_of_ne_none hnone).mp hv, hnone⟩
        | _ => rw [hname] at hfields; cases hfields
    | _ => cases hfields

/-- Only a description with a name is given anything. -/
theorem name_of_given (h : given fuzzDict paramType desc key = .ok v) :
    ((desc.lookup "name").getD .none).isNone = false := by
  obtain ⟨names, fields, _, hfields, hget⟩ := fuzzResultParam_eq_ok.mp h
  obtain ⟨_, rfl, _⟩ := get_eq_ok.mp hget
  cases hname : (desc.lookup "name").getD .none with
  | none =>
      rw [hname] at hfields
      cases names <;> cases hfields
  | _ => rfl

/-- What is read for a description depends on its name only. -/
theorem given_congr (h : desc'.lookup "name" = desc.lookup "name") (key : String) :
    given fuzzDict paramType desc' key = given fuzzDict paramType desc key := by
  unfold given
  rw [h]

/-- `_replace_fuzz_param` fills in a placeholder. -/
theorem replaceFuzzParam_eq_ok {x : PyVal} :
    replaceFuzzParam (.dict desc) key paramType fuzzDict = .ok x
      ↔ (desc.lookup key ≠ some FUZZ ∧ x = .dict desc) ∨
        (desc.lookup key = some FUZZ ∧ ∃ v, given fuzzDict paramType desc key = .ok v ∧
          x = .dict (PyDict.set desc key v)) := by
  have hfuzz : ((desc.lookup key).getD .none).isStr "fuzz" = true
      ↔ desc.lookup key = some FUZZ := by
    rw [isStr_fuzz, getD_eq_of_ne_none rfl]
  unfold replaceFuzzParam
  show (if ((desc.lookup key).getD .none).isStr "fuzz" = true then _ else _) = _ ↔ _
  by_cases hlookup : desc.lookup key = some FUZZ
  · rw [if_pos (hfuzz.mpr hlookup), or_iff_right fun h => h.1 hlookup, and_iff_right hlookup]
    constructor
    · intro h
      obtain ⟨_, hname, h⟩ := bind_eq_ok.mp h
      cases hname
      obtain ⟨_, _, h⟩ := bind_eq_ok.mp h
      obtain ⟨v, hv, h⟩ := bind_eq_ok.mp h
      cases h
      exact ⟨v, hv, rfl⟩
    · rintro ⟨v, hv, rfl⟩
      refine bind_eq_ok.mpr ⟨_, rfl, bind_eq_ok.mpr ⟨(), ?_, bind_eq_ok.mpr ⟨v, hv, rfl⟩⟩⟩
      rw [raiseIf_eq_ok, name_of_given hv]
      exact Bool.false_ne_true
  · rw [if_neg fun h => hlookup (hfuzz.mp h), or_iff_left fun h => hlookup h.1,
      and_iff_right hlookup]
    exact ⟨fun h => by cases h; rfl, fun h => h ▸ rfl⟩

/-- Only dictionaries are descriptions. -/
theorem dict_of_replace {x x' : PyVal}
    (h : replaceFuzzParam x key paramType fuzzDict = .ok x') : ∃ d, x = .dict d := by
  unfold replaceFuzzParam at h
  obtain ⟨v, hv, _⟩ := bind_eq_ok.mp h
  cases x with
  | dict d => exact ⟨d, rfl⟩
  | _ => cases hv

end Given

/-! ## §2. Filling in. -/

section Filling

variable {fuzzDict : PyVal} {paramType key : String} {keys keys' : List String}
  {desc desc₁ desc' : PyDict PyVal}

/-- A placeholder becomes what the dictionary gives. -/
theorem filled_of_fuzz {v : PyVal} (hfuzz : desc.lookup key = some FUZZ)
    (hv : given fuzzDict paramType desc key = .ok v) :
    filled fuzzDict paramType desc key = some v := by
  unfold filled
  rw [hfuzz, hv]
  rfl

/-- Anything else stays. -/
theorem filled_of_ne (h : desc.lookup key ≠ some FUZZ) :
    filled fuzzDict paramType desc key = desc.lookup key := by
  unfold filled
  cases hlookup : desc.lookup key with
  | none => rfl
  | some v =>
      refine if_neg fun hstr => h ?_
      rw [hlookup, (isStr_fuzz v).mp hstr]

/-- What is not there is not filled in. -/
theorem filled_of_none (h : desc.lookup key = none) :
    filled fuzzDict paramType desc key = none := by
  rw [filled_of_ne (by rw [h]; exact fun h => by cases h), h]

/-- No placeholder is filled in. -/
theorem Fills.refl (fuzzDict : PyVal) (paramType : String) (keys : List String)
    (desc : PyDict PyVal) : Fills fuzzDict paramType keys desc desc :=
  fun _ => Or.inl rfl

/-- More fields may be filled in. -/
theorem Fills.mono (h : Fills fuzzDict paramType keys desc desc') (hkeys : keys ⊆ keys') :
    Fills fuzzDict paramType keys' desc desc' :=
  fun key => (h key).imp_right fun ⟨hkey, hfuzz, hv⟩ => ⟨hkeys hkey, hfuzz, hv⟩

/-- Other fields stay as they are. -/
theorem Fills.lookup_of_notMem (h : Fills fuzzDict paramType keys desc desc')
    (hkey : key ∉ keys) : desc'.lookup key = desc.lookup key :=
  (h key).resolve_right fun hfilled => hkey hfilled.1

/-- So does a field that is no placeholder. -/
theorem Fills.lookup_of_ne (h : Fills fuzzDict paramType keys desc desc')
    (hne : desc.lookup key ≠ some FUZZ) : desc'.lookup key = desc.lookup key :=
  (h key).resolve_right fun hfilled => hne hfilled.2.1

/-- The fields are the same ones. -/
theorem Fills.isSome (h : Fills fuzzDict paramType keys desc desc') (key : String) :
    (desc'.lookup key).isSome = (desc.lookup key).isSome := by
  rcases h key with heq | ⟨_, hfuzz, v, _, hv⟩
  · rw [heq]
  · rw [hfuzz, hv]
    rfl

/-- Filling in twice. -/
theorem Fills.trans (hname : "name" ∉ keys) (h : Fills fuzzDict paramType keys desc desc₁)
    (h' : Fills fuzzDict paramType keys desc₁ desc') :
    Fills fuzzDict paramType keys desc desc' := by
  intro key
  rcases h' key with heq | ⟨hkey, hfuzz, v, hv, hv'⟩
  · rw [heq]
    exact h key
  · -- What has been filled in before is no placeholder, or holds `"fuzz"` again.
    rw [given_congr (h.lookup_of_notMem hname)] at hv
    rcases h key with heq | ⟨_, hfuzz₀, _⟩
    · exact Or.inr ⟨hkey, heq ▸ hfuzz, v, hv, hv'⟩
    · exact Or.inr ⟨hkey, hfuzz₀, v, hv, hv'⟩

/-- **Filling in does not change what the fields hold once they are filled in.** -/
theorem Fills.filled_eq (hname : "name" ∉ keys) (h : Fills fuzzDict paramType keys desc desc') :
    filled fuzzDict paramType desc' = filled fuzzDict paramType desc := by
  funext key
  have hgiven : given fuzzDict paramType desc' key = given fuzzDict paramType desc key :=
    given_congr (h.lookup_of_notMem hname) key
  rcases h key with heq | ⟨_, hfuzz, v, hv, hv'⟩
  · unfold filled
    rw [heq, hgiven]
  · rw [filled_of_fuzz hfuzz hv]
    by_cases hagain : desc'.lookup key = some FUZZ
    · exact filled_of_fuzz hagain (hgiven.trans hv)
    · rw [filled_of_ne hagain, hv']

/-- **`_replace_fuzz_param`.** -/
theorem replaceFuzzParam_fills {x : PyVal}
    (h : replaceFuzzParam (.dict desc) key paramType fuzzDict = .ok x) :
    ∃ desc', x = .dict desc' ∧ Fills fuzzDict paramType [key] desc desc' ∧
      desc'.lookup key = filled fuzzDict paramType desc key := by
  rcases replaceFuzzParam_eq_ok.mp h with ⟨hne, rfl⟩ | ⟨hfuzz, v, hv, rfl⟩
  · exact ⟨desc, rfl, Fills.refl _ _ _ _, (filled_of_ne hne).symm⟩
  · have hset : (PyDict.set desc key v).lookup key = some v := by
      rw [PyDict.lookup_set, if_pos rfl]
    refine ⟨_, rfl, fun k => ?_, hset.trans (filled_of_fuzz hfuzz hv).symm⟩
    by_cases hk : k = key
    · subst hk
      exact Or.inr ⟨List.mem_singleton_self k, hfuzz, v, hv, hset⟩
    · exact Or.inl (by rw [PyDict.lookup_set, if_neg hk])

end Filling

/-! ## §3. What is written into a case. -/

/-- A list of one profile stands for the profile. -/
def profile : PyVal → PyVal
  | .list [v] => v
  | v => v

/-- A list of one range stands for the range. -/
def innerRange : PyVal → PyVal
  | .list [.list inner] => .list inner
  | v => v

/-- A range stands for the list of it. -/
def rangeList : PyVal → PyVal
  | .list (.list range :: rest) => .list (.list range :: rest)
  | .list range => .list [.list range]
  | v => v

/-- A string is the path of a file beside the JSON file. -/
def valueAt (jsonPath : String) : PyVal → PyVal
  | .str path => .str (pathJoin (dirname jsonPath) path)
  | v => v

/-- What a case has for a field, if this is its value in the JSON file. -/
def written (jsonPath key : String) : PyVal → PyVal :=
  if key ∈ ["format", "type", "data_distribute", "ori_format"] then profile
  else if key = "value_range" then innerRange
  else if key = SHAPE_RANGE then rangeList
  else if key = VALUE then valueAt jsonPath
  else id

/-- The profile that the source takes. -/
theorem profile_of_onlyProfile {v w : PyVal} (h : onlyProfile v = .ok w) : profile v = w := by
  unfold onlyProfile at h
  split at h
  · cases h
    rfl
  · cases h
  · next hone hlist =>
      cases h
      cases v with
      | list l => exact absurd rfl (hlist l)
      | _ => rfl

/-- A range in a list, by the list. -/
theorem innerRange_list (range : List PyVal) :
    innerRange (.list range) = match range with
      | [.list inner] => .list inner
      | l => PyVal.list l := by
  cases range with
  | nil => rfl
  | cons first rest =>
      cases rest with
      | nil => cases first <;> rfl
      | cons second rest => cases first <;> rfl

/-! ## §4. The checks. -/

section Checks

variable {env : FuzzEnv} {jsonPath : String} {fuzzDict v x : PyVal} {paramType key : String}
  {desc : PyDict PyVal}

/-- **`_check_fuzz_value_valid`.** -/
theorem checkFuzzValueValid_fills {supportList : Option (List String)} {required : Bool}
    (h : checkFuzzValueValid (.dict desc) key supportList paramType fuzzDict required
      = .ok (v, x)) :
    ∃ desc', x = .dict desc' ∧ Fills fuzzDict paramType [key] desc desc' ∧
      v = profile ((filled fuzzDict paramType desc key).getD .none) := by
  unfold checkFuzzValueValid at h
  obtain ⟨_, _, h⟩ := bind_eq_ok.mp h
  obtain ⟨x', hreplace, h⟩ := bind_eq_ok.mp h
  obtain ⟨u, hu, h⟩ := bind_eq_ok.mp h
  obtain ⟨w, hprofile, h⟩ := bind_eq_ok.mp h
  obtain ⟨_, _, h⟩ := bind_eq_ok.mp h
  cases h
  obtain ⟨desc', rfl, hfills, hlookup⟩ := replaceFuzzParam_fills hreplace
  refine ⟨desc', rfl, hfills, ?_⟩
  rw [get_dict, hlookup] at hu
  rw [Except.ok.inj hu, profile_of_onlyProfile hprofile]

/-- A value that has to be supported is there. -/
theorem checkFuzzValueValid_some {supportList : List String} {required : Bool}
    (h : checkFuzzValueValid (.dict desc) key (some supportList) paramType fuzzDict required
      = .ok (v, x)) :
    (filled fuzzDict paramType desc key).map profile = some v := by
  obtain ⟨s, _, hs⟩ := checkFuzzValueValid_supported h
  obtain ⟨_, _, _, hv⟩ := checkFuzzValueValid_fills h
  cases hfilled : filled fuzzDict paramType desc key with
  | none =>
      rw [hfilled] at hv
      rw [hv] at hs
      cases hs
  | some u =>
      rw [hfilled] at hv
      exact congrArg some hv.symm

/-- **`_check_fuzz_shape_valid`.** -/
theorem checkFuzzShapeValid_fills {required : Bool}
    (h : checkFuzzShapeValid (.dict desc) key paramType fuzzDict required = .ok (v, x)) :
    ∃ desc' dims, x = .dict desc' ∧ Fills fuzzDict paramType [key] desc desc' ∧
      v = .list dims ∧ ValidShape (.list dims) ∧ desc'.lookup key = some (.list dims) ∧
      filled fuzzDict paramType desc key = some (.list dims) := by
  obtain ⟨dims, rfl, hvalid, hreplace, hget⟩ := checkFuzzShapeValid_spec h
  obtain ⟨desc', rfl, hfills, hlookup⟩ := replaceFuzzParam_fills hreplace
  have hdims : desc'.lookup key = some (.list dims) :=
    (getD_eq_of_ne_none rfl).mp (Except.ok.inj hget)
  exact ⟨desc', dims, rfl, hfills, rfl, hvalid, hdims, hlookup.symm.trans hdims⟩

/-- **`_check_fuzz_data_distribute_valid`**: the value counts only if there is no `value`. -/
theorem checkFuzzDataDistributeValid_fills
    (h : checkFuzzDataDistributeValid env (.dict desc) paramType fuzzDict = .ok (v, x)) :
    ∃ desc', x = .dict desc' ∧ Fills fuzzDict paramType ["data_distribute"] desc desc' ∧
      ((desc.lookup "data_distribute").isSome = true → desc.lookup VALUE = none →
        (filled fuzzDict paramType desc "data_distribute").map profile = some v) ∧
      ((desc.lookup VALUE).isSome = true → v = .str "uniform") := by
  unfold checkFuzzDataDistributeValid at h
  obtain ⟨_, hhas, h⟩ := bind_eq_ok.mp h
  obtain ⟨_, hvalue, h⟩ := bind_eq_ok.mp h
  cases hhas
  cases hvalue
  split at h
  · next hboth =>
      obtain ⟨desc', hx, hfills, _⟩ := checkFuzzValueValid_fills h
      refine ⟨desc', hx, hfills, fun _ _ => checkFuzzValueValid_some h, fun hsome => ?_⟩
      rw [hsome, Bool.not_true, Bool.and_false] at hboth
      cases hboth
  · next hnot =>
      cases h
      refine ⟨desc, rfl, Fills.refl _ _ _ _, fun hsome hnone => ?_, fun _ => rfl⟩
      rw [hsome, hnone] at hnot
      exact absurd rfl hnot

/-- **`_check_fuzz_value_range_valid`**, likewise. -/
theorem checkFuzzValueRangeValid_fills
    (h : checkFuzzValueRangeValid (.dict desc) paramType fuzzDict = .ok (v, x)) :
    ∃ desc', x = .dict desc' ∧ Fills fuzzDict paramType ["value_range"] desc desc' ∧
      ((desc.lookup "value_range").isSome = true → desc.lookup VALUE = none →
        (filled fuzzDict paramType desc "value_range").map innerRange = some v) ∧
      ((desc.lookup VALUE).isSome = true →
        Lib.first SubCaseDesignCross.defaultValueRange = .ok v) := by
  unfold checkFuzzValueRangeValid at h
  obtain ⟨_, hhas, h⟩ := bind_eq_ok.mp h
  obtain ⟨_, hvalue, h⟩ := bind_eq_ok.mp h
  cases hhas
  cases hvalue
  split at h
  -- The range counts only where there is no value.
  · next hboth =>
      obtain ⟨x', hreplace, h⟩ := bind_eq_ok.mp h
      obtain ⟨desc', rfl, hfills, hlookup⟩ := replaceFuzzParam_fills hreplace
      obtain ⟨u, hu, h⟩ := bind_eq_ok.mp h
      split at h
      · next valueRange =>
          obtain ⟨_, _, h⟩ := bind_eq_ok.mp h
          cases h
          refine ⟨desc', rfl, hfills, fun _ _ => ?_, fun hsome => ?_⟩
          · rw [← hlookup, (getD_eq_of_ne_none rfl).mp (Except.ok.inj hu)]
            exact congrArg some (innerRange_list valueRange)
          · rw [hsome, Bool.not_true, Bool.and_false] at hboth
            cases hboth
      · cases h
  · next hnot =>
      obtain ⟨range, hrange, h⟩ := bind_eq_ok.mp h
      cases h
      refine ⟨desc, rfl, Fills.refl _ _ _ _, fun hsome hnone => ?_, fun _ => hrange⟩
      rw [hsome, hnone] at hnot
      exact absurd rfl hnot

/-- **`_check_fuzz_shape_range_valid`.** -/
theorem checkFuzzShapeRangeValid_fills
    (h : checkFuzzShapeRangeValid (.dict desc) paramType fuzzDict = .ok (v, x)) :
    ∃ desc', x = .dict desc' ∧ Fills fuzzDict paramType [SHAPE_RANGE] desc desc' ∧
      (filled fuzzDict paramType desc SHAPE_RANGE).map rangeList = some v := by
  unfold checkFuzzShapeRangeValid at h
  obtain ⟨x', hreplace, h⟩ := bind_eq_ok.mp h
  obtain ⟨desc', rfl, hfills, hlookup⟩ := replaceFuzzParam_fills hreplace
  obtain ⟨ranges, hranges, h⟩ := bind_eq_ok.mp h
  obtain ⟨_, _, h⟩ := bind_eq_ok.mp h
  cases h
  refine ⟨desc', rfl, hfills, ?_⟩
  unfold checkListListValid at hranges
  obtain ⟨_, _, hranges⟩ := bind_eq_ok.mp hranges
  obtain ⟨_, _, hranges⟩ := bind_eq_ok.mp hranges
  obtain ⟨u, hu, hranges⟩ := bind_eq_ok.mp hranges
  rw [← hlookup]
  have hlookup' : desc'.lookup SHAPE_RANGE = some u := by
    unfold PyVal.getItem at hu
    dsimp only at hu
    cases hv : desc'.lookup SHAPE_RANGE with
    | none => rw [hv] at hu; cases hu
    | some w => rw [hv] at hu; rw [Except.ok.inj hu]
  rw [hlookup']
  refine congrArg some ?_
  -- A single range is put into a list; a list of ranges stays.
  split at hranges
  · cases hranges
    rfl
  · next first rest =>
      obtain ⟨_, _, hranges⟩ := bind_eq_ok.mp hranges
      cases first with
      | list range => cases hranges; rfl
      | _ => cases hranges; rfl
  · cases hranges

end Checks

end SubCaseDesignFuzz

end HwEfat.Main
