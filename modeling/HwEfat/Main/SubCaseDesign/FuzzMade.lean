/-
  HwEfat.Main.SubCaseDesign.FuzzMade — the fields of the descriptions that a fuzz design makes.

  A case takes a field of its JSON description only under conditions that depend on the mode,
  the kind of the description and the fields beside it (`Taken`); then it has what the field
  holds once its placeholder is filled in.  Otherwise it has nothing there, or a default.

  Main result: `makeDesc_shows`.
-/
import HwEfat.Main.SubCaseDesign.FuzzFill

namespace HwEfat.Main

open HwEfat.Lib (PyError PyVal PyDict raiseIf bind_eq_ok)

namespace SubCaseDesignFuzz

/-! ## §1. The fields that a case takes. -/

/-- An original format and an original shape are both given. -/
def OriginalGiven (fuzzDict : PyVal) (descType : String) (desc : PyDict PyVal) : Prop :=
  (profile ((filled fuzzDict descType desc "ori_format").getD .none)).truthy = true ∧
    ((filled fuzzDict descType desc "ori_shape").getD .none).truthy = true

/-- A typical shape is given, and the shape is dynamic. -/
def DynamicGiven (fuzzDict : PyVal) (descType : String) (desc : PyDict PyVal) : Prop :=
  (∃ v, filled fuzzDict descType desc TYPICAL_SHAPE = some v ∧ v.isNone = false) ∧
    ∃ dims, filled fuzzDict descType desc "shape" = some (.list dims) ∧ IsDynamic dims

/-- A case takes a field of its description.  Formats, original data and typical shapes are
not for the mode `ms_python_train`; a distribution, a range and a value are for inputs only,
and the value replaces the other two. -/
structure Taken (ms : Bool) (fuzzDict : PyVal) (descType : String) (desc : PyDict PyVal)
    (key : String) : Prop where
  mode : key ∈ ["format", "ori_format", "ori_shape", TYPICAL_SHAPE, SHAPE_RANGE] → ms = false
  input : key ∈ ["data_distribute", "value_range", VALUE] → descType = INPUT_DESC
  noValue : key ∈ ["data_distribute", "value_range"] → desc.lookup VALUE = none
  value : key = VALUE → filled fuzzDict descType desc VALUE ≠ some .none
  original : key ∈ ["ori_format", "ori_shape"] → OriginalGiven fuzzDict descType desc
  dynamic : key ∈ [TYPICAL_SHAPE, SHAPE_RANGE] → DynamicGiven fuzzDict descType desc

/-- What inputs have where there is a `value`. -/
def DEFAULTS : PyDict PyVal :=
  [("data_distribute", .str "uniform"),
    ("value_range", .list [.float (.finite (3602879701896397 / 36028797018963968)),
      .float (.finite 1)])]

/-- What a description has for a field that is not taken. -/
def instead (descType key : String) : Option PyVal :=
  if descType = INPUT_DESC then DEFAULTS.lookup key else none

/-- The description that is made has a field as it holds once its placeholder is filled in,
if it is taken. -/
def Shows (jsonPath : String) (ms : Bool) (fuzzDict : PyVal) (descType : String)
    (desc : PyDict PyVal) (oneDesc : Desc) (key : String) : Prop :=
  (desc.lookup key).isSome = true →
    (Taken ms fuzzDict descType desc key →
      oneDesc.lookup key = (filled fuzzDict descType desc key).map (written jsonPath key)) ∧
    (¬ Taken ms fuzzDict descType desc key → oneDesc.lookup key = instead descType key)

section Shown

variable {env : FuzzEnv} {jsonPath key descType : String} {ms : Bool} {fuzzDict x : PyVal}
  {desc desc' : PyDict PyVal} {oneDesc oneDesc' : Desc} {keys : List String}

/-- Whether a field is taken depends on what the fields hold once they are filled in. -/
theorem Taken.of_filled (hfilled : filled fuzzDict descType desc' = filled fuzzDict descType desc)
    (hvalue : (desc'.lookup VALUE).isSome = (desc.lookup VALUE).isSome)
    (h : Taken ms fuzzDict descType desc' key) : Taken ms fuzzDict descType desc key where
  mode := h.mode
  input := h.input
  noValue hkey := by
    have hnone := h.noValue hkey
    rw [hnone] at hvalue
    exact Option.isNone_iff_eq_none.mp (Option.isSome_eq_false_iff.mp hvalue.symm)
  value hkey := hfilled ▸ h.value hkey
  original hkey := by
    have hgiven := h.original hkey
    unfold OriginalGiven at hgiven ⊢
    rwa [hfilled] at hgiven
  dynamic hkey := by
    have hgiven := h.dynamic hkey
    unfold DynamicGiven at hgiven ⊢
    rwa [hfilled] at hgiven

/-- **Filling in does not change what is shown.** -/
theorem Shows.of_fills (hname : "name" ∉ keys) (hfills : Fills fuzzDict descType keys desc desc')
    (h : Shows jsonPath ms fuzzDict descType desc' oneDesc key) :
    Shows jsonPath ms fuzzDict descType desc oneDesc key := by
  have hfilled := hfills.filled_eq hname
  intro hsome
  obtain ⟨htaken, hnot⟩ := h ((hfills.isSome key).trans hsome)
  rw [hfilled] at htaken
  have hiff : Taken ms fuzzDict descType desc' key ↔ Taken ms fuzzDict descType desc key :=
    ⟨Taken.of_filled hfilled (hfills.isSome VALUE),
      Taken.of_filled hfilled.symm (hfills.isSome VALUE).symm⟩
  exact ⟨fun h => htaken (hiff.mpr h), fun h => hnot fun h' => h (hiff.mp h')⟩

/-- A later step that leaves a field alone. -/
theorem Shows.congr (h : Shows jsonPath ms fuzzDict descType desc oneDesc key)
    (hlookup : oneDesc'.lookup key = oneDesc.lookup key) :
    Shows jsonPath ms fuzzDict descType desc oneDesc' key := by
  unfold Shows
  rw [hlookup]
  exact h

/-- A field that is not among those of a dictionary. -/
theorem lookup_of_not_mem_keys {d : Desc} (hkey : key ∉ d.map Prod.fst) : d.lookup key = none := by
  rw [List.lookup_eq_none_iff]
  exact fun e he => bne_iff_ne.mpr fun heq =>
    hkey (heq ▸ List.mem_map_of_mem (f := Prod.fst) he)

/-- Only distributions and ranges have a default. -/
theorem instead_of_notMem (hkey : key ∉ ["data_distribute", "value_range"]) :
    instead descType key = none := by
  unfold instead
  split
  · exact lookup_of_not_mem_keys hkey
  · rfl

/-- A field that is not taken, and is not there. -/
theorem shows_absent (hnot : ¬ Taken ms fuzzDict descType desc key)
    (hlookup : oneDesc.lookup key = none) (hinstead : instead descType key = none) :
    Shows jsonPath ms fuzzDict descType desc oneDesc key :=
  fun _ => ⟨fun h => absurd h hnot, fun _ => hlookup.trans hinstead.symm⟩

/-- A field that is always taken. -/
theorem shows_taken (htaken : Taken ms fuzzDict descType desc key)
    (hlookup : oneDesc.lookup key
      = (filled fuzzDict descType desc key).map (written jsonPath key)) :
    Shows jsonPath ms fuzzDict descType desc oneDesc key :=
  fun _ => ⟨fun _ => hlookup, fun h => absurd htaken h⟩

/-! ## §2. Inputs. -/

/-- The value, if there is one. -/
theorem dealWithValue_made (h : dealWithValue env jsonPath (.dict desc) oneDesc = .ok oneDesc') :
    SameOff [VALUE, IS_CONST] oneDesc oneDesc' ∧
      oneDesc'.lookup VALUE = if ((desc.lookup VALUE).getD .none).isNone then oneDesc.lookup VALUE
        else (desc.lookup VALUE).map (valueAt jsonPath) := by
  unfold dealWithValue at h
  obtain ⟨value, hvalue, h⟩ := bind_eq_ok.mp h
  obtain ⟨oneDesc₁, hwith, h⟩ := bind_eq_ok.mp h
  obtain ⟨isConst, _, h⟩ := bind_eq_ok.mp h
  -- The constant flag comes last and leaves the value.
  have hconst : SameOff [IS_CONST] oneDesc₁ oneDesc' := by
    unfold dealWithConst at h
    split at h
    · cases h
      exact SameOff.refl _ _
    · cases h
      exact (SameOff.refl _ _).set (by decide) _
    · cases h
  cases hvalue
  rw [hconst VALUE (by decide)]
  unfold withValue at hwith
  split at hwith
  · next hnone =>
      cases hwith
      exact ⟨fun k hk => hconst k fun hmem => hk (List.mem_cons_of_mem _ hmem),
        (if_pos hnone).symm⟩
  · next hsome =>
      obtain ⟨valueList, hlist, hwith⟩ := bind_eq_ok.mp hwith
      obtain ⟨first, hfirst, hwith⟩ := bind_eq_ok.mp hwith
      cases hwith
      refine ⟨fun k hk => ?_, ?_⟩
      · rw [hconst k fun hmem => hk (List.mem_cons_of_mem _ hmem), PyDict.lookup_set,
          if_neg fun heq : k = VALUE => hk (heq ▸ List.mem_cons_self)]
      · rw [if_neg hsome, PyDict.lookup_set, if_pos rfl]
        cases hlookup : desc.lookup VALUE with
        | none =>
            rw [hlookup] at hsome
            exact absurd rfl hsome
        | some value =>
            rw [hlookup] at hlist
            refine congrArg some ?_
            unfold SubCaseDesign.checkValueValid at hlist
            obtain ⟨_, _, hlist⟩ := bind_eq_ok.mp hlist
            -- A path is checked and taken relative to the JSON file; a list is taken as it is.
            cases value with
            | str path =>
                obtain ⟨real, hreal, hlist⟩ := bind_eq_ok.mp hlist
                cases hlist
                cases hfirst
                unfold SubCaseDesign.checkBinValid at hreal
                obtain ⟨_, _, hreal⟩ := bind_eq_ok.mp hreal
                obtain ⟨_, _, hreal⟩ := bind_eq_ok.mp hreal
                cases hreal
                rfl
            | list l =>
                cases hlist
                cases hfirst
                rfl
            | _ => cases hlist

/-- A field that inputs take if there is no value. -/
theorem taken_default_iff (hkey : key ∈ ["data_distribute", "value_range"]) :
    Taken ms fuzzDict INPUT_DESC desc key ↔ desc.lookup VALUE = none := by
  have hothers : ∀ key ∈ ["data_distribute", "value_range"],
      key ∉ ["format", "ori_format", "ori_shape", TYPICAL_SHAPE, SHAPE_RANGE] ∧ key ≠ VALUE ∧
        key ∉ ["ori_format", "ori_shape"] ∧ key ∉ [TYPICAL_SHAPE, SHAPE_RANGE] := by decide
  obtain ⟨hmode, hvalue, horiginal, hdynamic⟩ := hothers key hkey
  exact ⟨fun h => h.noValue hkey, fun hnone => ⟨fun h => absurd h hmode, fun _ => rfl,
    fun _ => hnone, fun h => absurd h hvalue, fun h => absurd h horiginal,
    fun h => absurd h hdynamic⟩⟩

/-- The value is taken unless it is filled in as `None`. -/
theorem taken_value_iff :
    Taken ms fuzzDict INPUT_DESC desc VALUE ↔ filled fuzzDict INPUT_DESC desc VALUE ≠ some .none :=
  ⟨fun h => h.value rfl, fun hvalue => ⟨fun h => absurd h (by decide), fun _ => rfl,
    fun h => absurd h (by decide), fun _ => hvalue, fun h => absurd h (by decide),
    fun h => absurd h (by decide)⟩⟩

/-- The fields of an input that a design with a fuzz function reads. -/
def INPUT_KEYS : List String := ["data_distribute", "value_range", VALUE]

/-- **The fields of an input.** -/
theorem inputFields_made (ms : Bool) (hnone : ∀ key ∈ INPUT_KEYS, oneDesc.lookup key = none)
    (h : inputFields env jsonPath (.dict desc) fuzzDict oneDesc = .ok (oneDesc', x)) :
    ∃ desc', x = .dict desc' ∧ Fills fuzzDict INPUT_DESC FUZZ_KEYS desc desc' ∧
      ∀ key ∈ INPUT_KEYS, Shows jsonPath ms fuzzDict INPUT_DESC desc oneDesc' key := by
  unfold inputFields at h
  obtain ⟨⟨dataDistribute, x₁⟩, hdistribute, h⟩ := bind_eq_ok.mp h
  obtain ⟨⟨valueRange, x₂⟩, hrange, h⟩ := bind_eq_ok.mp h
  obtain ⟨x₃, hreplace, h⟩ := bind_eq_ok.mp h
  obtain ⟨oneDesc₁, hdeal, h⟩ := bind_eq_ok.mp h
  cases h
  obtain ⟨desc₁, rfl, hfills₁, htaken₁, hinstead₁⟩ := checkFuzzDataDistributeValid_fills hdistribute
  obtain ⟨desc₂, rfl, hfills₂, htaken₂, hinstead₂⟩ := checkFuzzValueRangeValid_fills hrange
  obtain ⟨desc₃, rfl, hfills₃, hvalue₃⟩ := replaceFuzzParam_fills hreplace
  have hf₁ := hfills₁.filled_eq (by decide)
  have hf₂ := hfills₂.filled_eq (by decide)
  have hfills : Fills fuzzDict INPUT_DESC FUZZ_KEYS desc desc₃ :=
    ((hfills₁.mono (by decide)).trans (by decide) (hfills₂.mono (by decide))).trans (by decide)
      (hfills₃.mono (by decide))
  have hvalue₁ : desc₁.lookup VALUE = desc.lookup VALUE := hfills₁.lookup_of_notMem (by decide)
  rw [hf₁, hfills₁.isSome, hvalue₁] at htaken₂
  rw [hvalue₁] at hinstead₂
  rw [hf₂, hf₁] at hvalue₃
  obtain ⟨hsame, hlookup⟩ := dealWithValue_made hdeal
  -- The distribution and the range stand behind the required fields.
  have hdist : oneDesc'.lookup "data_distribute" = some dataDistribute := by
    rw [hsame _ (by decide), List.lookup_append, hnone _ (by decide)]
    rfl
  have hrange' : oneDesc'.lookup "value_range" = some valueRange := by
    rw [hsame _ (by decide), List.lookup_append, hnone _ (by decide)]
    rfl
  refine ⟨desc₃, rfl, hfills, fun key hkey hsome => ?_⟩
  have hthere : ¬ desc.lookup VALUE = none → (desc.lookup VALUE).isSome = true := fun h =>
    Option.isSome_iff_ne_none.mpr h
  rcases List.mem_cons.mp hkey with rfl | hkey
  · rw [taken_default_iff (by decide), hdist]
    exact ⟨fun hno => (htaken₁ hsome hno).symm, fun hyes => by rw [hinstead₁ (hthere hyes)]; rfl⟩
  rcases List.mem_pair.mp hkey with rfl | rfl
  · rw [taken_default_iff (by decide), hrange']
    refine ⟨fun hno => (htaken₂ hsome hno).symm, fun hyes => ?_⟩
    cases hinstead₂ (hthere hyes)
    rfl
  · have hstart : (oneDesc ++ [("value_range", valueRange), ("data_distribute", dataDistribute)]
        : Desc).lookup VALUE = none := by
      rw [List.lookup_append, hnone _ (by decide)]
      rfl
    rw [taken_value_iff, hlookup, hstart, hvalue₃]
    have hheld : (filled fuzzDict INPUT_DESC desc VALUE).isSome = true := by
      rw [← hvalue₃, hfills.isSome]
      exact hsome
    obtain ⟨v, hv⟩ := Option.isSome_iff_exists.mp hheld
    rw [hv]
    constructor
    · intro hne
      cases v with
      | none => exact absurd rfl hne
      | _ => rfl
    · intro heq
      rw [Option.some.inj (not_not.mp heq)]
      rfl

/-! ## §3. Original data and dynamic shapes. -/

/-- An original shape, which may be missing. -/
theorem oriShapeValue_fills {oriShape : PyVal}
    (h : oriShapeValue (.dict desc) descType fuzzDict = .ok (oriShape, x)) :
    ∃ desc', x = .dict desc' ∧ Fills fuzzDict descType ["ori_shape"] desc desc' ∧
      oriShape = (filled fuzzDict descType desc "ori_shape").getD .none := by
  unfold oriShapeValue at h
  obtain ⟨v, hv, h⟩ := bind_eq_ok.mp h
  cases hv
  split at h
  · next hisNone =>
      -- Neither a missing shape nor `None` is a placeholder.
      cases h
      refine ⟨desc, rfl, Fills.refl _ _ _ _, ?_⟩
      cases hlookup : desc.lookup "ori_shape" with
      | none =>
          rw [filled_of_none hlookup]
          rfl
      | some v =>
          rw [hlookup] at hisNone
          cases v with
          | none =>
              rw [filled_of_ne (by rw [hlookup]; exact fun h => by cases h), hlookup]
              rfl
          | _ => cases hisNone
  · obtain ⟨desc', dims, hx, hfills, hdims, _, _, hfilled⟩ := checkFuzzShapeValid_fills h
    refine ⟨desc', hx, hfills, ?_⟩
    rw [hdims, hfilled]
    rfl

/-- Original data are taken where both of them are given. -/
theorem taken_original_iff (hkey : key ∈ ORIGINAL_FIELDS) :
    Taken false fuzzDict descType desc key ↔ OriginalGiven fuzzDict descType desc := by
  have hothers : ∀ key ∈ ORIGINAL_FIELDS, key ∉ ["data_distribute", "value_range", VALUE] ∧
      key ∉ ["data_distribute", "value_range"] ∧ key ≠ VALUE ∧
        key ∉ [TYPICAL_SHAPE, SHAPE_RANGE] := by decide
  obtain ⟨hinput, hdefault, hvalue, hdynamic⟩ := hothers key hkey
  exact ⟨fun h => h.original hkey, fun hgiven => ⟨fun _ => rfl, fun h => absurd h hinput,
    fun h => absurd h hdefault, fun h => absurd h hvalue, fun _ => hgiven,
    fun h => absurd h hdynamic⟩⟩

/-- **The original data.** -/
theorem dealWithOriFiledDataFuzz_made (jsonPath : String)
    (hnone : ∀ key ∈ ORIGINAL_FIELDS, oneDesc.lookup key = none)
    (h : dealWithOriFiledDataFuzz (.dict desc) descType fuzzDict oneDesc = .ok (oneDesc', x)) :
    ∃ desc', x = .dict desc' ∧ Fills fuzzDict descType FUZZ_KEYS desc desc' ∧
      ∀ key ∈ ORIGINAL_FIELDS, Shows jsonPath false fuzzDict descType desc oneDesc' key := by
  unfold dealWithOriFiledDataFuzz at h
  obtain ⟨⟨oriFormat, x₁⟩, hformat, h⟩ := bind_eq_ok.mp h
  obtain ⟨⟨oriShape, x₂⟩, hshape, h⟩ := bind_eq_ok.mp h
  obtain ⟨desc₁, rfl, hfills₁, hformat⟩ := checkFuzzValueValid_fills hformat
  have hf₁ := hfills₁.filled_eq (by decide)
  obtain ⟨desc₂, rfl, hfills₂, hshape⟩ := oriShapeValue_fills hshape
  rw [hf₁] at hshape
  refine ⟨desc₂, ?_, (hfills₁.mono (by decide)).trans (by decide) (hfills₂.mono (by decide)), ?_⟩
  · dsimp only at h
    split at h
    · cases h
      rfl
    · cases h
      rfl
  -- Both fields are taken, or neither is.
  have hiff : ∀ key ∈ ORIGINAL_FIELDS, Taken false fuzzDict descType desc key ↔
      (oriFormat.truthy && oriShape.truthy) = true := by
    rw [Bool.and_eq_true, hformat, hshape]
    exact fun key hkey => taken_original_iff hkey
  have hothers : ∀ key ∈ ORIGINAL_FIELDS, key ∉ ["data_distribute", "value_range"] := by decide
  intro key hkey _
  rw [hiff key hkey, instead_of_notMem (hothers key hkey)]
  dsimp only at h
  split at h
  · next hboth =>
      cases h
      refine ⟨fun _ => ?_, fun hnot => absurd hboth hnot⟩
      rw [Bool.and_eq_true] at hboth
      rcases List.mem_pair.mp hkey with rfl | rfl
      · rw [PyDict.lookup_set, if_neg (by decide), PyDict.lookup_set, if_pos rfl, hformat]
        cases hfilled : filled fuzzDict descType desc "ori_format" with
        | none =>
            rw [hformat, hfilled] at hboth
            cases hboth.1
        | some v => rfl
      · rw [PyDict.lookup_set, if_pos rfl, hshape]
        cases hfilled : filled fuzzDict descType desc "ori_shape" with
        | none =>
            rw [hshape, hfilled] at hboth
            cases hboth.2
        | some v => rfl
  · next hnot =>
      cases h
      exact ⟨fun hboth => absurd hboth hnot, fun _ => hnone key hkey⟩

/-- A typical shape and a range of the shape are taken where the shape is dynamic. -/
theorem taken_dynamic_iff (hkey : key ∈ [TYPICAL_SHAPE, SHAPE_RANGE]) :
    Taken false fuzzDict descType desc key ↔ DynamicGiven fuzzDict descType desc := by
  have hothers : ∀ key ∈ [TYPICAL_SHAPE, SHAPE_RANGE],
      key ∉ ["data_distribute", "value_range", VALUE] ∧ key ∉ ["data_distribute", "value_range"] ∧
        key ≠ VALUE ∧ key ∉ ["ori_format", "ori_shape"] := by decide
  obtain ⟨hinput, hdefault, hvalue, horiginal⟩ := hothers key hkey
  exact ⟨fun h => h.dynamic hkey, fun hgiven => ⟨fun _ => rfl, fun h => absurd h hinput,
    fun h => absurd h hdefault, fun h => absurd h hvalue, fun h => absurd h horiginal,
    fun _ => hgiven⟩⟩

/-- **The typical shape and the range of the shape.** -/
theorem withDynamicShapeFuzz_made {dims : List PyVal} (jsonPath : String)
    (hnone : ∀ key ∈ [TYPICAL_SHAPE, SHAPE_RANGE], oneDesc.lookup key = none)
    (hshape : desc.lookup "shape" = some (.list dims)) (hvalid : ValidShape (.list dims))
    (hfilled : filled fuzzDict descType desc "shape" = some (.list dims))
    (h : withDynamicShapeFuzz (.dict desc) descType fuzzDict oneDesc = .ok (oneDesc', x)) :
    ∃ desc', x = .dict desc' ∧ Fills fuzzDict descType FUZZ_KEYS desc desc' ∧
      ∀ key ∈ [TYPICAL_SHAPE, SHAPE_RANGE],
        Shows jsonPath false fuzzDict descType desc oneDesc' key := by
  have hothers : ∀ key ∈ [TYPICAL_SHAPE, SHAPE_RANGE],
      key ∉ ["data_distribute", "value_range"] := by decide
  -- Where the fields are not taken, the description stays as it is.
  have habsent (hnot : ¬ DynamicGiven fuzzDict descType desc) :
      ∃ desc', PyVal.dict desc = .dict desc' ∧ Fills fuzzDict descType FUZZ_KEYS desc desc' ∧
        ∀ key ∈ [TYPICAL_SHAPE, SHAPE_RANGE],
          Shows jsonPath false fuzzDict descType desc oneDesc key :=
    ⟨desc, rfl, Fills.refl _ _ _ _, fun key hkey =>
      shows_absent (fun htaken => hnot ((taken_dynamic_iff hkey).mp htaken)) (hnone key hkey)
        (instead_of_notMem (hothers key hkey))⟩
  unfold withDynamicShapeFuzz at h
  obtain ⟨typical, htypical, h⟩ := bind_eq_ok.mp h
  cases htypical
  split at h
  · next hisNone =>
      cases h
      refine habsent fun ⟨⟨v, hv, hsome⟩, _⟩ => ?_
      by_cases hfuzz : desc.lookup TYPICAL_SHAPE = some FUZZ
      · rw [hfuzz] at hisNone
        cases hisNone
      · rw [filled_of_ne hfuzz] at hv
        rw [hv] at hisNone
        exact Bool.false_ne_true (hsome.symm.trans hisNone)
  · unfold dealWithDynamicShapeFuzz at h
    obtain ⟨shape, hget, h⟩ := bind_eq_ok.mp h
    rw [get_dict, hshape] at hget
    cases hget
    obtain ⟨count, hcount, h⟩ := bind_eq_ok.mp h
    have hdynamic := isDynamic_of_checkNotDynamicShape hvalid hcount
    split at h
    · next hzero =>
        cases h
        refine habsent fun ⟨_, dims', hdims', hisDynamic⟩ => ?_
        cases hfilled.symm.trans hdims'
        exact hdynamic.mp hisDynamic hzero
    · next hpos =>
        obtain ⟨⟨typicalShape, x₁⟩, htypical, h⟩ := bind_eq_ok.mp h
        obtain ⟨_, _, h⟩ := bind_eq_ok.mp h
        obtain ⟨⟨shapeRange, x₂⟩, hrange, h⟩ := bind_eq_ok.mp h
        cases h
        obtain ⟨desc₁, typicalDims, rfl, hfills₁, rfl, _, _, hheld⟩ :=
          checkFuzzShapeValid_fills htypical
        obtain ⟨desc₂, rfl, hfills₂, hranges⟩ := checkFuzzShapeRangeValid_fills hrange
        rw [hfills₁.filled_eq (by decide)] at hranges
        have hgiven : DynamicGiven fuzzDict descType desc :=
          ⟨⟨_, hheld, rfl⟩, dims, hfilled, hdynamic.mpr hpos⟩
        refine ⟨desc₂, rfl, (hfills₁.mono (by decide)).trans (by decide)
          (hfills₂.mono (by decide)), fun key hkey => ?_⟩
        refine shows_taken ((taken_dynamic_iff hkey).mpr hgiven) ?_
        rcases List.mem_pair.mp hkey with rfl | rfl
        · rw [PyDict.lookup_set, if_neg (by decide), PyDict.lookup_set, if_pos rfl, hheld]
          rfl
        · rw [PyDict.lookup_set, if_pos rfl]
          exact hranges.symm

/-! ## §4. Descriptions. -/

/-- The reader of descriptions in either mode. -/
def makeDesc (env : FuzzEnv) (jsonPath : String) (fuzzDict : PyVal) (ms : Bool) :
    String → PyVal → Except PyError (Desc × PyVal) :=
  if ms then makeDescMsFuzz env jsonPath fuzzDict else makeDescFuzz env jsonPath fuzzDict

/-- The type and the shape are taken in either mode, of inputs and of outputs. -/
theorem taken_required (hkey : key ∈ ["type", "shape"]) :
    Taken ms fuzzDict descType desc key := by
  have hothers : ∀ key ∈ ["type", "shape"],
      key ∉ ["format", "ori_format", "ori_shape", TYPICAL_SHAPE, SHAPE_RANGE] ∧
        key ∉ ["data_distribute", "value_range", VALUE] ∧
        key ∉ ["data_distribute", "value_range"] ∧ key ≠ VALUE ∧
        key ∉ ["ori_format", "ori_shape"] ∧ key ∉ [TYPICAL_SHAPE, SHAPE_RANGE] := by decide
  obtain ⟨hmode, hinput, hdefault, hvalue, horiginal, hdynamic⟩ := hothers key hkey
  exact ⟨fun h => absurd h hmode, fun h => absurd h hinput, fun h => absurd h hdefault,
    fun h => absurd h hvalue, fun h => absurd h horiginal, fun h => absurd h hdynamic⟩

/-- The format is taken in the mode that has one. -/
theorem taken_format : Taken false fuzzDict descType desc "format" :=
  ⟨fun _ => rfl, fun h => absurd h (by decide), fun h => absurd h (by decide),
    fun h => absurd h (by decide), fun h => absurd h (by decide), fun h => absurd h (by decide)⟩

/-- A shape is no placeholder, so that it stays. -/
theorem Fills.lookup_list {dims : List PyVal} (h : Fills fuzzDict descType keys desc desc')
    (hlookup : desc.lookup key = some (.list dims)) : desc'.lookup key = some (.list dims) := by
  rw [h.lookup_of_ne, hlookup]
  rw [hlookup]
  exact fun heq => by cases heq

/-- **The fields that only inputs have.** -/
theorem withInputFields_made (ms : Bool) (hnone : ∀ key ∈ INPUT_KEYS, oneDesc.lookup key = none)
    (h : withInputFields env jsonPath descType (.dict desc) fuzzDict oneDesc
      = .ok (oneDesc', x)) :
    ∃ desc', x = .dict desc' ∧ Fills fuzzDict descType FUZZ_KEYS desc desc' ∧
      ∀ key ∈ INPUT_KEYS, Shows jsonPath ms fuzzDict descType desc oneDesc' key := by
  unfold withInputFields at h
  split at h
  · next htype =>
      subst htype
      exact inputFields_made ms hnone h
  · next htype =>
      cases h
      refine ⟨desc, rfl, Fills.refl _ _ _ _, fun key hkey => ?_⟩
      exact shows_absent (fun htaken => htype (htaken.input hkey)) (hnone key hkey) (if_neg htype)

/-- **The descriptions in the mode `ms_python_train`.** -/
theorem makeDescMsFuzz_shows
    (h : makeDescMsFuzz env jsonPath fuzzDict descType (.dict desc) = .ok (oneDesc, x)) :
    ∃ desc', x = .dict desc' ∧ Fills fuzzDict descType FUZZ_KEYS desc desc' ∧
      ∀ key ∈ FUZZ_KEYS, Shows jsonPath true fuzzDict descType desc oneDesc key := by
  unfold makeDescMsFuzz at h
  obtain ⟨⟨typeValue, x₁⟩, htype, h⟩ := bind_eq_ok.mp h
  obtain ⟨⟨shapeValue, x₂⟩, hshape, h⟩ := bind_eq_ok.mp h
  obtain ⟨desc₁, rfl, hfills₁, _⟩ := checkFuzzValueValid_fills htype
  obtain ⟨desc₂, dims, rfl, hfills₂, rfl, _, _, hheld⟩ := checkFuzzShapeValid_fills hshape
  have hnone : ∀ key ∉ ["type", "shape"],
      List.lookup key [("type", typeValue), ("shape", PyVal.list dims)] = none :=
    fun key hkey => lookup_of_not_mem_keys hkey
  obtain ⟨desc₃, hx, hfills₃, hshows⟩ :=
    withInputFields_made true (fun key hkey => hnone key (by revert key; decide)) h
  have hsame := (withInputFields_spec h).2
  have hf₁ := hfills₁.filled_eq (by decide)
  have hfills₁₂ : Fills fuzzDict descType FUZZ_KEYS desc desc₂ :=
    (hfills₁.mono (by decide)).trans (by decide) (hfills₂.mono (by decide))
  refine ⟨desc₃, hx, hfills₁₂.trans (by decide) hfills₃, fun key hkey => ?_⟩
  -- A field is required, or one of an input, or not looked at in this mode.
  have hkinds : ∀ key ∈ FUZZ_KEYS, key ∈ ["type", "shape"] ∨ key ∈ INPUT_KEYS ∨
      (key ∈ ["format", "ori_format", "ori_shape", TYPICAL_SHAPE, SHAPE_RANGE] ∧
        key ∉ INPUT_FIELDS ∧ key ∉ ["type", "shape"] ∧
        key ∉ ["data_distribute", "value_range"]) := by decide
  rcases hkinds key hkey with hkey | hkey | ⟨hmode, hinput, hrequired, hdefault⟩
  · refine shows_taken (taken_required hkey) ?_
    rcases List.mem_pair.mp hkey with rfl | rfl
    · rw [hsame _ (by decide)]
      exact (checkFuzzValueValid_some htype).symm
    · rw [hsame _ (by decide), ← hf₁, hheld]
      rfl
  · exact (hshows key hkey).of_fills (by decide) hfills₁₂
  · exact shows_absent (fun htaken => by cases htaken.mode hmode)
      ((hsame key hinput).trans (hnone key hrequired)) (instead_of_notMem hdefault)

/-- **The descriptions in the other mode.** -/
theorem makeDescFuzz_shows
    (h : makeDescFuzz env jsonPath fuzzDict descType (.dict desc) = .ok (oneDesc, x)) :
    ∃ desc', x = .dict desc' ∧ Fills fuzzDict descType FUZZ_KEYS desc desc' ∧
      ∀ key ∈ FUZZ_KEYS, Shows jsonPath false fuzzDict descType desc oneDesc key := by
  unfold makeDescFuzz at h
  obtain ⟨⟨formatValue, x₁⟩, hformat, h⟩ := bind_eq_ok.mp h
  obtain ⟨⟨typeValue, x₂⟩, htype, h⟩ := bind_eq_ok.mp h
  obtain ⟨⟨shapeValue, x₃⟩, hshape, h⟩ := bind_eq_ok.mp h
  obtain ⟨⟨oneDesc₁, x₄⟩, hinput, h⟩ := bind_eq_ok.mp h
  obtain ⟨⟨oneDesc₂, x₅⟩, hori, h⟩ := bind_eq_ok.mp h
  obtain ⟨⟨oneDesc₃, x₆⟩, hdynamic, h⟩ := bind_eq_ok.mp h
  obtain ⟨name, _, h⟩ := bind_eq_ok.mp h
  cases h
  obtain ⟨desc₁, rfl, hfills₁, _⟩ := checkFuzzValueValid_fills hformat
  obtain ⟨desc₂, rfl, hfills₂, _⟩ := checkFuzzValueValid_fills htype
  obtain ⟨desc₃, dims, rfl, hfills₃, rfl, hvalid, hdims, hheld⟩ := checkFuzzShapeValid_fills hshape
  have hnone : ∀ key ∉ ["format", "type", "shape"], List.lookup key
      [("format", formatValue), ("type", typeValue), ("shape", PyVal.list dims)] = none :=
    fun key hkey => lookup_of_not_mem_keys hkey
  -- Each step fills in fields of its own, and leaves the rest of what is made as it is.
  have hsame₁ := (withInputFields_spec hinput).2
  have hsame₂ := (dealWithOriFiledDataFuzz_spec hori).2
  have hsame₃ := sameOff_withDynamicShapeFuzz hdynamic
  have hsame₄ := sameOff_named oneDesc₃ name
  obtain ⟨desc₄, rfl, hfills₄, hshows₄⟩ := withInputFields_made false
    (fun key hkey => hnone key (by revert key; decide)) hinput
  have hnone₁ : ∀ key ∈ ORIGINAL_FIELDS, oneDesc₁.lookup key = none := by
    have hothers : ∀ key ∈ ORIGINAL_FIELDS,
        key ∉ INPUT_FIELDS ∧ key ∉ ["format", "type", "shape"] := by decide
    intro key hkey
    exact (hsame₁ key (hothers key hkey).1).trans (hnone key (hothers key hkey).2)
  obtain ⟨desc₅, rfl, hfills₅, hshows₅⟩ :=
    dealWithOriFiledDataFuzz_made jsonPath hnone₁ hori
  have hshape₅ : desc₅.lookup "shape" = some (.list dims) :=
    hfills₅.lookup_list (hfills₄.lookup_list hdims)
  have hf₁ := hfills₁.filled_eq (by decide)
  have hf₂ := hfills₂.filled_eq (by decide)
  have hfills₁₃ : Fills fuzzDict descType FUZZ_KEYS desc desc₃ :=
    ((hfills₁.mono (by decide)).trans (by decide) (hfills₂.mono (by decide))).trans (by decide)
      (hfills₃.mono (by decide))
  have hfills₁₄ := hfills₁₃.trans (by decide) hfills₄
  have hfills₁₅ := hfills₁₄.trans (by decide) hfills₅
  rw [hf₂, hf₁] at hheld
  have hnone₂ : ∀ key ∈ [TYPICAL_SHAPE, SHAPE_RANGE], oneDesc₂.lookup key = none := by
    have hothers : ∀ key ∈ [TYPICAL_SHAPE, SHAPE_RANGE], key ∉ ORIGINAL_FIELDS ∧
        key ∉ INPUT_FIELDS ∧ key ∉ ["format", "type", "shape"] := by decide
    intro key hkey
    obtain ⟨horiginal, hinput, hrequired⟩ := hothers key hkey
    exact (hsame₂ key horiginal).trans ((hsame₁ key hinput).trans (hnone key hrequired))
  obtain ⟨desc₆, rfl, hfills₆, hshows₆⟩ := withDynamicShapeFuzz_made jsonPath hnone₂ hshape₅ hvalid
    ((congrFun (hfills₁₅.filled_eq (by decide)) "shape").trans hheld) hdynamic
  refine ⟨desc₆, rfl, hfills₁₅.trans (by decide) hfills₆, fun key hkey => ?_⟩
  have hkinds : ∀ key ∈ FUZZ_KEYS, key ∉ ["name"] ∧
      (key ∉ [TYPICAL_SHAPE, SHAPE_RANGE] ∧ key ∉ ORIGINAL_FIELDS ∧ key ∉ INPUT_FIELDS ∧
          key ∈ ["format", "type", "shape"] ∨
        key ∉ [TYPICAL_SHAPE, SHAPE_RANGE] ∧ key ∉ ORIGINAL_FIELDS ∧ key ∈ INPUT_KEYS ∨
        key ∉ [TYPICAL_SHAPE, SHAPE_RANGE] ∧ key ∈ ORIGINAL_FIELDS ∨
        key ∈ [TYPICAL_SHAPE, SHAPE_RANGE]) := by decide
  obtain ⟨hname, hkind⟩ := hkinds key hkey
  rcases hkind with ⟨hdyn, horiginal, hinput, hkey⟩ | ⟨hdyn, horiginal, hkey⟩ | ⟨hdyn, hkey⟩ | hkey
  · -- Format, type and shape: made first, and not touched by the later steps.
    have hlookup := (hsame₄ key hname).trans
      ((hsame₃ key hdyn).trans ((hsame₂ key horiginal).trans (hsame₁ key hinput)))
    rcases List.mem_cons.mp hkey with rfl | hkey
    · refine shows_taken taken_format ?_
      rw [hlookup]
      exact (checkFuzzValueValid_some hformat).symm
    · refine shows_taken (taken_required hkey) ?_
      rw [hlookup]
      rcases List.mem_pair.mp hkey with rfl | rfl
      · rw [← hf₁]
        exact (checkFuzzValueValid_some htype).symm
      · rw [hheld]
        rfl
  · -- The fields of an input.
    refine ((hshows₄ key hkey).of_fills (by decide) hfills₁₃).congr ?_
    exact (hsame₄ key hname).trans ((hsame₃ key hdyn).trans (hsame₂ key horiginal))
  · -- The original data.
    refine ((hshows₅ key hkey).of_fills (by decide) hfills₁₄).congr ?_
    exact (hsame₄ key hname).trans (hsame₃ key hdyn)
  · -- The typical shape and the range; only the name comes behind them.
    exact ((hshows₆ key hkey).of_fills (by decide) hfills₁₅).congr (hsame₄ key hname)

/-- **What a description takes of the JSON file.** -/
theorem makeDesc_shows
    (h : makeDesc env jsonPath fuzzDict ms descType (.dict desc) = .ok (oneDesc, x)) :
    ∃ desc', x = .dict desc' ∧ Fills fuzzDict descType FUZZ_KEYS desc desc' ∧
      ∀ key ∈ FUZZ_KEYS, Shows jsonPath ms fuzzDict descType desc oneDesc key := by
  cases ms with
  | true => exact makeDescMsFuzz_shows h
  | false => exact makeDescFuzz_shows h

/-- Only dictionaries are descriptions. -/
theorem dict_of_makeDesc {x' : PyVal}
    (h : makeDesc env jsonPath fuzzDict ms descType x = .ok (oneDesc, x')) :
    ∃ desc, x = .dict desc := by
  have hvalue : ∀ {key supportList y}, checkFuzzValueValid x key supportList descType fuzzDict
      true = .ok y → ∃ desc, x = .dict desc := by
    intro key supportList y hy
    obtain ⟨_, _, hy⟩ := bind_eq_ok.mp hy
    obtain ⟨_, hreplace, _⟩ := bind_eq_ok.mp hy
    exact dict_of_replace hreplace
  cases ms with
  | true =>
      obtain ⟨_, hfirst, _⟩ := bind_eq_ok.mp h
      exact hvalue hfirst
  | false =>
      obtain ⟨_, hfirst, _⟩ := bind_eq_ok.mp h
      exact hvalue hfirst

end Shown

end SubCaseDesignFuzz

end HwEfat.Main
