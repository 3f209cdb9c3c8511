/-
  HwEfat.Main.SubCaseDesign.FirstWords — the words of the first sub-case.

  The name of a sub-case ends with the format and the type of its first output.  In the first
  one of a design by crossing these are the first format and the first type that the output
  has, as far as they say that there is a tensor (`PairWords`).  With a fuzz function they are
  what the JSON file has for them, or anything if it has a placeholder (`CanHold`).

  Main results: `SubCaseDesignCross.firstWords_of_caseAt`, `SubCaseDesignFuzz.canHold_of_made`.
-/
import HwEfat.Main.SubCaseDesign.EachOnce
import HwEfat.Main.SubCaseDesign.FuzzOwn

namespace HwEfat.Main

open HwEfat.Lib (PyError PyVal PyDict bind_eq_ok positions_head)

/-- The words of a format and a type in a name.  If one of the two says that there is no
tensor, both are `UNDEFINED`. -/
inductive PairWords : PyVal → PyVal → String → Prop where
  | whole {format type : String} (h : Whole (.str format) (.str type)) :
      PairWords (.str format) (.str type) (format ++ "_" ++ type)
  | undefined {format type : PyVal} (h : ¬ Whole format type) :
      PairWords format type "UNDEFINED_UNDEFINED"

section Pair

variable {d : Desc} {format type : PyVal} {value : Option PyVal} {f t s : String}

/-- Only strings are joined. -/
theorem joined_eq_ok : SubCaseDesignCross.joined value = .ok s ↔ value = some (.str s) := by
  unfold SubCaseDesignCross.joined
  split
  · exact ⟨fun h => congrArg (some ∘ PyVal.str) (Except.ok.inj h), fun h => by cases h; rfl⟩
  · next hother =>
      exact iff_of_false (fun h => by cases h) fun h => hother s h

/-- A pair that does not stay as it is becomes `UNDEFINED`. -/
theorem lookup_pair_undefined (hformat : d.lookup "format" = some format)
    (htype : d.lookup "type" = some type) (hnot : ¬ Whole format type) :
    (SubCaseDesign.checkCurParamsUndefined d).lookup "format" = some (.str "UNDEFINED") ∧
      (SubCaseDesign.checkCurParamsUndefined d).lookup "type" = some (.str "UNDEFINED") := by
  have hout : format = .str "UNDEFINED" ∨ format = .str "RESERVED" ∨ type = .str "UNDEFINED" := by
    by_contra hout
    exact hnot fun h => absurd h hout
  unfold SubCaseDesign.checkCurParamsUndefined TYPE_UNDEFINED
  rw [hformat, Option.any_some]
  dsimp only
  -- The format decides first; it sets the type, which is then looked at.
  by_cases hoptional : (OPTIONAL_TYPE_LIST.any fun s => format.isStr s) = true
  · rw [if_pos hoptional, PyDict.lookup_set, if_pos rfl, Option.any_some,
      if_pos (isStr_iff.mpr rfl), PyDict.lookup_set, if_pos rfl, PyDict.lookup_set,
      if_neg (by decide), PyDict.lookup_set, if_pos rfl]
    exact ⟨rfl, rfl⟩
  · have hundefined : type = .str "UNDEFINED" := by
      rw [optionalType_iff] at hoptional
      rcases hout with h | h | h
      · exact absurd (.inl h) hoptional
      · exact absurd (.inr h) hoptional
      · exact h
    rw [if_neg hoptional, htype, Option.any_some, if_pos (isStr_iff.mpr hundefined),
      PyDict.lookup_set, if_pos rfl, PyDict.lookup_set, if_neg (by decide), htype, hundefined]
    exact ⟨rfl, rfl⟩

/-- **The words of a checked description.** -/
theorem pairWords_of_checked (hformat : d.lookup "format" = some format)
    (htype : d.lookup "type" = some type)
    (hf : (SubCaseDesign.checkCurParamsUndefined d).lookup "format" = some (.str f))
    (ht : (SubCaseDesign.checkCurParamsUndefined d).lookup "type" = some (.str t)) :
    PairWords format type (f ++ "_" ++ t) := by
  by_cases hwhole : Whole format type
  · obtain ⟨hkeptFormat, hkeptType⟩ := (lookup_pair_iff hformat htype).mpr hwhole
    cases hf.symm.trans hkeptFormat
    cases ht.symm.trans hkeptType
    exact .whole hwhole
  · obtain ⟨hsetFormat, hsetType⟩ := lookup_pair_undefined hformat htype hwhole
    cases hf.symm.trans hsetFormat
    cases ht.symm.trans hsetType
    exact .undefined hwhole

end Pair

/-! ## §1. A design by crossing. -/

namespace SubCaseDesignCross

/-- What the name of the first case ends with: the words of the first format and the first
type of the first output. -/
def FirstWords (descs : Descs) (words : String) : Prop :=
  ∃ tensor format type, descs.outputDescList[0]? = some tensor ∧
    (profiles tensor "format")[0]? = some format ∧ (profiles tensor "type")[0]? = some type ∧
    PairWords format type words

section Cross

variable {keys : List String} {tensor : Tensor} {p : List Nat} {key : String}

/-- The first combination picks the first profile of every field. -/
theorem lookup_first (hcross : Crossable keys tensor) (hkeys : CrossList keys)
    (hp : (combinations keys tensor)[0]? = some p) (hkey : key ∈ crossKeys keys tensor) :
    ∃ v, (profiles tensor key)[0]? = some v ∧
      (profilesAt tensor (crossKeys keys tensor) p).lookup key = some v := by
  have hmem := List.mem_of_getElem? hp
  obtain ⟨i, hi⟩ := exists_position hmem hkey
  obtain rfl : i = 0 := positions_head hp i (List.of_mem_zip hi).2
  exact lookup_profilesAt hcross hkeys hmem hi self_mem_tied

/-- **The words of the first case.** -/
theorem firstWords_of_caseAt {jsonObj : PyVal} {descs : Descs} {prepared : Prepared} {n : Nat}
    {case : SubCase} {first : Desc} {formatStr typeStr : String}
    (hok : PreparedOk jsonObj descs prepared) (hcounts : Counts descs prepared n)
    (hms : isMs jsonObj = .ok false) (hcase : CaseAt jsonObj prepared 0 case)
    (hfirst : Lib.first case.outputDesc = .ok first)
    (hformat : joined (first.lookup "format") = .ok formatStr)
    (htype : joined (first.lookup "type") = .ok typeStr) :
    FirstWords descs (formatStr ++ "_" ++ typeStr) := by
  obtain ⟨tensor, rest, houtput⟩ := List.exists_cons_of_ne_nil hok.made.output_ne_nil
  have htensor : descs.outputDescList[0]? = some tensor := by
    rw [houtput]
    rfl
  have hcross := hok.made.output tensor (List.mem_of_getElem? htensor)
  have hall : CrossList (descs.outputCrossList ++ rangeKeys) := hok.made.cross ▸ hok.made.keys
  have hkeys : CrossList descs.outputCrossList := hall.left
  obtain ⟨ms, hms', hformats⟩ := hok.made.mode
  have hformats := hformats (Except.ok.inj (hms'.symm.trans hms))
  -- The outputs of the first case are those of the first combination.
  obtain ⟨use, huse, hdrawn⟩ := hcase.output
  rw [outputIndex_eq hcounts.output, if_neg (Nat.not_le.mpr hcounts.pos), Except.ok.injEq] at huse
  subst huse
  obtain ⟨row, hrow, hrow'⟩ := exists_row hok.made.output hok.output htensor
  obtain ⟨name, desc, _, hdesc, _, htaken⟩ := hdrawn.row 0 row hrow
  obtain ⟨p, hp, hdescribe⟩ := hrow'.getElem? hdesc
  obtain rfl : first = named name desc := by
    cases houts : case.outputDesc with
    | nil =>
        rw [houts] at hfirst
        cases hfirst
    | cons d ds =>
        rw [houts] at hfirst htaken
        exact (Except.ok.inj hfirst).symm.trans (Option.some.inj htaken)
  rw [joined_eq_ok, lookup_named (by decide), lookup_describe (by decide) hdescribe]
    at hformat htype
  obtain ⟨format, hf, hpf⟩ := lookup_first hcross hkeys hp (List.mem_append_left _ hformats)
  obtain ⟨type, ht, hpt⟩ := lookup_first hcross hkeys hp (List.mem_append_left _ hok.made.type)
  exact ⟨tensor, format, type, htensor, hf, ht, pairWords_of_checked hpf hpt hformat htype⟩

end Cross

end SubCaseDesignCross

/-! ## §2. A fuzz design. -/

namespace SubCaseDesignFuzz

/-- A field of a description of the JSON file can have this word in a case: it holds the word,
or a placeholder. -/
def CanHold (desc₀ : PyVal) (key word : String) : Prop :=
  ∃ d₀ v, desc₀ = .dict d₀ ∧ d₀.lookup key = some v ∧ (v = FUZZ ∨ profile v = .str word)

/-- What the name of a case can end with: the words that the first output can have. -/
def FirstWords (jsonObj : PyVal) (words : String) : Prop :=
  ∃ desc₀ ms type, (listAt jsonObj OUTPUT_DESC)[0]? = some desc₀ ∧
    SubCaseDesignCross.isMs jsonObj = .ok ms ∧ CanHold desc₀ "type" type ∧
    (ms = true ∧ words = type ∨
      ms = false ∧ ∃ format, CanHold desc₀ "format" format ∧ words = format ++ "_" ++ type)

/-- The name of a case has a word of this field. -/
def NamedField (ms : Bool) (key : String) : Prop := key = "type" ∨ (key = "format" ∧ ms = false)

section Fuzz

variable {env : FuzzEnv} {jsonPath descType key word : String}
  {fuzzDict desc₀ desc desc' json₀ jsonObj jsonObj' : PyVal} {d : PyDict PyVal}
  {oneDesc first : Desc} {inputDesc outputDesc : List Desc} {ms : Bool}

/-- Every description has these fields. -/
theorem isSome_of_makeDesc (hkey : NamedField ms key)
    (h : makeDesc env jsonPath fuzzDict ms descType (.dict d) = .ok (oneDesc, desc')) :
    (d.lookup key).isSome = true := by
  have hthere : ∀ {key v}, (filled fuzzDict descType d key).map profile = some v →
      (d.lookup key).isSome = true := by
    intro key v hv
    cases hlookup : d.lookup key with
    | none =>
        rw [filled_of_none hlookup] at hv
        cases hv
    | some u => rfl
  cases ms with
  | true =>
      obtain ⟨⟨typeValue, x₁⟩, htype, _⟩ := bind_eq_ok.mp h
      rcases hkey with rfl | ⟨_, hms⟩
      · exact hthere (checkFuzzValueValid_some htype)
      · cases hms
  | false =>
      obtain ⟨⟨formatValue, x₁⟩, hformat, h⟩ := bind_eq_ok.mp h
      obtain ⟨⟨typeValue, x₂⟩, htype, _⟩ := bind_eq_ok.mp h
      rcases hkey with rfl | ⟨rfl, _⟩
      · obtain ⟨d₁, rfl, hfills, _⟩ := checkFuzzValueValid_fills hformat
        have hvalue := checkFuzzValueValid_some htype
        rw [hfills.filled_eq (by decide)] at hvalue
        exact hthere hvalue
      · exact hthere (checkFuzzValueValid_some hformat)

/-- **What a case has there** is in the JSON file, unless a placeholder is. -/
theorem canHold_of_makeDesc (hcopied : CopiedDesc desc₀ desc) (hkey : NamedField ms key)
    (h : makeDesc env jsonPath fuzzDict ms descType desc = .ok (oneDesc, desc'))
    (hword : oneDesc.lookup key = some (.str word)) : CanHold desc₀ key word := by
  obtain ⟨d, rfl⟩ := dict_of_makeDesc h
  obtain ⟨_, _, _, hshows⟩ := makeDesc_shows h
  obtain ⟨d₀, rfl, hd⟩ := hcopied.dicts
  have hsome := isSome_of_makeDesc hkey h
  -- Both fields are taken, and a list of one stands for its element.
  obtain ⟨hmem, htaken, hwritten⟩ : key ∈ FUZZ_KEYS ∧ Taken ms fuzzDict descType d key ∧
      written jsonPath key = profile := by
    rcases hkey with rfl | ⟨rfl, rfl⟩
    · exact ⟨by decide, taken_required (by decide), if_pos (by decide)⟩
    · exact ⟨by decide, taken_format, if_pos (by decide)⟩
  have hlookup := (hshows key hmem hsome).1 htaken
  rw [hword, hwritten] at hlookup
  rcases hd key with heq | ⟨_, hfuzz, _⟩
  · obtain ⟨v, hv⟩ := Option.isSome_iff_exists.mp hsome
    refine ⟨d₀, v, rfl, heq ▸ hv, ?_⟩
    by_cases hfuzz : v = FUZZ
    · exact .inl hfuzz
    · rw [filled_of_ne (by rw [hv]; exact fun h => hfuzz (Option.some.inj h)), hv] at hlookup
      exact .inr (Option.some.inj hlookup).symm
  · exact ⟨d₀, FUZZ, rfl, hfuzz, .inl rfl⟩

/-- **What the first output of a case has.** -/
theorem canHold_of_made (hcopied : CopiedJson json₀ jsonObj)
    (h : makeDescsFuzz env jsonPath jsonObj fuzzDict ms = .ok (inputDesc, outputDesc, jsonObj'))
    (hfirst : Lib.first outputDesc = .ok first) :
    ∃ desc₀, (listAt json₀ OUTPUT_DESC)[0]? = some desc₀ ∧ ∀ key word, NamedField ms key →
      first.lookup key = some (.str word) → CanHold desc₀ key word := by
  unfold makeDescsFuzz at h
  obtain ⟨⟨input, json₁⟩, hinput, h⟩ := bind_eq_ok.mp h
  obtain ⟨⟨output, json₂⟩, houtput, h⟩ := bind_eq_ok.mp h
  cases h
  -- The inputs that are made first leave the outputs alone.
  have hagree : AgreeOff [INPUT_DESC] jsonObj json₁ := agreeOff_makeDescListFuzz hinput
  rcases makeDescListFuzz_cases houtput with ⟨_, _, _, _, rfl, _⟩ | ⟨l, made, hl, _, hreads, rfl, _⟩
  · cases hfirst
  · obtain ⟨l₀, hl₀, hcopies⟩ := (hcopied.outputs.congr (hagree.getItem (by decide))).exists_list
      (fun _ => Or.inl rfl) hl
    rw [listAt_eq hl₀]
    cases hreads with
    | nil => cases hfirst
    | @cons _ e _ made hmake _ =>
        cases hcopies with
        | @cons desc₀ _ l₀ _ hone _ =>
            obtain ⟨oneDesc, desc'⟩ := e
            cases hfirst
            exact ⟨desc₀, rfl, fun key word hkey hword => canHold_of_makeDesc hone hkey hmake hword⟩

end Fuzz

end SubCaseDesignFuzz

end HwEfat.Main
