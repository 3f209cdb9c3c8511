/-
  HwEfat.Main.SubCaseDesign.Names — the names of the sub-cases.

  A name is the name of the case, a mark, a number, and the format and the type of the
  first output, the last ones behind separators (`Named`).  Mark, number and words can be read
  off again as far as the mark is not part of what comes before it (`NamedAs.inj`).
-/
import HwEfat.Main.CaseDesign.Def
import HwEfat.Main.SubCaseDesign.FirstWords
import HwEfat.Main.SubCaseDesign.Generates
import HwEfat.Main.SubCaseDesign.Words

namespace HwEfat.Main

open HwEfat.Lib (PyError PyVal PyDict raiseIf_eq_ok bind_eq_ok append_cons_inj eq_nil_of_mark
  mem_of_first)

/-- The kinds of cases that have different names. -/
inductive NameKind where
  /-- By crossing, with one profile of every field. -/
  | single (ms : Bool)
  /-- By crossing, with several profiles of a field. -/
  | multi (ms : Bool)
  | fuzz
  deriving DecidableEq

namespace NameKind

/-- What comes between the name of the case and the number. -/
def mark : NameKind → String
  | single _ => "_case_"
  | multi false => "_sub_case_"
  | multi true => "_sub_"
  | fuzz => "_fuzz_case_"

/-- The number is padded, but not by crossing in the mode `ms_python_train`. -/
def number : NameKind → Nat → String
  | single true, i => toString i
  | multi true, i => toString i
  | _, i => SubCaseDesignCross.padded i

end NameKind

/-- The kinds of a design by crossing. -/
def SubCaseDesignCross.crossKind (ms : Bool) (descs : SubCaseDesignCross.Descs) : NameKind :=
  if descs.multi then .multi ms else .single ms

/-- The kind of a case. -/
def nameKindOf (env : FuzzEnv) (jsonPath : String) (jsonObj : PyVal) :
    Except PyError NameKind := do
  if (← jsonObj.get FUZZ_IMPL).truthy then return .fuzz
  else
    let descs ← SubCaseDesignCross.makeDescs env.toDesignEnv jsonPath jsonObj
    let ms ← SubCaseDesignCross.isMs jsonObj
    return SubCaseDesignCross.crossKind ms descs

/-- The name of the sub-case with this number, and these words at its end. -/
structure NamedAs (base : String) (kind : NameKind) (idx : Nat) (words name : String) :
    Prop where
  plain : PlainText words
  eq : name = base ++ kind.mark ++ kind.number idx ++ "_" ++ words

/-- The name of the sub-case with this number. -/
def Named (base : String) (kind : NameKind) (idx : Nat) (name : String) : Prop :=
  ∃ words, NamedAs base kind idx words name

/-- What the name of the first sub-case of a case can end with.  Nothing is said of the mode
`ms_python_train` of a design by crossing. -/
structure FirstWords (env : FuzzEnv) (jsonPath : String) (jsonObj : PyVal) (kind : NameKind)
    (words : String) : Prop where
  cross : kind = .single false ∨ kind = .multi false →
    ∃ descs, SubCaseDesignCross.makeDescs env.toDesignEnv jsonPath jsonObj = .ok descs ∧
      SubCaseDesignCross.FirstWords descs words
  fuzz : kind = .fuzz → SubCaseDesignFuzz.FirstWords jsonObj words

/-! ## §1. Numbers. -/

section Number

variable {kind : NameKind} {i j : Nat}

/-- A decimal numeral with zeros in front. -/
structure Numeral (i : Nat) (s : String) : Prop where
  digits : ∀ c ∈ s.toList, c.isDigit = true
  value : Nat.ofDigitChars 10 s.toList 0 = i
  ne_nil : s.toList ≠ []

/-- A number is written as a numeral. -/
theorem numeral_toString (i : Nat) : Numeral i (toString i) := by
  have hlist : (toString i).toList = Nat.toDigits 10 i := Nat.toList_repr
  constructor
  · rw [hlist]
    intro c hc
    exact Nat.isDigit_of_mem_toDigits (by decide) (by decide) hc
  · rw [hlist]
    exact Nat.ofDigitChars_ten_toDigits
  · rw [hlist]
    exact Nat.toDigits_ne_nil

/-- A zero in front changes nothing. -/
theorem Numeral.zero {s : String} (h : Numeral i s) : Numeral i ("0" ++ s) := by
  have hlist : ("0" ++ s).toList = '0' :: s.toList := String.toList_append
  constructor
  · rw [hlist, List.forall_mem_cons]
    exact ⟨by decide, h.digits⟩
  · rw [hlist, Nat.ofDigitChars_cons]
    exact h.value
  · rw [hlist]
    exact List.cons_ne_nil _ _

/-- So is one with zeros in front. -/
theorem numeral_padded (i : Nat) : Numeral i (SubCaseDesignCross.padded i) := by
  have h := numeral_toString i
  unfold SubCaseDesignCross.padded
  split
  · show Numeral i ("0" ++ "0" ++ toString i)
    rw [String.append_assoc]
    exact h.zero.zero
  · split
    · exact h.zero
    · show Numeral i ("" ++ toString i)
      rw [String.empty_append]
      exact h

/-- The number in a name is a numeral. -/
theorem numeral_number (kind : NameKind) (i : Nat) : Numeral i (kind.number i) := by
  unfold NameKind.number
  split
  · exact numeral_toString i
  · exact numeral_toString i
  · exact numeral_padded i

/-- Different indices have different numerals. -/
theorem number_injective (h : kind.number i = kind.number j) : i = j := by
  rw [← (numeral_number kind i).value, h]
  exact (numeral_number kind j).value

end Number

/-! ## §2. Reading names. -/

section Read

variable {base base' words words' name : String} {kind kind' : NameKind} {i j : Nat}

/-- The word in a mark by which it is told from the other pieces. -/
def NameKind.core : NameKind → List Char
  | multi true => "sub".toList
  | _ => "case".toList

/-- What is needed of a mark. -/
structure MarkOk (kind : NameKind) : Prop where
  core : kind.core <:+: kind.mark.toList
  core_ne_nil : kind.core ≠ []
  separator : '_' ∉ kind.core
  digits : ∀ c ∈ kind.mark.toList, ¬ c.isDigit = true

/-- No mark has digits. -/
theorem mark_digits (kind : NameKind) : ∀ c ∈ kind.mark.toList, ¬ c.isDigit = true := by
  have hall : kind.mark.toList.all (fun c => !c.isDigit) = true := by
    cases kind with
    | single ms => cases ms <;> decide
    | multi ms => cases ms <;> decide
    | fuzz => decide
  intro c hc
  simpa using List.all_eq_true.mp hall c hc

/-- Every mark has what is needed. -/
theorem markOk (kind : NameKind) : MarkOk kind := by
  have hdigits := mark_digits kind
  cases kind with
  | single ms => cases ms <;> exact ⟨by decide, by decide, by decide, hdigits⟩
  | multi ms => cases ms <;> exact ⟨by decide, by decide, by decide, hdigits⟩
  | fuzz => exact ⟨by decide, by decide, by decide, hdigits⟩

/-- The words of a format and a type have no mark. -/
theorem PlainText.not_core {words : String} (h : PlainText words) (kind : NameKind) :
    ¬ kind.core <:+: words.toList := by
  cases kind with
  | single ms => exact h.case
  | multi ms =>
      cases ms with
      | true => exact h.sub
      | false => exact h.case
  | fuzz => exact h.case

/-- The pieces of a name. -/
theorem toList_named (base mark number words : String) :
    (base ++ mark ++ number ++ "_" ++ words).toList
      = (base.toList ++ mark.toList) ++ (number.toList ++ '_' :: words.toList) := by
  simp [String.toList_append]

/-- **What a name is made of** is determined, the mark together with what comes before. -/
theorem NamedAs.inj (h : NamedAs base kind i words name) (h' : NamedAs base' kind' j words' name) :
    base ++ kind.mark = base' ++ kind'.mark ∧ kind.number i = kind'.number j ∧ words = words' := by
  have hi := numeral_number kind i
  have hj := numeral_number kind' j
  have heq : (base.toList ++ kind.mark.toList) ++ ((kind.number i).toList ++ '_' :: words.toList)
      = (base'.toList ++ kind'.mark.toList)
        ++ ((kind'.number j).toList ++ '_' :: words'.toList) := by
    rw [← toList_named, ← toList_named, ← h.eq, ← h'.eq]
  have hfront : base.toList ++ kind.mark.toList = base'.toList ++ kind'.mark.toList := by
    -- Neither front can be longer than the other one.
    rcases List.append_eq_append_iff.mp heq with ⟨t, ht, hrest⟩ | ⟨t, ht, hrest⟩
    · have hnil : t = [] := eq_nil_of_mark hi.ne_nil hi.digits (markOk kind').digits
        (markOk kind').core (markOk kind').core_ne_nil (markOk kind').separator
        (h.plain.not_core kind') (ht ▸ List.suffix_append _ t) hrest
      rw [ht, hnil, List.append_nil]
    · have hnil : t = [] := eq_nil_of_mark hj.ne_nil hj.digits (markOk kind).digits
        (markOk kind).core (markOk kind).core_ne_nil (markOk kind).separator
        (h'.plain.not_core kind) (ht ▸ List.suffix_append _ t) hrest
      rw [ht, hnil, List.append_nil]
  rw [hfront] at heq
  obtain ⟨hnumber, hwords⟩ := append_cons_inj (p := fun c => c.isDigit = true) hi.digits hj.digits
    (by decide) (List.append_cancel_left heq)
  refine ⟨?_, String.toList_inj.mp hnumber, String.toList_inj.mp hwords⟩
  apply String.toList_inj.mp
  rw [String.toList_append, String.toList_append, hfront]

/-- Mark and number of a name are, whatever its words. -/
theorem Named.inj (h : Named base kind i name) (h' : Named base' kind' j name) :
    base ++ kind.mark = base' ++ kind'.mark ∧ kind.number i = kind'.number j := by
  obtain ⟨words, hnamed⟩ := h
  obtain ⟨words', hnamed'⟩ := h'
  obtain ⟨hmark, hnumber, -⟩ := hnamed.inj hnamed'
  exact ⟨hmark, hnumber⟩

end Read

/-! ## §3. The names of a design. -/

/-- The characters of a name that has been checked. -/
theorem replaceSlash_of_valid {base : String} (h : checkNameValid (.str base) = .ok ()) :
    SubCaseDesignCross.replaceSlash base = base := by
  have hpattern : matchesNamePattern base = true := by
    unfold checkNameValid at h
    obtain ⟨_, _, h⟩ := bind_eq_ok.mp h
    obtain ⟨n, _, h⟩ := bind_eq_ok.mp h
    obtain ⟨_, _, h⟩ := bind_eq_ok.mp h
    rw [raiseIf_eq_ok] at h
    simpa using h
  have hslash : '/' ∉ base.toList := by
    unfold matchesNamePattern at hpattern
    rw [Bool.and_eq_true] at hpattern
    have hall := List.all_eq_true.mp hpattern.2
    intro hmem
    split at hall
    · next hline =>
        -- Only the line feed at the end is not looked at.
        obtain ⟨front, hfront⟩ := List.isSuffixOf_iff_suffix.mp hline
        rw [← hfront] at hall hmem
        have hdrop : (front ++ "\n".toList).dropLast = front := List.dropLast_concat
        rw [hdrop] at hall
        rcases List.mem_append.mp hmem with hmem | hmem
        · exact absurd (hall '/' hmem) (by decide)
        · exact absurd hmem (by decide)
    · exact absurd (hall '/' hmem) (by decide)
  unfold SubCaseDesignCross.replaceSlash
  have hmap : base.toList.map (fun c => if c = '/' then '_' else c) = base.toList.map id := by
    apply List.map_congr_left
    intro c hc
    exact if_neg fun heq : c = '/' => hslash (heq ▸ hc)
  rw [hmap, List.map_id, String.ofList_toList]

/-- The string of a field of a description. -/
theorem joined_plain {desc : Desc} {key s : String} (hdesc : PlainDesc desc)
    (hkey : key ∈ ["format", "type"])
    (h : SubCaseDesignCross.joined (desc.lookup key) = .ok s) : PlainText s := by
  exact hdesc key hkey s (joined_eq_ok.mp h)

namespace SubCaseDesignCross

section Cross

variable {env : DesignEnv} {base name : String} {kind : NameKind} {ms : Bool} {idx : Nat}
  {first : Desc}

/-- A crossing design is of one of two kinds. -/
theorem crossKind_cases (ms : Bool) (descs : Descs) :
    (descs.multi = true ∧ crossKind ms descs = .multi ms) ∨
      (descs.multi = false ∧ crossKind ms descs = .single ms) := by
  unfold crossKind
  cases descs.multi with
  | true => exact .inl ⟨rfl, rfl⟩
  | false => exact .inr ⟨rfl, rfl⟩

/-- The mark of a crossing design. -/
theorem mark_crossKind (ms : Bool) (descs : Descs) :
    (crossKind ms descs).mark = "_" ++ kindOf ms descs := by
  unfold crossKind kindOf
  cases descs.multi with
  | false => rfl
  | true => cases ms <;> rfl

/-- The words that a design puts at the end of a name. -/
def WordsOf (ms : Bool) (first : Desc) (words : String) : Prop :=
  ms = false → ∃ formatStr typeStr, joined (first.lookup "format") = .ok formatStr ∧
    joined (first.lookup "type") = .ok typeStr ∧ words = formatStr ++ "_" ++ typeStr

/-- The name that a design gives is of the form. -/
theorem named_of_caseNameOf {descs : Descs} (hfirst : PlainDesc first)
    (h : caseNameOf ms (base ++ (crossKind ms descs).mark) idx first = .ok name) :
    ∃ words, NamedAs base (crossKind ms descs) idx words name ∧ WordsOf ms first words := by
  unfold caseNameOf at h
  cases ms with
  | true =>
      rw [if_pos rfl] at h
      obtain ⟨typeStr, htype, h⟩ := bind_eq_ok.mp h
      cases h
      refine ⟨typeStr, ⟨joined_plain hfirst (by decide) htype, ?_⟩, fun hms => by cases hms⟩
      have hnumber : (crossKind true descs).number idx = toString idx := by
        unfold crossKind
        cases descs.multi <;> rfl
      rw [hnumber]
  | false =>
      rw [if_neg (by decide)] at h
      obtain ⟨formatStr, hformat, h⟩ := bind_eq_ok.mp h
      obtain ⟨typeStr, htype, h⟩ := bind_eq_ok.mp h
      cases h
      refine ⟨formatStr ++ "_" ++ typeStr, ⟨(joined_plain hfirst (by decide) hformat).join
        (joined_plain hfirst (by decide) htype), ?_⟩,
        fun _ => ⟨formatStr, typeStr, hformat, htype, rfl⟩⟩
      have hnumber : (crossKind false descs).number idx = padded idx := by
        unfold crossKind
        cases descs.multi <;> rfl
      rw [hnumber]
      simp only [String.append_assoc]

/-- One profile of every field makes one case. -/
theorem count_of_single {jsonObj : PyVal} {descs : Descs} {prepared : Prepared} {n : Nat}
    (hok : PreparedOk jsonObj descs prepared) (hcounts : Counts descs prepared n)
    (hsingle : descs.multi = false) : prepared.count = 1 := by
  have hone : ∀ tensor ∈ descs.inputDescList ++ descs.outputDescList, ∀ keys,
      Crossable keys tensor → volume keys tensor = 1 := by
    intro tensor htensor keys hcross
    rw [volume_eq_one]
    intro key hkey
    have hpos : 0 < (profiles tensor key).length :=
      List.length_pos_iff.mpr (hcross.profiles_ne_nil hkey)
    unfold Descs.multi at hsingle
    have hfew := List.any_eq_false.mp hsingle tensor htensor
    obtain ⟨l, hl, _⟩ := hcross.filled key hkey
    have hmem : (key, l) ∈ tensor := PyDict.mem_of_lookup hl
    have hle : ¬ 1 < l.length := by
      intro hlt
      exact hfew (List.any_eq_true.mpr ⟨(key, l), hmem, decide_eq_true hlt⟩)
    have hprofiles : profiles tensor key = l := by
      unfold profiles
      rw [hl]
      rfl
    rw [hprofiles] at hpos ⊢
    omega
  -- So all volumes are 1, whichever of them `_get_count` takes.
  obtain ⟨output, rest, houtput⟩ := List.exists_cons_of_ne_nil hok.made.output_ne_nil
  have hmem : output ∈ descs.outputDescList := by
    rw [houtput]
    exact List.mem_cons_self
  have hn : n = 1 := by
    rw [← hcounts.volumeOutput output hmem]
    exact hone output (List.mem_append_right _ hmem) _ (hok.made.output output hmem)
  by_cases hmany : 1 < descs.inputDescList.length
  · obtain ⟨input, rest, hinput⟩ := List.exists_cons_of_length_pos (Nat.lt_of_succ_lt hmany)
    have hmem : input ∈ descs.inputDescList := by
      rw [hinput]
      exact List.mem_cons_self
    have hvolume := hone input (List.mem_append_left _ hmem) _ (hok.made.input input hmem)
    rw [hok.made.cross, volume_append] at hvolume
    rw [hcounts.many hmany input hmem, hn, Nat.one_mul]
    exact Nat.eq_one_of_mul_eq_one_left hvolume
  · rw [hcounts.few (by omega), hn]

/-- What is said of the names of a design by crossing. -/
structure CrossNames (env : DesignEnv) (base : String) (descs : Descs) (ms : Bool)
    (design design' : SubCaseDesign) : Prop where
  made : makeDescs env design.currentJsonPath design.jsonObj = .ok descs
  mode : isMs design.jsonObj = .ok ms
  generates : Generates (fun idx case => Named base (crossKind ms descs) idx case.caseName)
    design design'
  one : descs.multi = false → (newCases design design').length = 1
  first : ∀ case, (newCases design design')[0]? = some case →
    ∃ words, NamedAs base (crossKind ms descs) design.caseIdx words case.caseName ∧
      (ms = false → FirstWords descs words)

/-- **The names of a design by crossing.** -/
theorem subcaseGenerate_named (hwords : PlainWords env.whiteLists)
    {design design' : SubCaseDesign} (hbase : design.jsonObj.get CASE_NAME = .ok (.str base))
    (hvalid : checkNameValid (.str base) = .ok ())
    (h : subcaseGenerate env design = .ok design') :
    ∃ descs ms, CrossNames env base descs ms design design' := by
  have hgenerate := h
  unfold subcaseGenerate at h
  obtain ⟨prepared, hprepare, h⟩ := bind_eq_ok.mp h
  obtain ⟨descs, ms, caseName, hprepared⟩ := prepare_inv hprepare
  obtain rfl : caseName = base :=
    PyVal.str.inj (Except.ok.inj (hprepared.name.symm.trans hbase))
  have hmark : prepared.casePrefix = caseName ++ (crossKind ms descs).mark := by
    rw [hprepared.casePrefix, replaceSlash_of_valid hvalid, mark_crossKind, String.append_assoc]
  have hplain := plainTensor_makeDescs hwords hprepared.made
  have hmade := descsOk_makeDescs hprepared.made
  obtain ⟨hgen, -⟩ := subcaseGenerate_generates (D := PlainDesc)
    (fun _ name hdesc => hdesc.named name) hprepared
    (forall_rows hmade.input hprepared.input fun tensor htensor p _ desc hdesc =>
      plainDesc_describe (hplain tensor (List.mem_append_left _ htensor)) hdesc)
    (forall_rows hmade.output hprepared.output fun tensor htensor p _ desc hdesc =>
      plainDesc_describe (hplain tensor (List.mem_append_right _ htensor)) hdesc) h
  -- The words of a name are those of the first output of the case.
  have hnamed : ∀ idx case, CaseMade PlainDesc (caseNameOf ms prepared.casePrefix) idx case →
      ∃ first words, Lib.first case.outputDesc = .ok first ∧
        NamedAs caseName (crossKind ms descs) idx words case.caseName ∧
          WordsOf ms first words := by
    intro idx case hcase
    obtain ⟨first, hfirst, hname⟩ := hcase.name
    have hmem : first ∈ case.outputDesc := mem_of_first hfirst
    rw [hmark] at hname
    obtain ⟨words, hnamed, hof⟩ := named_of_caseNameOf (hcase.output first hmem) hname
    exact ⟨first, words, hfirst, hnamed, hof⟩
  obtain ⟨prepared', n, hok, hcounts, hlength, hcases⟩ :=
    SubCaseDesignCross.subcaseGenerate_spec hprepared.made hgenerate
  refine ⟨descs, ms, hprepared.made, hprepared.mode, ?_, ?_, ?_⟩
  · apply hgen.imp
    intro idx case hcase
    obtain ⟨_, words, _, hnamed, _⟩ := hnamed idx case hcase
    exact ⟨words, hnamed⟩
  · intro hsingle
    exact hlength.trans (count_of_single hok hcounts hsingle)
  · intro case hcase
    obtain ⟨cases, htotal, -, -, hmades⟩ := hgen.cases
    rw [newCases_eq htotal] at hcase
    obtain ⟨first, words, hfirst, hnamed, hof⟩ := hnamed _ case (hmades 0 case hcase)
    refine ⟨words, hnamed, fun hms => ?_⟩
    obtain ⟨formatStr, typeStr, hformat, htype, rfl⟩ := hof hms
    have hat := hcases 0 case (by rw [htotal, List.drop_left]; exact hcase)
    exact firstWords_of_caseAt hok hcounts (hms ▸ hprepared.mode) hat hfirst hformat htype

end Cross

end SubCaseDesignCross

namespace SubCaseDesignFuzz

section Fuzz

variable {env : FuzzEnv} {base name casePrefix : String} {ms : Bool} {idx : Nat} {first : Desc}

/-- The name that a fuzz design gives is of the form, and its words are those of the first
output. -/
theorem named_of_caseNameOf {json₀ desc₀ : PyVal} (hfirst : PlainDesc first)
    (hms : SubCaseDesignCross.isMs json₀ = .ok ms)
    (hdesc : (listAt json₀ OUTPUT_DESC)[0]? = some desc₀)
    (hhold : ∀ key word, NamedField ms key → first.lookup key = some (.str word) →
      CanHold desc₀ key word)
    (h : caseNameOf ms (base ++ NameKind.fuzz.mark) idx first = .ok name) :
    ∃ words, NamedAs base .fuzz idx words name ∧ FirstWords json₀ words := by
  unfold caseNameOf at h
  obtain ⟨typeStr, htype, h⟩ := bind_eq_ok.mp h
  have hplain := joined_plain hfirst (by decide) htype
  have htypeHeld := hhold "type" typeStr (.inl rfl) (joined_eq_ok.mp htype)
  cases ms with
  | true =>
      cases h
      exact ⟨typeStr, ⟨hplain, rfl⟩, desc₀, true, typeStr, hdesc, hms, htypeHeld, .inl ⟨rfl, rfl⟩⟩
  | false =>
      obtain ⟨formatStr, hformat, h⟩ := bind_eq_ok.mp h
      cases h
      have hformatHeld := hhold "format" formatStr (.inr ⟨rfl, rfl⟩) (joined_eq_ok.mp hformat)
      refine ⟨formatStr ++ "_" ++ typeStr,
        ⟨(joined_plain hfirst (by decide) hformat).join hplain, ?_⟩, desc₀, false, typeStr, hdesc,
        hms, htypeHeld, .inr ⟨rfl, formatStr, hformatHeld, rfl⟩⟩
      show _ ++ SubCaseDesignCross.padded idx ++ "_" ++ formatStr ++ "_" ++ typeStr = _
      simp only [String.append_assoc]
      rfl

/-- **The names of a fuzz design.** -/
theorem subcaseGenerate_named (hwords : PlainWords env.whiteLists)
    {design design' : SubCaseDesign} (hbase : design.jsonObj.get CASE_NAME = .ok (.str base))
    (hvalid : checkNameValid (.str base) = .ok ())
    (h : subcaseGenerate env design = .ok design') :
    Generates (fun idx case => ∃ words, NamedAs base .fuzz idx words case.caseName ∧
      FirstWords design.jsonObj words) design design' := by
  obtain ⟨fuzzFunction, loopNum, settings, hsettings, hloop⟩ := subcaseGenerate_spec h
  have hmark : settings.casePrefix = base ++ NameKind.fuzz.mark := by
    have hcase := hsettings.casePrefix
    unfold casePrefixOf at hcase
    rw [hbase] at hcase
    have heq : SubCaseDesignCross.replaceSlash base ++ "_fuzz_case_" = settings.casePrefix :=
      Except.ok.inj hcase
    rw [← heq, replaceSlash_of_valid hvalid]
    rfl
  apply Generates.foldlM _ hloop
  intro round _ d d' hjson _ hround
  -- Every iteration starts with a copy of the case.
  apply (fuzzRound_generates (I := fun _ ori => CopiedJson design.jsonObj ori) _
    (hjson ▸ CopiedJson.refl d.jsonObj) hround).1
  intro d₁ d₂ ori ori' fuzzDict _ _ hcopied hcase
  obtain ⟨ms, inputDesc, outputDesc, described, attr, hstep⟩ := fuzzCase_spec hcase
  have hms : SubCaseDesignCross.isMs design.jsonObj = .ok ms := by
    rw [← hstep.mode]
    unfold SubCaseDesignCross.isMs
    rw [hcopied.others.get (by decide)]
  obtain ⟨_, case, _, hone⟩ := fuzzCase_copy hms hcopied hcase
  refine ⟨hone.copied, hstep.generates.imp ?_⟩
  intro idx case ⟨_, _, _, first, hfirst, hname⟩
  have hmem : first ∈ outputDesc := mem_of_first hfirst
  rw [hmark] at hname
  obtain ⟨desc₀, hdesc, hhold⟩ := canHold_of_made hcopied hstep.descs hfirst
  exact named_of_caseNameOf (makeDescsFuzz_plain hwords hstep.descs first hmem) hms hdesc hhold
    hname

end Fuzz

end SubCaseDesignFuzz

/-- What is said of the names of the sub-cases of a case. -/
structure CaseNames (env : FuzzEnv) (base : String) (kind : NameKind)
    (design design' : SubCaseDesign) : Prop where
  found : nameKindOf env design.currentJsonPath design.jsonObj = .ok kind
  generates : Generates (fun idx case => Named base kind idx case.caseName) design design'
  one : ∀ ms, kind = .single ms → (newCases design design').length = 1
  first : ∀ case, (newCases design design')[0]? = some case →
    ∃ words, NamedAs base kind design.caseIdx words case.caseName ∧
      FirstWords env design.currentJsonPath design.jsonObj kind words

/-- **The names of the sub-cases of a case.** -/
theorem CaseDesign.subcaseGenerate_named {env : FuzzEnv} {design design' : SubCaseDesign}
    {base : String} (hwords : PlainWords env.whiteLists)
    (hbase : design.jsonObj.get CASE_NAME = .ok (.str base))
    (hvalid : checkNameValid (.str base) = .ok ())
    (h : CaseDesign.subcaseGenerate env design = .ok design') :
    ∃ kind, CaseNames env base kind design design' := by
  unfold CaseDesign.subcaseGenerate at h
  obtain ⟨impl, himpl, h⟩ := bind_eq_ok.mp h
  split at h
  · next hfuzz =>
      have hgen := SubCaseDesignFuzz.subcaseGenerate_named hwords hbase hvalid h
      refine ⟨.fuzz, ?_, hgen.imp fun idx case hcase => ?_, fun ms hkind => ?_,
        fun case hcase => ?_⟩
      · unfold nameKindOf
        exact bind_eq_ok.mpr ⟨impl, himpl, if_pos hfuzz⟩
      · obtain ⟨words, hnamed, _⟩ := hcase
        exact ⟨words, hnamed⟩
      · cases hkind
      · obtain ⟨cases, htotal, -, -, hcases⟩ := hgen.cases
        rw [newCases_eq htotal] at hcase
        obtain ⟨words, hnamed, hfirst⟩ := hcases 0 case hcase
        refine ⟨words, hnamed, fun hkind => ?_, fun _ => hfirst⟩
        rcases hkind with h | h <;> cases h
  · next hcross =>
      obtain ⟨descs, ms, hnames⟩ :=
        SubCaseDesignCross.subcaseGenerate_named hwords hbase hvalid h
      have hkinds := SubCaseDesignCross.crossKind_cases ms descs
      refine ⟨SubCaseDesignCross.crossKind ms descs, ?_, hnames.generates, fun ms' hkind => ?_,
        fun case hcase => ?_⟩
      · unfold nameKindOf
        apply bind_eq_ok.mpr ⟨impl, himpl, _⟩
        rw [if_neg hcross]
        exact bind_eq_ok.mpr ⟨descs, hnames.made, bind_eq_ok.mpr ⟨ms, hnames.mode, rfl⟩⟩
      · -- The mark of a single case is given only where there is one combination.
        rcases hkinds with ⟨_, heq⟩ | ⟨hmulti, _⟩
        · cases heq.symm.trans hkind
        · exact hnames.one hmulti
      · obtain ⟨words, hnamed, hfirst⟩ := hnames.first case hcase
        refine ⟨words, hnamed, fun hkind => ⟨descs, hnames.made, hfirst ?_⟩, fun hkind => ?_⟩
        · rcases hkinds with ⟨_, heq⟩ | ⟨_, heq⟩
          · rw [heq] at hkind
            rcases hkind with h | h <;> cases h
            rfl
          · rw [heq] at hkind
            rcases hkind with h | h <;> cases h
            rfl
        · rcases hkinds with ⟨_, heq⟩ | ⟨_, heq⟩
          · cases heq.symm.trans hkind
          · cases heq.symm.trans hkind

end HwEfat.Main
