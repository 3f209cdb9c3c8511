/-
  HwEfat.Main.CaseDesign.Expect — whether the expectation of a case reaches its
  sub-cases.

  The report cuts the name of a sub-case at the last mark that it finds, `_sub_case` before
  `_fuzz_case` before `_case`.  Number, format and type have none, so they are passed over
  (`rfind_named`), and what decides is the name of the case itself (`Decodable`).  The mark
  `_sub_` of the mode `ms_python_train` is none of the three, so the sub-cases with it are
  never traced back.
-/
import HwEfat.Lib.Text
import HwEfat.Main.CaseDesign.Validation
import HwEfat.Main.SubCaseDesign.Names

namespace HwEfat.Main

open HwEfat.Lib (PyError PyVal PyDict bind_eq_ok foldlM_history contains endswith beforeLast
  rfindChars rfindChars_isSome_iff rfindChars_le rfindChars_append_self rfindChars_append
  rfindChars_append_rest isInfix_append_cons_iff not_isInfix_of_forall)

/-- What comes between the name of the case and the separator before the number. -/
def NameKind.stem : NameKind → String
  | single _ => "_case"
  | multi false => "_sub_case"
  | multi true => "_sub"
  | fuzz => "_fuzz_case"

/-- The name of a case can be read off the names of its sub-cases. -/
def Decodable (kind : NameKind) (base : String) : Prop :=
  match kind with
  | .single _ => contains base "_sub_case" = false ∧ contains base "_fuzz_case" = false ∧
      endswith base "_sub" = false ∧ endswith base "_fuzz" = false
  | .multi false => True
  | .multi true => False
  | .fuzz => contains base "_sub_case" = false

/-! ## §1. The last mark of a name. -/

section Read

variable {base name : String} {kind : NameKind} {i : Nat}

/-- A mark ends with the separator. -/
theorem toList_mark (kind : NameKind) : kind.mark.toList = kind.stem.toList ++ ['_'] := by
  cases kind with
  | single ms => cases ms <;> decide
  | multi ms => cases ms <;> decide
  | fuzz => decide

/-- A name, cut before the separator. -/
structure Cut (base : String) (kind : NameKind) (name : String) (rest : List Char) : Prop where
  name : name.toList = base.toList ++ kind.stem.toList ++ '_' :: rest
  ne_nil : rest ≠ []
  case : ¬ "case".toList <:+: '_' :: rest

/-- The name of a sub-case can be cut behind the stem of its mark. -/
theorem Named.cut (h : Named base kind i name) : ∃ rest, Cut base kind name rest := by
  obtain ⟨words, hwords, rfl⟩ := h
  have hnumeral := numeral_number kind i
  refine ⟨(kind.number i).toList ++ '_' :: words.toList, ?_, ?_, ?_⟩
  · rw [toList_named, toList_mark]
    simp
  · simp
  · -- Neither the number nor a word has it.
    show ¬ "case".toList <:+: [] ++ '_' :: ((kind.number i).toList ++ '_' :: words.toList)
    rw [isInfix_append_cons_iff (by decide), isInfix_append_cons_iff (by decide), not_or, not_or]
    refine ⟨by decide, ?_, hwords.case⟩
    exact not_isInfix_of_forall (p := fun c => c.isDigit = true)
      ⟨'c', by decide, by decide⟩ hnumeral.digits

/-- **Marks are looked for in front of the number only.** -/
theorem Cut.rfind {rest : List Char} (h : Cut base kind name rest) {mark : String}
    (start : List Char) (hmark : mark.toList = start ++ "case".toList) :
    rfindChars mark.toList name.toList
      = rfindChars mark.toList (base.toList ++ kind.stem.toList) := by
  rw [h.name, hmark]
  apply rfindChars_append_rest (by decide) h.case
  intro a ha
  obtain rfl : '_' = a := Option.some.inj ha
  decide

/-- A word that ends in `case` is found in front of the cut only. -/
theorem Cut.contains {rest : List Char} (h : Cut base kind name rest) {mark : String}
    (start : List Char) (hmark : mark.toList = start ++ "case".toList) :
    Lib.contains name mark = true ↔ mark.toList <:+: base.toList ++ kind.stem.toList := by
  unfold Lib.contains
  rw [h.rfind start hmark, rfindChars_isSome_iff]

/-- A cut behind the name of the case. -/
theorem Cut.beforeLast_eq {rest : List Char} (h : Cut base kind name rest) {mark : String}
    (start : List Char) (hmark : mark.toList = start ++ "case".toList)
    (hstem : kind.stem = mark) : beforeLast name mark = base := by
  unfold beforeLast
  rw [h.rfind start hmark, hstem, rfindChars_append_self]
  show String.ofList (name.toList.take base.toList.length) = base
  rw [h.name, List.append_assoc, List.take_left, String.ofList_toList]

/-- A cut inside it. -/
theorem beforeLast_ne_of_lt {mark : String} {k : Nat}
    (hfind : rfindChars mark.toList name.toList = some k) (hlt : k < base.toList.length) :
    beforeLast name mark ≠ base := by
  unfold beforeLast
  rw [hfind]
  intro heq
  have hlength : (String.ofList (name.toList.take k)).toList.length = base.toList.length := by
    rw [← heq]
  rw [String.toList_ofList, List.length_take] at hlength
  omega

/-- A mark that is longer than the stem is found inside the name of the case. -/
theorem Cut.beforeLast_ne {rest : List Char} (h : Cut base kind name rest) {mark : String}
    (start : List Char) (hmark : mark.toList = start ++ "case".toList)
    (hlonger : kind.stem.toList.length < mark.toList.length)
    (hcontains : Lib.contains name mark = true) : beforeLast name mark ≠ base := by
  obtain ⟨k, hfind⟩ := Option.isSome_iff_exists.mp hcontains
  apply beforeLast_ne_of_lt hfind
  rw [h.rfind start hmark] at hfind
  have hle := rfindChars_le hfind
  rw [List.length_append] at hle
  omega

/-- A mark that does not end inside the stem is looked for in the name of the case only. -/
theorem Cut.rfind_base {rest : List Char} (h : Cut base kind name rest) {mark : String}
    (start : List Char) (hmark : mark.toList = start ++ "case".toList)
    (hstem : ¬ mark.toList <:+: kind.stem.toList)
    (hover : ∀ t ∈ mark.toList.tails, t <+: kind.stem.toList → t = []) :
    rfindChars mark.toList name.toList = rfindChars mark.toList base.toList := by
  rw [h.rfind start hmark]
  apply rfindChars_append _ hstem
  · intro t ht
    exact hover t ((List.mem_tails _ _).mpr ht)
  · rw [hmark]
    simp

/-- And if the stem does not help to make it, in the base name. -/
theorem Cut.contains_base {rest : List Char} (h : Cut base kind name rest) {mark : String}
    (start : List Char) (hmark : mark.toList = start ++ "case".toList)
    (hstem : ¬ mark.toList <:+: kind.stem.toList)
    (hover : ∀ t ∈ mark.toList.tails, t <+: kind.stem.toList → t = []) :
    Lib.contains name mark = Lib.contains base mark := by
  unfold Lib.contains
  rw [h.rfind_base start hmark hstem hover]

/-- Then the cut is inside it. -/
theorem Cut.beforeLast_base_ne {rest : List Char} (h : Cut base kind name rest) {mark : String}
    (start : List Char) (hmark : mark.toList = start ++ "case".toList)
    (hstem : ¬ mark.toList <:+: kind.stem.toList)
    (hover : ∀ t ∈ mark.toList.tails, t <+: kind.stem.toList → t = [])
    (hcontains : Lib.contains base mark = true) : beforeLast name mark ≠ base := by
  obtain ⟨k, hfind⟩ := Option.isSome_iff_exists.mp hcontains
  have hle := rfindChars_le hfind
  rw [← h.rfind_base start hmark hstem hover] at hfind
  apply beforeLast_ne_of_lt hfind
  have hpos : 0 < mark.toList.length := by
    rw [hmark]
    simp
  omega

/-- Without a mark only the last character is cut off. -/
theorem Cut.beforeLast_none_ne {rest : List Char} (h : Cut base kind name rest) {mark : String}
    (hcontains : ¬ Lib.contains name mark = true) : beforeLast name mark ≠ base := by
  have hnone : rfindChars mark.toList name.toList = none := by
    unfold Lib.contains at hcontains
    simpa using hcontains
  unfold beforeLast
  rw [hnone]
  intro heq
  have hlength : (String.ofList name.toList.dropLast).toList.length = base.toList.length := by
    rw [← heq]
  have hpos := List.length_pos_iff.mpr h.ne_nil
  rw [String.toList_ofList, List.length_dropLast, h.name, List.length_append, List.length_append,
    List.length_cons] at hlength
  omega

/-! ## §2. Reading the name of the case. -/

/-- A mark that ends with `_case`, after one profile: it is part of the name of the case, or
that name ends with what the mark has in front of `_case`. -/
theorem single_contains_iff {ms : Bool} {rest : List Char} (h : Cut base (.single ms) name rest)
    {mark front : String} (start : List Char) (hmark : mark.toList = start ++ "case".toList)
    (hfront : mark.toList = front.toList ++ "_case".toList)
    (hstem : ¬ mark.toList <:+: "_case".toList)
    (hover : ∀ t ∈ mark.toList.tails, t <+: "_case".toList → t = [] ∨ t = "_case".toList) :
    Lib.contains name mark = true ↔
      Lib.contains base mark = true ∨ endswith base front = true := by
  have hbase : Lib.contains base mark = true ↔ mark.toList <:+: base.toList :=
    rfindChars_isSome_iff
  have hends : endswith base front = true ↔ front.toList <:+ base.toList :=
    List.isSuffixOf_iff_suffix
  rw [h.contains start hmark, hbase, hends]
  show mark.toList <:+: base.toList ++ "_case".toList ↔ _
  rw [List.infix_append_iff]
  constructor
  · rintro (hin | hin | ⟨l₁, l₂, heq, h₁, h₂⟩)
    · exact Or.inl hin
    · exact absurd hin hstem
    · rcases hover l₂ ((List.mem_tails _ _).mpr (heq ▸ List.suffix_append l₁ l₂)) h₂ with rfl | rfl
      · rw [List.append_nil] at heq
        exact Or.inl (heq ▸ h₁.isInfix)
      · rw [hfront] at heq
        exact Or.inr (List.append_cancel_right heq ▸ h₁)
  · rintro (hin | hends)
    · exact Or.inl hin
    · exact Or.inr (Or.inr ⟨front.toList, "_case".toList, hfront, hends, List.prefix_rfl⟩)

/-- The three marks. -/
theorem marks_core : "_sub_case".toList = "_sub_".toList ++ "case".toList ∧
    "_fuzz_case".toList = "_fuzz_".toList ++ "case".toList ∧
    "_case".toList = "_".toList ++ "case".toList := by decide

/-- After one profile the longer marks must not be found. -/
theorem parentCaseName_single {report : OpSTCaseReport} {ms : Bool} {rest : List Char}
    (hcut : Cut base (.single ms) report.caseName rest) :
    report.parentCaseName = base ↔ Decodable (.single ms) base := by
  obtain ⟨hsub, hfuzz, hcase⟩ := marks_core
  have hsubIff : Lib.contains report.caseName "_sub_case" = true ↔
      Lib.contains base "_sub_case" = true ∨ endswith base "_sub" = true :=
    single_contains_iff hcut _ hsub (by decide) (by decide) (by decide)
  have hfuzzIff : Lib.contains report.caseName "_fuzz_case" = true ↔
      Lib.contains base "_fuzz_case" = true ∨ endswith base "_fuzz" = true :=
    single_contains_iff hcut _ hfuzz (by decide) (by decide) (by decide)
  have hdecodable : Decodable (.single ms) base ↔
      ¬ Lib.contains report.caseName "_sub_case" = true ∧
        ¬ Lib.contains report.caseName "_fuzz_case" = true := by
    show Lib.contains base "_sub_case" = false ∧ Lib.contains base "_fuzz_case" = false ∧
      endswith base "_sub" = false ∧ endswith base "_fuzz" = false ↔ _
    rw [hsubIff, hfuzzIff]
    rw [not_or, not_or, Bool.not_eq_true, Bool.not_eq_true, Bool.not_eq_true, Bool.not_eq_true]
    constructor
    · rintro ⟨hin, hin', hend, hend'⟩
      exact ⟨⟨hin, hend⟩, hin', hend'⟩
    · rintro ⟨⟨hin, hend⟩, hin', hend'⟩
      exact ⟨hin, hin', hend, hend'⟩
  unfold OpSTCaseReport.parentCaseName
  rw [hdecodable]
  -- The marks are tried in order, and one that is found cuts the name too early.
  by_cases hin : Lib.contains report.caseName "_sub_case" = true
  · rw [if_pos hin]
    exact iff_of_false (hcut.beforeLast_ne _ hsub (by cases ms <;> decide) hin)
      fun hnot => hnot.1 hin
  · rw [if_neg hin]
    by_cases hin' : Lib.contains report.caseName "_fuzz_case" = true
    · rw [if_pos hin']
      exact iff_of_false (hcut.beforeLast_ne _ hfuzz (by cases ms <;> decide) hin')
        fun hnot => hnot.2 hin'
    · rw [if_neg hin']
      exact iff_of_true (hcut.beforeLast_eq _ hcase rfl) ⟨hin, hin'⟩

/-- After several profiles the first mark is found behind the name of the case. -/
theorem parentCaseName_multi {report : OpSTCaseReport} {rest : List Char}
    (hcut : Cut base (.multi false) report.caseName rest) : report.parentCaseName = base := by
  obtain ⟨hsub, -, -⟩ := marks_core
  have hin : Lib.contains report.caseName "_sub_case" = true := by
    rw [hcut.contains _ hsub]
    exact (List.suffix_append _ _).isInfix
  unfold OpSTCaseReport.parentCaseName
  rw [if_pos hin]
  exact hcut.beforeLast_eq _ hsub rfl

/-- In the mode `ms_python_train` none of the marks is in the stem, so what is found is in the
name of the case. -/
theorem parentCaseName_multiMs {report : OpSTCaseReport} {rest : List Char}
    (hcut : Cut base (.multi true) report.caseName rest) : report.parentCaseName ≠ base := by
  obtain ⟨hsub, hfuzz, hcase⟩ := marks_core
  unfold OpSTCaseReport.parentCaseName
  rw [hcut.contains_base _ hsub (by decide) (by decide),
    hcut.contains_base _ hfuzz (by decide) (by decide)]
  split
  · next hin => exact hcut.beforeLast_base_ne _ hsub (by decide) (by decide) hin
  · split
    · next hin => exact hcut.beforeLast_base_ne _ hfuzz (by decide) (by decide) hin
    · by_cases hin : Lib.contains base "_case" = true
      · exact hcut.beforeLast_base_ne _ hcase (by decide) (by decide) hin
      · exact hcut.beforeLast_none_ne
          (hcut.contains_base _ hcase (by decide) (by decide) ▸ hin)

/-- A fuzz case: the mark that is looked for first must not be in its name. -/
theorem parentCaseName_fuzz {report : OpSTCaseReport} {rest : List Char}
    (hcut : Cut base .fuzz report.caseName rest) :
    report.parentCaseName = base ↔ Decodable .fuzz base := by
  obtain ⟨hsub, hfuzz, -⟩ := marks_core
  have hsubIff := hcut.contains_base _ hsub (by decide) (by decide)
  have hin : Lib.contains report.caseName "_fuzz_case" = true := by
    rw [hcut.contains _ hfuzz]
    exact (List.suffix_append _ _).isInfix
  unfold OpSTCaseReport.parentCaseName
  show _ ↔ Lib.contains base "_sub_case" = false
  by_cases hbase : Lib.contains base "_sub_case" = true
  · rw [if_pos (hsubIff.trans hbase)]
    apply iff_of_false (hcut.beforeLast_base_ne _ hsub (by decide) (by decide) hbase)
    rw [hbase]
    decide
  · rw [if_neg (hsubIff ▸ hbase), if_pos hin]
    exact iff_of_true (hcut.beforeLast_eq _ hfuzz rfl) (Bool.not_eq_true _ ▸ hbase)

/-- **The name that is read off** is the name of the case exactly if that can be read off. -/
theorem parentCaseName_iff {report : OpSTCaseReport} (h : Named base kind i report.caseName) :
    report.parentCaseName = base ↔ Decodable kind base := by
  obtain ⟨rest, hcut⟩ := h.cut
  cases kind with
  | single ms => exact parentCaseName_single hcut
  | multi ms =>
      cases ms with
      | false => exact iff_of_true (parentCaseName_multi hcut) trivial
      | true => exact iff_of_false (parentCaseName_multiMs hcut) id
  | fuzz => exact parentCaseName_fuzz hcut

end Read

/-! ## §3. The expectations of a file. -/

/-- The entry of a case has the expectation `failed`. -/
def ExpectsFailed (opCase : PyVal) : Prop :=
  ∃ v, opCase.get "expect" = .ok v ∧ v.isStr EXPECT_FAILED = true

section Expectations

variable {base : String} {opCase entry : PyVal} {d d' : PyDict String}

/-- An entry with the name. -/
theorem setExpectCase_own (hname : opCase.get CASE_NAME = .ok (.str base))
    (h : OpSTReport.setExpectCase d opCase = .ok d') :
    d'.lookup base = some EXPECT_FAILED ↔ ExpectsFailed opCase := by
  -- The entry starts with success; only a supported value overwrites it.
  have hsuccess : (d.set base EXPECT_SUCCESS).lookup base ≠ some EXPECT_FAILED := by
    rw [PyDict.lookup_set, if_pos rfl]
    decide
  unfold OpSTReport.setExpectCase at h
  rw [hname] at h
  obtain ⟨name, heq, h⟩ := bind_eq_ok.mp h
  cases heq
  obtain ⟨d₁, heq, h⟩ := bind_eq_ok.mp h
  cases heq
  obtain ⟨value, hvalue, h⟩ := bind_eq_ok.mp h
  have hfailed : ExpectsFailed opCase ↔ value.isStr EXPECT_FAILED = true := by
    constructor
    · intro ⟨v, hv, hstr⟩
      cases hvalue.symm.trans hv
      exact hstr
    · intro hstr
      exact ⟨value, hvalue, hstr⟩
  rw [hfailed]
  split at h
  · next expectValue =>
      split at h
      · cases h
        rw [PyDict.lookup_set, if_pos rfl, Option.some.injEq]
        exact beq_iff_eq.symm
      · next hnot =>
          cases h
          rw [not_or] at hnot
          exact iff_of_false hsuccess fun hstr => hnot.2 (beq_iff_eq.mp hstr)
  · next hother =>
      cases h
      apply iff_of_false hsuccess
      intro hstr
      cases value with
      | str s => exact hother s rfl
      | _ => cases hstr

/-- An entry with another name. -/
theorem setExpectCase_other (hname : opCase.get CASE_NAME ≠ .ok (.str base))
    (h : OpSTReport.setExpectCase d opCase = .ok d') : d'.lookup base = d.lookup base := by
  unfold OpSTReport.setExpectCase at h
  obtain ⟨name, hget, h⟩ := bind_eq_ok.mp h
  -- Neither of the two assignments is to this name.
  have hset : ∀ (e e' : PyDict String) (value : String),
      OpSTReport.setNamed e name value = .ok e' → e'.lookup base = e.lookup base := by
    intro e e' value hset
    unfold OpSTReport.setNamed at hset
    split at hset
    · next s =>
        cases hset
        rw [PyDict.lookup_set, if_neg]
        rintro rfl
        exact hname hget
    · cases hset
    · cases hset
    · cases hset
      rfl
  obtain ⟨d₁, hfirst, h⟩ := bind_eq_ok.mp h
  have h₁ := hset d d₁ EXPECT_SUCCESS hfirst
  obtain ⟨value, _, h⟩ := bind_eq_ok.mp h
  split at h
  · split at h
    · exact (hset d₁ d' _ h).trans h₁
    · cases h
      exact h₁
  · cases h
    exact h₁

/-- **What a file says of a case** that it has once. -/
theorem lookup_setExpect {rpt rpt' : OpSTReport} {opCases : List PyVal}
    (h : rpt.setExpect (.list opCases) = .ok rpt') (hentry : entry ∈ opCases)
    (hname : entry.get CASE_NAME = .ok (.str base))
    (honce : ∀ other ∈ opCases, other.get CASE_NAME = .ok (.str base) → other = entry) :
    rpt'.expectDict.lookup base = some EXPECT_FAILED ↔ ExpectsFailed entry := by
  unfold OpSTReport.setExpect at h
  obtain ⟨l, hl, h⟩ := bind_eq_ok.mp h
  cases hl
  obtain ⟨expectDict, hloop, h⟩ := bind_eq_ok.mp h
  cases h
  -- The invariant speaks of the entries passed so far: once the own one is among them, it
  -- decides.
  have hinv : (∀ x ∈ opCases, x ∈ opCases) → entry ∈ opCases →
      (expectDict.lookup base = some EXPECT_FAILED ↔ ExpectsFailed entry) := by
    apply foldlM_history (I := fun passed (e : PyDict String) => (∀ x ∈ passed, x ∈ opCases) →
      entry ∈ passed → (e.lookup base = some EXPECT_FAILED ↔ ExpectsFailed entry)) _ _ hloop
    · intro passed opCase e e' hbefore hstep hsub hmem
      by_cases hown : opCase.get CASE_NAME = .ok (.str base)
      · obtain rfl : opCase = entry := honce opCase (hsub opCase (by simp)) hown
        exact setExpectCase_own hown hstep
      · rw [setExpectCase_other hown hstep]
        apply hbefore fun x hx => hsub x (List.mem_append_left _ hx)
        rcases List.mem_append.mp hmem with hmem | hmem
        · exact hmem
        · rw [List.mem_singleton.mp hmem] at hname
          exact absurd hname hown
    · intro _ hnil
      cases hnil
  exact hinv (fun _ hx => hx) hentry

end Expectations

/-! ## §4. The expectation of a case and its sub-cases. -/

/-- A sub-case is expected to fail, once `update_case_expect` has looked up what `set_expect`
made of a file, exactly if the entry of the case in the file expects it. -/
def ExpectReaches (base : String) (report : OpSTCaseReport) : Prop :=
  ∀ (rpt rpt' : OpSTReport) (opCases : List PyVal) (entry : PyVal),
    rpt.setExpect (.list opCases) = .ok rpt' → entry ∈ opCases →
    entry.get CASE_NAME = .ok (.str base) →
    (∀ other ∈ opCases, other.get CASE_NAME = .ok (.str base) → other = entry) →
      ((report.updateCaseExpect rpt'.expectDict).expect = EXPECT_FAILED ↔ ExpectsFailed entry)

/-- An entry that expects its case to fail. -/
def failedEntry (base : String) : PyVal :=
  .dict [(CASE_NAME, .str base), ("expect", .str EXPECT_FAILED)]

/-- What a file with only this entry is read as. -/
theorem setExpect_failedEntry (base : String) :
    OpSTReport.setExpect {} (.list [failedEntry base])
      = .ok { expectDict := [(base, EXPECT_FAILED)] } := by
  show Except.ok ({ expectDict := PyDict.set [(base, EXPECT_SUCCESS)] base EXPECT_FAILED } :
    OpSTReport) = _
  unfold PyDict.set
  simp

/-- **The expectation reaches a sub-case exactly if its name leads back to the case**: a name
that leads elsewhere misses the expectation of `failedEntry`. -/
theorem expectReaches_iff {base : String} {report : OpSTCaseReport}
    (hfresh : report.expect = EXPECT_SUCCESS) :
    ExpectReaches base report ↔ report.parentCaseName = base := by
  constructor
  · intro hreaches
    have hfailed : ((report.updateCaseExpect [(base, EXPECT_FAILED)]).expect = EXPECT_FAILED ↔
        ExpectsFailed (failedEntry base)) :=
      hreaches _ _ _ _ (setExpect_failedEntry base) (List.mem_singleton_self _) rfl
        fun _ hother _ => List.mem_singleton.mp hother
    have hexpect := hfailed.mpr ⟨.str EXPECT_FAILED, rfl, by decide⟩
    by_contra hne
    unfold OpSTCaseReport.updateCaseExpect at hexpect
    rw [if_neg, hfresh] at hexpect
    · revert hexpect
      decide
    · rw [List.lookup_cons, beq_eq_false_iff_ne.mpr hne]
      simp
  · intro hbase rpt rpt' opCases entry hset hentry hname honce
    rw [← lookup_setExpect hset hentry hname honce, ← hbase]
    unfold OpSTCaseReport.updateCaseExpect
    split
    · next hfailed => exact iff_of_true rfl hfailed
    · next hnot =>
        apply iff_of_false _ hnot
        rw [hfresh]
        decide

namespace CaseDesign

/-- **Whether the expectation of a case reaches its sub-cases**: exactly if the name of the
case can be read off their names. -/
theorem expect_reaches_iff {env : FuzzEnv} {design design' : SubCaseDesign} {base : String}
    {kind : NameKind} (hwords : PlainWords env.whiteLists)
    (hname : design.jsonObj.get CASE_NAME = .ok (.str base))
    (hvalid : checkNameValid (.str base) = .ok ())
    (hkind : nameKindOf env design.currentJsonPath design.jsonObj = .ok kind)
    (h : subcaseGenerate env design = .ok design') :
    ∀ case ∈ newCases design design',
      (case.reportOf.parentCaseName = base ↔ Decodable kind base) ∧
      (ExpectReaches base case.reportOf ↔ Decodable kind base) := by
  obtain ⟨kind', hkind', hgen, -, -⟩ := subcaseGenerate_named hwords hname hvalid h
  obtain rfl : kind' = kind := Except.ok.inj (hkind'.symm.trans hkind)
  intro case hcase
  obtain ⟨idx, hnamed⟩ := hgen.of_mem_newCases hcase
  have hparent : case.reportOf.parentCaseName = base ↔ Decodable kind' base :=
    parentCaseName_iff hnamed
  exact ⟨hparent, (expectReaches_iff rfl).trans hparent⟩

/-- A case of one file. -/
def addSubCases (caseName : String) (rest : List (String × PyVal)) : SubCaseDesign :=
  subCaseDesign { caseNameList := none } "/st/Add.json" (addCase caseName rest)

/-- The law at a case `Add` with one new sub-case. -/
theorem expect_reaches_iff_add :
    ∃ design', subcaseGenerate (oneFile []).toFuzzEnv (addSubCases "Add" []) = .ok design' ∧
      (newCases (addSubCases "Add" []) design').length = 1 ∧
      ∀ case ∈ newCases (addSubCases "Add" []) design',
        case.reportOf.parentCaseName = "Add" ∧ ExpectReaches "Add" case.reportOf := by
  obtain ⟨design', hok, htest⟩ := Lib.exists_eq_ok
    (x := subcaseGenerate (oneFile []).toFuzzEnv (addSubCases "Add" []))
    (p := fun design' => (newCases (addSubCases "Add" []) design').length == 1)
    (by decide +kernel)
  obtain ⟨_, hvalid, -⟩ := Lib.exists_eq_ok (x := checkNameValid (.str "Add"))
    (p := fun _ => true) (by decide +kernel)
  obtain ⟨kind, hkind, hsingle⟩ := Lib.exists_eq_ok
    (x := nameKindOf (oneFile []).toFuzzEnv "/st/Add.json" (addCase "Add" []))
    (p := fun kind => decide (kind = .single false)) (by decide +kernel)
  obtain rfl := of_decide_eq_true hsingle
  refine ⟨design', hok, beq_iff_eq.mp htest, fun case hcase => ?_⟩
  have hiff := expect_reaches_iff plainWords_plainEnv (rfl : (addSubCases "Add" []).jsonObj.get
    CASE_NAME = .ok (.str "Add")) hvalid hkind hok case hcase
  have hdecodable : Decodable (.single false) "Add" := by
    show Lib.contains "Add" "_sub_case" = false ∧ Lib.contains "Add" "_fuzz_case" = false ∧
      endswith "Add" "_sub" = false ∧ endswith "Add" "_fuzz" = false
    decide
  exact ⟨hiff.1.mpr hdecodable, hiff.2.mpr hdecodable⟩

/-- The only sub-case of `x_sub` is traced back to `x`, so that it is not expected to fail when
`x_sub` is. -/
theorem expectation_is_lost :
    ∃ design' case rpt',
      subcaseGenerate (oneFile []).toFuzzEnv (addSubCases "x_sub" [("expect", .str "failed")])
        = .ok design' ∧
      case ∈ newCases (addSubCases "x_sub" [("expect", .str "failed")]) design' ∧
      OpSTReport.setExpect {} (.list [addCase "x_sub" [("expect", .str "failed")]]) = .ok rpt' ∧
      case.reportOf.parentCaseName = "x" ∧
      (case.reportOf.updateCaseExpect rpt'.expectDict).expect = EXPECT_SUCCESS ∧
      ¬ ExpectReaches "x_sub" case.reportOf := by
  obtain ⟨design', hok, htest⟩ := Lib.exists_eq_ok
    (x := subcaseGenerate (oneFile []).toFuzzEnv
      (addSubCases "x_sub" [("expect", .str "failed")]))
    (p := fun design' => (newCases (addSubCases "x_sub" [("expect", .str "failed")]) design').any
      fun case => case.caseName == "x_sub_case_001_ND_float") (by decide +kernel)
  obtain ⟨rpt', hset, hlookup⟩ := Lib.exists_eq_ok
    (x := OpSTReport.setExpect {} (.list [addCase "x_sub" [("expect", .str "failed")]]))
    (p := fun rpt' => rpt'.expectDict.lookup "x" == none) (by decide +kernel)
  obtain ⟨case, hcase, hname⟩ := List.any_eq_true.mp htest
  have hparent : case.reportOf.parentCaseName = "x" := by
    unfold OpSTCaseReport.parentCaseName
    show (if Lib.contains case.caseName "_sub_case" then beforeLast case.caseName "_sub_case"
      else if Lib.contains case.caseName "_fuzz_case" then beforeLast case.caseName "_fuzz_case"
      else beforeLast case.caseName "_case") = "x"
    rw [beq_iff_eq.mp hname]
    decide +kernel
  refine ⟨design', case, rpt', hok, hcase, hset, hparent, ?_, ?_⟩
  · unfold OpSTCaseReport.updateCaseExpect
    rw [hparent, beq_iff_eq.mp hlookup]
    rfl
  · rw [expectReaches_iff rfl, hparent]
    decide

end CaseDesign

end HwEfat.Main
