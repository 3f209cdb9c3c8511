/-
  HwEfat.Main.SubCaseDesign.FuzzOwn — whose values the cases of one loop iteration carry.

  The k-th case of an iteration should have, for every placeholder of the JSON file, the
  value that the k-th dictionary of the fuzz function gives (`OwnValues`).  But the
  dictionaries share one copy of the case, and the attributes of all cases are those of that
  copy.  So a dictionary has its values only where the copy, as it finds it, has no others
  (`Ready`).

  Main result: `own_values_iff`.
-/
import HwEfat.Main.SubCaseDesign.FuzzCopy
import HwEfat.Main.SubCaseDesign.Count

namespace HwEfat.Main

open HwEfat.Lib (PyError PyVal PyDict bind_eq_ok foldlM_keeps exists_eq_ok)

namespace SubCaseDesignFuzz

/-! ## §1. What a case should carry. -/

/-- **The case carries the values of a dictionary** in every input, output and attribute.  The
attributes are those of the copy, so they must have them at the end of the iteration, too. -/
structure OwnValues (jsonPath : String) (ms : Bool) (json₀ final fuzzDict : PyVal)
    (case : SubCase) : Prop where
  inputs : List.Forall₂ (Carries jsonPath ms fuzzDict INPUT_DESC) (listAt json₀ INPUT_DESC)
    case.inputDesc
  outputs : List.Forall₂ (Carries jsonPath ms fuzzDict OUTPUT_DESC) (listAt json₀ OUTPUT_DESC)
    case.outputDesc
  attrs : List.Forall₂ (CarriesAttr fuzzDict) (listAt json₀ ATTR) case.attr
  kept : CarriesAttrs fuzzDict json₀ final

/-- The copy, as the dictionaries before have left it, is ready for a dictionary, which gives
a value for every placeholder. -/
structure Ready (jsonPath : String) (ms : Bool) (json₀ : PyVal) (before : List PyVal)
    (fuzzDict jsonObj : PyVal) : Prop where
  inputs : List.Forall₂ (DescReady jsonPath ms fuzzDict INPUT_DESC) (listAt json₀ INPUT_DESC)
    (listAt jsonObj INPUT_DESC)
  outputs : List.Forall₂ (DescReady jsonPath ms fuzzDict OUTPUT_DESC) (listAt json₀ OUTPUT_DESC)
    (listAt jsonObj OUTPUT_DESC)
  attrs : before ≠ [] → CarriesAttrs fuzzDict json₀ jsonObj
  gives : ∀ attr₀ ∈ listAt json₀ ATTR, GivesAttr fuzzDict attr₀

/-! ## §2. The copy. -/

/-- The case, with some placeholders filled in. -/
structure CopiedJson (json₀ jsonObj : PyVal) : Prop where
  others : AgreeOff [INPUT_DESC, OUTPUT_DESC, ATTR] json₀ jsonObj
  inputs : CopiedList CopiedDesc json₀ jsonObj INPUT_DESC
  outputs : CopiedList CopiedDesc json₀ jsonObj OUTPUT_DESC
  attrs : CopiedList CopiedAttr json₀ jsonObj ATTR

/-- What one dictionary does: the case that it makes, and the copy that it leaves. -/
structure OneCase (jsonPath : String) (ms : Bool) (json₀ jsonObj jsonObj' fuzzDict : PyVal)
    (case : SubCase) : Prop where
  copied : CopiedJson json₀ jsonObj'
  inputs : List.Forall₂ (Carries jsonPath ms fuzzDict INPUT_DESC) (listAt json₀ INPUT_DESC)
      case.inputDesc ↔
    List.Forall₂ (DescReady jsonPath ms fuzzDict INPUT_DESC) (listAt json₀ INPUT_DESC)
      (listAt jsonObj INPUT_DESC)
  outputs : List.Forall₂ (Carries jsonPath ms fuzzDict OUTPUT_DESC) (listAt json₀ OUTPUT_DESC)
      case.outputDesc ↔
    List.Forall₂ (DescReady jsonPath ms fuzzDict OUTPUT_DESC) (listAt json₀ OUTPUT_DESC)
      (listAt jsonObj OUTPUT_DESC)
  attr : case.attr = listAt jsonObj' ATTR
  kept : CarriesAttrs fuzzDict json₀ jsonObj → SameValues jsonObj jsonObj'
  fresh : (∀ attr₀ ∈ listAt json₀ ATTR, GivesAttr fuzzDict attr₀) → jsonObj = json₀ →
    CarriesAttrs fuzzDict json₀ jsonObj'

section Copy

variable {env : FuzzEnv} {settings : Settings} {design design' : SubCaseDesign} {ms : Bool}
  {json₀ jsonObj jsonObj' fuzzDict : PyVal} {key : String} {R : PyVal → PyVal → Prop}

/-- A JSON object is a copy of itself. -/
theorem CopiedJson.refl (json₀ : PyVal) : CopiedJson json₀ json₀ :=
  ⟨AgreeOff.refl _ _, Or.inl rfl, Or.inl rfl, Or.inl rfl⟩

/-- The list of a field that is the same. -/
theorem listAt_congr (h : jsonObj'.getItem key = jsonObj.getItem key) :
    listAt jsonObj' key = listAt jsonObj key := by
  unfold listAt
  rw [h]

/-- A field that is the same is still a copy. -/
theorem CopiedList.congr (hcopied : CopiedList R json₀ jsonObj key)
    (h : jsonObj'.getItem key = jsonObj.getItem key) : CopiedList R json₀ jsonObj' key := by
  unfold CopiedList
  rw [h]
  exact hcopied

/-- What agrees with a dictionary is one. -/
theorem AgreeOff.exists_dict {keys : List String} {d₀ : PyDict PyVal}
    (h : AgreeOff keys (.dict d₀) jsonObj) :
    ∃ d, jsonObj = .dict d ∧ ∀ key ∉ keys, d.lookup key = d₀.lookup key := by
  rcases h with heq | ⟨_, d, heq, hd, hsame⟩
  · exact ⟨d₀, heq, fun _ _ => rfl⟩
  · cases heq
    exact ⟨d, hd, hsame⟩

/-- A case whose mode can be told is a dictionary. -/
theorem exists_dict_of_isMs (hms : SubCaseDesignCross.isMs json₀ = .ok ms) :
    ∃ d₀, json₀ = .dict d₀ := by
  cases json₀ with
  | dict d₀ => exact ⟨d₀, rfl⟩
  | _ => cases hms

/-- **One dictionary at the copy.** -/
theorem fuzzCase_copy (hms : SubCaseDesignCross.isMs json₀ = .ok ms)
    (hcopied : CopiedJson json₀ jsonObj)
    (h : fuzzCase env settings (design, jsonObj) fuzzDict = .ok (design', jsonObj')) :
    design'.currentJsonPath = design.currentJsonPath ∧
      ∃ case, design'.totalCaseList = design.totalCaseList ++ [case] ∧
        OneCase design.currentJsonPath ms json₀ jsonObj jsonObj' fuzzDict case := by
  obtain ⟨ms', input, output, described, attr, hstep⟩ := fuzzCase_spec h
  have hmode : SubCaseDesignCross.isMs jsonObj = SubCaseDesignCross.isMs json₀ := by
    unfold SubCaseDesignCross.isMs
    rw [hcopied.others.get (by decide)]
  obtain rfl : ms' = ms := Except.ok.inj (hstep.mode.symm.trans (hmode.trans hms))
  refine ⟨hstep.generates.currentJsonPath, ?_⟩
  obtain ⟨cases, htotal, -, hidx, hcases⟩ := hstep.generates.cases
  obtain ⟨case, rfl⟩ : ∃ case, cases = [case] :=
    List.length_eq_one_iff.mp (by have hone := hstep.one; omega)
  obtain ⟨rfl, rfl, rfl, _⟩ := hcases 0 case rfl
  refine ⟨case, htotal, ?_⟩
  have hdescs := hstep.descs
  unfold makeDescsFuzz at hdescs
  obtain ⟨⟨input, json₁⟩, hinput, hdescs⟩ := bind_eq_ok.mp hdescs
  obtain ⟨⟨output, json₂⟩, houtput, hdescs⟩ := bind_eq_ok.mp hdescs
  cases hdescs
  have hagree₁ : AgreeOff [INPUT_DESC] jsonObj json₁ := agreeOff_makeDescListFuzz hinput
  have hagree₂ : AgreeOff [OUTPUT_DESC] json₁ described := agreeOff_makeDescListFuzz houtput
  have hagree₃ : AgreeOff [ATTR] described jsonObj' := agreeOff_checkAttrValidFuzz hstep.attrs
  -- Each step has one field of its own.
  have hinput' : jsonObj'.getItem INPUT_DESC = json₁.getItem INPUT_DESC :=
    (hagree₃.getItem (by decide)).trans (hagree₂.getItem (by decide))
  have houtput₁ : json₁.getItem OUTPUT_DESC = jsonObj.getItem OUTPUT_DESC :=
    hagree₁.getItem (by decide)
  have houtput' : jsonObj'.getItem OUTPUT_DESC = described.getItem OUTPUT_DESC :=
    hagree₃.getItem (by decide)
  have hattr₁ : described.getItem ATTR = jsonObj.getItem ATTR :=
    (hagree₂.getItem (by decide)).trans (hagree₁.getItem (by decide))
  obtain ⟨hcopiedIn, hiffIn⟩ := makeDescListFuzz_carries hcopied.inputs hinput
  obtain ⟨hcopiedOut, hiffOut⟩ :=
    makeDescListFuzz_carries (hcopied.outputs.congr houtput₁) houtput
  rw [listAt_congr houtput₁] at hiffOut
  obtain ⟨d₀, rfl⟩ := exists_dict_of_isMs hms
  have hothers₂ : AgreeOff [INPUT_DESC, OUTPUT_DESC, ATTR] (.dict d₀) described :=
    (hcopied.others.trans (hagree₁.mono (by decide))).trans (hagree₂.mono (by decide))
  obtain ⟨d, rfl, _⟩ := hothers₂.exists_dict
  obtain ⟨hcopiedAttr, hlist, hkept, hfresh⟩ :=
    checkAttrValidFuzz_copy (hcopied.attrs.congr hattr₁) hstep.attrs
  unfold CarriesAttrs SameValues at hkept
  rw [listAt_congr hattr₁] at hkept
  refine ⟨⟨hothers₂.trans (hagree₃.mono (by decide)), hcopiedIn.congr hinput',
    hcopiedOut.congr houtput', hcopiedAttr⟩, hiffIn, hiffOut, hlist, hkept, fun hgives heq => ?_⟩
  refine hfresh hgives ?_
  rw [heq] at hattr₁
  cases hlookup : d₀.lookup ATTR with
  | none =>
      cases hlookup' : d.lookup ATTR with
      | none => rfl
      | some v =>
          rw [getItem_dict.mpr hlookup'] at hattr₁
          rw [getItem_dict.mp hattr₁.symm] at hlookup
          cases hlookup
  | some v => exact getItem_dict.mp (hattr₁.trans (getItem_dict.mpr hlookup))

end Copy

/-! ## §3. One iteration. -/

/-- A dictionary of an iteration, with the design and the copy before and behind it. -/
structure Turn (env : FuzzEnv) (settings : Settings) (start : SubCaseDesign × PyVal)
    (dicts before : List PyVal) (fuzzDict : PyVal) (after : List PyVal)
    (st st' : SubCaseDesign × PyVal) : Prop where
  split : dicts = before ++ fuzzDict :: after
  reached : before.foldlM (fuzzCase env settings) start = .ok st
  step : fuzzCase env settings st fuzzDict = .ok st'

section Iteration

variable {env : FuzzEnv} {settings : Settings} {design : SubCaseDesign}
  {dicts before after : List PyVal} {fuzzDict : PyVal} {ms : Bool}
  {start st st' last : SubCaseDesign × PyVal}

/-- Each dictionary has its turn. -/
theorem exists_turn (before : List PyVal) (fuzzDict : PyVal) (after : List PyVal)
    (hsplit : dicts = before ++ fuzzDict :: after)
    (hrun : dicts.foldlM (fuzzCase env settings) start = .ok last) :
    ∃ st st', Turn env settings start dicts before fuzzDict after st st' := by
  rw [hsplit, List.foldlM_append] at hrun
  obtain ⟨st, hreached, hrun⟩ := bind_eq_ok.mp hrun
  rw [List.foldlM_cons] at hrun
  obtain ⟨st', hstep, _⟩ := bind_eq_ok.mp hrun
  exact ⟨st, st', hsplit, hreached, hstep⟩

/-- A turn of the dictionaries behind the first one. -/
theorem Turn.cons {first : PyVal} {st₁ : SubCaseDesign × PyVal}
    (hfirst : fuzzCase env settings start first = .ok st₁)
    (h : Turn env settings st₁ dicts before fuzzDict after st st') :
    Turn env settings start (first :: dicts) (first :: before) fuzzDict after st st' where
  split := by rw [h.split]; rfl
  reached := by
    rw [List.foldlM_cons, hfirst]
    exact h.reached
  step := h.step

/-- **The k-th case is that of the turn of the k-th dictionary.** -/
theorem cases_of_run (hrun : dicts.foldlM (fuzzCase env settings) start = .ok last) :
    ∃ cases, last.1.totalCaseList = start.1.totalCaseList ++ cases ∧
      ∀ P : PyVal → SubCase → Prop, List.Forall₂ P dicts cases ↔
        ∀ before fuzzDict after st st', Turn env settings start dicts before fuzzDict after st st' →
          ∀ case, st'.1.totalCaseList = st.1.totalCaseList ++ [case] → P fuzzDict case := by
  induction dicts generalizing start with
  | nil =>
      cases hrun
      refine ⟨[], (List.append_nil _).symm, fun P => iff_of_true .nil ?_⟩
      intro before fuzzDict after st st' hturn
      exact absurd hturn.split.symm (List.append_ne_nil_of_right_ne_nil _ (List.cons_ne_nil _ _))
  | cons first dicts ih =>
      rw [List.foldlM_cons] at hrun
      obtain ⟨st₁, hfirst, hrest⟩ := bind_eq_ok.mp hrun
      obtain ⟨cases, htotal, hiff⟩ := ih hrest
      obtain ⟨_, _, _, _, _, hstep⟩ := fuzzCase_spec hfirst
      obtain ⟨added, hadded, -, hidx, -⟩ := hstep.generates.cases
      -- A turn adds one case.
      obtain ⟨case, rfl⟩ : ∃ case, added = [case] :=
        List.length_eq_one_iff.mp (by have hone := hstep.one; omega)
      refine ⟨case :: cases, by rw [htotal, hadded, List.append_assoc]; rfl, fun P => ?_⟩
      rw [List.forall₂_cons, hiff P]
      constructor
      · rintro ⟨hP, hall⟩ before fuzzDict after st st' hturn case' hcase'
        -- The turn is the first one, or one of the rest of the run.
        cases before with
        | nil =>
            obtain ⟨hsplit, hreached, hstep'⟩ := hturn
            cases hsplit
            cases hreached
            cases hfirst.symm.trans hstep'
            rw [List.singleton_inj.mp (List.append_cancel_left (hadded.symm.trans hcase'))] at hP
            exact hP
        | cons e before =>
            obtain ⟨hsplit, hreached, hstep'⟩ := hturn
            cases hsplit
            rw [List.foldlM_cons, hfirst] at hreached
            exact hall before fuzzDict after st st' ⟨rfl, hreached, hstep'⟩ case' hcase'
      · intro hall
        exact ⟨hall [] first dicts start st₁ ⟨rfl, rfl, hfirst⟩ case hadded,
          fun before fuzzDict after st st' hturn =>
            hall (first :: before) fuzzDict after st st' (hturn.cons hfirst)⟩

/-- The dictionaries so far have filled in placeholders. -/
theorem copied_run (hms : SubCaseDesignCross.isMs design.jsonObj = .ok ms)
    (hrun : before.foldlM (fuzzCase env settings) (design, design.jsonObj) = .ok st) :
    CopiedJson design.jsonObj st.2 ∧ st.1.currentJsonPath = design.currentJsonPath := by
  apply foldlM_keeps (I := fun st => CopiedJson design.jsonObj st.2 ∧
    st.1.currentJsonPath = design.currentJsonPath) _ _ hrun
  · intro fuzzDict _ ⟨d, jsonObj⟩ ⟨d', jsonObj'⟩ ⟨hcopied, hpath⟩ hcase
    obtain ⟨hpath', _, _, hone⟩ := fuzzCase_copy hms hcopied hcase
    exact ⟨hone.copied, hpath'.trans hpath⟩
  · exact ⟨CopiedJson.refl _, rfl⟩

/-- What a dictionary does at its turn. -/
theorem Turn.oneCase (hms : SubCaseDesignCross.isMs design.jsonObj = .ok ms)
    (h : Turn env settings (design, design.jsonObj) dicts before fuzzDict after st st') :
    ∃ case, st'.1.totalCaseList = st.1.totalCaseList ++ [case] ∧
      OneCase design.currentJsonPath ms design.jsonObj st.2 st'.2 fuzzDict case := by
  obtain ⟨hcopied, hpath⟩ := copied_run hms h.reached
  obtain ⟨_, case, htotal, hone⟩ := fuzzCase_copy hms hcopied h.step
  rw [hpath] at hone
  exact ⟨case, htotal, hone⟩

/-- After the first dictionary, the attributes have its values. -/
theorem first_carries (hms : SubCaseDesignCross.isMs design.jsonObj = .ok ms)
    (hgives : ∀ attr₀ ∈ listAt design.jsonObj ATTR, GivesAttr fuzzDict attr₀)
    (h : fuzzCase env settings (design, design.jsonObj) fuzzDict = .ok st') :
    CarriesAttrs fuzzDict design.jsonObj st'.2 := by
  obtain ⟨_, _, _, hone⟩ := fuzzCase_copy hms (CopiedJson.refl _) h
  exact hone.fresh hgives rfl

/-- Attributes keep their values as long as the dictionaries find their own. -/
theorem carries_to_last (before after : List PyVal)
    (hms : SubCaseDesignCross.isMs design.jsonObj = .ok ms)
    (hrun : dicts.foldlM (fuzzCase env settings) (design, design.jsonObj) = .ok last)
    (hready : ∀ before e after st st',
      Turn env settings (design, design.jsonObj) dicts before e after st st' →
        before ≠ [] → CarriesAttrs e design.jsonObj st.2)
    (hsplit : dicts = before ++ after) (hne : before ≠ [])
    (hreached : before.foldlM (fuzzCase env settings) (design, design.jsonObj) = .ok st)
    (h : CarriesAttrs fuzzDict design.jsonObj st.2) :
    CarriesAttrs fuzzDict design.jsonObj last.2 := by
  induction after generalizing before st with
  | nil =>
      rw [List.append_nil] at hsplit
      rw [← hsplit, hrun] at hreached
      cases hreached
      exact h
  | cons e after ih =>
      obtain ⟨st₁, st₂, hturn⟩ := exists_turn before e after hsplit hrun
      cases hturn.reached.symm.trans hreached
      obtain ⟨_, _, hone⟩ := hturn.oneCase hms
      have hstays : SameValues st.2 st₂.2 := hone.kept (hready _ _ _ _ _ hturn hne)
      refine ih (before ++ [e]) (by rw [hsplit, List.append_assoc]; rfl)
        (List.append_ne_nil_of_right_ne_nil _ (List.cons_ne_nil _ _)) ?_ (h.congr hstays)
      rw [List.foldlM_append, hreached]
      show [e].foldlM (fuzzCase env settings) st = .ok st₂
      rw [List.foldlM_cons, hturn.step]
      rfl

/-- The attributes that a dictionary finds, if in the end all dictionaries have their values. -/
theorem finds_own (hms : SubCaseDesignCross.isMs design.jsonObj = .ok ms)
    (hrun : dicts.foldlM (fuzzCase env settings) (design, design.jsonObj) = .ok last)
    (hown : ∀ e ∈ dicts, CarriesAttrs e design.jsonObj last.2)
    (h : Turn env settings (design, design.jsonObj) dicts before fuzzDict after st st')
    (hne : before ≠ []) : CarriesAttrs fuzzDict design.jsonObj st.2 := by
  obtain ⟨first, rest, rfl⟩ := List.exists_cons_of_ne_nil hne
  obtain ⟨_, st₁, hturn⟩ := exists_turn [] first (rest ++ fuzzDict :: after) h.split hrun
  cases hturn.reached
  have hsub : ∀ e ∈ first :: rest, e ∈ dicts := fun e he =>
    h.split ▸ List.mem_append_left _ he
  have hfirst : CarriesAttrs first design.jsonObj st₁.2 :=
    first_carries hms (hown first (hsub first List.mem_cons_self)).gives hturn.step
  have hrest : rest.foldlM (fuzzCase env settings) st₁ = .ok st := by
    have hreached := h.reached
    rw [List.foldlM_cons, hturn.step] at hreached
    exact hreached
  -- The values of the first dictionary are those in the end, and so those of all others.
  have hall : ∀ e ∈ dicts, CarriesAttrs e design.jsonObj st₁.2 := fun e he =>
    hfirst.transfer (hown first (hsub first List.mem_cons_self)) (hown e he)
  have hinv : CopiedJson design.jsonObj st.2 ∧
      ∀ e ∈ dicts, CarriesAttrs e design.jsonObj st.2 := by
    apply foldlM_keeps (I := fun st => CopiedJson design.jsonObj st.2 ∧
      ∀ e ∈ dicts, CarriesAttrs e design.jsonObj st.2) _ _ hrest
    · intro e he ⟨d, jsonObj⟩ ⟨d', jsonObj'⟩ ⟨hcopied, hcarries⟩ hcase
      obtain ⟨_, _, _, hone⟩ := fuzzCase_copy hms hcopied hcase
      have hsame := hone.kept (hcarries e (hsub e (List.mem_cons_of_mem _ he)))
      exact ⟨hone.copied, fun e' he' => (hcarries e' he').congr hsame⟩
    · obtain ⟨_, _, hone⟩ := hturn.oneCase hms
      exact ⟨hone.copied, hall⟩
  exact hinv.2 fuzzDict (h.split ▸ List.mem_append_right _ List.mem_cons_self)

/-- **Each case has the values of its dictionary exactly if every dictionary finds the copy
ready.** -/
theorem own_values_iff {fuzzFunction : Nat → Except PyError PyVal} {round : Nat}
    {design' : SubCaseDesign} (hms : SubCaseDesignCross.isMs design.jsonObj = .ok ms)
    (h : fuzzRound env settings fuzzFunction design round = .ok design') :
    ∃ fuzzReturn dicts final cases, fuzzFunction round = .ok fuzzReturn ∧
      getFuzzFuncReturn fuzzReturn = .ok dicts ∧
      dicts.foldlM (fuzzCase env settings) (design, design.jsonObj) = .ok (design', final) ∧
      design'.totalCaseList = design.totalCaseList ++ cases ∧
      (List.Forall₂ (OwnValues design.currentJsonPath ms design.jsonObj final) dicts cases ↔
        ∀ before fuzzDict after st st',
          Turn env settings (design, design.jsonObj) dicts before fuzzDict after st st' →
            Ready design.currentJsonPath ms design.jsonObj before fuzzDict st.2) := by
  unfold fuzzRound at h
  obtain ⟨fuzzReturn, hreturn, h⟩ := bind_eq_ok.mp h
  obtain ⟨dicts, hdicts, h⟩ := bind_eq_ok.mp h
  obtain ⟨⟨_, final⟩, hrun, h⟩ := bind_eq_ok.mp h
  cases h
  obtain ⟨cases, htotal, hiff⟩ := cases_of_run hrun
  refine ⟨fuzzReturn, dicts, final, cases, hreturn, hdicts, hrun, htotal, ?_⟩
  rw [hiff]
  constructor
  · intro hown before fuzzDict after st st' hturn
    obtain ⟨case, hcase, hone⟩ := hturn.oneCase hms
    have howns := hown _ _ _ _ _ hturn case hcase
    have hall : ∀ e ∈ dicts, CarriesAttrs e design.jsonObj final := by
      intro e he
      obtain ⟨front, back, hsplit⟩ := List.append_of_mem he
      obtain ⟨_, _, hturn'⟩ := exists_turn front e back hsplit hrun
      obtain ⟨case', hcase', _⟩ := hturn'.oneCase hms
      exact (hown _ _ _ _ _ hturn' case' hcase').kept
    exact ⟨hone.inputs.mp howns.inputs, hone.outputs.mp howns.outputs,
      fun hne => finds_own hms hrun hall hturn hne, howns.kept.gives⟩
  · intro hready before fuzzDict after st st' hturn case hcase
    obtain ⟨case', hcase', hone⟩ := hturn.oneCase hms
    obtain rfl : case = case' :=
      List.singleton_inj.mp (List.append_cancel_left (hcase.symm.trans hcase'))
    have hturnReady := hready _ _ _ _ _ hturn
    -- The first dictionary finds a fresh copy; the others find their values there.
    have hhere : CarriesAttrs fuzzDict design.jsonObj st'.2 := by
      by_cases hne : before = []
      · subst hne
        cases hturn.reached
        exact hone.fresh hturnReady.gives rfl
      · exact (hturnReady.attrs hne).congr (hone.kept (hturnReady.attrs hne))
    have hreached' : (before ++ [fuzzDict]).foldlM (fuzzCase env settings)
        (design, design.jsonObj) = .ok st' := by
      rw [List.foldlM_append, hturn.reached]
      show [fuzzDict].foldlM (fuzzCase env settings) st = .ok st'
      rw [List.foldlM_cons, hturn.step]
      rfl
    refine ⟨hone.inputs.mpr hturnReady.inputs, hone.outputs.mpr hturnReady.outputs, ?_, ?_⟩
    · rw [hone.attr]
      exact hhere
    · exact carries_to_last (before ++ [fuzzDict]) after hms hrun
        (fun _ _ _ _ _ hturn' => (hready _ _ _ _ _ hturn').attrs)
        (by rw [hturn.split, List.append_assoc]; rfl)
        (List.append_ne_nil_of_right_ne_nil _ (List.cons_ne_nil _ _)) hreached' hhere

end Iteration

/-- The white lists of a plain operator; the fuzz function is given. -/
def fuzzEnv : FuzzEnv where
  toDesignEnv := SubCaseDesignCross.plainEnv
  fuzzFunc _ _ := none

/-- The settings of the example. -/
def addSettings : Settings where
  casePrefix := "Add_fuzz_case_"
  pyfile := none
  function := .none
  errThr := .none

/-- An attribute `axis`. -/
def axis (value : PyVal) : PyVal :=
  .dict [("name", .str "axis"), ("type", .str "int"), (VALUE, value)]

/-- One input, one output and one attribute. -/
def addJson (type shape value : PyVal) : PyVal :=
  .dict [(CASE_NAME, .str "Add"), (OP, .str "Add"),
    (INPUT_DESC, .list [.dict [("name", .str "x"), ("format", .str "ND"), ("type", type),
      ("shape", shape)]]),
    (OUTPUT_DESC, .list [.dict [("name", .str "y"), ("format", .str "ND"),
      ("type", .str "float"), ("shape", shape)]]),
    (ATTR, .list [axis value])]

/-- The type, the shapes and the value of the attribute are placeholders. -/
def anyAdd : SubCaseDesign where
  currentJsonPath := "/st/Add.json"
  jsonObj := addJson FUZZ FUZZ FUZZ
  totalCaseList := []
  report := {}
  attrRequiredKeys := []

/-- A dictionary that gives a type, a shape of one dimension, and the value 1. -/
def oneDim (type : PyVal) (n : Int) : PyVal :=
  .dict [(INPUT_DESC, .dict [("x", .dict [("type", type), ("shape", .list [.int n])])]),
    (OUTPUT_DESC, .dict [("y", .dict [("shape", .list [.int n])])]),
    ("attr", .dict [("axis", .dict [(VALUE, .int 1)])])]

/-- A description whose placeholders are among the type and the shape. -/
theorem descReady_of_required {jsonPath descType : String} {ms : Bool} {fuzzDict : PyVal}
    {d₀ d : PyDict PyVal}
    (h : ∀ key, d₀.lookup key = some FUZZ → key ∈ ["type", "shape"] ∧
      ∃ v, Gives fuzzDict descType d₀ key v ∧ (d.lookup key = some FUZZ ∨
        ∃ u, d.lookup key = some u ∧ written jsonPath key u = written jsonPath key v)) :
    DescReady jsonPath ms fuzzDict descType (.dict d₀) (.dict d) := by
  intro e₀ e heq₀ heq key _ hfuzz _
  cases heq₀
  cases heq
  obtain ⟨hkey, v, hgives, hcopy⟩ := h key hfuzz
  have hothers : ∀ key ∈ ["type", "shape"], key ∉ ["ori_format", "ori_shape"] ∧
      key ∉ [TYPICAL_SHAPE, SHAPE_RANGE] := by decide
  exact ⟨v, hgives, hcopy, fun hmem => absurd hmem (hothers key hkey).1,
    fun hmem => absurd hmem (hothers key hkey).2⟩

/-- A dictionary with the shape 4 finds its values, whether the placeholders are open or filled
in with the same. -/
theorem ready_add {type type' shape' value' : PyVal} {before : List PyVal}
    (htype : type = .str "float" ∨ type = .list [.str "float"])
    (htype' : type' = FUZZ ∨ type' = .str "float")
    (hshape' : shape' = FUZZ ∨ shape' = .list [.int 4])
    (hvalue' : before = [] ∨ value' = .int 1) :
    Ready "/st/Add.json" false anyAdd.jsonObj before (oneDim type 4)
      (addJson type' shape' value') := by
  have hshape : ∀ fields : PyDict PyVal, fields.lookup "shape" = some shape' →
      fields.lookup "shape" = some FUZZ ∨ ∃ u, fields.lookup "shape" = some u ∧
        written "/st/Add.json" "shape" u = written "/st/Add.json" "shape" (.list [.int 4]) := by
    intro fields hlookup
    rw [hlookup]
    exact hshape'.imp (congrArg some) fun heq => ⟨shape', rfl, by rw [heq]⟩
  refine ⟨.cons (descReady_of_required fun key hfuzz => ?_) .nil,
    .cons (descReady_of_required fun key hfuzz => ?_) .nil, fun hne => ?_, ?_⟩
  · have hkey : key = "type" ∨ key = "shape" := by
      simpa [FUZZ] using PyDict.mem_of_lookup hfuzz
    -- The input has two placeholders, the output one.
    rcases hkey with rfl | rfl
    · refine ⟨by decide, type, ⟨_, _, _, _, rfl, rfl, rfl, rfl, rfl, ?_⟩, ?_⟩
      · rcases htype with rfl | rfl <;> rfl
      · refine htype'.imp (congrArg some) fun heq => ⟨type', rfl, ?_⟩
        subst heq
        rcases htype with rfl | rfl <;> rfl
    · exact ⟨by decide, .list [.int 4], ⟨_, _, _, _, rfl, rfl, rfl, rfl, rfl, rfl⟩, hshape _ rfl⟩
  · have hkey : key = "shape" := by
      simpa [FUZZ] using PyDict.mem_of_lookup hfuzz
    subst hkey
    exact ⟨by decide, .list [.int 4], ⟨_, _, _, _, rfl, rfl, rfl, rfl, rfl, rfl⟩, hshape _ rfl⟩
  · refine .cons (fun d₀ hd₀ _ => ?_) .nil
    cases hd₀
    rw [hvalue'.resolve_left hne]
    exact ⟨.int 1, ⟨_, _, _, _, rfl, rfl, rfl, rfl, rfl, rfl⟩, rfl⟩
  · intro attr₀ hattr d₀ hd₀ _
    cases List.mem_singleton.mp hattr
    cases hd₀
    exact ⟨.int 1, _, _, _, _, rfl, rfl, rfl, rfl, rfl, rfl⟩

/-- Two dictionaries that give the same; the type stands in a list the second time. -/
theorem own_values_iff_same :
    ∃ design' final cases, fuzzRound fuzzEnv addSettings
        (fun _ => .ok (.list [oneDim (.str "float") 4, oneDim (.list [.str "float"]) 4])) anyAdd 0
          = .ok design' ∧
      design'.totalCaseList = cases ∧
      List.Forall₂ (OwnValues "/st/Add.json" false anyAdd.jsonObj final)
        [oneDim (.str "float") 4, oneDim (.list [.str "float"]) 4] cases := by
  obtain ⟨design', hround, _⟩ := exists_eq_ok
    (x := fuzzRound fuzzEnv addSettings
      (fun _ => .ok (.list [oneDim (.str "float") 4, oneDim (.list [.str "float"]) 4])) anyAdd 0)
    (p := fun _ => true) (by decide +kernel)
  have hms : SubCaseDesignCross.isMs anyAdd.jsonObj = .ok false := rfl
  obtain ⟨_, dicts, final, cases, hreturn, hdicts, _, htotal, hiff⟩ := own_values_iff hms hround
  cases hreturn
  cases hdicts
  refine ⟨design', final, cases, hround, htotal, hiff.mpr ?_⟩
  intro before fuzzDict after st st' ⟨hsplit, hreached, _⟩
  cases before with
  | nil =>
      cases hsplit
      cases hreached
      exact ready_add (Or.inl rfl) (Or.inl rfl) (Or.inl rfl) (Or.inl rfl)
  | cons first before =>
      cases before with
      | nil =>
          cases hsplit
          -- The copy as the first dictionary leaves it.
          have hcopy : ([oneDim (.str "float") 4].foldlM (fuzzCase fuzzEnv addSettings)
              (anyAdd, anyAdd.jsonObj)).map Prod.snd
                = .ok (addJson (.str "float") (.list [.int 4]) (.int 1)) := rfl
          rw [hreached] at hcopy
          rw [show st.2 = _ from Except.ok.inj hcopy]
          exact ready_add (Or.inr rfl) (Or.inr rfl) (Or.inr rfl) (Or.inr rfl)
      | cons second before =>
          obtain ⟨_, hsplit⟩ := List.cons.inj hsplit
          obtain ⟨_, hsplit⟩ := List.cons.inj hsplit
          exact absurd hsplit.symm
            (List.append_ne_nil_of_right_ne_nil _ (List.cons_ne_nil _ _))

/-- The shapes of the inputs of the cases so far. -/
def inputShapes (design : SubCaseDesign) : List (List (List (Option Int))) :=
  design.totalCaseList.map fun case => case.inputDesc.map fun desc =>
    match desc.lookup "shape" with
    | some (.list dims) => dims.map PyVal.asInt
    | _ => []

/-- Every description has a shape. -/
theorem expected_shape {ms : Bool} {fuzzDict : PyVal} {descType : String} {d₀ : PyDict PyVal} :
    Expected ms fuzzDict descType d₀ "shape" :=
  ⟨fun h => absurd h (by decide), fun h => absurd h (by decide), fun h => absurd h (by decide),
    fun h => absurd h (by decide), fun h => absurd h (by decide)⟩

/-- Of two dictionaries with a shape each, the second one makes a case with the shape of the
first one. -/
theorem second_shape_lost :
    ∃ design' final, fuzzRound fuzzEnv addSettings
        (fun _ => .ok (.list [oneDim (.str "float") 4, oneDim (.str "float") 5])) anyAdd 0
          = .ok design' ∧
      [oneDim (.str "float") 4, oneDim (.str "float") 5].foldlM (fuzzCase fuzzEnv addSettings)
        (anyAdd, anyAdd.jsonObj) = .ok (design', final) ∧
      inputShapes design' = [[[some 4]], [[some 4]]] ∧
      ¬ List.Forall₂ (OwnValues "/st/Add.json" false anyAdd.jsonObj final)
        [oneDim (.str "float") 4, oneDim (.str "float") 5] design'.totalCaseList := by
  obtain ⟨⟨design', final⟩, hrun, hshapes⟩ := exists_eq_ok
    (x := [oneDim (.str "float") 4, oneDim (.str "float") 5].foldlM
      (fuzzCase fuzzEnv addSettings) (anyAdd, anyAdd.jsonObj))
    (p := fun st => inputShapes st.1 == [[[some 4]], [[some 4]]])
    (by decide +kernel)
  have hshapes' := beq_iff_eq.mp hshapes
  refine ⟨design', final, ?_, hrun, hshapes', fun hown => ?_⟩
  · exact bind_eq_ok.mpr ⟨_, rfl, bind_eq_ok.mpr ⟨_, rfl, bind_eq_ok.mpr ⟨_, hrun, rfl⟩⟩⟩
  · unfold inputShapes at hshapes'
    generalize design'.totalCaseList = cases at hown hshapes'
    obtain ⟨_, _, _, htail, rfl⟩ := List.forall₂_cons_left_iff.mp hown
    obtain ⟨case, _, hsecond, hnil, rfl⟩ := List.forall₂_cons_left_iff.mp htail
    have hinputs := hsecond.inputs
    obtain ⟨desc, _, hcarries, hrest, hdesc⟩ := List.forall₂_cons_left_iff.mp hinputs
    obtain ⟨v, hgives, hlookup⟩ := hcarries _ rfl "shape" (by decide) rfl
      expected_shape
    -- The second dictionary gives 5, but the case has 4.
    have hfive : given (oneDim (.str "float") 5) INPUT_DESC [("name", .str "x"),
        ("format", .str "ND"), ("type", FUZZ), ("shape", FUZZ)] "shape"
          = .ok (.list [.int 5]) := rfl
    cases hfive.symm.trans (gives_iff.mp hgives).1
    rw [List.map_cons, List.map_cons, hdesc, List.map_cons, hlookup] at hshapes'
    obtain ⟨_, hshapes'⟩ := List.cons.inj hshapes'
    obtain ⟨hcase, _⟩ := List.cons.inj hshapes'
    cases hcase

end SubCaseDesignFuzz

end HwEfat.Main
