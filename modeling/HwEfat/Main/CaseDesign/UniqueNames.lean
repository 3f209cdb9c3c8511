/-
  HwEfat.Main.CaseDesign.UniqueNames — whether the names of the generated cases are
  distinct.

  The cases of a run have distinct names, but what is put behind such a name may be the
  end of another one: the only sub-case of `x_sub` is named as a sub-case of `x`, and so is
  the one of `x_fuzz` (`Clash`), if the first sub-cases have the same format and type
  (`FirstWords`).  In a run without such a pair every name is in the report once
  (`names_unique`).
-/
import HwEfat.Main.CaseDesign.Validation
import HwEfat.Main.SubCaseDesign.Names

namespace HwEfat.Main

open HwEfat.Lib (PyError PyVal PyDict raiseIf_eq_ok bind_eq_ok forM_eq_ok foldlM_keeps)

/-! ## §1. Names that are equal. -/

/-- A case by crossing one profile, not in the mode `ms_python_train`, and a case with whose
mark its own name goes on. -/
def Clash (kind : NameKind) (base : String) (kind' : NameKind) (base' : String) : Prop :=
  kind = .single false ∧
    (kind' = .multi false ∧ base = base' ++ "_sub" ∨ kind' = .fuzz ∧ base = base' ++ "_fuzz")

section Marks

variable {base base' name : String} {kind kind' : NameKind} {i j : Nat}

/-- What is in front of the shorter one of two ends. -/
theorem front_of_append {b b' m m' : List Char} (hle : m.length ≤ m'.length)
    (h : b ++ m = b' ++ m') :
    b = b' ++ m'.take (m'.length - m.length) ∧ m = m'.drop (m'.length - m.length) := by
  -- The longer end is cut to the length of the shorter one.
  have hsplit : b' ++ m'
      = (b' ++ m'.take (m'.length - m.length)) ++ m'.drop (m'.length - m.length) := by
    rw [List.append_assoc, List.take_append_drop]
  rw [hsplit] at h
  apply List.append_inj' h
  rw [List.length_drop]
  omega

/-- A mark that ends with another one. -/
theorem marks_nested (kind kind' : NameKind)
    (hle : kind.mark.toList.length ≤ kind'.mark.toList.length)
    (h : kind.mark.toList
      = kind'.mark.toList.drop (kind'.mark.toList.length - kind.mark.toList.length)) :
    kind'.mark.toList.take (kind'.mark.toList.length - kind.mark.toList.length) = [] ∨
      (∃ ms, kind = .single ms) ∧
        (kind' = .multi false ∧ kind'.mark.toList.take
            (kind'.mark.toList.length - kind.mark.toList.length) = "_sub".toList ∨
          kind' = .fuzz ∧ kind'.mark.toList.take
            (kind'.mark.toList.length - kind.mark.toList.length) = "_fuzz".toList) := by
  cases kind with
  | single ms =>
      cases kind' with
      | single ms' => cases ms <;> cases ms' <;> exact Or.inl (by decide)
      | multi ms' =>
          cases ms' with
          | true => cases ms <;> exact absurd hle (by decide)
          | false =>
              have htake : (NameKind.multi false).mark.toList.take
                  ((NameKind.multi false).mark.toList.length
                    - (NameKind.single ms).mark.toList.length) = "_sub".toList := by
                cases ms <;> decide
              exact Or.inr ⟨⟨ms, rfl⟩, Or.inl ⟨rfl, htake⟩⟩
      | fuzz =>
          have htake : NameKind.fuzz.mark.toList.take
              (NameKind.fuzz.mark.toList.length - (NameKind.single ms).mark.toList.length)
                = "_fuzz".toList := by
            cases ms <;> decide
          exact Or.inr ⟨⟨ms, rfl⟩, Or.inr ⟨rfl, htake⟩⟩
  | multi ms =>
      -- No other mark ends with `_sub_case_` or `_sub_`.
      cases ms <;> cases kind' with
      | single ms' => cases ms' <;> revert hle h <;> decide
      | multi ms' => cases ms' <;> revert hle h <;> decide
      | fuzz => revert hle h; decide
  | fuzz =>
      cases kind' with
      | single ms' => cases ms' <;> revert hle h <;> decide
      | multi ms' => cases ms' <;> revert hle h <;> decide
      | fuzz => exact Or.inl (by decide)

/-- Names with their marks are equal only if one case has one profile. -/
theorem fronts_eq (hle : kind.mark.toList.length ≤ kind'.mark.toList.length)
    (h : base ++ kind.mark = base' ++ kind'.mark) :
    base = base' ∨ (∃ ms, kind = .single ms) ∧
      (kind' = .multi false ∧ base = base' ++ "_sub" ∨
        kind' = .fuzz ∧ base = base' ++ "_fuzz") := by
  have hlists : base.toList ++ kind.mark.toList = base'.toList ++ kind'.mark.toList := by
    rw [← String.toList_append, h, String.toList_append]
  obtain ⟨hfront, hmark⟩ := front_of_append hle hlists
  have hbase : ∀ s : String,
      kind'.mark.toList.take (kind'.mark.toList.length - kind.mark.toList.length) = s.toList →
        base = base' ++ s := by
    intro s hs
    apply String.toList_inj.mp
    rw [hfront, hs, String.toList_append]
  rcases marks_nested kind kind' hle hmark with hnil | ⟨hsingle, hmulti | hfuzz⟩
  · left
    apply String.toList_inj.mp
    rw [hfront, hnil, List.append_nil]
  · exact Or.inr ⟨hsingle, Or.inl ⟨hmulti.1, hbase "_sub" hmulti.2⟩⟩
  · exact Or.inr ⟨hsingle, Or.inr ⟨hfuzz.1, hbase "_fuzz" hfuzz.2⟩⟩

/-- **Equal names of different cases**: the cases clash, and the names are those of their first
sub-cases.  In the mode `ms_python_train` the number of the only sub-case is not padded, which
tells it from the others. -/
theorem clash_of_named (hne : base ≠ base')
    (hle : kind.mark.toList.length ≤ kind'.mark.toList.length)
    (hone : ∀ ms, kind = .single ms → i = 1) (h : Named base kind i name)
    (h' : Named base' kind' j name) : Clash kind base kind' base' ∧ i = 1 ∧ j = 1 := by
  obtain ⟨hfront, hnumber⟩ := h.inj h'
  rcases fronts_eq hle hfront with heq | ⟨⟨ms, rfl⟩, hkind⟩
  · exact absurd heq hne
  · obtain rfl := hone ms rfl
    have hj : j = 1 := by
      rw [← (numeral_number kind' j).value, ← hnumber]
      exact (numeral_number (.single ms) 1).value
    cases ms with
    | false => exact ⟨⟨rfl, hkind⟩, rfl, hj⟩
    | true =>
        have hpadded : kind'.number j = SubCaseDesignCross.padded j := by
          rcases hkind with ⟨rfl, -⟩ | ⟨rfl, -⟩ <;> rfl
        rw [hpadded, hj] at hnumber
        exact absurd hnumber (by decide)

end Marks

/-! ## §2. The report of a run. -/

/-- Every name is in the report once, and is found there. -/
structure UniqueNames (rpt : OpSTReport) : Prop where
  nodup : (rpt.reportList.map (·.caseName)).Nodup
  found : ∀ i report, rpt.reportList[i]? = some report →
    rpt.getCaseReport report.caseName = some (report, i)

/-- Distinct names are found. -/
theorem uniqueNames_of_nodup {rpt : OpSTReport} (h : (rpt.reportList.map (·.caseName)).Nodup) :
    UniqueNames rpt := by
  refine ⟨h, fun i report hi => ?_⟩
  have hzip : (report, i) ∈ rpt.reportList.zipIdx := by
    rw [List.mem_zipIdx_iff_getElem?]
    exact hi
  have hnodup : (rpt.reportList.zipIdx.map fun x => x.1.caseName).Nodup := by
    have hfst : rpt.reportList.zipIdx.map (fun x => x.1.caseName)
        = rpt.reportList.map (·.caseName) := by
      show rpt.reportList.zipIdx.map ((·.caseName) ∘ Prod.fst) = _
      rw [← List.map_map, List.zipIdx_map_fst]
    rw [hfst]
    exact h
  -- The list is cut at the report: the name is neither before it nor behind.
  have honly : rpt.reportList.zipIdx.filter (fun x => x.1.caseName == report.caseName)
      = [(report, i)] := by
    obtain ⟨l₁, l₂, hsplit⟩ := List.append_of_mem hzip
    rw [hsplit, List.map_append, List.map_cons, List.nodup_middle, List.nodup_cons] at hnodup
    have hrest : ∀ x ∈ l₁ ++ l₂, (x.1.caseName == report.caseName) = false := by
      intro x hx
      rw [beq_eq_false_iff_ne]
      intro heq
      rw [← List.map_append] at hnodup
      exact hnodup.1 (heq ▸ List.mem_map_of_mem hx)
    have h₁ : l₁.filter (fun x => x.1.caseName == report.caseName) = [] :=
      List.filter_eq_nil_iff.mpr fun x hx => by
        rw [hrest x (List.mem_append_left _ hx)]
        decide
    have h₂ : l₂.filter (fun x => x.1.caseName == report.caseName) = [] :=
      List.filter_eq_nil_iff.mpr fun x hx => by
        rw [hrest x (List.mem_append_right _ hx)]
        decide
    have hself : ((report, i).1.caseName == report.caseName) = true := beq_self_eq_true _
    rw [hsplit, List.filter_append, h₁, List.filter_cons, if_pos hself, h₂]
    rfl
  unfold OpSTReport.getCaseReport
  rw [honly]

/-! ## §3. Runs. -/

namespace CaseDesign

section Run

variable {env : FuzzEnv} {caseNameList : Option (List String)}
  {objects : List (String × PyVal)} {design design' : CaseDesign}

/-- A case of the sequence that is selected, with its name and its kind. -/
structure SelectedCase (env : FuzzEnv) (caseNameList : Option (List String))
    (e : String × PyVal) (base : String) (kind : NameKind) : Prop where
  case : ¬ setsCompileFlag e.2
  name : e.2.getItem CASE_NAME = .ok (.str base)
  selected : selects { caseNameList } base = true
  kind : nameKindOf env e.1 e.2 = .ok kind

/-- No two selected cases clash whose first sub-cases can have the same format and type. -/
def NoClash (env : FuzzEnv) (caseNameList : Option (List String))
    (objects : List (String × PyVal)) : Prop :=
  ∀ e ∈ objects, ∀ e' ∈ objects, ∀ base kind base' kind',
    SelectedCase env caseNameList e base kind → SelectedCase env caseNameList e' base' kind' →
      Clash kind base kind' base' →
        ∀ words, ¬ (FirstWords env e.1 e.2 kind words ∧ FirstWords env e'.1 e'.2 kind' words)

/-- Where a name in the report comes from. -/
structure NameOrigin (env : FuzzEnv) (caseNameList : Option (List String))
    (objects : List (String × PyVal)) (name base : String) (kind : NameKind) (idx : Nat) :
    Prop where
  case : ∃ e ∈ objects, SelectedCase env caseNameList e base kind ∧
    (idx = 1 → ∃ words, NamedAs base kind idx words name ∧ FirstWords env e.1 e.2 kind words)
  named : Named base kind idx name
  one : ∀ ms, kind = .single ms → idx = 1

/-- Names of different cases differ. -/
theorem NameOrigin.ne (hclash : NoClash env caseNameList objects)
    {name name' base base' : String} {kind kind' : NameKind} {i j : Nat}
    (h : NameOrigin env caseNameList objects name base kind i)
    (h' : NameOrigin env caseNameList objects name' base' kind' j) (hne : base ≠ base') :
    name ≠ name' := by
  rintro rfl
  obtain ⟨e, he, hcase, hfirst⟩ := h.case
  obtain ⟨e', he', hcase', hfirst'⟩ := h'.case
  -- One name has one end.
  have hsame : i = 1 → j = 1 →
      ∃ words, FirstWords env e.1 e.2 kind words ∧ FirstWords env e'.1 e'.2 kind' words := by
    intro hi hj
    obtain ⟨words, hnamed, hwords⟩ := hfirst hi
    obtain ⟨words', hnamed', hwords'⟩ := hfirst' hj
    obtain ⟨-, -, rfl⟩ := hnamed.inj hnamed'
    exact ⟨words, hwords, hwords'⟩
  rcases Nat.le_total kind.mark.toList.length kind'.mark.toList.length with hle | hle
  · obtain ⟨hpair, hi, hj⟩ := clash_of_named hne hle h.one h.named h'.named
    obtain ⟨words, hwords⟩ := hsame hi hj
    exact hclash e he e' he' base kind base' kind' hcase hcase' hpair words hwords
  · obtain ⟨hpair, hj, hi⟩ := clash_of_named (Ne.symm hne) hle h'.one h'.named h.named
    obtain ⟨words, hwords⟩ := hsame hi hj
    exact hclash e' he' e he base' kind' base kind hcase' hcase hpair words hwords.symm

/-- What every state of a run satisfies. -/
structure NamesInv (env : FuzzEnv) (caseNameList : Option (List String))
    (objects : List (String × PyVal)) (design : CaseDesign) : Prop where
  keys : CASE_NAME ∈ design.requiredKeys
  asked : design.caseNameList = caseNameList
  nodup : (design.report.reportList.map (·.caseName)).Nodup
  origin : ∀ report ∈ design.report.reportList, ∃ base kind idx,
    NameOrigin env caseNameList objects report.caseName base kind idx ∧
      (design.caseNameToJsonFileMap.lookup base).isSome = true

/-- A name that is required has been checked. -/
theorem checkNameValid_of_required {jsonObj v : PyVal} {keys keys' : List String}
    (hmem : CASE_NAME ∈ keys) (hget : jsonObj.get CASE_NAME = .ok v)
    (h : SubCaseDesign.checkRequiredKeyValid jsonObj keys = .ok keys') :
    checkNameValid v = .ok () ∧ CASE_NAME ∈ keys' := by
  have hkeys := SubCaseDesign.checkRequiredKeyValid_keys h
  have hmem' : CASE_NAME ∈ keys' := by
    rw [hkeys]
    split
    · exact List.mem_append_left _ hmem
    · exact hmem
  refine ⟨?_, hmem'⟩
  unfold SubCaseDesign.checkRequiredKeyValid at h
  obtain ⟨mode, hmode, h⟩ := bind_eq_ok.mp h
  obtain ⟨_, hforM, h⟩ := bind_eq_ok.mp h
  have hmem'' : CASE_NAME ∈ if mode.isStr "ms_python_train" then keys ++ [ST_MODE] else keys := by
    split
    · exact List.mem_append_left _ hmem
    · exact hmem
  have hcheck := forM_eq_ok.mp hforM CASE_NAME hmem''
  rw [if_pos (Or.inl rfl)] at hcheck
  obtain ⟨v', hv', hcheck⟩ := bind_eq_ok.mp hcheck
  obtain rfl : v' = v := Except.ok.inj (hv'.symm.trans hget)
  exact hcheck

/-- **The names of one case** are distinct. -/
theorem nodup_names {base : String} {kind : NameKind} {first : Nat} {cases : List SubCase}
    (h : ∀ k case, cases[k]? = some case → Named base kind (first + k) case.caseName) :
    (cases.map (·.caseName)).Nodup := by
  rw [List.nodup_iff_getElem?_ne_getElem?]
  intro i j hij hj heq
  rw [List.length_map] at hj
  rw [List.getElem?_map, List.getElem?_map, List.getElem?_eq_getElem hj,
    List.getElem?_eq_getElem (Nat.lt_trans hij hj), Option.map_some, Option.map_some,
    Option.some.injEq] at heq
  have hi' := h i _ (List.getElem?_eq_getElem (Nat.lt_trans hij hj))
  have hj' := h j _ (List.getElem?_eq_getElem hj)
  rw [heq] at hi'
  have hidx := number_injective (hi'.inj hj').2
  omega

/-- **A selected case** adds names that are new. -/
theorem getTotalCase_names (hwords : PlainWords env.whiteLists)
    (hclash : NoClash env caseNameList objects) {e : String × PyVal} (he : e ∈ objects)
    {base : String} (hflag : ¬ setsCompileFlag e.2)
    (hname : e.2.getItem CASE_NAME = .ok (.str base))
    (hselected : selects { caseNameList } base = true)
    (hvalid : checkNameValid (.str base) = .ok ()) (hinv : NamesInv env caseNameList objects design)
    (h : getTotalCase env e.1 design e.2 base = .ok design') :
    NamesInv env caseNameList objects design' := by
  unfold getTotalCase at h
  obtain ⟨_, hnew, h⟩ := bind_eq_ok.mp h
  obtain ⟨subDesign, hsub, h⟩ := bind_eq_ok.mp h
  cases h
  rw [raiseIf_eq_ok] at hnew
  obtain ⟨kind, hkind, hgen, hone, hfirst⟩ := subcaseGenerate_named hwords
    (show (design.subCaseDesign e.1 e.2).jsonObj.get CASE_NAME = .ok (.str base) from
      PyVal.get_of_getItem hname) hvalid hsub
  obtain ⟨cases, htotal, hreport, hidx, hnamed⟩ := hgen.cases
  have hcase : SelectedCase env caseNameList e base kind := ⟨hflag, hname, hselected, hkind⟩
  rw [newCases_eq htotal] at hone hfirst
  have horigin : ∀ case ∈ cases, ∃ idx,
      NameOrigin env caseNameList objects case.caseName base kind idx := by
    intro case hmem
    obtain ⟨k, hk⟩ := List.getElem?_of_mem hmem
    refine ⟨1 + k, ⟨e, he, hcase, fun hidx => ?_⟩, hnamed k case hk, fun ms hms => ?_⟩
    · obtain rfl : k = 0 := by omega
      exact hfirst case hk
    · have hlt : k < cases.length := (List.getElem?_eq_some_iff.mp hk).1
      have hlength := hone ms hms
      omega
  -- The map only grows, so older names are still known.
  have hmap : ∀ key, (design.caseNameToJsonFileMap.lookup key).isSome = true ∨ key = base →
      ((design.caseNameToJsonFileMap.set base e.1).lookup key).isSome = true := by
    intro key hkey
    rw [PyDict.lookup_set]
    split
    · rfl
    · next hne => exact hkey.resolve_right hne
  have hreports : subDesign.report.reportList
      = design.report.reportList ++ cases.map SubCase.reportOf := by
    rw [hreport]
    rfl
  refine ⟨hinv.keys, hinv.asked, ?_, ?_⟩
  · show (subDesign.report.reportList.map (·.caseName)).Nodup
    have hthese : (cases.map ((·.caseName) ∘ SubCase.reportOf)).Nodup := nodup_names hnamed
    rw [hreports, List.map_append, List.map_map, List.nodup_append]
    refine ⟨hinv.nodup, hthese, ?_⟩
    intro name hold name' hfresh
    obtain ⟨report, hmem, rfl⟩ := List.mem_map.mp hold
    obtain ⟨case, hmem', rfl⟩ := List.mem_map.mp hfresh
    obtain ⟨base', kind', idx', horigin', hknown⟩ := hinv.origin report hmem
    obtain ⟨idx, hthis⟩ := horigin case hmem'
    -- The case of an older name is in the map, and this one is not.
    exact horigin'.ne hclash hthis fun heq => hnew (heq ▸ hknown)
  · show ∀ report ∈ subDesign.report.reportList, _
    rw [hreports]
    intro report hmem
    rcases List.mem_append.mp hmem with hold | hfresh
    · obtain ⟨base', kind', idx', horigin', hknown⟩ := hinv.origin report hold
      exact ⟨base', kind', idx', horigin', hmap base' (Or.inl hknown)⟩
    · obtain ⟨case, hmem', rfl⟩ := List.mem_map.mp hfresh
      obtain ⟨idx, hthis⟩ := horigin case hmem'
      exact ⟨base, kind, idx, hthis, hmap base (Or.inr rfl)⟩

/-- **One object of a run.** -/
theorem generateCase_names (hwords : PlainWords env.whiteLists)
    (hclash : NoClash env caseNameList objects) {e : String × PyVal} (he : e ∈ objects)
    (hinv : NamesInv env caseNameList objects design)
    (h : generateCase env design e = .ok design') : NamesInv env caseNameList objects design' := by
  unfold generateCase at h
  obtain ⟨compileFlag, hflag, h⟩ := bind_eq_ok.mp h
  -- An object that sets the compile flag generates no case, nor does one that is not selected.
  split at h
  · cases h
    exact ⟨hinv.keys, hinv.asked, hinv.nodup, hinv.origin⟩
  · next hfalse =>
      obtain ⟨keys, hkeys, h⟩ := bind_eq_ok.mp h
      obtain ⟨name, hname, h⟩ := bind_eq_ok.mp h
      obtain ⟨hvalid, hmem⟩ :=
        checkNameValid_of_required hinv.keys (PyVal.get_of_getItem hname) hkeys
      have hchecked : NamesInv env caseNameList objects { design with requiredKeys := keys } :=
        ⟨hmem, hinv.asked, hinv.nodup, hinv.origin⟩
      have hcase : ¬ setsCompileFlag e.2 := by
        intro ⟨flag, hget, htruthy⟩
        rw [hflag, Except.ok.injEq] at hget
        exact hfalse (hget ▸ htruthy)
      split at h
      · split at h
        · next hselected =>
            have hselected' : selects { caseNameList } _ = true :=
              hinv.asked ▸ hselected
            exact getTotalCase_names hwords hclash he hcase hname hselected' hvalid hchecked h
        · cases h
          exact hchecked
      · cases h

/-- **The objects of a run**, as far as it has come. -/
theorem run_names (hwords : PlainWords env.whiteLists)
    (hclash : NoClash env caseNameList objects) {before : List (String × PyVal)}
    (hbefore : ∀ e ∈ before, e ∈ objects) {runCmd : Option String}
    (hrun : before.foldlM (generateCase env) { caseNameList, report := { runCmd } }
      = .ok design') : NamesInv env caseNameList objects design' := by
  have hstart : NamesInv env caseNameList objects { caseNameList, report := { runCmd } } :=
    ⟨(by decide : CASE_NAME ∈ REQUIRED_KEYS), rfl, List.nodup_nil, fun _ hnil => nomatch hnil⟩
  apply foldlM_keeps _ hstart hrun
  intro e he d d' hd hstep
  exact generateCase_names hwords hclash (hbefore e he) hd hstep

/-- **Every name is in the report once**, in every state of a run without clashes, and at its
end. -/
theorem names_unique {env : CaseEnv} {jsonPathList : List String}
    {objects : List (String × PyVal)} {caseNameList : Option (List String)}
    {runCmd : Option String} (hwords : PlainWords env.whiteLists)
    (hload : caseObjects env jsonPathList = .ok objects)
    (hclash : NoClash env.toFuzzEnv caseNameList objects) :
    (∀ before later design', objects = before ++ later →
      before.foldlM (generateCase env.toFuzzEnv) { caseNameList, report := { runCmd } }
        = .ok design' → UniqueNames design'.report) ∧
    ∀ design', generateCases env jsonPathList { caseNameList, report := { runCmd } } = .ok design' →
      UniqueNames design'.report := by
  constructor
  · intro before later design' hsplit hrun
    apply uniqueNames_of_nodup
    have hbefore : ∀ e ∈ before, e ∈ objects := by
      intro e he
      exact hsplit ▸ List.mem_append_left later he
    exact (run_names hwords hclash hbefore hrun).nodup
  · intro design' hrun
    rw [generateCases_eq hload] at hrun
    apply uniqueNames_of_nodup
    exact (run_names hwords hclash (fun _ he => he) hrun).nodup

end Run

/-! ## §4. Two cases. -/

/-- A case with two shapes. -/
def twoShapesCase (caseName : String) : PyVal :=
  .dict [(CASE_NAME, .str caseName), (OP, .str "Add"),
    (INPUT_DESC, .list [SubCaseDesignCross.twoShapes []]),
    (OUTPUT_DESC, .list [SubCaseDesignCross.twoShapes []])]

/-- The law at two cases, one of them with two shapes. -/
theorem names_unique_add :
    ∃ design', generateCases (oneFile [twoShapesCase "x", addCase "Add" []]) ["/st/Add.json"]
      { caseNameList := none, report := { runCmd := none } } = .ok design' ∧
        design'.report.reportList.length = 3 ∧ UniqueNames design'.report := by
  have hload : caseObjects (oneFile [twoShapesCase "x", addCase "Add" []]) ["/st/Add.json"]
      = .ok [("/st/Add.json", twoShapesCase "x"), ("/st/Add.json", addCase "Add" [])] := rfl
  have hbase : ∀ e ∈ [("/st/Add.json", twoShapesCase "x"), ("/st/Add.json", addCase "Add" [])],
      ∀ base, e.2.getItem CASE_NAME = .ok (.str base) → base = "x" ∨ base = "Add" := by
    intro e he base hname
    rcases List.mem_pair.mp he with rfl | rfl
    · cases hname
      exact Or.inl rfl
    · cases hname
      exact Or.inr rfl
  have hclash : NoClash (oneFile [twoShapesCase "x", addCase "Add" []]).toFuzzEnv none
      [("/st/Add.json", twoShapesCase "x"), ("/st/Add.json", addCase "Add" [])] := by
    intro e he e' he' base kind base' kind' hcase hcase' ⟨_, hkind⟩ _ _
    rcases hbase e he base hcase.name with rfl | rfl <;>
      rcases hbase e' he' base' hcase'.name with rfl | rfl <;>
      rcases hkind with ⟨_, heq⟩ | ⟨_, heq⟩ <;> exact absurd heq (by decide)
  obtain ⟨design', hok, htest⟩ := Lib.exists_eq_ok
    (x := generateCases (oneFile [twoShapesCase "x", addCase "Add" []]) ["/st/Add.json"]
      { caseNameList := none, report := { runCmd := none } })
    (p := fun design' => design'.report.reportList.length == 3) (by decide +kernel)
  exact ⟨design', hok, beq_iff_eq.mp htest,
    (names_unique plainWords_plainEnv hload hclash).2 design' hok⟩

/-- The only sub-case of `x_sub` has the name of the first one of `x`, and neither is found. -/
theorem same_name_twice :
    ∃ design', generateCases (oneFile [twoShapesCase "x", addCase "x_sub" []]) ["/st/Add.json"]
        { caseNameList := none, report := { runCmd := none } } = .ok design' ∧
      design'.report.reportList.map (·.caseName)
        = ["x_sub_case_001_ND_float", "x_sub_case_002_ND_float", "x_sub_case_001_ND_float"] ∧
      design'.report.getCaseReport "x_sub_case_001_ND_float" = none ∧
      ¬ UniqueNames design'.report := by
  obtain ⟨design', hok, htest⟩ := Lib.exists_eq_ok
    (x := generateCases (oneFile [twoShapesCase "x", addCase "x_sub" []]) ["/st/Add.json"]
      { caseNameList := none, report := { runCmd := none } })
    (p := fun design' => design'.report.reportList.map (·.caseName)
        == ["x_sub_case_001_ND_float", "x_sub_case_002_ND_float", "x_sub_case_001_ND_float"] &&
      (design'.report.getCaseReport "x_sub_case_001_ND_float").isNone) (by decide +kernel)
  rw [Bool.and_eq_true] at htest
  have hnames := beq_iff_eq.mp htest.1
  refine ⟨design', hok, hnames, Option.isNone_iff_eq_none.mp htest.2, fun hunique => ?_⟩
  have hnodup := hunique.nodup
  rw [hnames] at hnodup
  exact absurd hnodup (by decide)

end CaseDesign

end HwEfat.Main
