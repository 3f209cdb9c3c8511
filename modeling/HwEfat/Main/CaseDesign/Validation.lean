/-
  HwEfat.Main.CaseDesign.Validation — what the validation of a case remembers.

  `check_required_key_valid` appends to the list that it is given, which is a list of the
  class `ConstManager`.  It leaves the list alone for objects that are not in the mode
  `ms_python_train` (`checkRequiredKeyValid_keys`), so a sequence without such objects is
  validated without memory (`validation_has_no_memory`), and the first one that is there
  changes the validation of every later case (`later_case_rejected`).
-/
import HwEfat.Main.CaseDesign.Def
import HwEfat.Main.SubCaseDesign.Count
import HwEfat.Main.SubCaseDesign.Generates

namespace HwEfat.Main

open HwEfat.Lib (PyError PyVal PyDict bind_eq_ok foldlM_keeps mapM_eq_ok)

/-- The mode in which the list of required keys grows. -/
def isTrain (jsonObj : PyVal) : Bool :=
  match jsonObj.get ST_MODE with
  | .ok mode => mode.isStr "ms_python_train"
  | .error _ => false

/-- The attributes of a case. -/
def attrsOf (jsonObj : PyVal) : List PyVal :=
  match jsonObj.getItem ATTR with
  | .ok (.list attrs) => attrs
  | _ => []

/-- The object sets the compile flag, and is not a case. -/
def setsCompileFlag (jsonObj : PyVal) : Prop :=
  ∃ flag, jsonObj.get "compile_flag" = .ok flag ∧ flag.truthy = true

/-- Nothing that is validated of an object is in that mode: neither the case nor, if it is
selected, one of its attributes. -/
structure NotTrained (caseNameList : Option (List String)) (jsonObj : PyVal) : Prop where
  case : ¬ setsCompileFlag jsonObj → isTrain jsonObj = false
  attrs : ¬ setsCompileFlag jsonObj →
    (∀ caseName, jsonObj.getItem CASE_NAME = .ok (.str caseName) →
      CaseDesign.selects { caseNameList } caseName = true) →
    ∀ attr ∈ attrsOf jsonObj, isTrain attr = false

/-! ## §1. One check. -/

namespace SubCaseDesign

/-- **What the check leaves of the list.** -/
theorem checkRequiredKeyValid_keys {jsonObj : PyVal} {keys keys' : List String}
    (h : checkRequiredKeyValid jsonObj keys = .ok keys') :
    keys' = if isTrain jsonObj then keys ++ [ST_MODE] else keys := by
  unfold checkRequiredKeyValid at h
  obtain ⟨mode, hmode, h⟩ := bind_eq_ok.mp h
  obtain ⟨_, _, h⟩ := bind_eq_ok.mp h
  obtain ⟨_, _, h⟩ := bind_eq_ok.mp h
  obtain ⟨_, _, h⟩ := bind_eq_ok.mp h
  cases h
  unfold isTrain
  rw [hmode]

/-- An attribute that is not of the training mode adds no required key. -/
theorem checkRequiredKeyValid_same {jsonObj : PyVal} {keys keys' : List String}
    (hplain : isTrain jsonObj = false) (h : checkRequiredKeyValid jsonObj keys = .ok keys') :
    keys' = keys := by
  rw [checkRequiredKeyValid_keys h, hplain]
  rfl

/-- The attributes of a case, checked without a fuzz function. -/
theorem checkAttrValid_keys {jsonObj : PyVal} {keys : List String}
    {r : List PyVal × List String} (hplain : ∀ attr ∈ attrsOf jsonObj, isTrain attr = false)
    (h : checkAttrValid jsonObj keys = .ok r) : r.2 = keys := by
  unfold checkAttrValid at h
  obtain ⟨has, _, h⟩ := bind_eq_ok.mp h
  split at h
  · cases h
    rfl
  · obtain ⟨value, hvalue, h⟩ := bind_eq_ok.mp h
    split at h
    · next attrs =>
        obtain ⟨st, hloop, h⟩ := bind_eq_ok.mp h
        cases h
        have hattrs : attrsOf jsonObj = attrs := by
          unfold attrsOf
          rw [hvalue]
        apply foldlM_keeps (I := fun st => st.2.2 = keys) _ rfl hloop
        intro attr hattr st st' hst hstep
        obtain ⟨keys', hkeys, hstep⟩ := bind_eq_ok.mp hstep
        obtain ⟨_, _, hstep⟩ := bind_eq_ok.mp hstep
        obtain ⟨_, _, hstep⟩ := bind_eq_ok.mp hstep
        obtain ⟨_, _, hstep⟩ := bind_eq_ok.mp hstep
        obtain ⟨_, _, hstep⟩ := bind_eq_ok.mp hstep
        cases hstep
        rw [← hst]
        exact checkRequiredKeyValid_same (hplain attr (hattrs ▸ hattr)) hkeys
    · cases h

end SubCaseDesign

/-! ## §2. One case. -/

/-- A crossing design whose attributes are such leaves the required keys. -/
theorem SubCaseDesignCross.subcaseGenerate_keys {env : DesignEnv}
    {design design' : SubCaseDesign}
    (hplain : ∀ attr ∈ attrsOf design.jsonObj, isTrain attr = false)
    (h : SubCaseDesignCross.subcaseGenerate env design = .ok design') :
    design'.attrRequiredKeys = design.attrRequiredKeys := by
  unfold SubCaseDesignCross.subcaseGenerate at h
  obtain ⟨prepared, hprepare, h⟩ := bind_eq_ok.mp h
  obtain ⟨descs, ms, caseName, hprepared⟩ := SubCaseDesignCross.prepare_inv hprepare
  have hkeys := (SubCaseDesignCross.subcaseGenerate_generates (D := fun _ => True)
    (fun _ _ _ => trivial) hprepared (fun _ _ _ _ => trivial) (fun _ _ _ _ => trivial) h).2
  exact hkeys.trans (SubCaseDesign.checkAttrValid_keys hplain hprepared.attrs)

namespace SubCaseDesignFuzz

/-- Other fields do not make an object one of the training mode. -/
theorem isTrain_of_agreeOff {keys : List String} {v v' : PyVal} (h : AgreeOff keys v v')
    (hmode : ST_MODE ∉ keys) : isTrain v' = isTrain v := by
  unfold isTrain
  rw [h.get hmode]

/-- Other fields do not change the attributes. -/
theorem attrsOf_of_agreeOff {keys : List String} {v v' : PyVal} (h : AgreeOff keys v v')
    (hattr : ATTR ∉ keys) : attrsOf v' = attrsOf v := by
  unfold attrsOf
  rw [h.getItem hattr]

/-- The attributes of a case, checked with a value of the fuzz function: they are in the same
modes afterwards. -/
theorem checkAttrValidFuzz_keys {jsonObj jsonObj' fuzzDict : PyVal} {keys keys' : List String}
    {attrList : List PyVal} (hplain : ∀ attr ∈ attrsOf jsonObj, isTrain attr = false)
    (h : checkAttrValidFuzz jsonObj fuzzDict keys = .ok (attrList, jsonObj', keys')) :
    keys' = keys ∧ ∀ attr ∈ attrsOf jsonObj', isTrain attr = false := by
  unfold checkAttrValidFuzz at h
  obtain ⟨has, _, h⟩ := bind_eq_ok.mp h
  split at h
  · cases h
    exact ⟨rfl, hplain⟩
  · obtain ⟨value, hvalue, h⟩ := bind_eq_ok.mp h
    split at h
    · next attrs =>
        obtain ⟨⟨attrList', nameList, keys₁⟩, hloop, h⟩ := bind_eq_ok.mp h
        obtain ⟨json₁, hset, h⟩ := bind_eq_ok.mp h
        cases h
        have hattrs : attrsOf jsonObj = attrs := by
          unfold attrsOf
          rw [hvalue]
        have hattrs' : attrsOf jsonObj' = attrList := by
          unfold attrsOf
          rw [getItem_setItem hset]
        rw [hattrs']
        -- The attributes that are kept are those of the case with a value replaced, which
        -- does not change their mode.
        apply foldlM_keeps (I := fun st : List PyVal × List String × List String =>
          st.2.2 = keys ∧ ∀ attr ∈ st.1, isTrain attr = false) _
          ⟨rfl, List.forall_mem_nil _⟩ hloop
        rintro attr hattr ⟨done, names, keys₂⟩ st' ⟨hkeys, hdone⟩ hstep
        unfold checkAttr at hstep
        obtain ⟨keys₃, hkeys₃, hstep⟩ := bind_eq_ok.mp hstep
        obtain ⟨_, _, hstep⟩ := bind_eq_ok.mp hstep
        obtain ⟨_, _, hstep⟩ := bind_eq_ok.mp hstep
        obtain ⟨_, _, hstep⟩ := bind_eq_ok.mp hstep
        obtain ⟨attr', hattr', hstep⟩ := bind_eq_ok.mp hstep
        cases hstep
        unfold checkAttrValue at hattr'
        obtain ⟨attr'', hattr', heq⟩ := bind_eq_ok.mp hattr'
        obtain ⟨_, _, heq⟩ := bind_eq_ok.mp heq
        cases heq
        have hplainAttr : isTrain attr = false := hplain attr (hattrs ▸ hattr)
        have hplainAttr' : isTrain attr' = false := by
          unfold fuzzAttr at hattr'
          split at hattr'
          · cases hattr'
            exact hplainAttr
          · rw [isTrain_of_agreeOff (agreeOff_replaceFuzzParam hattr') (by decide)]
            exact hplainAttr
        refine ⟨(SubCaseDesign.checkRequiredKeyValid_same hplainAttr hkeys₃).trans hkeys, ?_⟩
        intro x hx
        rcases List.mem_append.mp hx with hx | hx
        · exact hdone x hx
        · rw [List.mem_singleton.mp hx]
          exact hplainAttr'
    · cases h

/-- A fuzz design leaves the required keys in the same way. -/
theorem subcaseGenerate_keys {env : FuzzEnv} {design design' : SubCaseDesign}
    (hplain : ∀ attr ∈ attrsOf design.jsonObj, isTrain attr = false)
    (h : subcaseGenerate env design = .ok design') :
    design'.attrRequiredKeys = design.attrRequiredKeys := by
  obtain ⟨fuzzFunction, loopNum, settings, -, hloop⟩ := subcaseGenerate_spec h
  have hinv : Generates (fun _ _ => True) design design' ∧
      design'.attrRequiredKeys = design.attrRequiredKeys := by
    apply foldlM_keeps (I := fun d : SubCaseDesign => Generates (fun _ _ => True) design d ∧
      d.attrRequiredKeys = design.attrRequiredKeys) _
      ⟨Generates.refl design design.attrRequiredKeys, rfl⟩ hloop
    intro round _ d d' ⟨hgen, hkeys⟩ hround
    obtain ⟨hgen', _, hinv⟩ := fuzzRound_generates (Q := fun _ _ => True)
      (I := fun d ori => d.attrRequiredKeys = design.attrRequiredKeys ∧
        ∀ attr ∈ attrsOf ori, isTrain attr = false) (by
        intro d d' ori ori' fuzzDict _ _ ⟨hkeys, hori⟩ hcase
        obtain ⟨ms, _, _, described, _, hstep⟩ := fuzzCase_spec hcase
        have hdescribed : attrsOf described = attrsOf ori :=
          attrsOf_of_agreeOff (agreeOff_makeDescsFuzz hstep.descs) (by decide)
        obtain ⟨hkeys', hori'⟩ := checkAttrValidFuzz_keys (hdescribed ▸ hori) hstep.attrs
        exact ⟨⟨hkeys'.trans hkeys, hori'⟩, hstep.generates.imp fun _ _ _ => trivial⟩)
      ⟨hkeys, hgen.jsonObj ▸ hplain⟩ hround
    exact ⟨hgen.trans hgen', hinv.1⟩
  exact hinv.2

end SubCaseDesignFuzz

/-! ## §3. Sequences of cases. -/

namespace CaseDesign

/-- The lists of required keys are those of another design; so are the names asked for. -/
structure SameKeys (design design' : CaseDesign) : Prop where
  required : design'.requiredKeys = design.requiredKeys
  attr : design'.attrRequiredKeys = design.attrRequiredKeys
  caseNameList : design'.caseNameList = design.caseNameList

/-- **An object of which nothing in that mode is validated leaves the lists alone.** -/
theorem generateCase_sameKeys {env : FuzzEnv} {design design' : CaseDesign}
    {e : String × PyVal} (hplain : NotTrained design.caseNameList e.2)
    (h : generateCase env design e = .ok design') : SameKeys design design' := by
  obtain ⟨jsonPath, jsonObj⟩ := e
  unfold generateCase at h
  obtain ⟨compileFlag, hflag, h⟩ := bind_eq_ok.mp h
  split at h
  · cases h
    exact ⟨rfl, rfl, rfl⟩
  · next hfalse =>
      have hcase : ¬ setsCompileFlag jsonObj := by
        intro ⟨flag, hget, htruthy⟩
        rw [hflag, Except.ok.injEq] at hget
        exact hfalse (hget ▸ htruthy)
      obtain ⟨keys, hkeys, h⟩ := bind_eq_ok.mp h
      obtain ⟨name, hname, h⟩ := bind_eq_ok.mp h
      have hkeys' : keys = design.requiredKeys :=
        SubCaseDesign.checkRequiredKeyValid_same (hplain.case hcase) hkeys
      split at h
      · next caseName =>
          split at h
          · next hselected =>
              have hattrs : ∀ attr ∈ attrsOf jsonObj, isTrain attr = false := by
                apply hplain.attrs hcase
                intro caseName' hname'
                rw [hname, Except.ok.injEq, PyVal.str.injEq] at hname'
                exact hname' ▸ hselected
              unfold getTotalCase at h
              obtain ⟨_, _, h⟩ := bind_eq_ok.mp h
              obtain ⟨subDesign, hsub, h⟩ := bind_eq_ok.mp h
              cases h
              refine ⟨hkeys', ?_, rfl⟩
              -- The list of the attributes is that of the design of the sub-cases.
              unfold subcaseGenerate at hsub
              obtain ⟨impl, _, hsub⟩ := bind_eq_ok.mp hsub
              split at hsub
              · exact SubCaseDesignFuzz.subcaseGenerate_keys hattrs hsub
              · exact SubCaseDesignCross.subcaseGenerate_keys hattrs hsub
          · cases h
            exact ⟨hkeys', rfl, rfl⟩
      · cases h

/-- So does a run over several objects. -/
theorem objects_sameKeys {env : FuzzEnv} {objects : List (String × PyVal)}
    {design design' : CaseDesign} (hplain : ∀ e ∈ objects, NotTrained design.caseNameList e.2)
    (h : objects.foldlM (generateCase env) design = .ok design') : SameKeys design design' := by
  apply foldlM_keeps (I := SameKeys design) _ ⟨rfl, rfl, rfl⟩ h
  intro e he d d' hd hstep
  have hkeys := generateCase_sameKeys (hd.caseNameList ▸ hplain e he) hstep
  exact ⟨hkeys.required.trans hd.required, hkeys.attr.trans hd.attr,
    hkeys.caseNameList.trans hd.caseNameList⟩

/-- `check_required_key_valid` accepts the case, given this list. -/
def Accepts (requiredKeys : List String) (jsonObj : PyVal) : Prop :=
  ∃ keys, SubCaseDesign.checkRequiredKeyValid jsonObj requiredKeys = .ok keys

/-- **Validation has no memory** as long as nothing in the mode `ms_python_train` is validated:
after a part of the sequence that is so, the lists are as at the start, and the next case is
accepted exactly if it is accepted at the start; and so they are after all of a sequence. -/
theorem validation_has_no_memory {env : CaseEnv} {jsonPathList : List String}
    {objects : List (String × PyVal)} {design : CaseDesign}
    (hload : caseObjects env jsonPathList = .ok objects) :
    (∀ before later design', objects = before ++ later →
      (∀ e ∈ before, NotTrained design.caseNameList e.2) →
      before.foldlM (generateCase env.toFuzzEnv) design = .ok design' →
        SameKeys design design' ∧
          ∀ e ∈ later, Accepts design'.requiredKeys e.2 ↔ Accepts design.requiredKeys e.2) ∧
    ((∀ e ∈ objects, NotTrained design.caseNameList e.2) →
      ∀ design', generateCases env jsonPathList design = .ok design' →
        SameKeys design design') := by
  constructor
  · intro before later design' _ hplain hrun
    have hkeys : SameKeys design design' := objects_sameKeys hplain hrun
    refine ⟨hkeys, fun e _ => ?_⟩
    rw [hkeys.required]
  · intro hplain design' hrun
    rw [generateCases_eq hload] at hrun
    exact objects_sameKeys hplain hrun

/-! ## §4. A case in that mode, and one that is not. -/

/-- One file with these cases. -/
def oneFile (cases : List PyVal) : CaseEnv where
  toDesignEnv := SubCaseDesignCross.plainEnv
  fuzzFunc _ _ := none
  loadJsonFile _ := .ok (.list cases)

/-- A case of `Add` with one input and one output. -/
def addCase (caseName : String) (rest : List (String × PyVal)) : PyVal :=
  let desc := PyVal.dict [("format", .str "ND"), ("type", .str "float"), ("shape", .list [.int 1])]
  .dict ([(CASE_NAME, .str caseName), (OP, .str "Add"), (INPUT_DESC, .list [desc]),
    (OUTPUT_DESC, .list [desc])] ++ rest)

/-- A case with an attribute. -/
def sumCase : PyVal := addCase "Sum" [(ATTR, .list [.dict [("name", .str "keep_dims"),
  ("type", .str "bool"), ("value", .bool true)]])]

/-- The objects of a file with that case and another one. -/
def twoObjects : List (String × PyVal) :=
  [("/st/Sum.json", sumCase), ("/st/Sum.json", addCase "Add" [])]

/-- None of the two objects is of the training mode. -/
theorem notTrained_twoObjects : ∀ e ∈ twoObjects, NotTrained none e.2 := by
  have hall : twoObjects.all (fun e =>
      isTrain e.2 == false && (attrsOf e.2).all fun attr => isTrain attr == false) = true := by
    decide +kernel
  intro e he
  have hplain := List.all_eq_true.mp hall e he
  rw [Bool.and_eq_true, beq_iff_eq, List.all_eq_true] at hplain
  exact ⟨fun _ => hplain.1, fun _ _ attr hattr => beq_iff_eq.mp (hplain.2 attr hattr)⟩

/-- The lists between the two cases, where the second one is accepted, and behind them. -/
theorem validation_has_no_memory_two :
    (∃ design', [("/st/Sum.json", sumCase)].foldlM
        (generateCase (oneFile [sumCase, addCase "Add" []]).toFuzzEnv) { caseNameList := none }
          = .ok design' ∧
      SameKeys { caseNameList := none } design' ∧
      (Accepts design'.requiredKeys (addCase "Add" []) ↔ Accepts REQUIRED_KEYS (addCase "Add" []))) ∧
    ∃ design', generateCases (oneFile [sumCase, addCase "Add" []]) ["/st/Sum.json"]
        { caseNameList := none } = .ok design' ∧
      design'.report.reportList.length = 2 ∧ SameKeys { caseNameList := none } design' := by
  have hload : caseObjects (oneFile [sumCase, addCase "Add" []]) ["/st/Sum.json"]
      = .ok twoObjects := rfl
  constructor
  · obtain ⟨design', hok, -⟩ := Lib.exists_eq_ok
      (x := [("/st/Sum.json", sumCase)].foldlM
        (generateCase (oneFile [sumCase, addCase "Add" []]).toFuzzEnv) { caseNameList := none })
      (p := fun _ => true) (by decide +kernel)
    have hfirst : ∀ e ∈ [("/st/Sum.json", sumCase)], NotTrained none e.2 := fun e he =>
      notTrained_twoObjects e (List.mem_of_mem_head? (by rw [List.mem_singleton.mp he]; rfl))
    obtain ⟨hkeys, hlater⟩ := (validation_has_no_memory hload).1
      [("/st/Sum.json", sumCase)] [("/st/Sum.json", addCase "Add" [])] design' rfl hfirst hok
    exact ⟨design', hok, hkeys, hlater _ (List.mem_singleton_self _)⟩
  · obtain ⟨design', hok, hlength⟩ := Lib.exists_eq_ok
      (x := generateCases (oneFile [sumCase, addCase "Add" []]) ["/st/Sum.json"]
        { caseNameList := none })
      (p := fun design' => design'.report.reportList.length == 2) (by decide +kernel)
    exact ⟨design', hok, beq_iff_eq.mp hlength,
      (validation_has_no_memory hload).2 notTrained_twoObjects design' hok⟩

/-- After a case in the mode `ms_python_train` a case that is accepted at the start is
missing a key. -/
theorem later_case_rejected :
    ∃ design', [("/st/Add.json", addCase "Train" [(ST_MODE, .str "ms_python_train")])].foldlM
        (generateCase (oneFile []).toFuzzEnv) { caseNameList := none } = .ok design' ∧
      Accepts REQUIRED_KEYS (addCase "Add" []) ∧
      ¬ Accepts design'.requiredKeys (addCase "Add" []) ∧
      design'.requiredKeys ≠ REQUIRED_KEYS := by
  obtain ⟨design', hok, htest⟩ := Lib.exists_eq_ok
    (x := [("/st/Add.json", addCase "Train" [(ST_MODE, .str "ms_python_train")])].foldlM
      (generateCase (oneFile []).toFuzzEnv) { caseNameList := none })
    (p := fun design' => design'.requiredKeys == REQUIRED_KEYS ++ [ST_MODE]) (by decide +kernel)
  have hkeys : design'.requiredKeys = REQUIRED_KEYS ++ [ST_MODE] := beq_iff_eq.mp htest
  refine ⟨design', hok, ?_, ?_, ?_⟩
  · obtain ⟨keys, haccept, -⟩ := Lib.exists_eq_ok
      (x := SubCaseDesign.checkRequiredKeyValid (addCase "Add" []) REQUIRED_KEYS)
      (p := fun _ => true) (by decide +kernel)
    exact ⟨keys, haccept⟩
  · rw [hkeys]
    intro ⟨keys, haccept⟩
    have hnone : (SubCaseDesign.checkRequiredKeyValid (addCase "Add" [])
        (REQUIRED_KEYS ++ [ST_MODE])).toOption = none := by decide +kernel
    rw [haccept] at hnone
    cases hnone
  · rw [hkeys]
    decide

end CaseDesign

end HwEfat.Main
