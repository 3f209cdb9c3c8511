/-
  HwEfat.Main.SubCaseDesign.FuzzShape — when the cases of a fuzz design can be executed.

  A fuzz design takes a typical shape only if the case has one, and none in the mode
  `ms_python_train`; nothing demands it for a dynamic shape, as a design by crossing does.
  So a case can be executed exactly if its dynamic shapes have been given a substitute
  (`Substituted`).  The shape may come from the fuzz function; it is replaced in the case,
  so the first value of each call decides for all values of that call.
-/
import HwEfat.Main.SubCaseDesign.FuzzFields

namespace HwEfat.Main

open HwEfat.Lib (PyError PyVal PyDict raiseIf bind_eq_ok forM_eq_ok exists_of_mapM
  exists_mapM foldlM_keeps foldlM_range_induct)

namespace SubCaseDesignFuzz

open SubCaseDesignCross (TypicalIf)

/-- The shape of a description, with a value of the fuzz function. -/
def shapeWith (descType : String) (fuzzDict desc : PyVal) : Except PyError PyVal := do
  (← replaceFuzzParam desc "shape" descType fuzzDict).get "shape"

/-- The field `typical_shape` is there. -/
def HasTypical (desc : PyVal) : Prop := ∃ v, desc.get TYPICAL_SHAPE = .ok v ∧ v.isNone = false

/-- If the shape is dynamic, a typical shape is taken. -/
def Substituted (ms : Bool) (descType : String) (fuzzDict desc : PyVal) : Prop :=
  ∀ dims, shapeWith descType fuzzDict desc = .ok (.list dims) → IsDynamic dims →
    ms = false ∧ HasTypical desc

/-- So it is for the inputs, or the outputs. -/
def ListSubstituted (ms : Bool) (descType : String) (fuzzDict jsonObj : PyVal) : Prop :=
  ∀ value descs, jsonObj.getItem descType = .ok value → value.iter = .ok descs →
    ∀ desc ∈ descs, Substituted ms descType fuzzDict desc

/-- So it is for all descriptions of a case. -/
def AllSubstituted (ms : Bool) (fuzzDict jsonObj : PyVal) : Prop :=
  ListSubstituted ms INPUT_DESC fuzzDict jsonObj ∧ ListSubstituted ms OUTPUT_DESC fuzzDict jsonObj

/-! ## §1. The shape. -/

section Shape

variable {descType : String} {desc desc' fuzzDict : PyVal} {keys : List String}

/-- Other fields do not change whether there is a typical shape. -/
theorem AgreeOff.hasTypical (h : AgreeOff keys desc desc') (hkey : TYPICAL_SHAPE ∉ keys) :
    HasTypical desc' ↔ HasTypical desc := by
  unfold HasTypical
  rw [h.get hkey]

/-- The other fields do not matter for the shape. -/
theorem AgreeOff.shapeWith (h : AgreeOff keys desc desc') (hshape : "shape" ∉ keys)
    (hname : "name" ∉ keys) :
    shapeWith descType fuzzDict desc' = shapeWith descType fuzzDict desc := by
  rcases h with rfl | ⟨d, d', rfl, rfl, hd⟩
  · rfl
  · unfold SubCaseDesignFuzz.shapeWith replaceFuzzParam
    simp only [PyVal.get, hd "shape" hshape, hd "name" hname, bind, Except.bind]
    by_cases hfuzz : PyVal.isStr "fuzz" ((d.lookup "shape").getD .none) = true
    · simp only [if_pos hfuzz]
      cases raiseIf (((d.lookup "name").getD .none).isNone = true) invalidParam with
      | error e => rfl
      | ok u =>
          cases fuzzResultParam fuzzDict descType ((d.lookup "name").getD .none) "shape" with
          | error e => rfl
          | ok a => simp [setItem, PyDict.lookup_set]
    · simp only [if_neg hfuzz, pure, Except.pure, hd "shape" hshape]

/-- A list stays as it is, whatever the fuzz function returns. -/
theorem shapeWith_of_list {dims : List PyVal} (h : desc.get "shape" = .ok (.list dims)) :
    shapeWith descType fuzzDict desc = .ok (.list dims) := by
  unfold shapeWith replaceFuzzParam
  rw [h]
  show desc.get "shape" = _
  exact h

end Shape

/-- What `check_not_dynamic_shape` counts. -/
theorem isDynamic_of_checkNotDynamicShape {dims : List PyVal} {count : Nat}
    (hvalid : ValidShape (.list dims)) (h : checkNotDynamicShape (.list dims) = .ok count) :
    IsDynamic dims ↔ count ≠ 0 := by
  obtain ⟨dims', heq, hdims⟩ := hvalid
  cases heq
  unfold checkNotDynamicShape at h
  split at h
  · next hempty =>
      cases h
      have hnil : dims = [] := by simpa [PyVal.truthy] using hempty
      simp [hnil, IsDynamic]
  · obtain ⟨dims', hiter, h⟩ := bind_eq_ok.mp h
    cases hiter
    cases h
    rw [List.map_congr_left (l := dims) (g := checkDynamicShape)]
    · have hone : ∀ dim, checkDynamicShape dim = 1 ↔ checkDynamicShape dim ≠ 0 := by
        intro dim
        unfold checkDynamicShape
        split <;> simp
      rw [ne_eq, List.sum_eq_zero_iff_forall_eq_nat]
      simp [IsDynamic, hone]
    · -- The dimensions are integers, so each one counts as `_check_dynamic_shape` says.
      intro dim hdim
      obtain ⟨i, hi, _⟩ := hdims dim hdim
      cases dim with
      | bool b => exact if_pos rfl
      | int n => exact if_pos rfl
      | _ => cases hi

/-! ## §2. One description. -/

/-- What is made of a description with this shape, and what becomes of it in the case. -/
structure DescMade (ms : Bool) (descType : String) (fuzzDict : PyVal) (dims : List PyVal)
    (desc : PyVal) (oneDesc : Desc) (desc' : PyVal) : Prop where
  shape : shapeWith descType fuzzDict desc = .ok (.list dims)
  valid : ValidShape (.list dims)
  typical : TypicalIf dims (IsDynamic dims ∧ ms = false ∧ HasTypical desc) oneDesc
  settled : desc'.get "shape" = .ok (.list dims)
  hasTypical : HasTypical desc' ↔ HasTypical desc

section OneDesc

variable {env : FuzzEnv} {jsonPath key descType : String} {desc desc' fuzzDict : PyVal}
  {oneDesc oneDesc' : Desc} {ms : Bool} {dims : List PyVal}

/-- **A description can be executed exactly if its shape has a substitute.** -/
theorem DescMade.executable_iff (h : DescMade ms descType fuzzDict dims desc oneDesc desc') :
    Executable oneDesc ↔ Substituted ms descType fuzzDict desc := by
  rw [HwEfat.Main.executable_iff h.typical.shape h.valid fun typical htypical =>
    ⟨(h.typical.typical typical htypical).1.1, (h.typical.typical typical htypical).2⟩]
  constructor
  · intro hlookup dims' hdims' hdynamic
    rw [h.shape] at hdims'
    cases hdims'
    cases htypical : oneDesc.lookup TYPICAL_SHAPE with
    | none => exact absurd htypical (hlookup hdynamic)
    | some typical => exact (h.typical.typical typical htypical).1.2
  · intro hsubst hdynamic
    exact h.typical.some ⟨hdynamic, hsubst dims h.shape hdynamic⟩

/-- The values that follow find the shape settled. -/
theorem DescMade.substituted_iff (h : DescMade ms descType fuzzDict dims desc oneDesc desc')
    (later : PyVal) :
    Substituted ms descType later desc' ↔ Substituted ms descType fuzzDict desc := by
  unfold Substituted
  rw [shapeWith_of_list h.settled, h.shape, h.hasTypical]

/-- The descriptions of a case in the mode `ms_python_train`. -/
theorem makeDescMsFuzz_made
    (h : makeDescMsFuzz env jsonPath fuzzDict descType desc = .ok (oneDesc, desc')) :
    ∃ dims, DescMade true descType fuzzDict dims desc oneDesc desc' := by
  unfold makeDescMsFuzz at h
  obtain ⟨⟨typeValue, desc₁⟩, htype, h⟩ := bind_eq_ok.mp h
  obtain ⟨⟨shapeValue, desc₂⟩, hshape, h⟩ := bind_eq_ok.mp h
  have h₁ : AgreeOff ["type"] desc desc₁ := agreeOff_checkFuzzValueValid htype
  obtain ⟨dims, rfl, hvalid, hreplace, hget⟩ := checkFuzzShapeValid_spec hshape
  have h₂ : AgreeOff ["shape"] desc₁ desc₂ := agreeOff_replaceFuzzParam hreplace
  obtain ⟨h₃, hsame⟩ := withInputFields_spec h
  refine ⟨dims, ?_, hvalid, ?_, ?_, ?_⟩
  · rw [← h₁.shapeWith (by decide) (by decide)]
    unfold shapeWith
    rw [hreplace]
    exact hget
  · have hstart : TypicalIf dims False [("type", typeValue), ("shape", .list dims)] :=
      ⟨rfl, False.elim, fun _ hnone => nomatch hnone⟩
    exact (hstart.of_lookup (hsame.on (by decide))).congr (by simp)
  · exact (h₃.get (by decide)).trans hget
  · exact (h₃.hasTypical (by decide)).trans
      ((h₂.hasTypical (by decide)).trans (h₁.hasTypical (by decide)))

/-- **The typical shape** is taken if it is there and the shape is dynamic. -/
theorem withDynamicShapeFuzz_spec (hstart : TypicalIf dims False oneDesc)
    (hget : desc.get "shape" = .ok (.list dims)) (hvalid : ValidShape (.list dims))
    (h : withDynamicShapeFuzz desc descType fuzzDict oneDesc = .ok (oneDesc', desc')) :
    TypicalIf dims (IsDynamic dims ∧ HasTypical desc) oneDesc' ∧
      desc'.get "shape" = .ok (.list dims) ∧ (HasTypical desc' ↔ HasTypical desc) := by
  unfold withDynamicShapeFuzz at h
  obtain ⟨value, hvalue, h⟩ := bind_eq_ok.mp h
  have hhas : HasTypical desc ↔ value.isNone = false := by
    unfold HasTypical
    rw [hvalue]
    constructor
    · intro ⟨v, heq, hv⟩
      cases heq
      exact hv
    · intro hv
      exact ⟨value, rfl, hv⟩
  split at h
  · next hnone =>
      cases h
      exact ⟨hstart.congr (by simp [hhas, hnone]), hget, Iff.rfl⟩
  · next hsome =>
      unfold dealWithDynamicShapeFuzz at h
      obtain ⟨shape, hshape, h⟩ := bind_eq_ok.mp h
      obtain rfl : shape = .list dims := Except.ok.inj (hshape.symm.trans hget)
      obtain ⟨count, hcount, h⟩ := bind_eq_ok.mp h
      have hdynamic := isDynamic_of_checkNotDynamicShape hvalid hcount
      split at h
      · next hzero =>
          cases h
          exact ⟨hstart.congr (by simp [hdynamic, hzero]), hget, Iff.rfl⟩
      · next hpos =>
          obtain ⟨⟨typicalShape, desc₁⟩, htypical, h⟩ := bind_eq_ok.mp h
          obtain ⟨typicalDims, rfl, _, hreplace, htaken⟩ := checkFuzzShapeValid_spec htypical
          obtain ⟨_, hcheck, h⟩ := bind_eq_ok.mp h
          obtain ⟨⟨shapeRange, desc₂⟩, hrange, h⟩ := bind_eq_ok.mp h
          cases h
          -- Both fields are replaced in the case; the shape is neither of them.
          have h₁ : AgreeOff [TYPICAL_SHAPE] desc desc₁ := agreeOff_replaceFuzzParam hreplace
          have h₂ : AgreeOff [SHAPE_RANGE] desc₁ desc' := by
            unfold checkFuzzShapeRangeValid at hrange
            obtain ⟨desc₂, hreplace, hrange⟩ := bind_eq_ok.mp hrange
            obtain ⟨_, _, hrange⟩ := bind_eq_ok.mp hrange
            obtain ⟨_, _, hrange⟩ := bind_eq_ok.mp hrange
            cases hrange
            exact agreeOff_replaceFuzzParam hreplace
          have htrue : IsDynamic dims ∧ HasTypical desc :=
            ⟨hdynamic.mpr hpos, hhas.mpr (Bool.eq_false_iff.mpr hsome)⟩
          refine ⟨?_, ?_, ?_⟩
          · apply ((hstart.setTypical (nonNegative_of_check hcheck)).of_lookup _).congr
              (iff_of_true trivial htrue)
            exact ((SameOff.refl [SHAPE_RANGE] _).set (by decide) _).on (by decide)
          · exact (h₂.get (by decide)).trans ((h₁.get (by decide)).trans hget)
          · exact (h₂.hasTypical (by decide)).trans (iff_of_true ⟨_, htaken, rfl⟩ htrue.2)

/-- The descriptions of a case in the other mode. -/
theorem makeDescFuzz_made
    (h : makeDescFuzz env jsonPath fuzzDict descType desc = .ok (oneDesc, desc')) :
    ∃ dims, DescMade false descType fuzzDict dims desc oneDesc desc' := by
  unfold makeDescFuzz at h
  obtain ⟨⟨formatValue, desc₁⟩, hformat, h⟩ := bind_eq_ok.mp h
  obtain ⟨⟨typeValue, desc₂⟩, htype, h⟩ := bind_eq_ok.mp h
  obtain ⟨⟨shapeValue, desc₃⟩, hshape, h⟩ := bind_eq_ok.mp h
  obtain ⟨⟨oneDesc₁, desc₄⟩, hinput, h⟩ := bind_eq_ok.mp h
  obtain ⟨⟨oneDesc₂, desc₅⟩, hori, h⟩ := bind_eq_ok.mp h
  obtain ⟨⟨oneDesc₃, desc₆⟩, hdynamic, h⟩ := bind_eq_ok.mp h
  obtain ⟨name, _, h⟩ := bind_eq_ok.mp h
  cases h
  have h₁ : AgreeOff ["format"] desc desc₁ := agreeOff_checkFuzzValueValid hformat
  have h₂ : AgreeOff ["type"] desc₁ desc₂ := agreeOff_checkFuzzValueValid htype
  obtain ⟨dims, rfl, hvalid, hreplace, hget⟩ := checkFuzzShapeValid_spec hshape
  have h₃ : AgreeOff ["shape"] desc₂ desc₃ := agreeOff_replaceFuzzParam hreplace
  obtain ⟨h₄, hsame₄⟩ := withInputFields_spec hinput
  obtain ⟨h₅, hsame₅⟩ := dealWithOriFiledDataFuzz_spec hori
  -- What comes before and behind the shape leaves it alone.
  have hbefore : AgreeOff ["format", "type"] desc desc₂ :=
    (h₁.mono (by decide)).trans (h₂.mono (by decide))
  have hafter : AgreeOff FURTHER_FIELDS desc₃ desc₅ := h₄.trans h₅
  have hhas : HasTypical desc₅ ↔ HasTypical desc :=
    (hafter.hasTypical (by decide)).trans
      ((h₃.hasTypical (by decide)).trans (hbefore.hasTypical (by decide)))
  have hstart : TypicalIf dims False
      [("format", formatValue), ("type", typeValue), ("shape", .list dims)] :=
    ⟨rfl, False.elim, fun _ hnone => nomatch hnone⟩
  have hbefore' : TypicalIf dims False oneDesc₂ :=
    (hstart.of_lookup (hsame₄.on (by decide))).of_lookup (hsame₅.on (by decide))
  obtain ⟨htypical, hget', hhas'⟩ := withDynamicShapeFuzz_spec hbefore'
    ((hafter.get (by decide)).trans hget) hvalid hdynamic
  refine ⟨dims, ?_, hvalid, ?_, hget', hhas'.trans hhas⟩
  · rw [← hbefore.shapeWith (by decide) (by decide)]
    unfold shapeWith
    rw [hreplace]
    exact hget
  · exact (htypical.of_lookup ((sameOff_named oneDesc₃ name).on (by decide))).congr
      (by simp [hhas])

end OneDesc

/-! ## §3. One case. -/

section OneCase

variable {env : FuzzEnv} {settings : Settings} {jsonPath descType : String}
  {jsonObj jsonObj' fuzzDict later : PyVal} {descs : List Desc} {ms : Bool}

/-- Something of length zero has no elements. -/
theorem iter_of_len_eq_zero {v : PyVal} (h : v.len = .ok 0) : v.iter = .ok [] := by
  cases v with
  | str s =>
      have hs : s.length = 0 := Except.ok.inj h
      have hnil : s.toList = [] := List.length_eq_zero_iff.mp hs
      simp [PyVal.iter, hnil]
  | list l => rw [List.length_eq_zero_iff.mp (Except.ok.inj h)]; rfl
  | dict d => rw [List.length_eq_zero_iff.mp (Except.ok.inj h)]; rfl
  | _ => cases h

/-- Other fields of the case do not change it. -/
theorem AgreeOff.listSubstituted {keys : List String} (h : AgreeOff keys jsonObj jsonObj')
    (hkey : descType ∉ keys) :
    ListSubstituted ms descType fuzzDict jsonObj' ↔
      ListSubstituted ms descType fuzzDict jsonObj := by
  unfold ListSubstituted
  rw [h.getItem hkey]

/-- The descriptions of a list, and what becomes of them in the case. -/
abbrev DescsMade (ms : Bool) (descType : String) (fuzzDict : PyVal) :
    List PyVal → List (Desc × PyVal) → Prop :=
  List.Forall₂ fun desc e => ∃ dims, DescMade ms descType fuzzDict dims desc e.1 e.2

/-- The descriptions that are made can be executed exactly if all are substituted. -/
theorem DescsMade.executable_iff {l : List PyVal} {made : List (Desc × PyVal)}
    (h : DescsMade ms descType fuzzDict l made) :
    (∀ oneDesc ∈ made.map Prod.fst, Executable oneDesc) ↔
      ∀ desc ∈ l, Substituted ms descType fuzzDict desc := by
  induction h with
  | nil => simp
  | cons hone _ ih =>
      obtain ⟨dims, hone⟩ := hone
      rw [List.map_cons, List.forall_mem_cons, List.forall_mem_cons, ih, hone.executable_iff]

/-- For a later dictionary, the copies ask for the same as the descriptions they come from. -/
theorem DescsMade.substituted_iff {l : List PyVal} {made : List (Desc × PyVal)}
    (h : DescsMade ms descType fuzzDict l made) (later : PyVal) :
    (∀ desc ∈ made.map Prod.snd, Substituted ms descType later desc) ↔
      ∀ desc ∈ l, Substituted ms descType fuzzDict desc := by
  induction h with
  | nil => simp
  | cons hone _ ih =>
      obtain ⟨dims, hone⟩ := hone
      rw [List.map_cons, List.forall_mem_cons, List.forall_mem_cons, ih,
        hone.substituted_iff later]

/-- The condition over the list that the source goes through. -/
theorem listSubstituted_iff {v : PyVal} {l : List PyVal}
    (hvalue : jsonObj.getItem descType = .ok v) (hiter : v.iter = .ok l) :
    ListSubstituted ms descType fuzzDict jsonObj ↔
      ∀ desc ∈ l, Substituted ms descType fuzzDict desc := by
  unfold ListSubstituted
  rw [hvalue]
  constructor
  · intro hall
    exact hall v l rfl hiter
  · intro hall value l' heq hl'
    cases heq
    cases hiter.symm.trans hl'
    exact hall

/-- The loops over the descriptions. -/
theorem makeDescListFuzz_spec {demanded : Bool}
    {makeDesc : String → PyVal → Except PyError (Desc × PyVal)}
    (hmake : ∀ desc oneDesc desc', makeDesc descType desc = .ok (oneDesc, desc') →
      ∃ dims, DescMade ms descType fuzzDict dims desc oneDesc desc')
    (h : makeDescListFuzz jsonObj descType demanded makeDesc = .ok (descs, jsonObj')) :
    ((∀ oneDesc ∈ descs, Executable oneDesc) ↔ ListSubstituted ms descType fuzzDict jsonObj) ∧
      ∀ later, ListSubstituted ms descType later jsonObj' ↔
        ListSubstituted ms descType fuzzDict jsonObj := by
  unfold makeDescListFuzz at h
  obtain ⟨value, hvalue, h⟩ := bind_eq_ok.mp h
  obtain ⟨n, hlen, h⟩ := bind_eq_ok.mp h
  split at h
  · next hzero =>
      obtain ⟨_, _, h⟩ := bind_eq_ok.mp h
      cases h
      -- An empty list is left, and has nothing to substitute.
      have hiter : value.iter = .ok [] := iter_of_len_eq_zero (hzero ▸ hlen)
      constructor
      · rw [listSubstituted_iff hvalue hiter]
        simp
      · intro later
        rw [listSubstituted_iff hvalue hiter, listSubstituted_iff hvalue hiter]
        simp
  · obtain ⟨l, hiter, h⟩ := bind_eq_ok.mp h
    obtain ⟨made, hmade, h⟩ := bind_eq_ok.mp h
    obtain ⟨jsonObj₁, hset, h⟩ := bind_eq_ok.mp h
    cases h
    have hpair : DescsMade ms descType fuzzDict l made := by
      apply (Lib.mapM_eq_ok.mp hmade).imp
      rintro desc ⟨oneDesc, desc'⟩ hone
      exact hmake desc oneDesc desc' hone
    rw [listSubstituted_iff hvalue hiter]
    refine ⟨hpair.executable_iff, fun later => ?_⟩
    rw [listSubstituted_iff (getItem_setItem hset) rfl]
    exact hpair.substituted_iff later

/-- All descriptions of a case can be executed. -/
def CaseExecutable (case : SubCase) : Prop :=
  ∀ desc ∈ case.inputDesc ++ case.outputDesc, Executable desc

/-- **The descriptions of one value of the fuzz function.** -/
theorem makeDescsFuzz_spec {inputDesc outputDesc : List Desc}
    (h : makeDescsFuzz env jsonPath jsonObj fuzzDict ms = .ok (inputDesc, outputDesc, jsonObj')) :
    ((∀ desc ∈ inputDesc ++ outputDesc, Executable desc) ↔ AllSubstituted ms fuzzDict jsonObj) ∧
      ∀ later, AllSubstituted ms later jsonObj' ↔ AllSubstituted ms fuzzDict jsonObj := by
  unfold makeDescsFuzz at h
  obtain ⟨⟨input, json₁⟩, hinput, h⟩ := bind_eq_ok.mp h
  obtain ⟨⟨output, json₂⟩, houtput, h⟩ := bind_eq_ok.mp h
  cases h
  have hmake : ∀ descType desc oneDesc desc',
      (if ms then makeDescMsFuzz env jsonPath fuzzDict else makeDescFuzz env jsonPath fuzzDict)
        descType desc = .ok (oneDesc, desc') →
      ∃ dims, DescMade ms descType fuzzDict dims desc oneDesc desc' := by
    intro descType desc oneDesc desc' hone
    cases ms with
    | true => exact makeDescMsFuzz_made hone
    | false => exact makeDescFuzz_made hone
  obtain ⟨hexecIn, hsettledIn⟩ := makeDescListFuzz_spec (hmake INPUT_DESC) hinput
  obtain ⟨hexecOut, hsettledOut⟩ := makeDescListFuzz_spec (hmake OUTPUT_DESC) houtput
  -- Making the inputs does not touch the outputs, nor the other way round.
  have hagreeIn : AgreeOff [INPUT_DESC] jsonObj json₁ := agreeOff_makeDescListFuzz hinput
  have hagreeOut : AgreeOff [OUTPUT_DESC] json₁ jsonObj' := agreeOff_makeDescListFuzz houtput
  rw [hagreeIn.listSubstituted (by decide)] at hexecOut
  constructor
  · rw [List.forall_mem_append, hexecIn, hexecOut]
    rfl
  · intro later
    unfold AllSubstituted
    rw [hagreeOut.listSubstituted (by decide), hsettledIn later, hsettledOut later,
      hagreeIn.listSubstituted (by decide)]

/-- Other fields do not change it for the whole case. -/
theorem AgreeOff.allSubstituted {keys : List String} (h : AgreeOff keys jsonObj jsonObj')
    (hinput : INPUT_DESC ∉ keys) (houtput : OUTPUT_DESC ∉ keys) :
    AllSubstituted ms fuzzDict jsonObj' ↔ AllSubstituted ms fuzzDict jsonObj := by
  unfold AllSubstituted
  rw [h.listSubstituted hinput, h.listSubstituted houtput]

/-- The check of the attributes changes the attributes only. -/
theorem agreeOff_checkAttrValidFuzz {attrList : List PyVal} {keys keys' : List String}
    (h : checkAttrValidFuzz jsonObj fuzzDict keys = .ok (attrList, jsonObj', keys')) :
    AgreeOff [ATTR] jsonObj jsonObj' := by
  unfold checkAttrValidFuzz at h
  obtain ⟨_, _, h⟩ := bind_eq_ok.mp h
  split at h
  · cases h
    exact AgreeOff.refl _ _
  · obtain ⟨_, _, h⟩ := bind_eq_ok.mp h
    split at h
    · obtain ⟨⟨attrList', nameList, keys₁⟩, _, h⟩ := bind_eq_ok.mp h
      obtain ⟨json₁, hset, h⟩ := bind_eq_ok.mp h
      cases h
      exact agreeOff_setItem hset
    · cases h

end OneCase

/-! ## §4. All cases. -/

section AllCases

variable {env : FuzzEnv} {settings : Settings} {design design' : SubCaseDesign}
  {oriJson oriJson' fuzzDict : PyVal} {ms : Bool}

/-- The case as it is after one value of the fuzz function: in the same mode, and its
shapes are settled. -/
structure Settled (ms : Bool) (substituted : Prop) (oriJson : PyVal) : Prop where
  mode : SubCaseDesignCross.isMs oriJson = .ok ms
  substituted : ∀ later, AllSubstituted ms later oriJson ↔ substituted

/-- **One value of the fuzz function.** -/
theorem fuzzCase_executable (hms : SubCaseDesignCross.isMs oriJson = .ok ms)
    (h : fuzzCase env settings (design, oriJson) fuzzDict = .ok (design', oriJson')) :
    Generates (fun _ _ => True) design design' ∧
      ((∀ case ∈ newCases design design', CaseExecutable case) ↔
        AllSubstituted ms fuzzDict oriJson) ∧
      Settled ms (AllSubstituted ms fuzzDict oriJson) oriJson' := by
  obtain ⟨ms', inputDesc, outputDesc, described, attr, hstep⟩ := fuzzCase_spec h
  obtain rfl : ms' = ms := Except.ok.inj (hstep.mode.symm.trans hms)
  obtain ⟨hexec, hsettled⟩ := makeDescsFuzz_spec hstep.descs
  have hattrs : AgreeOff [ATTR] described oriJson' := agreeOff_checkAttrValidFuzz hstep.attrs
  have hagree : AgreeOff [INPUT_DESC, OUTPUT_DESC, ATTR] oriJson oriJson' :=
    ((agreeOff_makeDescsFuzz hstep.descs).mono (by decide)).trans (hattrs.mono (by decide))
  refine ⟨hstep.generates.imp fun _ _ _ => trivial, ?_, ?_, ?_⟩
  · obtain ⟨case, hnew, hin, hout, -⟩ := hstep.generates.newCases_one hstep.one
    rw [hnew, List.forall_mem_singleton, ← hexec, ← hin, ← hout]
    rfl
  · show SubCaseDesignCross.isMs oriJson' = .ok ms'
    unfold SubCaseDesignCross.isMs
    rw [hagree.get (by decide)]
    exact hms
  · intro later
    rw [hattrs.allSubstituted (by decide) (by decide), hsettled later]

/-- The first value that a call of the fuzz function returns substitutes the dynamic shapes. -/
def RoundSubstituted (ms : Bool) (fuzzFunction : Nat → Except PyError PyVal) (jsonObj : PyVal)
    (round : Nat) : Prop :=
  ∀ fuzzReturn first rest, fuzzFunction round = .ok fuzzReturn →
    getFuzzFuncReturn fuzzReturn = .ok (first :: rest) → AllSubstituted ms first jsonObj

/-- **One call of the fuzz function.** -/
theorem fuzzRound_executable {fuzzFunction : Nat → Except PyError PyVal} {round : Nat}
    (hms : SubCaseDesignCross.isMs design.jsonObj = .ok ms)
    (h : fuzzRound env settings fuzzFunction design round = .ok design') :
    Generates (fun _ _ => True) design design' ∧
      ((∀ case ∈ newCases design design', CaseExecutable case) ↔
        RoundSubstituted ms fuzzFunction design.jsonObj round) := by
  unfold fuzzRound at h
  obtain ⟨fuzzReturn, hreturn, h⟩ := bind_eq_ok.mp h
  obtain ⟨fuzzReturnList, hlist, h⟩ := bind_eq_ok.mp h
  obtain ⟨⟨d, ori⟩, hloop, h⟩ := bind_eq_ok.mp h
  cases h
  cases fuzzReturnList with
  | nil =>
      cases hloop
      refine ⟨Generates.refl design design.attrRequiredKeys, ?_⟩
      rw [newCases_self]
      refine iff_of_true (List.forall_mem_nil _) fun fuzzReturn' first rest hreturn' hlist' => ?_
      cases hreturn.symm.trans hreturn'
      cases hlist.symm.trans hlist'
  | cons first rest =>
      rw [List.foldlM_cons] at hloop
      obtain ⟨⟨d₁, ori₁⟩, hfirst, hloop⟩ := bind_eq_ok.mp hloop
      have hround : RoundSubstituted ms fuzzFunction design.jsonObj round ↔
          AllSubstituted ms first design.jsonObj := by
        constructor
        · intro hall
          exact hall fuzzReturn first rest hreturn hlist
        · intro hsubst fuzzReturn' first' rest' hreturn' hlist'
          cases hreturn.symm.trans hreturn'
          cases hlist.symm.trans hlist'
          exact hsubst
      rw [hround]
      -- What the first value settles decides for the values that follow.
      have hinv : (Generates (fun _ _ => True) design design' ∧
          ((∀ case ∈ newCases design design', CaseExecutable case) ↔
            AllSubstituted ms first design.jsonObj)) ∧
          Settled ms (AllSubstituted ms first design.jsonObj) ori := by
        apply foldlM_keeps (I := fun st => (Generates (fun _ _ => True) design st.1 ∧
          ((∀ case ∈ newCases design st.1, CaseExecutable case) ↔
            AllSubstituted ms first design.jsonObj)) ∧
          Settled ms (AllSubstituted ms first design.jsonObj) st.2) _ _ hloop
        · intro fuzzDict _ ⟨d, ori⟩ ⟨d', ori'⟩ ⟨⟨hgen, hexec⟩, hori⟩ hcase
          obtain ⟨hgen', hexec', hori'⟩ := fuzzCase_executable hori.mode hcase
          rw [hori.substituted fuzzDict] at hexec' hori'
          refine ⟨⟨hgen.trans hgen', ?_⟩, hori'⟩
          rw [hgen.newCases_trans hgen', List.forall_mem_append, hexec, hexec', and_self]
        · obtain ⟨hgen, hexec, hori⟩ := fuzzCase_executable hms hfirst
          exact ⟨⟨hgen, hexec⟩, hori⟩
      exact hinv.1

/-- **When the cases of a fuzz design can be executed.** -/
theorem subcaseGenerate_executable (h : subcaseGenerate env design = .ok design') :
    ∃ fuzzFunction loopNum ms,
      checkFuzzValid env design.currentJsonPath design.jsonObj = .ok fuzzFunction ∧
      checkFuzzCaseNumValid design.jsonObj = .ok loopNum ∧
      SubCaseDesignCross.isMs design.jsonObj = .ok ms ∧
      ((∀ case ∈ newCases design design', CaseExecutable case) ↔
        ∀ round < loopNum, RoundSubstituted ms fuzzFunction design.jsonObj round) := by
  obtain ⟨fuzzFunction, loopNum, settings, hsettings, hloop⟩ := subcaseGenerate_spec h
  obtain ⟨ms, hms⟩ : ∃ ms, SubCaseDesignCross.isMs design.jsonObj = .ok ms := by
    -- The case has been read before, so it is a dictionary.
    have hnum := hsettings.loopNum
    unfold checkFuzzCaseNumValid at hnum
    obtain ⟨value, hvalue, _⟩ := bind_eq_ok.mp hnum
    unfold SubCaseDesignCross.isMs
    cases hjson : design.jsonObj with
    | dict d => exact ⟨_, rfl⟩
    | _ => rw [hjson] at hvalue; cases hvalue
  have hinv : Generates (fun _ _ => True) design design' ∧
      ((∀ case ∈ newCases design design', CaseExecutable case) ↔
        ∀ round < loopNum, RoundSubstituted ms fuzzFunction design.jsonObj round) := by
    apply foldlM_range_induct (I := fun n d => Generates (fun _ _ => True) design d ∧
      ((∀ case ∈ newCases design d, CaseExecutable case) ↔
        ∀ round < n, RoundSubstituted ms fuzzFunction design.jsonObj round)) _ _ hloop
    · refine ⟨Generates.refl design design.attrRequiredKeys, ?_⟩
      rw [newCases_self]
      simp
    · intro round d d' _ ⟨hgen, hexec⟩ hround
      have hmode : SubCaseDesignCross.isMs d.jsonObj = .ok ms := hgen.jsonObj ▸ hms
      obtain ⟨hgen', hexec'⟩ := fuzzRound_executable hmode hround
      refine ⟨hgen.trans hgen', ?_⟩
      rw [hgen.newCases_trans hgen', List.forall_mem_append, hexec, hexec', hgen.jsonObj,
        Nat.forall_lt_succ_right]
  exact ⟨fuzzFunction, loopNum, ms, hsettings.fuzzFunction, hsettings.loopNum, hms, hinv.2⟩

end AllCases

end SubCaseDesignFuzz

end HwEfat.Main
