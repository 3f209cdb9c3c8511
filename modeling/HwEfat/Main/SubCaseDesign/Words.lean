/-
  HwEfat.Main.SubCaseDesign.Words — the formats and types of the descriptions.

  The name of a case ends with the format and the type of its first output.  Both are words
  of the white lists, or `UNDEFINED`, in either design.  The white lists are configured
  (`white_list_config.json`); what is needed of their words is that they do not have the
  marks of a name (`PlainWords`).
-/
import HwEfat.Lib.Infix
import HwEfat.Main.SubCaseDesign.Count
import HwEfat.Main.SubCaseDesign.FuzzFields

namespace HwEfat.Main

open HwEfat.Lib (PyError PyVal PyDict raiseIf_eq_ok bind_eq_ok forM_eq_ok exists_of_mapM
  isInfix_append_cons_iff)

/-- A text without the marks of a name. -/
structure PlainText (s : String) : Prop where
  case : ¬ "case".toList <:+: s.toList
  sub : ¬ "sub".toList <:+: s.toList

/-- The formats and types that are supported are plain. -/
def PlainWords (whiteLists : WhiteLists) : Prop :=
  ∀ w ∈ whiteLists.formatMap ++ whiteLists.typeList ++ whiteLists.mindsporeTypeList, PlainText w

/-- The format and the type of a description are plain. -/
def PlainDesc (desc : Desc) : Prop :=
  ∀ key ∈ ["format", "type"], ∀ s, desc.lookup key = some (.str s) → PlainText s

/-- The word `UNDEFINED` has no mark. -/
theorem plainText_undefined : PlainText TYPE_UNDEFINED := ⟨by decide, by decide⟩

/-- As in the white lists of the small operator. -/
theorem plainWords_plainEnv : PlainWords SubCaseDesignCross.plainEnv.whiteLists := by
  intro w hw
  have hmem : w ∈ ["ND", "float", "float"] := hw
  rcases List.mem_cons.mp hmem with rfl | hmem
  · exact ⟨by decide, by decide⟩
  · rcases List.mem_pair.mp hmem with rfl | rfl
    · exact ⟨by decide, by decide⟩
    · exact ⟨by decide, by decide⟩

/-- The separator makes no mark. -/
theorem PlainText.join {s t : String} (hs : PlainText s) (ht : PlainText t) :
    PlainText (s ++ "_" ++ t) := by
  have hborder : (s ++ "_" ++ t).toList = s.toList ++ '_' :: t.toList := by
    rw [String.toList_append, String.toList_append, List.append_assoc]
    rfl
  constructor
  · rw [hborder, isInfix_append_cons_iff (by decide)]
    exact not_or.mpr ⟨hs.case, ht.case⟩
  · rw [hborder, isInfix_append_cons_iff (by decide)]
    exact not_or.mpr ⟨hs.sub, ht.sub⟩

/-- Only the format and the type count. -/
theorem PlainDesc.of_lookup {desc desc' : Desc} (h : PlainDesc desc)
    (hsame : ∀ key ∈ ["format", "type"], desc'.lookup key = desc.lookup key) :
    PlainDesc desc' := by
  intro key hkey s hs
  exact h key hkey s (hsame key hkey ▸ hs)

/-- A name is not looked at. -/
theorem PlainDesc.named {desc : Desc} (h : PlainDesc desc) (name : PyVal) :
    PlainDesc (desc.set "name" name) := by
  apply h.of_lookup
  intro key hkey
  rw [PyDict.lookup_set, if_neg]
  rintro rfl
  exact absurd hkey (by decide)

/-! ## §1. Words of a design by crossing. -/

namespace SubCaseDesignCross

/-- The profiles of the format and the type are plain. -/
def PlainTensor (tensor : Tensor) : Prop :=
  ∀ key ∈ ["format", "type"], ∀ v ∈ profiles tensor key, ∀ s, v = .str s → PlainText s

section Cross

variable {env : DesignEnv} {jsonPath key : String} {desc : PyVal} {tensor tensor' : Tensor}
  {formatList typeList : List PyVal}

/-- A list that passes the check has values of the support list only. -/
theorem checkListStrValid_supported {supportList : List String} {l : List PyVal}
    (h : SubCaseDesign.checkListStrValid desc key supportList = .ok l) :
    ∀ v ∈ l, ∃ s ∈ supportList, v = .str s := by
  unfold SubCaseDesign.checkListStrValid at h
  obtain ⟨_, _, h⟩ := bind_eq_ok.mp h
  obtain ⟨_, _, h⟩ := bind_eq_ok.mp h
  obtain ⟨value, _, h⟩ := bind_eq_ok.mp h
  obtain ⟨l', _, h⟩ := bind_eq_ok.mp h
  obtain ⟨_, _, h⟩ := bind_eq_ok.mp h
  obtain ⟨_, hitems, h⟩ := bind_eq_ok.mp h
  cases h
  intro v hv
  have hitem := forM_eq_ok.mp hitems v hv
  split at hitem
  · next s =>
      rw [raiseIf_eq_ok, not_or, not_not] at hitem
      exact ⟨s, hitem.2, rfl⟩
  · cases hitem

/-- Checked formats and types, wherever they are put. -/
theorem plainTensor_of_lookup (hwords : PlainWords env.whiteLists)
    (hformat : ∀ v ∈ profiles tensor "format", ∃ s ∈ env.whiteLists.formatMap, v = .str s)
    (htype : ∀ v ∈ profiles tensor "type",
      ∃ s ∈ env.whiteLists.typeList ++ env.whiteLists.mindsporeTypeList, v = .str s) :
    PlainTensor tensor := by
  intro key hkey v hv s hs
  rcases List.mem_pair.mp hkey with rfl | rfl
  · obtain ⟨t, ht, rfl⟩ := hformat v hv
    cases hs
    exact hwords s (List.mem_append_left _ (List.mem_append_left _ ht))
  · obtain ⟨t, ht, rfl⟩ := htype v hv
    cases hs
    rw [List.mem_append] at ht
    apply hwords
    rw [List.append_assoc, List.mem_append, List.mem_append]
    exact Or.inr ht

/-- Only the formats and types count. -/
theorem PlainTensor.of_lookup (h : PlainTensor tensor)
    (hsame : ∀ key ∈ ["format", "type"], tensor'.lookup key = tensor.lookup key) :
    PlainTensor tensor' := by
  intro key hkey v hv
  unfold profiles at hv
  rw [hsame key hkey] at hv
  exact h key hkey v hv

/-- Further fields do not. -/
theorem PlainTensor.extended (h : PlainTensor tensor) (hext : Extended tensor tensor') :
    PlainTensor tensor' := by
  apply h.of_lookup
  intro key hkey
  apply hext.lookup
  rcases List.mem_pair.mp hkey with rfl | rfl <;> decide

/-- The fields that inputs and outputs have in common, and further ones. -/
theorem plainTensor_withOriFields (hwords : PlainWords env.whiteLists)
    (hformat : SubCaseDesign.checkListStrValid desc "format" env.whiteLists.formatMap
      = .ok formatList)
    (htype : SubCaseDesign.checkListStrValid desc "type" env.whiteLists.typeList = .ok typeList)
    (shapeList : List PyVal) (oriFiledList : Option (List PyVal × List PyVal)) (rest : Tensor) :
    PlainTensor (withOriFields formatList typeList shapeList oriFiledList ++ rest) := by
  have hprofiles : profiles (withOriFields formatList typeList shapeList oriFiledList ++ rest)
        "format" = formatList ∧
      profiles (withOriFields formatList typeList shapeList oriFiledList ++ rest) "type"
        = typeList := by
    cases oriFiledList <;> exact ⟨rfl, rfl⟩
  apply plainTensor_of_lookup hwords
  · rw [hprofiles.1]
    exact checkListStrValid_supported hformat
  · rw [hprofiles.2]
    intro v hv
    obtain ⟨s, hs, heq⟩ := checkListStrValid_supported htype v hv
    exact ⟨s, List.mem_append_left _ hs, heq⟩

/-- The formats and types of an input are plain if the support lists are. -/
theorem plainTensor_makeInputDesc (hwords : PlainWords env.whiteLists)
    (h : makeInputDesc env jsonPath desc = .ok tensor) : PlainTensor tensor := by
  unfold makeInputDesc at h
  obtain ⟨formatList, hformat, h⟩ := bind_eq_ok.mp h
  obtain ⟨typeList, htype, h⟩ := bind_eq_ok.mp h
  obtain ⟨shapeList, _, h⟩ := bind_eq_ok.mp h
  obtain ⟨dataDistributeList, _, h⟩ := bind_eq_ok.mp h
  obtain ⟨valueRangeList, _, h⟩ := bind_eq_ok.mp h
  obtain ⟨oriFiledList, _, h⟩ := bind_eq_ok.mp h
  obtain ⟨oneInputDesc, hdynamic, h⟩ := bind_eq_ok.mp h
  exact (plainTensor_withOriFields hwords hformat htype _ _ _).extended
    ((Extended.refl.withDynamicShapeInfo hdynamic).dealWithValue h)

/-- Those of an output, too. -/
theorem plainTensor_makeOutputDesc (hwords : PlainWords env.whiteLists)
    (h : makeOutputDesc env desc = .ok tensor) : PlainTensor tensor := by
  unfold makeOutputDesc at h
  obtain ⟨formatList, hformat, h⟩ := bind_eq_ok.mp h
  obtain ⟨typeList, htype, h⟩ := bind_eq_ok.mp h
  obtain ⟨shapeList, _, h⟩ := bind_eq_ok.mp h
  obtain ⟨oriFiledList, _, h⟩ := bind_eq_ok.mp h
  have hfields := plainTensor_withOriFields hwords hformat htype shapeList oriFiledList []
  rw [List.append_nil] at hfields
  exact hfields.extended (Extended.refl.withDynamicShapeInfo h)

/-- In the mode `ms_python_train` there is no format. -/
theorem plainTensor_ms (hwords : PlainWords env.whiteLists)
    (htype : SubCaseDesign.checkListStrValid desc "type" env.whiteLists.mindsporeTypeList
      = .ok typeList) (rest : Tensor) (hrest : rest.lookup "format" = none) :
    PlainTensor (("type", typeList) :: rest) := by
  apply plainTensor_of_lookup hwords
  · show ∀ v ∈ (rest.lookup "format").getD [], _
    rw [hrest]
    exact List.forall_mem_nil _
  · intro v hv
    obtain ⟨s, hs, heq⟩ := checkListStrValid_supported htype v hv
    exact ⟨s, List.mem_append_right _ hs, heq⟩

/-- In the other mode, those of an input. -/
theorem plainTensor_makeInputDescMs (hwords : PlainWords env.whiteLists)
    (h : makeInputDescMs env jsonPath desc = .ok tensor) : PlainTensor tensor := by
  unfold makeInputDescMs at h
  obtain ⟨typeList, htype, h⟩ := bind_eq_ok.mp h
  obtain ⟨shapeList, _, h⟩ := bind_eq_ok.mp h
  obtain ⟨dataDistributeList, _, h⟩ := bind_eq_ok.mp h
  obtain ⟨valueRangeList, _, h⟩ := bind_eq_ok.mp h
  exact (plainTensor_ms hwords htype _ rfl).extended (Extended.refl.dealWithValue h)

/-- And those of an output. -/
theorem plainTensor_makeOutputDescMs (hwords : PlainWords env.whiteLists)
    (h : makeOutputDescMs env desc = .ok tensor) : PlainTensor tensor := by
  unfold makeOutputDescMs at h
  obtain ⟨typeList, htype, h⟩ := bind_eq_ok.mp h
  obtain ⟨shapeList, _, h⟩ := bind_eq_ok.mp h
  cases h
  exact plainTensor_ms hwords htype _ rfl

/-- All descriptions of a case, in either mode. -/
theorem plainTensor_makeDescs (hwords : PlainWords env.whiteLists) {jsonObj : PyVal}
    {descs : Descs} (h : makeDescs env jsonPath jsonObj = .ok descs) :
    ∀ tensor ∈ descs.inputDescList ++ descs.outputDescList, PlainTensor tensor :=
  forall_makeDescs (fun _ _ => plainTensor_makeInputDesc hwords)
    (fun _ _ => plainTensor_makeOutputDesc hwords)
    (fun _ _ => plainTensor_makeInputDescMs hwords)
    (fun _ _ => plainTensor_makeOutputDescMs hwords) h

/-- **The words of a combination**, and those that `_check_cur_params_undefined` puts in their
place. -/
theorem plainDesc_describe (htensor : PlainTensor tensor) {keys : List String} {p : List Nat}
    {d : Desc} (hok : describe keys tensor p = .ok d) : PlainDesc d := by
  -- `UNDEFINED` is plain, so it may replace either word.
  have hset : ∀ (e : Desc) (c : Bool) (k : String), PlainDesc e →
      PlainDesc (if c then e.set k (.str TYPE_UNDEFINED) else e) := by
    intro e c k he
    cases c with
    | false => exact he
    | true =>
        intro key hkey s hs
        rw [if_pos rfl, PyDict.lookup_set] at hs
        split at hs
        · cases hs
          exact plainText_undefined
        · exact he key hkey s hs
  have hprofiles : PlainDesc (profilesAt tensor (crossKeys keys tensor) p) := by
    intro key hkey s hs
    apply htensor key hkey (.str s) _ s rfl
    exact mem_profilesAt (PyDict.mem_of_lookup hs)
  have hchecked : PlainDesc
      (SubCaseDesign.checkCurParamsUndefined (profilesAt tensor (crossKeys keys tensor) p)) := by
    unfold SubCaseDesign.checkCurParamsUndefined
    exact hset _ _ "format" (hset _ _ "type" hprofiles)
  unfold describe getCase at hok
  dsimp only at hok
  split at hok
  · apply hchecked.of_lookup
    intro key hkey
    apply lookup_setTypicalShape _ hok
    rcases List.mem_pair.mp hkey with rfl | rfl <;> decide
  · cases hok
    exact hchecked

end Cross

end SubCaseDesignCross

/-! ## §2. Words of a fuzz design. -/

namespace SubCaseDesignFuzz

section Fuzz

variable {env : FuzzEnv} {jsonPath descType : String} {desc desc' fuzzDict : PyVal}
  {oneDesc : Desc}

/-- A description that is filled in is plain, in the other mode. -/
theorem makeDescMsFuzz_plain (hwords : PlainWords env.whiteLists)
    (h : makeDescMsFuzz env jsonPath fuzzDict descType desc = .ok (oneDesc, desc')) :
    PlainDesc oneDesc := by
  unfold makeDescMsFuzz at h
  obtain ⟨⟨typeValue, desc₁⟩, htype, h⟩ := bind_eq_ok.mp h
  obtain ⟨⟨shapeValue, desc₂⟩, _, h⟩ := bind_eq_ok.mp h
  obtain ⟨t, ht, rfl⟩ := checkFuzzValueValid_supported htype
  have hstart : PlainDesc [("type", .str t), ("shape", shapeValue)] := by
    intro key hkey s hs
    rcases List.mem_pair.mp hkey with rfl | rfl
    · cases hs
    · cases hs
      exact hwords _ (List.mem_append_right _ ht)
  exact hstart.of_lookup ((withInputFields_spec h).2.on (by decide))

/-- And in the first one. -/
theorem makeDescFuzz_plain (hwords : PlainWords env.whiteLists)
    (h : makeDescFuzz env jsonPath fuzzDict descType desc = .ok (oneDesc, desc')) :
    PlainDesc oneDesc := by
  unfold makeDescFuzz at h
  obtain ⟨⟨formatValue, desc₁⟩, hformat, h⟩ := bind_eq_ok.mp h
  obtain ⟨⟨typeValue, desc₂⟩, htype, h⟩ := bind_eq_ok.mp h
  obtain ⟨⟨shapeValue, desc₃⟩, _, h⟩ := bind_eq_ok.mp h
  obtain ⟨⟨oneDesc₁, desc₄⟩, hinput, h⟩ := bind_eq_ok.mp h
  obtain ⟨⟨oneDesc₂, desc₅⟩, hori, h⟩ := bind_eq_ok.mp h
  obtain ⟨⟨oneDesc₃, desc₆⟩, hdynamic, h⟩ := bind_eq_ok.mp h
  obtain ⟨name, _, h⟩ := bind_eq_ok.mp h
  cases h
  obtain ⟨f, hf, rfl⟩ := checkFuzzValueValid_supported hformat
  obtain ⟨t, ht, rfl⟩ := checkFuzzValueValid_supported htype
  have hstart : PlainDesc [("format", .str f), ("type", .str t), ("shape", shapeValue)] := by
    intro key hkey s hs
    rcases List.mem_pair.mp hkey with rfl | rfl
    · cases hs
      exact hwords _ (List.mem_append_left _ (List.mem_append_left _ hf))
    · cases hs
      exact hwords _ (List.mem_append_left _ (List.mem_append_right _ ht))
  -- No later field replaces the format or the type.
  have h₁ := hstart.of_lookup ((withInputFields_spec hinput).2.on (by decide))
  have h₂ := h₁.of_lookup ((dealWithOriFiledDataFuzz_spec hori).2.on (by decide))
  have h₃ := h₂.of_lookup ((sameOff_withDynamicShapeFuzz hdynamic).on (by decide))
  exact h₃.of_lookup ((sameOff_named oneDesc₃ name).on (by decide))

/-- Each description comes from one of the case. -/
theorem exists_of_makeDescListFuzz {jsonObj jsonObj' : PyVal} {demanded : Bool}
    {makeDesc : String → PyVal → Except PyError (Desc × PyVal)} {descs : List Desc}
    (h : makeDescListFuzz jsonObj descType demanded makeDesc = .ok (descs, jsonObj')) :
    ∀ oneDesc ∈ descs, ∃ desc desc', makeDesc descType desc = .ok (oneDesc, desc') := by
  unfold makeDescListFuzz at h
  obtain ⟨value, _, h⟩ := bind_eq_ok.mp h
  obtain ⟨n, _, h⟩ := bind_eq_ok.mp h
  -- No descriptions are demanded, or each one in the list is made.
  split at h
  · obtain ⟨_, _, h⟩ := bind_eq_ok.mp h
    cases h
    intro oneDesc hnil
    cases hnil
  · obtain ⟨l, _, h⟩ := bind_eq_ok.mp h
    obtain ⟨made, hmade, h⟩ := bind_eq_ok.mp h
    obtain ⟨json₁, _, h⟩ := bind_eq_ok.mp h
    cases h
    intro oneDesc hdesc
    obtain ⟨⟨oneDesc', desc'⟩, he, rfl⟩ := List.mem_map.mp hdesc
    obtain ⟨i, hi⟩ := List.getElem?_of_mem he
    obtain ⟨desc, _, hmake⟩ := exists_of_mapM hmade hi
    exact ⟨desc, desc', hmake⟩

/-- The outputs, in either mode. -/
theorem makeDescsFuzz_plain (hwords : PlainWords env.whiteLists) {jsonObj jsonObj' : PyVal}
    {ms : Bool} {inputDesc outputDesc : List Desc}
    (h : makeDescsFuzz env jsonPath jsonObj fuzzDict ms = .ok (inputDesc, outputDesc, jsonObj')) :
    ∀ oneDesc ∈ outputDesc, PlainDesc oneDesc := by
  unfold makeDescsFuzz at h
  obtain ⟨⟨input, json₁⟩, _, h⟩ := bind_eq_ok.mp h
  obtain ⟨⟨output, json₂⟩, houtput, h⟩ := bind_eq_ok.mp h
  cases h
  intro oneDesc hdesc
  obtain ⟨desc, desc', hmake⟩ := exists_of_makeDescListFuzz houtput oneDesc hdesc
  cases ms with
  | true => exact makeDescMsFuzz_plain hwords hmake
  | false => exact makeDescFuzz_plain hwords hmake

end Fuzz

end SubCaseDesignFuzz

end HwEfat.Main
