/-
  HwEfat.Main.SubCaseDesign.FuzzFields — what the checks of a fuzz design do to a
  description.

  There are two descriptions: the one of the case, in which the fields with the value
  `"fuzz"` are replaced (`AgreeOff`), and the one that is made, which grows (`SameOff`).
  Either way all fields but those of the check stay as they are.
-/
import HwEfat.Main.SubCaseDesign.TypicalShape

namespace HwEfat.Main

open HwEfat.Lib (PyError PyVal PyDict raiseIf_eq_ok bind_eq_ok)

namespace SubCaseDesignFuzz

section Fields

variable {env : FuzzEnv} {jsonPath key descType : String} {desc desc' fuzzDict v : PyVal}
  {oneDesc oneDesc' : Desc} {keys : List String}

/-! ## §1. Values and shapes. -/

/-- What `_check_fuzz_value_valid` changes of the description. -/
theorem agreeOff_checkFuzzValueValid {supportList : Option (List String)} {required : Bool}
    (h : checkFuzzValueValid desc key supportList descType fuzzDict required = .ok (v, desc')) :
    AgreeOff [key] desc desc' := by
  unfold checkFuzzValueValid at h
  obtain ⟨_, _, h⟩ := bind_eq_ok.mp h
  obtain ⟨desc₁, hreplace, h⟩ := bind_eq_ok.mp h
  obtain ⟨_, _, h⟩ := bind_eq_ok.mp h
  obtain ⟨_, _, h⟩ := bind_eq_ok.mp h
  obtain ⟨_, _, h⟩ := bind_eq_ok.mp h
  cases h
  exact agreeOff_replaceFuzzParam hreplace

/-- A value that has to be supported is. -/
theorem checkFuzzValueValid_supported {supportList : List String} {required : Bool}
    (h : checkFuzzValueValid desc key (some supportList) descType fuzzDict required
      = .ok (v, desc')) :
    ∃ s ∈ supportList, v = .str s := by
  unfold checkFuzzValueValid at h
  obtain ⟨_, _, h⟩ := bind_eq_ok.mp h
  obtain ⟨desc₁, _, h⟩ := bind_eq_ok.mp h
  obtain ⟨_, _, h⟩ := bind_eq_ok.mp h
  obtain ⟨value, _, h⟩ := bind_eq_ok.mp h
  obtain ⟨_, hcheck, h⟩ := bind_eq_ok.mp h
  cases h
  rw [raiseIf_eq_ok] at hcheck
  have hany : supportList.any (fun s => v.isStr s) = true := by simpa using hcheck
  obtain ⟨s, hs, heq⟩ := List.any_eq_true.mp hany
  cases v with
  | str t => exact ⟨s, hs, congrArg PyVal.str (beq_iff_eq.mp heq)⟩
  | _ => cases heq

/-- What `_check_fuzz_shape_valid` returns, and what it changes of the description. -/
theorem checkFuzzShapeValid_spec {required : Bool}
    (h : checkFuzzShapeValid desc key descType fuzzDict required = .ok (v, desc')) :
    ∃ dims, v = .list dims ∧ ValidShape (.list dims) ∧
      replaceFuzzParam desc key descType fuzzDict = .ok desc' ∧
      desc'.get key = .ok (.list dims) := by
  unfold checkFuzzShapeValid at h
  obtain ⟨_, _, h⟩ := bind_eq_ok.mp h
  obtain ⟨desc₁, hreplace, h⟩ := bind_eq_ok.mp h
  obtain ⟨value, hvalue, h⟩ := bind_eq_ok.mp h
  split at h
  · next dims =>
      obtain ⟨_, hcheck, h⟩ := bind_eq_ok.mp h
      cases h
      exact ⟨dims, rfl, validShape_of_check hcheck, hreplace, hvalue⟩
  · cases h

/-! ## §2. Further fields. -/

/-- The fields that inputs have besides. -/
def INPUT_FIELDS : List String := ["data_distribute", "value_range", VALUE, IS_CONST]

/-- The fields of the original data. -/
def ORIGINAL_FIELDS : List String := ["ori_format", "ori_shape"]

/-- All of them. -/
def FURTHER_FIELDS : List String := INPUT_FIELDS ++ ORIGINAL_FIELDS

/-- The further fields of an input change themselves only. -/
theorem agreeOff_inputFields
    (h : inputFields env jsonPath desc fuzzDict oneDesc = .ok (oneDesc', desc')) :
    AgreeOff FURTHER_FIELDS desc desc' := by
  unfold inputFields at h
  obtain ⟨⟨dataDistribute, desc₁⟩, hdistribute, h⟩ := bind_eq_ok.mp h
  obtain ⟨⟨valueRange, desc₂⟩, hrange, h⟩ := bind_eq_ok.mp h
  obtain ⟨desc₃, hvalue, h⟩ := bind_eq_ok.mp h
  obtain ⟨oneDesc₁, _, h⟩ := bind_eq_ok.mp h
  cases h
  -- Each of the three checks replaces its own field.
  have h₁ : AgreeOff ["data_distribute"] desc desc₁ := by
    unfold checkFuzzDataDistributeValid at hdistribute
    obtain ⟨_, _, hdistribute⟩ := bind_eq_ok.mp hdistribute
    obtain ⟨_, _, hdistribute⟩ := bind_eq_ok.mp hdistribute
    split at hdistribute
    · exact agreeOff_checkFuzzValueValid hdistribute
    · cases hdistribute
      exact AgreeOff.refl _ _
  have h₂ : AgreeOff ["value_range"] desc₁ desc₂ := by
    unfold checkFuzzValueRangeValid at hrange
    obtain ⟨_, _, hrange⟩ := bind_eq_ok.mp hrange
    obtain ⟨_, _, hrange⟩ := bind_eq_ok.mp hrange
    split at hrange
    · obtain ⟨desc₂', hreplace, hrange⟩ := bind_eq_ok.mp hrange
      obtain ⟨_, _, hrange⟩ := bind_eq_ok.mp hrange
      split at hrange
      · obtain ⟨_, _, hrange⟩ := bind_eq_ok.mp hrange
        cases hrange
        exact agreeOff_replaceFuzzParam hreplace
      · cases hrange
    · obtain ⟨_, _, hrange⟩ := bind_eq_ok.mp hrange
      cases hrange
      exact AgreeOff.refl _ _
  have h₃ : AgreeOff [VALUE] desc₂ desc' := agreeOff_replaceFuzzParam hvalue
  exact ((h₁.mono (by decide)).trans (h₂.mono (by decide))).trans (h₃.mono (by decide))

/-- The second description is the first one but for these fields. -/
def SameOff (keys : List String) (oneDesc oneDesc' : Desc) : Prop :=
  ∀ key ∉ keys, oneDesc'.lookup key = oneDesc.lookup key

/-- Nothing is changed. -/
theorem SameOff.refl (keys : List String) (oneDesc : Desc) : SameOff keys oneDesc oneDesc :=
  fun _ _ => rfl

/-- One of the fields is set. -/
theorem SameOff.set (h : SameOff keys oneDesc oneDesc') (hkey : key ∈ keys) (a : PyVal) :
    SameOff keys oneDesc (oneDesc'.set key a) := by
  intro k hk
  rw [PyDict.lookup_set, if_neg fun heq : k = key => hk (heq ▸ hkey)]
  exact h k hk

/-- The other fields, all at once. -/
theorem SameOff.on (h : SameOff keys oneDesc oneDesc') {others : List String}
    (hothers : ∀ k ∈ others, k ∉ keys) :
    ∀ k ∈ others, oneDesc'.lookup k = oneDesc.lookup k :=
  fun k hk => h k (hothers k hk)

/-- In the case, an input gets the fields of inputs only. -/
theorem sameOff_inputFields
    (h : inputFields env jsonPath desc fuzzDict oneDesc = .ok (oneDesc', desc')) :
    SameOff INPUT_FIELDS oneDesc oneDesc' := by
  unfold inputFields at h
  obtain ⟨⟨dataDistribute, desc₁⟩, _, h⟩ := bind_eq_ok.mp h
  obtain ⟨⟨valueRange, desc₂⟩, _, h⟩ := bind_eq_ok.mp h
  obtain ⟨desc₃, _, h⟩ := bind_eq_ok.mp h
  obtain ⟨oneDesc₁, hdeal, h⟩ := bind_eq_ok.mp h
  cases h
  have hstart : SameOff INPUT_FIELDS oneDesc
      (oneDesc ++ [("value_range", valueRange), ("data_distribute", dataDistribute)]) := by
    intro key hkey
    have hrest : List.lookup key
        [("value_range", valueRange), ("data_distribute", dataDistribute)] = none := by
      rw [List.lookup_eq_none_iff]
      intro e he
      have hmem : e.1 ∈ INPUT_FIELDS := by
        rcases List.mem_pair.mp he with rfl | rfl
        · exact (by decide : "value_range" ∈ INPUT_FIELDS)
        · exact (by decide : "data_distribute" ∈ INPUT_FIELDS)
      exact bne_iff_ne.mpr fun heq => hkey (heq ▸ hmem)
    rw [List.lookup_append, hrest, Option.or_none]
  unfold dealWithValue at hdeal
  obtain ⟨value, _, hdeal⟩ := bind_eq_ok.mp hdeal
  obtain ⟨oneDesc₁, hvalue, hdeal⟩ := bind_eq_ok.mp hdeal
  obtain ⟨isConst, _, hdeal⟩ := bind_eq_ok.mp hdeal
  -- Then `value`, and `is_const` behind it.
  have h₁ : SameOff INPUT_FIELDS oneDesc oneDesc₁ := by
    unfold withValue at hvalue
    split at hvalue
    · cases hvalue
      exact hstart
    · obtain ⟨_, _, hvalue⟩ := bind_eq_ok.mp hvalue
      obtain ⟨_, _, hvalue⟩ := bind_eq_ok.mp hvalue
      cases hvalue
      exact hstart.set (by decide) _
  unfold dealWithConst at hdeal
  split at hdeal
  · cases hdeal
    exact h₁
  · cases hdeal
    exact h₁.set (by decide) _
  · cases hdeal

/-- Only inputs have further fields. -/
theorem withInputFields_spec
    (h : withInputFields env jsonPath descType desc fuzzDict oneDesc = .ok (oneDesc', desc')) :
    AgreeOff FURTHER_FIELDS desc desc' ∧ SameOff INPUT_FIELDS oneDesc oneDesc' := by
  unfold withInputFields at h
  split at h
  · exact ⟨agreeOff_inputFields h, sameOff_inputFields h⟩
  · cases h
    exact ⟨AgreeOff.refl _ _, SameOff.refl _ _⟩

/-- What the original format and shape change in the JSON copy and in the case. -/
theorem dealWithOriFiledDataFuzz_spec
    (h : dealWithOriFiledDataFuzz desc descType fuzzDict oneDesc = .ok (oneDesc', desc')) :
    AgreeOff FURTHER_FIELDS desc desc' ∧ SameOff ORIGINAL_FIELDS oneDesc oneDesc' := by
  unfold dealWithOriFiledDataFuzz at h
  obtain ⟨⟨oriFormat, desc₁⟩, hformat, h⟩ := bind_eq_ok.mp h
  obtain ⟨⟨oriShape, desc₂⟩, hshape, h⟩ := bind_eq_ok.mp h
  have h₁ : AgreeOff ["ori_format"] desc desc₁ := agreeOff_checkFuzzValueValid hformat
  have h₂ : AgreeOff ["ori_shape"] desc₁ desc₂ := by
    unfold oriShapeValue at hshape
    obtain ⟨_, _, hshape⟩ := bind_eq_ok.mp hshape
    split at hshape
    · cases hshape
      exact AgreeOff.refl _ _
    · obtain ⟨_, _, _, hreplace, _⟩ := checkFuzzShapeValid_spec hshape
      exact agreeOff_replaceFuzzParam hreplace
  have hagree : AgreeOff FURTHER_FIELDS desc desc₂ :=
    (h₁.mono (by decide)).trans (h₂.mono (by decide))
  dsimp only at h
  split at h
  · cases h
    exact ⟨hagree, ((SameOff.refl ORIGINAL_FIELDS oneDesc).set (by decide) _).set (by decide) _⟩
  · cases h
    exact ⟨hagree, SameOff.refl ORIGINAL_FIELDS oneDesc⟩

/-- The fields of a dynamic shape are the only ones that it sets. -/
theorem sameOff_withDynamicShapeFuzz
    (h : withDynamicShapeFuzz desc descType fuzzDict oneDesc = .ok (oneDesc', desc')) :
    SameOff [TYPICAL_SHAPE, SHAPE_RANGE] oneDesc oneDesc' := by
  unfold withDynamicShapeFuzz at h
  obtain ⟨_, _, h⟩ := bind_eq_ok.mp h
  split at h
  · cases h
    exact SameOff.refl _ _
  · unfold dealWithDynamicShapeFuzz at h
    obtain ⟨_, _, h⟩ := bind_eq_ok.mp h
    obtain ⟨_, _, h⟩ := bind_eq_ok.mp h
    split at h
    · cases h
      exact SameOff.refl _ _
    · obtain ⟨⟨typicalShape, desc₁⟩, _, h⟩ := bind_eq_ok.mp h
      obtain ⟨_, _, h⟩ := bind_eq_ok.mp h
      obtain ⟨⟨shapeRange, desc₂⟩, _, h⟩ := bind_eq_ok.mp h
      cases h
      exact ((SameOff.refl _ _).set (by decide) _).set (by decide) _

/-- The name of a description. -/
theorem sameOff_named (oneDesc : Desc) (name : PyVal) :
    SameOff ["name"] oneDesc (if name.truthy then oneDesc.set "name" name else oneDesc) := by
  split
  · exact (SameOff.refl _ _).set (by decide) _
  · exact SameOff.refl _ _

end Fields

end SubCaseDesignFuzz

end HwEfat.Main
