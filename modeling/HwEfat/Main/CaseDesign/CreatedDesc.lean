/-
  HwEfat.Main.CaseDesign.CreatedDesc — the descriptions that `create` writes for an AI Core
  operator, as `run` reads them.

  A description that is created has a list of formats, a list of types and no shape.  It passes if
  the white lists have the values (`makeDescs_created`), and it is crossed to the pairs of a format
  and a type, for the empty shape (`crossTensor_created`).
-/
import HwEfat.Main.CaseDesign.Def
import HwEfat.Main.CaseGenerator.AicoreBaseCase
import HwEfat.Main.SubCaseDesign.TypicalShape

namespace HwEfat.Main

open HwEfat.Lib (PyError PyVal PyFloat PyDict Dict raiseIf product bind_eq_ok raiseIf_eq_ok forM_eq_ok)

namespace CreatedCase

open CaseGenerator (Side Fields OpInfo)
open SubCaseDesign (checkListStrValid)
open SubCaseDesignCross (Descs Prepared)

/-! ## §1. The fields of a description. -/

/-- The texts as values. -/
def strs (l : List String) : List PyVal := l.map .str

/-- The white list has the values, of which there is one at least. -/
def Listed (supportList l : List String) : Prop := l ≠ [] ∧ ∀ s ∈ l, s ≠ "" ∧ s ∈ supportList

section Checks

variable {d : PyDict PyVal} {key : String} {l supportList : List String} {r : List PyVal}

/-- A field that is there. -/
theorem hasKey_of_lookup {v : PyVal} (h : d.lookup key = some v) :
    (PyVal.dict d).hasKey key = .ok true := by
  show Except.ok (d.lookup key).isSome = _
  rw [h]
  rfl

/-- The field that `[]` gives. -/
theorem getItem_of_lookup {v : PyVal} (h : d.lookup key = some v) :
    (PyVal.dict d).getItem key = .ok v := by
  unfold PyVal.getItem
  dsimp only
  rw [h]

/-- The field that `get` gives. -/
theorem get_of_lookup {v : PyVal} (h : d.lookup key = some v) :
    (PyVal.dict d).get key = .ok v := PyVal.get_of_getItem (getItem_of_lookup h)

/-- **A list of texts** passes if the white list has them. -/
theorem checkListStrValid_strs (h : d.lookup key = some (.list (strs l))) :
    checkListStrValid (.dict d) key supportList = .ok r ↔ Listed supportList l ∧ r = strs l := by
  unfold checkListStrValid SubCaseDesign.checkKeyExist SubCaseDesign.checkFuzzInJson
  rw [hasKey_of_lookup h, get_of_lookup h, getItem_of_lookup h]
  show (raiseIf (strs l).isEmpty invalidData >>= fun _ => _) = _ ↔ _
  rw [bind_eq_ok]
  constructor
  · rintro ⟨_, hempty, hrest⟩
    obtain ⟨_, hitems, hrest⟩ := bind_eq_ok.mp hrest
    cases hrest
    refine ⟨⟨?_, ?_⟩, rfl⟩
    · rintro rfl
      exact raiseIf_eq_ok.mp hempty rfl
    · intro s hs
      have hitem := forM_eq_ok.mp hitems (.str s) (List.mem_map_of_mem hs)
      rw [raiseIf_eq_ok, not_or, not_not] at hitem
      exact hitem
  · rintro ⟨⟨hne, hall⟩, rfl⟩
    refine ⟨(), raiseIf_eq_ok.mpr ?_, bind_eq_ok.mpr ⟨(), forM_eq_ok.mpr ?_, rfl⟩⟩
    · rw [List.isEmpty_iff]
      exact fun hnil => hne (List.map_eq_nil_iff.mp hnil)
    · intro v hv
      obtain ⟨s, hs, rfl⟩ := List.mem_map.mp hv
      rw [raiseIf_eq_ok, not_or, not_not]
      exact hall s hs

end Checks

/-! ## §2. Descriptions that are created. -/

/-- The fields of an input that are crossed: of an operator from a `.py` file there are no
formats. -/
def inputTensor (py : Bool) (f : Fields) : Tensor :=
  (if py then [] else [("format", strs f.format)]) ++
    [("type", strs f.dtype), ("shape", [.list []]),
      ("value_range", SubCaseDesignCross.defaultValueRange), ("data_distribute", [.str "uniform"])]

/-- The fields of an output that are crossed. -/
def outputTensor (py : Bool) (f : Fields) : Tensor :=
  (if py then [] else [("format", strs f.format)]) ++
    [("type", strs f.dtype), ("shape", [.list []])]

/-- The white lists have the formats and types. -/
structure Supported (w : WhiteLists) (py : Bool) (f : Fields) : Prop where
  format : py = false → Listed w.formatMap f.format
  dtype : Listed (if py then w.mindsporeTypeList else w.typeList) f.dtype

section Descs

variable {env : DesignEnv} {jsonPath : String} {py : Bool} {f : Fields} {t : Tensor}

/-- The description as it is read. -/
def descVal (py : Bool) (f : Fields) : PyVal := .dict (f.desc py).entries

/-- The formats of a created description. -/
theorem lookup_desc_format (f : Fields) :
    (f.desc false).entries.lookup "format" = some (.list (strs f.format)) := by
  cases f with
  | mk side format dtype name => cases side <;> rfl

/-- Its types. -/
theorem lookup_desc_type (py : Bool) (f : Fields) :
    (f.desc py).entries.lookup "type" = some (.list (strs f.dtype)) := by
  cases f with
  | mk side format dtype name => cases side <;> cases py <;> rfl

/-- Its shape is the empty one, which is all of its shapes. -/
theorem getShapeList_desc (py : Bool) (f : Fields) :
    SubCaseDesignCross.getShapeList (descVal py f) = .ok [.list []] := by
  cases f with
  | mk side format dtype name => cases side <;> cases py <;> rfl

/-- The default range is valid. -/
theorem checkRangeValueValid_default :
    (forM SubCaseDesignCross.defaultValueRange fun item =>
      SubCaseDesign.checkRangeValueValid item false) = .ok () := by
  have hlt : PyFloat.lt (.finite 1)
      (.finite (3602879701896397 / 36028797018963968)) = false := by decide +kernel
  show (raiseIf (PyFloat.lt (.finite 1) _ = true) invalidData >>= fun _ => _) = _
  rw [hlt]
  rfl

/-- An input has the default range. -/
theorem getValueRangeList_desc (py : Bool) (hside : f.side = .input) :
    SubCaseDesignCross.getValueRangeList (descVal py f)
      = .ok SubCaseDesignCross.defaultValueRange := by
  have hlist : SubCaseDesign.checkListListValid (descVal py f) "value_range"
      = .ok SubCaseDesignCross.defaultValueRange := by
    cases f with
    | mk side format dtype name =>
        cases hside
        cases py <;> rfl
  have hkeys : (descVal py f).hasKey "value_range" = .ok true ∧
      (descVal py f).hasKey VALUE = .ok false := by
    cases f with
    | mk side format dtype name =>
        cases hside
        cases py <;> exact ⟨rfl, rfl⟩
  unfold SubCaseDesignCross.getValueRangeList
  rw [hkeys.1, hkeys.2, hlist]
  show ((forM SubCaseDesignCross.defaultValueRange fun item =>
    SubCaseDesign.checkRangeValueValid item false) >>= fun _ => _) = _
  rw [checkRangeValueValid_default]
  rfl

/-- A created description has no original format and shape. -/
theorem getOriFiledData_desc (py : Bool) (f : Fields) (formatList shapeList : List PyVal) :
    SubCaseDesign.getOriFiledData (descVal py f) formatList shapeList = .ok none := by
  cases f with
  | mk side format dtype name => cases side <;> cases py <;> rfl

/-- It has nothing of a dynamic shape. -/
theorem withDynamicShapeInfo_desc (py : Bool) (f : Fields) (t : Tensor) :
    SubCaseDesignCross.withDynamicShapeInfo (descVal py f) t = .ok t := by
  cases f with
  | mk side format dtype name => cases side <;> cases py <;> rfl

/-- It has no value. -/
theorem dealWithValue_desc (py : Bool) (f : Fields) (t : Tensor) :
    SubCaseDesign.dealWithValue env jsonPath (descVal py f) t = .ok t := by
  cases f with
  | mk side format dtype name => cases side <;> cases py <;> rfl

/-- The distribution of an input is `uniform`. -/
theorem getDataDistributeList_desc (hside : f.side = .input) {l : List PyVal} :
    SubCaseDesignCross.getDataDistributeList env (descVal py f) = .ok l ↔
      "uniform" ∈ env.whiteLists.dataDistributionList ∧ l = [.str "uniform"] := by
  have hlookup : (f.desc py).entries.lookup "data_distribute" = some (.list (strs ["uniform"])) := by
    cases f with
    | mk side format dtype name =>
        cases hside
        cases py <;> rfl
  have hvalue : (descVal py f).hasKey VALUE = .ok false := by
    cases f with
    | mk side format dtype name =>
        cases hside
        cases py <;> rfl
  have hkey : (descVal py f).hasKey "data_distribute" = .ok true := hasKey_of_lookup hlookup
  unfold SubCaseDesignCross.getDataDistributeList
  rw [hkey, hvalue]
  show checkListStrValid (.dict (f.desc py).entries) "data_distribute" _ = _ ↔ _
  rw [checkListStrValid_strs hlookup]
  unfold Listed strs
  simp

/-- **An input passes** if its values and the distribution are in the white lists. -/
theorem makeInputDesc_desc (hside : f.side = .input) :
    SubCaseDesignCross.makeInputDesc env jsonPath (descVal false f) = .ok t ↔
      (Supported env.whiteLists false f ∧ "uniform" ∈ env.whiteLists.dataDistributionList) ∧
        t = inputTensor false f := by
  unfold SubCaseDesignCross.makeInputDesc
  rw [getShapeList_desc, getValueRangeList_desc false hside]
  constructor
  · intro h
    obtain ⟨formatList, hformat, h⟩ := bind_eq_ok.mp h
    obtain ⟨typeList, htype, h⟩ := bind_eq_ok.mp h
    obtain ⟨shapeList, hshape, h⟩ := bind_eq_ok.mp h
    cases hshape
    obtain ⟨distribution, hdistribution, h⟩ := bind_eq_ok.mp h
    obtain ⟨range, hrange, h⟩ := bind_eq_ok.mp h
    cases hrange
    rw [getOriFiledData_desc] at h
    obtain ⟨ori, hori, h⟩ := bind_eq_ok.mp h
    cases hori
    rw [withDynamicShapeInfo_desc] at h
    obtain ⟨tensor, htensor, h⟩ := bind_eq_ok.mp h
    cases htensor
    rw [dealWithValue_desc] at h
    -- Of all that is read, only the formats, the types and the distribution can be refused.
    obtain ⟨hlisted, rfl⟩ := (checkListStrValid_strs (lookup_desc_format f)).mp hformat
    obtain ⟨hlisted', rfl⟩ := (checkListStrValid_strs (lookup_desc_type false f)).mp htype
    obtain ⟨huniform, rfl⟩ := (getDataDistributeList_desc hside).mp hdistribution
    exact ⟨⟨⟨fun _ => hlisted, hlisted'⟩, huniform⟩, (Except.ok.inj h).symm⟩
  · rintro ⟨⟨⟨hformat, hdtype⟩, huniform⟩, rfl⟩
    rw [show checkListStrValid (descVal false f) "format" _ = _ from
        (checkListStrValid_strs (lookup_desc_format f)).mpr ⟨hformat rfl, rfl⟩,
      show checkListStrValid (descVal false f) "type" env.whiteLists.typeList = _ from
        (checkListStrValid_strs (lookup_desc_type false f)).mpr ⟨hdtype, rfl⟩,
      (getDataDistributeList_desc hside).mpr ⟨huniform, rfl⟩]
    show (SubCaseDesign.getOriFiledData _ _ _ >>= fun _ => _) = _
    rw [getOriFiledData_desc]
    show (SubCaseDesignCross.withDynamicShapeInfo _ _ >>= fun _ => _) = _
    rw [withDynamicShapeInfo_desc]
    exact dealWithValue_desc false f _

/-- **An output passes** if its values are in the white lists. -/
theorem makeOutputDesc_desc :
    SubCaseDesignCross.makeOutputDesc env (descVal false f) = .ok t ↔
      Supported env.whiteLists false f ∧ t = outputTensor false f := by
  unfold SubCaseDesignCross.makeOutputDesc
  rw [getShapeList_desc]
  constructor
  · intro h
    obtain ⟨formatList, hformat, h⟩ := bind_eq_ok.mp h
    obtain ⟨typeList, htype, h⟩ := bind_eq_ok.mp h
    obtain ⟨shapeList, hshape, h⟩ := bind_eq_ok.mp h
    cases hshape
    rw [getOriFiledData_desc] at h
    obtain ⟨ori, hori, h⟩ := bind_eq_ok.mp h
    cases hori
    rw [withDynamicShapeInfo_desc] at h
    obtain ⟨hlisted, rfl⟩ := (checkListStrValid_strs (lookup_desc_format f)).mp hformat
    obtain ⟨hlisted', rfl⟩ := (checkListStrValid_strs (lookup_desc_type false f)).mp htype
    exact ⟨⟨fun _ => hlisted, hlisted'⟩, (Except.ok.inj h).symm⟩
  · rintro ⟨⟨hformat, hdtype⟩, rfl⟩
    rw [show checkListStrValid (descVal false f) "format" _ = _ from
        (checkListStrValid_strs (lookup_desc_format f)).mpr ⟨hformat rfl, rfl⟩,
      show checkListStrValid (descVal false f) "type" env.whiteLists.typeList = _ from
        (checkListStrValid_strs (lookup_desc_type false f)).mpr ⟨hdtype, rfl⟩]
    show (SubCaseDesign.getOriFiledData _ _ _ >>= fun _ => _) = _
    rw [getOriFiledData_desc]
    exact withDynamicShapeInfo_desc false f _

/-- When an input of an AI CPU case is accepted, and what it is made into. -/
theorem makeInputDescMs_desc (hside : f.side = .input) :
    SubCaseDesignCross.makeInputDescMs env jsonPath (descVal true f) = .ok t ↔
      (Supported env.whiteLists true f ∧ "uniform" ∈ env.whiteLists.dataDistributionList) ∧
        t = inputTensor true f := by
  unfold SubCaseDesignCross.makeInputDescMs
  rw [getShapeList_desc, getValueRangeList_desc true hside]
  constructor
  · intro h
    obtain ⟨typeList, htype, h⟩ := bind_eq_ok.mp h
    obtain ⟨shapeList, hshape, h⟩ := bind_eq_ok.mp h
    cases hshape
    obtain ⟨distribution, hdistribution, h⟩ := bind_eq_ok.mp h
    obtain ⟨range, hrange, h⟩ := bind_eq_ok.mp h
    cases hrange
    rw [dealWithValue_desc] at h
    obtain ⟨hlisted, rfl⟩ := (checkListStrValid_strs (lookup_desc_type true f)).mp htype
    obtain ⟨huniform, rfl⟩ := (getDataDistributeList_desc hside).mp hdistribution
    exact ⟨⟨⟨(fun hpy => by cases hpy), hlisted⟩, huniform⟩, (Except.ok.inj h).symm⟩
  · rintro ⟨⟨⟨_, hdtype⟩, huniform⟩, rfl⟩
    rw [show checkListStrValid (descVal true f) "type" env.whiteLists.mindsporeTypeList = _ from
        (checkListStrValid_strs (lookup_desc_type true f)).mpr ⟨hdtype, rfl⟩,
      (getDataDistributeList_desc hside).mpr ⟨huniform, rfl⟩]
    exact dealWithValue_desc true f _

/-- The same for an output. -/
theorem makeOutputDescMs_desc :
    SubCaseDesignCross.makeOutputDescMs env (descVal true f) = .ok t ↔
      Supported env.whiteLists true f ∧ t = outputTensor true f := by
  unfold SubCaseDesignCross.makeOutputDescMs
  rw [getShapeList_desc]
  constructor
  · intro h
    obtain ⟨typeList, htype, h⟩ := bind_eq_ok.mp h
    obtain ⟨shapeList, hshape, h⟩ := bind_eq_ok.mp h
    cases hshape
    obtain ⟨hlisted, rfl⟩ := (checkListStrValid_strs (lookup_desc_type true f)).mp htype
    exact ⟨⟨(fun hpy => by cases hpy), hlisted⟩, (Except.ok.inj h).symm⟩
  · rintro ⟨⟨_, hdtype⟩, rfl⟩
    rw [show checkListStrValid (descVal true f) "type" env.whiteLists.mindsporeTypeList = _ from
        (checkListStrValid_strs (lookup_desc_type true f)).mpr ⟨hdtype, rfl⟩]
    rfl

end Descs

/-! ## §3. The inputs and outputs of the case. -/

/-- The fields that are crossed, but for what inputs have besides. -/
def outputKeys (py : Bool) : List String := if py then MS_OUTPUT_CROSS_LIST else OUTPUT_CROSS_LIST

/-- The fields of an input that are crossed. -/
def inputKeys (py : Bool) : List String := if py then MS_INPUT_CROSS_LIST else INPUT_CROSS_LIST

/-- What the checks make of the descriptions. -/
def createdDescs (py : Bool) (inputs outputs : List Fields) : Descs where
  inputDescList := inputs.map (inputTensor py)
  outputDescList := outputs.map (outputTensor py)
  inputCrossList := inputKeys py
  outputCrossList := outputKeys py

/-- The descriptions pass. -/
structure DescsSupported (w : WhiteLists) (py : Bool) (inputs outputs : List Fields) : Prop where
  input : ∀ f ∈ inputs, Supported w py f
  output : ∀ f ∈ outputs, Supported w py f
  uniform : inputs ≠ [] → "uniform" ∈ w.dataDistributionList
  demanded : py = true → inputs ≠ []

/-- A list of descriptions passes if each does. -/
theorem makeDescList_desc {jsonObj : PyVal} {key : String} {demanded : Bool}
    {makeDesc : PyVal → Except PyError Tensor} {py : Bool} {fields : List Fields} {P : Fields → Prop}
    {tensorOf : Fields → Tensor} {tensors : List Tensor}
    (hitem : jsonObj.getItem key = .ok (.list (fields.map (descVal py))))
    (hmake : ∀ f ∈ fields, ∀ t, makeDesc (descVal py f) = .ok t ↔ P f ∧ t = tensorOf f) :
    SubCaseDesignCross.makeDescList jsonObj key demanded makeDesc = .ok tensors ↔
      ((demanded = true → fields ≠ []) ∧ ∀ f ∈ fields, P f) ∧ tensors = fields.map tensorOf := by
  -- Each description by itself is accepted exactly under its condition.
  have hmapM : (fields.map (descVal py)).mapM makeDesc = .ok tensors ↔
      (∀ f ∈ fields, P f) ∧ tensors = fields.map tensorOf := by
    clear hitem
    rw [HwEfat.Lib.mapM_eq_ok]
    induction fields generalizing tensors with
    | nil =>
        rw [List.map_nil, List.forall₂_nil_left_iff]
        simp
    | cons f fields ih =>
        have ih := fun ts => @ih ts fun g hg => hmake g (List.mem_cons_of_mem _ hg)
        rw [List.map_cons, List.forall₂_cons_left_iff, List.forall_mem_cons, List.map_cons]
        constructor
        · rintro ⟨t, ts, ht, hts, rfl⟩
          obtain ⟨hP, rfl⟩ := (hmake f List.mem_cons_self t).mp ht
          obtain ⟨hall, rfl⟩ := (ih ts).mp hts
          exact ⟨⟨hP, hall⟩, rfl⟩
        · rintro ⟨⟨hP, hall⟩, rfl⟩
          exact ⟨_, _, (hmake f List.mem_cons_self _).mpr ⟨hP, rfl⟩, (ih _).mpr ⟨hall, rfl⟩, rfl⟩
  unfold SubCaseDesignCross.makeDescList
  rw [hitem]
  show (raiseIf (demanded ∧ (fields.map (descVal py)).length = 0) invalidData >>= fun _ =>
    (fields.map (descVal py)).mapM makeDesc) = _ ↔ _
  rw [bind_eq_ok]
  constructor
  · rintro ⟨_, hdemanded, h⟩
    obtain ⟨hall, rfl⟩ := hmapM.mp h
    refine ⟨⟨?_, hall⟩, rfl⟩
    rintro hd rfl
    exact raiseIf_eq_ok.mp hdemanded ⟨hd, rfl⟩
  · rintro ⟨⟨hdemanded, hall⟩, rfl⟩
    refine ⟨(), raiseIf_eq_ok.mpr ?_, hmapM.mpr ⟨hall, rfl⟩⟩
    rintro ⟨hd, hlength⟩
    rw [List.length_map, List.length_eq_zero_iff] at hlength
    exact hdemanded hd hlength

/-- The case as it is read. -/
def createdVal (py : Bool) (opType : String) (inputs outputs : List Fields) (attrs : List PyVal) :
    PyVal := (CaseGenerator.aicoreCase py opType inputs outputs attrs).toPyVal

section Created

variable {env : DesignEnv} {jsonPath opType key : String} {py : Bool}
  {inputs outputs : List Fields} {attrs : List PyVal}

/-- The entries of the case. -/
theorem createdVal_eq : createdVal py opType inputs outputs attrs
    = .dict ((CASE_NAME, .str ("Test_" ++ CaseGenerator.opTypeName opType ++ "_001")) ::
      ((if py then [(ST_MODE, PyVal.str "ms_python_train")] else []) ++
        [(OP, .str opType), (INPUT_DESC, .list (inputs.map (descVal py))),
          (OUTPUT_DESC, .list (outputs.map (descVal py)))] ++
        (if attrs = [] then [] else [(ATTR, .list attrs)]))) := by
  unfold createdVal CaseGenerator.Case.toPyVal CaseGenerator.aicoreCase
  dsimp only
  rw [List.map_map, List.map_map]
  cases py with
  | false =>
      by_cases hattrs : attrs = []
      · rw [if_pos hattrs, if_pos hattrs]
        rfl
      · rw [if_neg hattrs, if_neg hattrs]
        rfl
  | true =>
      by_cases hattrs : attrs = []
      · rw [if_pos hattrs, if_pos hattrs]
        rfl
      · rw [if_neg hattrs, if_neg hattrs]
        rfl

/-- The inputs of a created case. -/
theorem getItem_input : (createdVal py opType inputs outputs attrs).getItem INPUT_DESC
    = .ok (.list (inputs.map (descVal py))) := by
  rw [createdVal_eq]
  cases py <;> rfl

/-- Its outputs. -/
theorem getItem_output : (createdVal py opType inputs outputs attrs).getItem OUTPUT_DESC
    = .ok (.list (outputs.map (descVal py))) := by
  rw [createdVal_eq]
  cases py <;> rfl

/-- Its operator. -/
theorem getItem_op : (createdVal py opType inputs outputs attrs).getItem OP
    = .ok (.str opType) := by
  rw [createdVal_eq]
  cases py <;> rfl

/-- Its name. -/
theorem getItem_caseName : (createdVal py opType inputs outputs attrs).getItem CASE_NAME
    = .ok (.str ("Test_" ++ CaseGenerator.opTypeName opType ++ "_001")) := by
  rw [createdVal_eq]
  rfl

/-- Other settings are not there. -/
theorem get_setting (hkey : key ∈ ["compile_flag", FUZZ_IMPL, "calc_expect_func_file",
    ERROR_THRESHOLD]) :
    (createdVal py opType inputs outputs attrs).get key = .ok .none := by
  rw [createdVal_eq]
  simp only [List.mem_cons, List.not_mem_nil, or_false] at hkey
  by_cases hattrs : attrs = []
  · rw [if_pos hattrs]
    rcases hkey with rfl | rfl | rfl | rfl <;> cases py <;> rfl
  · rw [if_neg hattrs]
    rcases hkey with rfl | rfl | rfl | rfl <;> cases py <;> rfl

/-- An AI CPU case is read in the other mode. -/
theorem isMs_created :
    SubCaseDesignCross.isMs (createdVal py opType inputs outputs attrs) = .ok py := by
  rw [createdVal_eq]
  cases py with
  | true => rfl
  | false =>
      by_cases hattrs : attrs = []
      · rw [if_pos hattrs]
        rfl
      · rw [if_neg hattrs]
        rfl

/-- **The descriptions of the case**, if they pass. -/
theorem makeDescs_created {descs : Descs} (hside : ∀ f ∈ inputs, f.side = .input)
    (houtputs : outputs ≠ []) :
    SubCaseDesignCross.makeDescs env jsonPath (createdVal py opType inputs outputs attrs)
        = .ok descs ↔
      DescsSupported env.whiteLists py inputs outputs ∧
        descs = createdDescs py inputs outputs := by
  have hin : ∀ demanded make tensors,
      (∀ f ∈ inputs, ∀ t, make (descVal py f) = .ok t ↔
        (Supported env.whiteLists py f ∧ "uniform" ∈ env.whiteLists.dataDistributionList) ∧
          t = inputTensor py f) →
      (SubCaseDesignCross.makeDescList (createdVal py opType inputs outputs attrs) INPUT_DESC
        demanded make = .ok tensors ↔ _) :=
    fun demanded make tensors hmake => makeDescList_desc getItem_input hmake
  have hout : ∀ make tensors,
      (∀ f ∈ outputs, ∀ t, make (descVal py f) = .ok t ↔
        Supported env.whiteLists py f ∧ t = outputTensor py f) →
      (SubCaseDesignCross.makeDescList (createdVal py opType inputs outputs attrs) OUTPUT_DESC
        true make = .ok tensors ↔ _) :=
    fun make tensors hmake => makeDescList_desc getItem_output hmake
  unfold SubCaseDesignCross.makeDescs
  rw [isMs_created, bind_eq_ok]
  -- The two modes differ in the functions that make a description, and in whether inputs are
  -- demanded.
  cases py with
  | false =>
      have hin := fun tensors => hin false (SubCaseDesignCross.makeInputDesc env jsonPath) tensors
        fun f hf t => makeInputDesc_desc (hside f hf)
      have hout := fun tensors => hout (SubCaseDesignCross.makeOutputDesc env) tensors
        fun f _ t => makeOutputDesc_desc
      constructor
      · rintro ⟨_, hms, h⟩
        cases hms
        rw [if_neg Bool.false_ne_true] at h
        obtain ⟨ins, hmakeIn, h⟩ := bind_eq_ok.mp h
        obtain ⟨outs, hmakeOut, h⟩ := bind_eq_ok.mp h
        obtain ⟨⟨_, hins⟩, rfl⟩ := (hin ins).mp hmakeIn
        obtain ⟨⟨_, houts⟩, rfl⟩ := (hout outs).mp hmakeOut
        refine ⟨⟨fun f hf => (hins f hf).1, houts, fun hne => ?_, (fun hpy => by cases hpy)⟩,
          (Except.ok.inj h).symm⟩
        obtain ⟨f, hf⟩ := List.exists_mem_of_ne_nil inputs hne
        exact (hins f hf).2
      · rintro ⟨⟨hins, houts, huniform, _⟩, rfl⟩
        refine ⟨_, rfl, ?_⟩
        rw [if_neg Bool.false_ne_true]
        refine bind_eq_ok.mpr ⟨_, (hin _).mpr ⟨⟨(fun hd => by cases hd), fun f hf =>
          ⟨hins f hf, huniform (List.ne_nil_of_mem hf)⟩⟩, rfl⟩, ?_⟩
        exact bind_eq_ok.mpr ⟨_, (hout _).mpr ⟨⟨fun _ => houtputs, houts⟩, rfl⟩, rfl⟩
  | true =>
      have hin := fun tensors => hin true (SubCaseDesignCross.makeInputDescMs env jsonPath) tensors
        fun f hf t => makeInputDescMs_desc (hside f hf)
      have hout := fun tensors => hout (SubCaseDesignCross.makeOutputDescMs env) tensors
        fun f _ t => makeOutputDescMs_desc
      constructor
      · rintro ⟨_, hms, h⟩
        cases hms
        rw [if_pos rfl] at h
        obtain ⟨ins, hmakeIn, h⟩ := bind_eq_ok.mp h
        obtain ⟨outs, hmakeOut, h⟩ := bind_eq_ok.mp h
        obtain ⟨⟨hdemanded, hins⟩, rfl⟩ := (hin ins).mp hmakeIn
        obtain ⟨⟨_, houts⟩, rfl⟩ := (hout outs).mp hmakeOut
        refine ⟨⟨fun f hf => (hins f hf).1, houts, fun hne => ?_, fun _ => hdemanded rfl⟩,
          (Except.ok.inj h).symm⟩
        obtain ⟨f, hf⟩ := List.exists_mem_of_ne_nil inputs hne
        exact (hins f hf).2
      · rintro ⟨⟨hins, houts, huniform, hdemanded⟩, rfl⟩
        refine ⟨_, rfl, ?_⟩
        rw [if_pos rfl]
        refine bind_eq_ok.mpr ⟨_, (hin _).mpr ⟨⟨fun _ => hdemanded rfl, fun f hf =>
          ⟨hins f hf, huniform (List.ne_nil_of_mem hf)⟩⟩, rfl⟩, ?_⟩
        exact bind_eq_ok.mpr ⟨_, (hout _).mpr ⟨⟨fun _ => houtputs, houts⟩, rfl⟩, rfl⟩

end Created

/-! ## §4. Crossing. -/

/-- `[0.1, 1.0]` -/
def defaultRange : PyVal :=
  .list [.float (.finite (3602879701896397 / 36028797018963968)), .float (.finite 1)]

/-- The description of a pair of a format and a type. -/
def plainDesc (py : Bool) (side : Side) (format dtype : String) : Desc :=
  (if py then [("type", .str dtype), ("shape", .list [])]
    else [("format", .str format), ("shape", .list []), ("type", .str dtype)]) ++
  match side with
  | .input => [("data_distribute", .str "uniform"), ("value_range", defaultRange)]
  | .output => []

/-- The formats that types are paired with; without formats there is one turn. -/
def formatsOf (py : Bool) (f : Fields) : List String := if py then [""] else f.format

/-- The descriptions of an input or output: every format with every type. -/
def row (py : Bool) (f : Fields) : List Desc :=
  (formatsOf py f).flatMap fun format => f.dtype.map fun dtype =>
    SubCaseDesign.checkCurParamsUndefined (plainDesc py f.side format dtype)

/-- How many there are. -/
def countOf (py : Bool) (f : Fields) : Nat := (formatsOf py f).length * f.dtype.length

/-- The fields that are crossed. -/
def tensorOf (py : Bool) (f : Fields) : Tensor :=
  match f.side with
  | .input => inputTensor py f
  | .output => outputTensor py f

/-- The fields that are crossed, on each side. -/
def keysOf (py : Bool) : Side → List String
  | .input => inputKeys py
  | .output => outputKeys py

section Cross

/-- A row has as many descriptions as there are combinations. -/
theorem length_row (py : Bool) (f : Fields) : (row py f).length = countOf py f := by
  unfold row countOf
  rw [List.length_flatMap]
  simp

/-- The `k`-th description. -/
theorem getElem?_row (py : Bool) (f : Fields) (k : Nat) : (row py f)[k]?
    = ((formatsOf py f)[k / f.dtype.length]?).bind fun format =>
      (f.dtype[k % f.dtype.length]?).map fun dtype =>
        SubCaseDesign.checkCurParamsUndefined (plainDesc py f.side format dtype) :=
  HwEfat.Lib.getElem?_flatMap_map _ _ _ k

/-- A static shape is kept. -/
theorem getCase_static {tensor : Tensor} {d : Desc} (h : d.lookup "shape" = some (.list [])) :
    SubCaseDesignCross.getCase tensor d = .ok (SubCaseDesign.checkCurParamsUndefined d) := by
  unfold SubCaseDesignCross.getCase
  dsimp only
  rw [lookup_checkCurParamsUndefined (by decide), h]
  rfl

/-- Crossing, if nothing is combined and the tuples come from a format and a type each. -/
theorem crossTensor_static {keys : List String} {tensor : Tensor} {lists : List (List PyVal)}
    {formats dtypes : List String} {c : String → String → List PyVal}
    (hitems : (keys.mapM fun key => tensor.getItem key) = .ok lists)
    (hkeys : addNewKeyToCrossList tensor keys = keys)
    (hori : filled tensor "ori_format" = false)
    (hproduct : product lists = formats.flatMap fun a => dtypes.map (c a))
    (hstatic : ∀ a t, List.lookup "shape" (keys.zip (c a t)) = some (.list [])) :
    SubCaseDesignCross.crossTensor keys tensor = .ok (formats.flatMap fun a => dtypes.map fun t =>
      SubCaseDesign.checkCurParamsUndefined (keys.zip (c a t))) := by
  unfold SubCaseDesignCross.crossTensor
  dsimp only
  rw [hkeys, hori, Bool.false_and, if_neg Bool.false_ne_true, hitems]
  show SubCaseDesignCross.getCaseList tensor (product lists) keys = _
  unfold SubCaseDesignCross.getCaseList
  have hcases : (product lists).mapM (fun case => SubCaseDesignCross.getCase tensor (keys.zip case))
      = .ok ((product lists).map fun case =>
        SubCaseDesign.checkCurParamsUndefined (keys.zip case)) := by
    refine HwEfat.Lib.mapM_eq_map fun case hcase => getCase_static ?_
    rw [hproduct] at hcase
    obtain ⟨a, _, hcase⟩ := List.mem_flatMap.mp hcase
    obtain ⟨t, _, rfl⟩ := List.mem_map.mp hcase
    exact hstatic a t
  rw [hcases, hproduct, List.map_flatMap]
  simp only [List.map_map, Function.comp_def]

/-- One more factor of a product. -/
theorem product_cons (l : List PyVal) (ls : List (List PyVal)) :
    product (l :: ls) = l.flatMap fun v => (product ls).map (v :: ·) := rfl

/-- A factor with one value. -/
theorem product_one (v : PyVal) (ls : List (List PyVal)) :
    product ([v] :: ls) = (product ls).map (v :: ·) := by
  rw [product_cons, List.flatMap_cons, List.flatMap_nil, List.append_nil]

/-- One tuple for each text. -/
theorem product_strs {l : List String} {ls : List (List PyVal)} {c : List PyVal}
    (hls : product ls = [c]) : product (strs l :: ls) = l.map fun s => .str s :: c := by
  unfold strs
  rw [product_cons, hls, List.flatMap_map]
  exact List.flatMap_pure_eq_map _ l

/-- The tuples of a format, the static shape and a type. -/
theorem product_format {formats dtypes : List String} {ls : List (List PyVal)} {c : List PyVal}
    (hls : product ls = [c]) : product (strs formats :: [.list []] :: strs dtypes :: ls)
      = formats.flatMap fun a => dtypes.map fun t => .str a :: .list [] :: .str t :: c := by
  rw [product_cons, product_one, product_strs hls, List.map_map]
  unfold strs
  rw [List.flatMap_map]
  simp only [List.map_map, Function.comp_def]

/-- The tuples of a type and the static shape. -/
theorem product_type {dtypes : List String} {ls : List (List PyVal)} {c : List PyVal}
    (hls : product ls = [c]) : product (strs dtypes :: [.list []] :: ls)
      = [""].flatMap fun _ => dtypes.map fun t => .str t :: .list [] :: c := by
  have hls' : product ([.list []] :: ls) = [.list [] :: c] := by
    rw [product_one, hls]
    rfl
  rw [product_strs hls', List.flatMap_cons, List.flatMap_nil, List.append_nil]

/-- **Crossing a description that is created.** -/
theorem crossTensor_created (py : Bool) (f : Fields) :
    SubCaseDesignCross.crossTensor (keysOf py f.side) (tensorOf py f) = .ok (row py f) := by
  cases f with
  | mk side format dtype name =>
      -- An input has a distribution and a range besides, of one profile each.
      cases side with
      | input =>
          have hlast : product [[PyVal.str "uniform"], [defaultRange]]
              = [[.str "uniform", defaultRange]] := rfl
          cases py with
          | false =>
              have hitems : (INPUT_CROSS_LIST.mapM fun key =>
                  (inputTensor false ⟨.input, format, dtype, name⟩).getItem key)
                  = .ok [strs format, [.list []], strs dtype, [.str "uniform"], [defaultRange]] := rfl
              have hcross := crossTensor_static hitems rfl rfl (product_format hlast) fun a t => rfl
              exact hcross
          | true =>
              have hitems : (MS_INPUT_CROSS_LIST.mapM fun key =>
                  (inputTensor true ⟨.input, format, dtype, name⟩).getItem key)
                  = .ok [strs dtype, [.list []], [.str "uniform"], [defaultRange]] := rfl
              have hcross := crossTensor_static hitems rfl rfl (product_type hlast) fun a t => rfl
              exact hcross
      | output =>
          cases py with
          | false =>
              have hitems : (OUTPUT_CROSS_LIST.mapM fun key =>
                  (outputTensor false ⟨.output, format, dtype, name⟩).getItem key)
                  = .ok [strs format, [.list []], strs dtype] := rfl
              have hcross := crossTensor_static hitems rfl rfl (product_format rfl) fun a t => rfl
              exact hcross
          | true =>
              have hitems : (MS_OUTPUT_CROSS_LIST.mapM fun key =>
                  (outputTensor true ⟨.output, format, dtype, name⟩).getItem key)
                  = .ok [strs dtype, [.list []]] := rfl
              have hcross := crossTensor_static hitems rfl rfl (product_type rfl) fun a t => rfl
              exact hcross

end Cross

end CreatedCase

end HwEfat.Main
