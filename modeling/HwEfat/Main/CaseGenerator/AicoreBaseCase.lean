/-
  HwEfat.Main.CaseGenerator.AicoreBaseCase — the base case of an AI Core operator:
  `_generate_aicore_base_case`.

  A description gets the distinct formats and types that its entry of `op_info` declares, and no
  shape.  An operator from a `.py` file has no formats.

  Main result: `case_of_entries`, the case from the entries of `op_info`.
-/
import HwEfat.Main.CaseGenerator.AicpuBaseCase

namespace HwEfat.Main

open HwEfat.Lib (PyError PyVal Dict raiseIf split startswith bind_eq_ok)

namespace CaseGenerator

/-! ## §1. The source. -/

/-- `list(set(value[key].split(',')))`, and no values if the text is empty. -/
def distinctValues (o : Outside) (value : Dict PyVal) (key : String) :
    Except PyError (List String) := do
  let text ← value.getItem key
  if (← text.len) = 0 then return [] else return o.listSet (← splitValue text)

/-- `value.get('paramType') == paramType` -/
def hasParamType (value : Dict PyVal) (paramType : String) : Bool :=
  (value.get? "paramType").any (PyVal.isStr paramType)

/-- A description of an operator from a `.py` file, but for its name. -/
def makeDescMs (side : Side) (dtype : List String) : Desc :=
  let desc := (Dict.empty.set "type" (.list (dtype.map .str))).set "shape" (.list [])
  match side with
  | .input =>
      (desc.set "data_distribute" (.list [.str "uniform"])).set "value_range" DEFAULT_VALUE_RANGE
  | .output => desc

/-- The description of either kind of operator. -/
def makeAicoreDesc (py : Bool) (side : Side) (format dtype : List String) : Desc :=
  if py then makeDescMs side dtype else makeDesc side format dtype

/-- For an optional input every value is `UNDEFINED`. -/
def undefinedIfOptional (value : Dict PyVal) (l : List String) : List String :=
  if hasParamType value "optional" then l.map fun _ => TYPE_UNDEFINED else l

/-- The name of an input; that of a dynamic one gets a number. -/
def inputNameOf (value : Dict PyVal) : Except PyError PyVal :=
  let inputName := (value.get? "name").getD .none
  if hasParamType value "dynamic" then
    match inputName with
    | .str s => .ok (.str (s ++ "0"))
    | _ => .error (.typeError "sequence item 0: expected str instance")
  else .ok inputName

/-- `_generate_input_desc` -/
def generateInputDesc (o : Outside) (py : Bool) (value : Dict PyVal) : Except PyError Desc := do
  let inputFormat ← distinctValues o value "format"
  let inputDtype ← distinctValues o value "dtype"
  let inputFormat := undefinedIfOptional value inputFormat
  let inputDtype := undefinedIfOptional value inputDtype
  let inputName ← inputNameOf value
  return (makeAicoreDesc py .input inputFormat inputDtype).set "name" inputName

/-- `_generate_output_desc` -/
def generateOutputDesc (o : Outside) (py : Bool) (value : Dict PyVal) : Except PyError Desc := do
  let outputName := (value.get? "name").getD .none
  let outputFormat ← distinctValues o value "format"
  let outputDtype ← distinctValues o value "dtype"
  return (makeAicoreDesc py .output outputFormat outputDtype).set "name" outputName

/-- The description of a side. -/
def generateDesc (o : Outside) (py : Bool) : Side → Dict PyVal → Except PyError Desc
  | .input => generateInputDesc o py
  | .output => generateOutputDesc o py

/-- What the entry of an input or output adds. -/
def addDescOf (o : Outside) (py : Bool) (side : Side) (case : Case Desc)
    (item : String × Dict PyVal) : Except PyError (Case Desc) :=
  if startswith item.1 side.text then
    (generateDesc o py side item.2).map (case.addDesc side)
  else .ok case

/-- What the entry of an attribute adds. -/
def addAttrOf (o : Outside) (opInfo : OpInfo) (case : Case Desc) (item : String × Dict PyVal) :
    Except PyError (Case Desc) :=
  if startswith item.1 ATTR_PREFIX then
    (makeAttr o opInfo item.1 item.2).map fun attr =>
      { case with attr := some (case.attr.getD [] ++ [attr]) }
  else .ok case

/-- The three tests of an entry of `op_info`. -/
def addAicoreItem (o : Outside) (py : Bool) (opInfo : OpInfo) (case : Case Desc)
    (item : String × Dict PyVal) : Except PyError (Case Desc) := do
  let case ← addDescOf o py .input case item
  let case ← addDescOf o py .output case item
  addAttrOf o opInfo case item

/-- The case before the entries. -/
def emptyAicoreCase (py : Bool) (opType : String) : Case Desc :=
  { emptyCase opType with stMode := if py then some "ms_python_train" else none }

/-- `_check_desc_valid` for the outputs. -/
def checkDescValid (case : Case Desc) : Except PyError Unit :=
  raiseIf (case.outputDesc.length = 0) invalidOpInfoFile

/-- `_generate_aicore_base_case`, without a model. -/
def generateAicoreBaseCase (o : Outside) (py : Bool) (opType : String) (opInfo : OpInfo) :
    Except PyError (Case Desc) := do
  let baseCase ← opInfo.entries.foldlM (addAicoreItem o py opInfo) (emptyAicoreCase py opType)
  checkDescValid baseCase
  return baseCase

/-- A case as it is written. -/
def Case.toPyVal (case : Case Desc) : PyVal :=
  .dict ([(CASE_NAME, .str case.caseName)] ++
    (case.stMode.map fun mode => (ST_MODE, PyVal.str mode)).toList ++
    [(OP, .str case.op), (INPUT_DESC, .list (case.inputDesc.map fun desc => .dict desc.entries)),
      (OUTPUT_DESC, .list (case.outputDesc.map fun desc => .dict desc.entries))] ++
    (case.attr.map fun attrs => (ATTR, PyVal.list attrs)).toList)

/-! ## §2. What an entry declares. -/

/-- `list(set(l))` has every value of `l` once. -/
def Outside.SetLaw (o : Outside) : Prop := ∀ l, (o.listSet l).Perm l.dedup

/-- The distinct values that an entry declares. -/
def declared (value : Dict PyVal) (key : String) : List String :=
  match value.get? key with
  | some (.str s) => if s = "" then [] else (split s ",").dedup
  | _ => []

/-- The values that are written. -/
def writtenValues (value : Dict PyVal) (key : String) : Side → List String
  | .input => undefinedIfOptional value (declared value key)
  | .output => declared value key

/-- What a description is made of. -/
structure Fields where
  side : Side
  format : List String
  dtype : List String
  name : PyVal

def Fields.desc (py : Bool) (f : Fields) : Desc :=
  (makeAicoreDesc py f.side f.format f.dtype).set "name" f.name

/-- The name that an entry declares, or nothing. -/
def declaredName (value : Dict PyVal) : PyVal := (value.get? "name").getD .none

/-- The name that is written: a dynamic input is the first of several. -/
def writtenName (value : Dict PyVal) : Side → PyVal
  | .input =>
      match hasParamType value "dynamic", declaredName value with
      | true, .str s => .str (s ++ "0")
      | _, name => name
  | .output => declaredName value

/-- The fields are what the entry declares, the values in some order. -/
structure DeclaredBy (s : Side) (value : Dict PyVal) (f : Fields) : Prop where
  side : f.side = s
  format : f.format.Perm (writtenValues value "format" s)
  dtype : f.dtype.Perm (writtenValues value "dtype" s)
  name : f.name = writtenName value s

section Entry

variable {o : Outside} {py : Bool} {side : Side} {value : Dict PyVal} {desc : Desc}

theorem length_eq_zero_iff_empty {s : String} : s.length = 0 ↔ s = "" := by
  rw [← String.length_toList, List.length_eq_zero_iff]
  exact String.toList_eq_nil_iff

/-- **The distinct values**, in the order of the set. -/
theorem distinctValues_perm (hset : o.SetLaw) {key : String} {l : List String}
    (h : distinctValues o value key = .ok l) : l.Perm (declared value key) := by
  unfold distinctValues at h
  obtain ⟨text, htext, h⟩ := bind_eq_ok.mp h
  obtain ⟨n, hn, h⟩ := bind_eq_ok.mp h
  have hget : value.get? key = some text := Dict.getItem_eq_ok.mp htext
  unfold declared
  rw [hget]
  cases text with
  | str s =>
      have hlen : n = s.length := (Except.ok.inj hn).symm
      subst hlen
      dsimp only
      by_cases hempty : s = ""
      · rw [if_pos (length_eq_zero_iff_empty.mpr hempty)] at h
        rw [if_pos hempty, ← Except.ok.inj h]
      · rw [if_neg fun hzero => hempty (length_eq_zero_iff_empty.mp hzero)] at h
        rw [if_neg hempty, ← Except.ok.inj h]
        exact hset _
  | _ =>
      -- What is no text has no values, or raises.
      split_ifs at h with hzero
      · rw [← Except.ok.inj h]
      · cases h

theorem undefinedIfOptional_perm {l m : List String} (h : l.Perm m) :
    (undefinedIfOptional value l).Perm (undefinedIfOptional value m) := by
  unfold undefinedIfOptional
  split_ifs
  · exact h.map _
  · exact h

theorem inputName_eq {name : PyVal} (h : inputNameOf value = .ok name) :
    name = writtenName value .input := by
  unfold inputNameOf at h
  unfold writtenName declaredName
  cases hdynamic : hasParamType value "dynamic" with
  | false =>
      rw [hdynamic] at h
      cases h
      rfl
  | true =>
      rw [hdynamic] at h
      cases hname : (value.get? "name").getD .none with
      | str s =>
          rw [hname] at h
          cases h
          rfl
      | _ =>
          rw [hname] at h
          cases h

/-- **A description is made of what its entry declares.** -/
theorem fields_of_generateDesc (hset : o.SetLaw) (h : generateDesc o py side value = .ok desc) :
    ∃ f, DeclaredBy side value f ∧ desc = f.desc py := by
  cases side with
  | input =>
      obtain ⟨format, hformat, h⟩ := bind_eq_ok.mp h
      obtain ⟨dtype, hdtype, h⟩ := bind_eq_ok.mp h
      obtain ⟨name, hname, h⟩ := bind_eq_ok.mp h
      cases h
      exact ⟨⟨.input, _, _, name⟩,
        ⟨rfl, undefinedIfOptional_perm (distinctValues_perm hset hformat),
          undefinedIfOptional_perm (distinctValues_perm hset hdtype), inputName_eq hname⟩, rfl⟩
  | output =>
      obtain ⟨format, hformat, h⟩ := bind_eq_ok.mp h
      obtain ⟨dtype, hdtype, h⟩ := bind_eq_ok.mp h
      cases h
      exact ⟨⟨.output, _, _, _⟩, ⟨rfl, distinctValues_perm hset hformat,
        distinctValues_perm hset hdtype, rfl⟩, rfl⟩

end Entry

/-! ## §3. The case from the entries. -/

/-- The entries of a side, in order. -/
def entriesAt (opInfo : OpInfo) (side : Side) : List (Dict PyVal) :=
  (itemsOf side.text opInfo.entries).map Prod.snd

/-- What the case is made of. -/
structure MadeOf (o : Outside) (py : Bool) (opInfo : OpInfo) (l : List (String × Dict PyVal))
    (ins outs : List Desc) (attrs : List PyVal) : Prop where
  input : ((itemsOf INI_INPUT l).mapM fun item => generateDesc o py .input item.2) = .ok ins
  output : ((itemsOf INI_OUTPUT l).mapM fun item => generateDesc o py .output item.2) = .ok outs
  attr : ((itemsOf ATTR_PREFIX l).mapM fun item => makeAttr o opInfo item.1 item.2) = .ok attrs

/-- The case with more descriptions and attributes. -/
def Case.add (case : Case Desc) (ins outs : List Desc) (attrs : List PyVal) : Case Desc :=
  Case.addAttrs { case with
    inputDesc := case.inputDesc ++ ins, outputDesc := case.outputDesc ++ outs } attrs

section Items

variable {o : Outside} {py : Bool} {opInfo : OpInfo} {case case' : Case Desc}

theorem add_nil (case : Case Desc) : case.add [] [] [] = case := by
  unfold Case.add Case.addAttrs
  rw [if_pos rfl, List.append_nil, List.append_nil]

theorem add_add (case : Case Desc) (ins ins' outs outs' : List Desc) (attrs attrs' : List PyVal) :
    (case.add ins outs attrs).add ins' outs' attrs'
      = case.add (ins ++ ins') (outs ++ outs') (attrs ++ attrs') := by
  unfold Case.add Case.addAttrs
  by_cases hattrs : attrs = []
  · subst hattrs
    simp only [if_true, List.nil_append, List.append_assoc]
  · by_cases hattrs' : attrs' = []
    · subst hattrs'
      simp only [if_true, List.append_nil, List.append_assoc]
    · rw [if_neg (fun h => hattrs (List.append_eq_nil_iff.mp h).1)]
      simp only [if_neg hattrs, if_neg hattrs', Option.getD_some, List.append_assoc]

theorem itemsOf_append (p : String) (l l' : List (String × Dict PyVal)) :
    itemsOf p (l ++ l') = itemsOf p l ++ itemsOf p l' := List.filter_append l l'

theorem mapM_append_ok {α β : Type} {f : α → Except PyError β} {l l' : List α} {m m' : List β}
    (h : l.mapM f = .ok m) (h' : l'.mapM f = .ok m') : (l ++ l').mapM f = .ok (m ++ m') := by
  rw [List.mapM_append, h, h']
  rfl

theorem MadeOf.append {l l' : List (String × Dict PyVal)} {ins ins' outs outs' : List Desc}
    {attrs attrs' : List PyVal} (h : MadeOf o py opInfo l ins outs attrs)
    (h' : MadeOf o py opInfo l' ins' outs' attrs') :
    MadeOf o py opInfo (l ++ l') (ins ++ ins') (outs ++ outs') (attrs ++ attrs') := by
  constructor
  · rw [itemsOf_append]
    exact mapM_append_ok h.input h'.input
  · rw [itemsOf_append]
    exact mapM_append_ok h.output h'.output
  · rw [itemsOf_append]
    exact mapM_append_ok h.attr h'.attr

/-- No item has the prefix. -/
theorem mapM_itemsOf_neg {β : Type} {f : String × Dict PyVal → Except PyError β} {p : String}
    {item : String × Dict PyVal} (h : startswith item.1 p = false) :
    (itemsOf p [item]).mapM f = .ok [] := by
  rw [itemsOf_cons_neg h]
  rfl

theorem mapM_itemsOf_pos {β : Type} {f : String × Dict PyVal → Except PyError β} {p : String}
    {item : String × Dict PyVal} {b : β} (h : startswith item.1 p = true) (hb : f item = .ok b) :
    (itemsOf p [item]).mapM f = .ok [b] := by
  rw [itemsOf_cons_pos h]
  show (item :: []).mapM f = .ok [b]
  rw [List.mapM_cons, hb]
  rfl

theorem addDescOf_neg (side : Side) {item : String × Dict PyVal}
    (h : startswith item.1 side.text = false) : addDescOf o py side case item = .ok case := by
  unfold addDescOf
  rw [h]
  rfl

theorem addAttrOf_neg {item : String × Dict PyVal} (h : startswith item.1 ATTR_PREFIX = false) :
    addAttrOf o opInfo case item = .ok case := by
  unfold addAttrOf
  rw [h]
  rfl

theorem addDescOf_pos (side : Side) {item : String × Dict PyVal}
    (hside : startswith item.1 side.text = true) (h : addDescOf o py side case item = .ok case') :
    ∃ desc, generateDesc o py side item.2 = .ok desc ∧ case' = case.addDesc side desc := by
  unfold addDescOf at h
  rw [if_pos hside] at h
  obtain ⟨desc, hdesc, heq⟩ := HwEfat.Lib.map_eq_ok.mp h
  exact ⟨desc, hdesc, heq⟩

theorem addAttrOf_pos {item : String × Dict PyVal} (hattr : startswith item.1 ATTR_PREFIX = true)
    (h : addAttrOf o opInfo case item = .ok case') :
    ∃ attr, makeAttr o opInfo item.1 item.2 = .ok attr ∧ case' = case.add [] [] [attr] := by
  unfold addAttrOf at h
  rw [if_pos hattr] at h
  obtain ⟨attr, hok, heq⟩ := HwEfat.Lib.map_eq_ok.mp h
  refine ⟨attr, hok, ?_⟩
  rw [heq]
  unfold Case.add Case.addAttrs
  rw [if_neg (List.cons_ne_nil attr []), List.append_nil, List.append_nil]

/-- What an entry adds: it passes one of the tests at most. -/
theorem addAicoreItem_cases {item : String × Dict PyVal}
    (h : addAicoreItem o py opInfo case item = .ok case') :
    ∃ ins outs attrs, MadeOf o py opInfo [item] ins outs attrs ∧
      case' = case.add ins outs attrs := by
  unfold addAicoreItem at h
  obtain ⟨case₁, h₁, h⟩ := bind_eq_ok.mp h
  obtain ⟨case₂, h₂, h⟩ := bind_eq_ok.mp h
  -- The prefixes exclude each other, so an item is added to one list at most.
  by_cases hin : startswith item.1 INI_INPUT = true
  · have hout : startswith item.1 INI_OUTPUT = false :=
      startswith_exclusive (c := 'o') hin (by decide) (by decide) (by decide)
    have hattr : startswith item.1 ATTR_PREFIX = false :=
      startswith_exclusive (c := 'a') hin (by decide) (by decide) (by decide)
    obtain ⟨desc, hdesc, rfl⟩ := addDescOf_pos .input hin h₁
    cases (addDescOf_neg .output hout).symm.trans h₂
    cases (addAttrOf_neg hattr).symm.trans h
    refine ⟨[desc], [], [], ⟨mapM_itemsOf_pos hin hdesc, mapM_itemsOf_neg hout,
      mapM_itemsOf_neg hattr⟩, ?_⟩
    unfold Case.add Case.addAttrs Case.addDesc
    rw [if_pos rfl, List.append_nil]
  · have hin : startswith item.1 INI_INPUT = false := Bool.eq_false_of_not_eq_true hin
    cases (addDescOf_neg .input hin).symm.trans h₁
    by_cases hout : startswith item.1 INI_OUTPUT = true
    · have hattr : startswith item.1 ATTR_PREFIX = false :=
        startswith_exclusive (c := 'a') hout (by decide) (by decide) (by decide)
      obtain ⟨desc, hdesc, rfl⟩ := addDescOf_pos .output hout h₂
      cases (addAttrOf_neg hattr).symm.trans h
      refine ⟨[], [desc], [], ⟨mapM_itemsOf_neg hin, mapM_itemsOf_pos hout hdesc,
        mapM_itemsOf_neg hattr⟩, ?_⟩
      unfold Case.add Case.addAttrs Case.addDesc
      rw [if_pos rfl, List.append_nil]
    · have hout : startswith item.1 INI_OUTPUT = false := Bool.eq_false_of_not_eq_true hout
      cases (addDescOf_neg .output hout).symm.trans h₂
      by_cases hattr : startswith item.1 ATTR_PREFIX = true
      · obtain ⟨attr, hok, rfl⟩ := addAttrOf_pos hattr h
        exact ⟨[], [], [attr], ⟨mapM_itemsOf_neg hin, mapM_itemsOf_neg hout,
          mapM_itemsOf_pos hattr hok⟩, rfl⟩
      · have hattr : startswith item.1 ATTR_PREFIX = false := Bool.eq_false_of_not_eq_true hattr
        cases (addAttrOf_neg hattr).symm.trans h
        exact ⟨[], [], [], ⟨mapM_itemsOf_neg hin, mapM_itemsOf_neg hout,
          mapM_itemsOf_neg hattr⟩, (add_nil _).symm⟩

/-- **All entries.** -/
theorem foldlM_addAicoreItem {l : List (String × Dict PyVal)}
    (h : l.foldlM (addAicoreItem o py opInfo) case = .ok case') :
    ∃ ins outs attrs, MadeOf o py opInfo l ins outs attrs ∧ case' = case.add ins outs attrs := by
  induction l generalizing case with
  | nil =>
      cases h
      exact ⟨[], [], [], ⟨rfl, rfl, rfl⟩, (add_nil _).symm⟩
  | cons item l ih =>
      rw [List.foldlM_cons] at h
      obtain ⟨case₁, hitem, h⟩ := bind_eq_ok.mp h
      obtain ⟨ins, outs, attrs, hmade, rfl⟩ := addAicoreItem_cases hitem
      obtain ⟨ins', outs', attrs', hmade', rfl⟩ := ih h
      exact ⟨_, _, _, hmade.append hmade', add_add _ ins ins' outs outs' attrs attrs'⟩

end Items

/-! ## §4. What is created. -/

/-- The case that is made of descriptions and attributes. -/
def aicoreCase (py : Bool) (opType : String) (inputs outputs : List Fields)
    (attrs : List PyVal) : Case Desc :=
  { emptyAicoreCase py opType with
    inputDesc := inputs.map (Fields.desc py), outputDesc := outputs.map (Fields.desc py),
    attr := if attrs = [] then none else some attrs }

/-- What is created for `op_info`. -/
structure Created (o : Outside) (opInfo : OpInfo) (inputs outputs : List Fields)
    (attrs : List PyVal) : Prop where
  input : List.Forall₂ (DeclaredBy .input) (entriesAt opInfo .input) inputs
  output : List.Forall₂ (DeclaredBy .output) (entriesAt opInfo .output) outputs
  attr : ((itemsOf ATTR_PREFIX opInfo.entries).mapM fun item => makeAttr o opInfo item.1 item.2)
    = .ok attrs
  output_ne_nil : outputs ≠ []

/-- The descriptions of a side are made of fields. -/
theorem fields_of_mapM {o : Outside} {py : Bool} (hset : o.SetLaw) {side : Side}
    {l : List (String × Dict PyVal)} {descs : List Desc}
    (h : (l.mapM fun item => generateDesc o py side item.2) = .ok descs) :
    ∃ fields, List.Forall₂ (DeclaredBy side) (l.map Prod.snd) fields ∧
      descs = fields.map (Fields.desc py) := by
  have hall := HwEfat.Lib.mapM_eq_ok.mp h
  clear h
  induction hall with
  | nil => exact ⟨[], List.Forall₂.nil, rfl⟩
  | cons hitem _ ih =>
      obtain ⟨f, hf, rfl⟩ := fields_of_generateDesc hset hitem
      obtain ⟨fields, hfields, rfl⟩ := ih
      exact ⟨f :: fields, List.Forall₂.cons hf hfields, rfl⟩

/-- **The case from the entries of `op_info`**: a description for every input and output, and
all attributes, in order. -/
theorem case_of_entries {o : Outside} {py : Bool} {opType : String} {opInfo : OpInfo}
    {baseCase : Case Desc} (hset : o.SetLaw)
    (h : generateAicoreBaseCase o py opType opInfo = .ok baseCase) :
    ∃ inputs outputs attrs, Created o opInfo inputs outputs attrs ∧
      baseCase = aicoreCase py opType inputs outputs attrs := by
  unfold generateAicoreBaseCase at h
  obtain ⟨_, hfold, h⟩ := bind_eq_ok.mp h
  obtain ⟨_, hvalid, h⟩ := bind_eq_ok.mp h
  cases h
  obtain ⟨ins, outs, attrs, hmade, rfl⟩ := foldlM_addAicoreItem hfold
  obtain ⟨inputs, hinputs, rfl⟩ := fields_of_mapM hset hmade.input
  obtain ⟨outputs, houtputs, rfl⟩ := fields_of_mapM hset hmade.output
  refine ⟨inputs, outputs, attrs, ⟨hinputs, houtputs, hmade.attr, ?_⟩, ?_⟩
  · rintro rfl
    refine HwEfat.Lib.raiseIf_eq_ok.mp hvalid ?_
    unfold Case.add Case.addAttrs
    split_ifs <;> rfl
  · unfold Case.add Case.addAttrs aicoreCase
    by_cases hattrs : attrs = []
    · rw [if_pos hattrs, if_pos hattrs]
      rfl
    · rw [if_neg hattrs, if_neg hattrs]
      rfl

end CaseGenerator

end HwEfat.Main
