/-
  HwEfat.Main.CaseGenerator.AicpuBaseCase — the base case of an AI CPU operator:
  `_generate_aicpu_base_case`.

  The `.ini` file of such an operator may give the types of its tensors.  If it gives none, the
  head file is read.  Then every entry of `op_info` becomes a description or an attribute.

  Main result: `base_case_of_prototype`, what the case is for the declarations of a head file.
-/
import HwEfat.Main.CaseGenerator.AttrValue
import HwEfat.Main.CaseGenerator.ModelCases
import HwEfat.Main.CaseGenerator.Prototype

namespace HwEfat.Main

open HwEfat.Lib (PyError PyVal PyFloat Dict raiseIf split sliceFrom startswith)

namespace CaseGenerator

/-! ## §1. The source. -/

/-- What is outside: `aicpu_ir2ini_type_map`, `list(set(l))` and `float(s)`. -/
structure Outside where
  aicpuIr2iniTypeMap : List (String × String)
  listSet : List String → List String
  float : String → Except PyError PyFloat

/-- `ATTR_TYPE_MAP` -/
def ATTR_TYPE_MAP : List (String × String) :=
  [("int", "int"), ("float", "float"), ("bool", "bool"), ("str", "string"), ("type", "data_type"),
   ("listInt", "list_int"), ("listFloat", "list_float"), ("listBool", "list_bool"),
   ("listStr", "list_string"), ("listListInt", "list_list_int")]

/-- `'attr_'` -/
def ATTR_PREFIX : String := "attr_"

/-- `_is_aicpu_op` -/
def isAicpuOp (opInfo : OpInfo) : Bool :=
  match entryAt opInfo "opInfo" "kernelSo" with
  | some kernelSo => kernelSo.truthy
  | none => false

/-- `_make_attr` -/
def makeAttr (o : Outside) (opInfo : OpInfo) (key : String) (value : Dict PyVal) :
    Except PyError PyVal := do
  let name := sliceFrom key ATTR_PREFIX.length
  if isAicpuOp opInfo = false then
    match value.get? "type" with
    | none => throw invalidOpInfoFile
    | some type => checkOpInfoListValid [type]
  let dataType :=
    match value.get? "type" with
    | some (.str type) => ATTR_TYPE_MAP.lookup type
    | _ => none
  let defaultValue ←
    match value.get? "defaultValue", value.get? "type", dataType with
    | some (.str s), some (.str type), some _ => getDefaultAttrValue o.float type s
    | some _, _, some _ => throw (.attributeError "object has no attribute 'strip'")
    | _, _, _ => pure .none
  return .dict [("name", .str name), ("type", (dataType.map PyVal.str).getD .none),
    ("value", defaultValue)]

/-- What `_get_aicpu_op_info_from_ini_file` does with an entry. -/
def countTensor (o : Outside) (count : Nat) (item : String × Dict PyVal) : Except PyError Nat :=
  if isTensorKey item.1 then
    match item.2.get? "type" with
    | none | some .none => .ok count
    | some type => do
        let tensorType := o.listSet (← splitValue type)
        checkOpInfoListValid (tensorType.map .str)
        return count + 1
  else .ok count

/-- `_get_aicpu_op_info_from_ini_file`: the number of tensors with a type. -/
def getAicpuOpInfoFromIniFile (o : Outside) (opInfo : OpInfo) : Except PyError Nat :=
  opInfo.entries.foldlM (countTensor o) 0

/-- `_find_aicpu_op_proto_path`, given the text of the head file if it can be read. -/
def findAicpuOpProtoPath (proto : Option String) (opInfo : OpInfo) : Except PyError OpInfo :=
  match proto with
  | some text => (parseAicpuOpProto text opInfo).map Prod.snd
  | none => .ok opInfo

/-- A text that may be missing; of one that is not there the length is 0. -/
def textOf (value : Dict PyVal) (key : String) : Except PyError String :=
  match value.get? key with
  | none | some .none => .ok ""
  | some (.str s) => .ok s
  | some _ => .error (.attributeError "object has no attribute 'split'")

/-- `[[0.1, 1.0]]`, as the doubles that these literals are. -/
def DEFAULT_VALUE_RANGE : PyVal :=
  .list [.list [.float (.finite (3602879701896397 / 36028797018963968)), .float (.finite 1)]]

/-- A description, but for its name. -/
def makeDesc (side : Side) (opFormat opDtype : List String) : Desc :=
  let desc := (Dict.empty.set "format" (.list (opFormat.map .str))).set "type"
    (.list (opDtype.map .str))
  let desc := desc.set "shape" (.list [])
  match side with
  | .input =>
      (desc.set "data_distribute" (.list [.str "uniform"])).set "value_range" DEFAULT_VALUE_RANGE
  | .output => desc

/-- The types of the white list, under their names there. -/
def transDtypes (o : Outside) (dtypeList : List String) : List String :=
  dtypeList.filterMap fun dtype => o.aicpuIr2iniTypeMap.lookup dtype

/-- `_generate_aicpu_op_desc` -/
def generateAicpuOpDesc (o : Outside) (side : Side) (value : Dict PyVal) : Except PyError Desc := do
  let format ← textOf value "format"
  let opFormat := if format = "" then [] else o.listSet (split (removeAll '"' format) ",")
  let type ← textOf value "type"
  let opDtype := if type = "" then [] else transDtypes o (o.listSet (split type ","))
  match value.get? "name" with
  | none | some .none => return makeDesc side opFormat opDtype
  | some name => return (makeDesc side opFormat opDtype).set "name" name

/-- A description of a side. -/
def Case.addDesc (case : Case Desc) (side : Side) (desc : Desc) : Case Desc :=
  match side with
  | .input => { case with inputDesc := case.inputDesc ++ [desc] }
  | .output => { case with outputDesc := case.outputDesc ++ [desc] }

/-- What becomes of an entry of `op_info`. -/
def addItem (o : Outside) (opInfo : OpInfo) (case : Case Desc) (item : String × Dict PyVal) :
    Except PyError (Case Desc) :=
  if startswith item.1 INI_INPUT then
    (generateAicpuOpDesc o .input item.2).map (case.addDesc .input)
  else if startswith item.1 INI_OUTPUT then
    (generateAicpuOpDesc o .output item.2).map (case.addDesc .output)
  else if startswith item.1 ATTR_PREFIX then
    (makeAttr o opInfo item.1 item.2).map fun attr =>
      { case with attr := some (case.attr.getD [] ++ [attr]) }
  else .ok case

/-- There is one description at least. -/
def fillDescs (case : Case Desc) : Case Desc :=
  { case with
    inputDesc := if case.inputDesc.isEmpty then [makeDesc .input [] []] else case.inputDesc,
    outputDesc := if case.outputDesc.isEmpty then [makeDesc .output [] []] else case.outputDesc }

/-- `op_type.replace('/', '_')` -/
def opTypeName (opType : String) : String :=
  String.ofList (opType.toList.map fun c => if c = '/' then '_' else c)

/-- The case before the entries. -/
def emptyCase (opType : String) : Case Desc :=
  { caseName := "Test_" ++ opTypeName opType ++ "_001", op := opType, inputDesc := [],
    outputDesc := [] }

/-- `_generate_aicpu_base_case`, without a model. -/
def generateAicpuBaseCase (o : Outside) (opType : String) (proto : Option String)
    (opInfo : OpInfo) : Except PyError (Case Desc) := do
  let countIniWithType ← getAicpuOpInfoFromIniFile o opInfo
  let opInfo ←
    if countIniWithType = 0 then findAicpuOpProtoPath proto opInfo else pure opInfo
  let baseCase ← opInfo.entries.foldlM (addItem o opInfo) (emptyCase opType)
  return fillDescs baseCase

/-! ## §2. What the declarations say. -/

/-- The attribute that a declaration is of. -/
def Decl.attrName : Decl → Option Ident
  | attr name _ _ | requiredAttr name _ => some name
  | tensor _ _ _ => none

/-- The attributes, each where it is declared first. -/
def attrNames (decls : List Decl) : List Ident := (decls.filterMap Decl.attrName).eraseDups

/-- The description of a tensor that is declared. -/
def descOf (o : Outside) (side : Side) (x : Ident × Dtypes) : Desc :=
  (makeDesc side [] (transDtypes o (o.listSet (x.2.val.map Ident.text)))).set "name"
    (.str x.1.text)

/-- The descriptions of a side: there is an empty one if nothing is declared. -/
def descsOf (o : Outside) (side : Side) (decls : List Decl) : List Desc :=
  if tensorsOf side decls = [] then [makeDesc side [] []]
  else (tensorsOf side decls).map (descOf o side)

/-- The type of an attribute in a case, and the name that its default value is read by. -/
def caseType (type : Ident) : Option (String × String) :=
  (OP_PROTO_PARSE_ATTR_TYPE_MAP.lookup type.text).bind fun t =>
    (ATTR_TYPE_MAP.lookup t).map fun dataType => (t, dataType)

/-- An attribute, from its last type and default value. -/
def attrOf (o : Outside) (decls : List Decl) (name : Ident) : Except PyError PyVal := do
  let type := (lastOf (Decl.typeOf name) decls).bind caseType
  let defaultValue ←
    match lastOf (Decl.defaultOf name) decls, type with
    | some default, some type => getDefaultAttrValue o.float type.1 default.value
    | _, _ => pure .none
  return .dict [("name", .str name.text),
    ("type", (type.map fun type => PyVal.str type.2).getD .none), ("value", defaultValue)]

/-- **The case of the declarations.** -/
def caseOf (o : Outside) (opType : String) (decls : List Decl) : Except PyError (Case Desc) := do
  let attrs ← (attrNames decls).mapM (attrOf o decls)
  return { emptyCase opType with
    inputDesc := descsOf o .input decls, outputDesc := descsOf o .output decls,
    attr := if attrs = [] then none else some attrs }

/-! ## §3. The keys of `op_info`. -/

/-- `l`, with `a` at its end if it is not in it. -/
def addKey {α : Type} [DecidableEq α] (l : List α) (a : α) : List α := if a ∈ l then l else l ++ [a]

/-- The key that a declaration makes an entry of. -/
def Decl.key (count : Side → Nat) : Decl → String
  | tensor keyword _ _ => keyword.side.key (count keyword.side)
  | attr name _ _ | requiredAttr name _ => attrKey name

section Keys

variable {opInfo : OpInfo} {decls : List Decl} {d : Decl} {side side' : Side} {i : Nat}
  {name : Ident}

theorem addKey_of_mem {α : Type} [DecidableEq α] {l : List α} {a : α} (h : a ∈ l) :
    addKey l a = l := if_pos h

theorem addKey_addKey {α : Type} [DecidableEq α] (l : List α) (a : α) :
    addKey (addKey l a) a = addKey l a := by
  refine addKey_of_mem ?_
  unfold addKey
  split_ifs with h
  · exact h
  · exact List.mem_append_right l (List.mem_singleton_self a)

theorem keys_setOpInfo (opInfo : OpInfo) (key0 key1 : String) (value : PyVal) :
    (setOpInfo opInfo key0 key1 value).keys = addKey opInfo.keys key0 :=
  Dict.keys_set opInfo key0 _

/-- **The keys after a declaration.** -/
theorem keys_declare (s : HeadState) (d : Decl) :
    (s.declare d).opInfo.keys = addKey s.opInfo.keys (d.key s.count) := by
  cases d with
  | tensor keyword name dtypes =>
      show (setTensor s.opInfo _ name dtypes).keys = _
      unfold setTensor
      rw [keys_setOpInfo, keys_setOpInfo, keys_setOpInfo, addKey_addKey, addKey_addKey]
      rfl
  | attr name type default =>
      simp only [HeadState.declare]
      rw [keys_setOpInfo, keys_setOpInfo, keys_setOpInfo, addKey_addKey, addKey_addKey]
      rfl
  | requiredAttr name type =>
      simp only [HeadState.declare]
      rw [keys_setOpInfo, keys_setOpInfo, addKey_addKey]
      rfl

theorem startswith_append (a b : String) : startswith (a ++ b) a = true := by
  unfold startswith
  rw [List.isPrefixOf_iff_prefix, String.toList_append]
  exact List.prefix_append _ _

/-- What starts with a text starts with its first character. -/
theorem startswith_eq_false {s p : String} {c : Char} (hp : p.toList.head? = some c)
    (hs : s.toList.head? ≠ some c) : startswith s p = false := by
  unfold startswith
  rw [Bool.eq_false_iff]
  intro h
  obtain ⟨t, ht⟩ := List.isPrefixOf_iff_prefix.mp h
  refine hs ?_
  rw [← ht, List.head?_append, hp]
  rfl

theorem startswith_key : startswith (side.key i) side'.text = decide (side = side') := by
  by_cases hside : side = side'
  · subst hside
    rw [decide_eq_true rfl]
    exact startswith_append _ _
  · rw [decide_eq_false hside]
    cases side' with
    | input =>
        refine startswith_eq_false (c := 'i') (by decide) ?_
        rw [head_key]
        cases side with
        | input => exact absurd rfl hside
        | output => decide
    | output =>
        refine startswith_eq_false (c := 'o') (by decide) ?_
        rw [head_key]
        cases side with
        | input => decide
        | output => exact absurd rfl hside

theorem startswith_key_attr : startswith (side.key i) ATTR_PREFIX = false := by
  refine startswith_eq_false (c := 'a') (by decide) ?_
  rw [head_key]
  cases side <;> decide

theorem startswith_attrKey : startswith (attrKey name) ATTR_PREFIX = true :=
  startswith_append "attr_" name.text

theorem startswith_attrKey_side : startswith (attrKey name) side.text = false := by
  cases side with
  | input => exact startswith_eq_false (c := 'i') (by decide) (by rw [head_attrKey]; decide)
  | output => exact startswith_eq_false (c := 'o') (by decide) (by rw [head_attrKey]; decide)

theorem filter_addKey_of_neg {l : List String} {a : String} {p : String → Bool}
    (h : p a = false) : (addKey l a).filter p = l.filter p := by
  unfold addKey
  split_ifs
  · rfl
  · rw [List.filter_append, List.filter_cons_of_neg (by rw [h]; exact Bool.false_ne_true),
      List.filter_nil, List.append_nil]

theorem filter_addKey_of_pos {l : List String} {a : String} {p : String → Bool}
    (h : p a = true) : (addKey l a).filter p = addKey (l.filter p) a := by
  have hmem : a ∈ l.filter p ↔ a ∈ l := by
    rw [List.mem_filter]
    exact and_iff_left h
  unfold addKey
  by_cases ha : a ∈ l
  · rw [if_pos ha, if_pos (hmem.mpr ha)]
  · rw [if_neg ha, if_neg fun h => ha (hmem.mp h), List.filter_append,
      List.filter_cons_of_pos h, List.filter_nil]

theorem eraseDups_snoc {α : Type} [DecidableEq α] (l : List α) (a : α) :
    (l ++ [a]).eraseDups = addKey l.eraseDups a := by
  rw [List.eraseDups_append]
  unfold addKey List.removeAll
  by_cases ha : a ∈ l
  · rw [if_pos (List.mem_eraseDups.mpr ha)]
    simp [ha]
  · rw [if_neg fun h => ha (List.mem_eraseDups.mp h)]
    simp [ha, List.eraseDups_cons]

theorem mem_keys_side {opInfo : OpInfo} {n : Nat}
    (h : opInfo.keys.filter (startswith · side.text) = (List.range n).map side.key) :
    side.key i ∈ opInfo.keys ↔ i < n := by
  have hmem : side.key i ∈ opInfo.keys.filter (startswith · side.text)
      ↔ side.key i ∈ opInfo.keys := by
    rw [List.mem_filter, startswith_key, decide_eq_true rfl]
    exact and_iff_left rfl
  rw [← hmem, h, List.mem_map]
  constructor
  · rintro ⟨j, hj, heq⟩
    rw [← (key_inj.mp heq).2]
    exact List.mem_range.mp hj
  · exact fun hi => ⟨i, List.mem_range.mpr hi, rfl⟩

/-- The keys of a side, after one more declaration. -/
theorem keys_side_declare {s : HeadState}
    (h : s.opInfo.keys.filter (startswith · side.text)
      = (List.range (tensorsOf side decls).length).map side.key)
    (hcount : s.count side = (tensorsOf side decls).length) (d : Decl) :
    (s.declare d).opInfo.keys.filter (startswith · side.text)
      = (List.range (tensorsOf side (decls ++ [d])).length).map side.key := by
  rw [keys_declare, tensorsOf_snoc, List.length_append]
  cases d with
  | tensor keyword name dtypes =>
      simp only [Decl.key, Decl.tensorOf]
      by_cases hside : keyword.side = side
      · subst hside
        have hnew : keyword.side.key (s.count keyword.side) ∉ s.opInfo.keys := by
          rw [mem_keys_side h, hcount]
          exact lt_irrefl _
        rw [if_pos rfl]
        unfold addKey
        rw [if_neg hnew, List.filter_append, h, List.filter_cons_of_pos (by simp [startswith_key]),
          List.filter_nil, Option.toList_some, List.length_singleton, List.range_succ,
          List.map_append, hcount]
        rfl
      · rw [if_neg hside, filter_addKey_of_neg (by simp [startswith_key, hside]), h]
        rfl
  | attr name type default =>
      rw [show (Decl.attr name type default).key s.count = attrKey name from rfl,
        filter_addKey_of_neg (p := (startswith · side.text)) startswith_attrKey_side, h]
      rfl
  | requiredAttr name type =>
      rw [show (Decl.requiredAttr name type).key s.count = attrKey name from rfl,
        filter_addKey_of_neg (p := (startswith · side.text)) startswith_attrKey_side, h]
      rfl

theorem addKey_map_attrKey (l : List Ident) (name : Ident) :
    addKey (l.map attrKey) (attrKey name) = (addKey l name).map attrKey := by
  have hmem : attrKey name ∈ l.map attrKey ↔ name ∈ l :=
    List.mem_map_of_injective fun _ _ => attrKey_inj.mp
  unfold addKey
  by_cases hname : name ∈ l
  · rw [if_pos (hmem.mpr hname), if_pos hname]
  · rw [if_neg fun h => hname (hmem.mp h), if_neg hname, List.map_append]
    rfl

theorem attrNames_snoc : attrNames (decls ++ [d])
    = d.attrName.elim (attrNames decls) (addKey (attrNames decls)) := by
  unfold attrNames
  rw [List.filterMap_append]
  cases h : d.attrName with
  | none => simp [h]
  | some name =>
      rw [List.filterMap_cons_some h, List.filterMap_nil, eraseDups_snoc]
      rfl

/-- The keys of the attributes, after one more declaration. -/
theorem keys_attr_declare {s : HeadState}
    (h : s.opInfo.keys.filter (startswith · ATTR_PREFIX) = (attrNames decls).map attrKey)
    (d : Decl) :
    (s.declare d).opInfo.keys.filter (startswith · ATTR_PREFIX)
      = (attrNames (decls ++ [d])).map attrKey := by
  rw [keys_declare, attrNames_snoc]
  cases d with
  | tensor keyword name dtypes =>
      rw [show (Decl.tensor keyword name dtypes).key s.count
        = keyword.side.key (s.count keyword.side) from rfl,
        filter_addKey_of_neg (p := (startswith · ATTR_PREFIX)) startswith_key_attr, h]
      rfl
  | attr name type default =>
      rw [show (Decl.attr name type default).key s.count = attrKey name from rfl,
        filter_addKey_of_pos (p := (startswith · ATTR_PREFIX)) startswith_attrKey, h, addKey_map_attrKey]
      rfl
  | requiredAttr name type =>
      rw [show (Decl.requiredAttr name type).key s.count = attrKey name from rfl,
        filter_addKey_of_pos (p := (startswith · ATTR_PREFIX)) startswith_attrKey, h, addKey_map_attrKey]
      rfl

/-- **The keys of the declarations**, in the order in which they come. -/
theorem keys_foldl (hside : ∀ side : Side, opInfo.keys.filter (startswith · side.text) = [])
    (hattr : opInfo.keys.filter (startswith · ATTR_PREFIX) = []) (decls : List Decl) :
    (∀ side : Side, (decls.foldl HeadState.declare { opInfo }).opInfo.keys.filter
        (startswith · side.text)
      = (List.range (tensorsOf side decls).length).map side.key) ∧
      (decls.foldl HeadState.declare { opInfo }).opInfo.keys.filter (startswith · ATTR_PREFIX)
        = (attrNames decls).map attrKey := by
  induction decls using List.reverseRecOn with
  | nil => exact ⟨hside, hattr⟩
  | append_singleton decls d ih =>
      rw [List.foldl_append, List.foldl_cons, List.foldl_nil]
      exact ⟨fun side => keys_side_declare (ih.1 side) ((describes_foldl decls opInfo).2 side) d,
        keys_attr_declare ih.2 d⟩

end Keys

/-! ## §4. The entries. -/

section Items

variable {o : Outside} {opInfo : OpInfo} {decls : List Decl} {name : Ident} {dtypes : Dtypes}
  {value : Dict PyVal}

/-- A key starts with one of the prefixes only. -/
theorem startswith_exclusive {s p q : String} {c : Char} (hp : startswith s p = true)
    (hq : q.toList.head? = some c) (hpq : p.toList.head? ≠ some c) (hne : p ≠ "") :
    startswith s q = false := by
  refine startswith_eq_false hq ?_
  unfold startswith at hp
  obtain ⟨t, ht⟩ := List.isPrefixOf_iff_prefix.mp hp
  rw [← ht, List.head?_append]
  cases hhead : p.toList.head? with
  | none =>
      rw [List.head?_eq_none_iff] at hhead
      exact absurd (String.toList_inj.mp hhead) hne
  | some d =>
      rw [Option.some_or, ← hhead]
      exact hpq

/-- The case with the attributes `attrs` as well. -/
def Case.addAttrs (case : Case Desc) (attrs : List PyVal) : Case Desc :=
  { case with attr := if attrs = [] then case.attr else some (case.attr.getD [] ++ attrs) }

/-- The items whose keys start with a text. -/
def itemsOf (p : String) (l : List (String × Dict PyVal)) : List (String × Dict PyVal) :=
  l.filter fun item => startswith item.1 p

theorem itemsOf_cons_pos {p : String} {item : String × Dict PyVal}
    {l : List (String × Dict PyVal)} (h : startswith item.1 p = true) :
    itemsOf p (item :: l) = item :: itemsOf p l := List.filter_cons_of_pos h

theorem itemsOf_cons_neg {p : String} {item : String × Dict PyVal}
    {l : List (String × Dict PyVal)} (h : startswith item.1 p = false) :
    itemsOf p (item :: l) = itemsOf p l :=
  List.filter_cons_of_neg (by rw [h]; exact Bool.false_ne_true)

theorem addAttrs_cons (case : Case Desc) (a : PyVal) (attrs : List PyVal) :
    Case.addAttrs { case with attr := some (case.attr.getD [] ++ [a]) } attrs
      = case.addAttrs (a :: attrs) := by
  unfold Case.addAttrs
  rw [if_neg (List.cons_ne_nil a attrs)]
  by_cases hattrs : attrs = []
  · rw [if_pos hattrs, hattrs]
  · rw [if_neg hattrs, Option.getD_some, List.append_assoc, List.singleton_append]

/-- What the descriptions of the two sides are. -/
def Case.addDescs (case : Case Desc) (f : Side → String × Dict PyVal → Desc)
    (l : List (String × Dict PyVal)) : Case Desc :=
  { case with
    inputDesc := case.inputDesc ++ (itemsOf INI_INPUT l).map (f .input),
    outputDesc := case.outputDesc ++ (itemsOf INI_OUTPUT l).map (f .output) }

/-- **All entries**: those of each side become its descriptions, those of attributes attributes. -/
theorem foldlM_addItem {f : Side → String × Dict PyVal → Desc} (l : List (String × Dict PyVal))
    (hdesc : ∀ side : Side, ∀ item ∈ itemsOf side.text l,
      generateAicpuOpDesc o side item.2 = .ok (f side item)) (case : Case Desc) :
    l.foldlM (addItem o opInfo) case
      = ((itemsOf ATTR_PREFIX l).mapM fun item => makeAttr o opInfo item.1 item.2).map
        (case.addDescs f l).addAttrs := by
  induction l generalizing case with
  | nil =>
      unfold itemsOf Case.addDescs Case.addAttrs
      simp [itemsOf, pure, Except.pure, Except.map]
  | cons item l ih =>
      have hrest : ∀ side : Side, ∀ item' ∈ itemsOf side.text l,
          generateAicpuOpDesc o side item'.2 = .ok (f side item') := by
        intro side item' hitem'
        refine hdesc side item' ?_
        unfold itemsOf
        exact List.mem_filter.mpr ⟨List.mem_cons_of_mem _ (List.mem_filter.mp hitem').1,
          (List.mem_filter.mp hitem').2⟩
      rw [List.foldlM_cons]
      unfold addItem
      -- The first letters of the key tell the three kinds of item apart.
      by_cases hin : startswith item.1 INI_INPUT = true
      · have hout : startswith item.1 INI_OUTPUT = false :=
          startswith_exclusive (c := 'o') hin (by decide) (by decide) (by decide)
        have hattr : startswith item.1 ATTR_PREFIX = false :=
          startswith_exclusive (c := 'a') hin (by decide) (by decide) (by decide)
        have hmem : item ∈ itemsOf Side.input.text (item :: l) :=
          List.mem_filter.mpr ⟨List.mem_cons_self, hin⟩
        rw [if_pos hin, hdesc .input item hmem, itemsOf_cons_neg hattr]
        refine (ih hrest _).trans ?_
        unfold Case.addDescs
        rw [itemsOf_cons_pos hin, itemsOf_cons_neg hout, List.map_cons]
        simp only [Case.addDesc, List.append_assoc, List.singleton_append]
      · rw [if_neg hin]
        by_cases hout : startswith item.1 INI_OUTPUT = true
        · have hattr : startswith item.1 ATTR_PREFIX = false :=
            startswith_exclusive (c := 'a') hout (by decide) (by decide) (by decide)
          have hmem : item ∈ itemsOf Side.output.text (item :: l) :=
            List.mem_filter.mpr ⟨List.mem_cons_self, hout⟩
          rw [if_pos hout, hdesc .output item hmem, itemsOf_cons_neg hattr]
          refine (ih hrest _).trans ?_
          unfold Case.addDescs
          rw [itemsOf_cons_pos hout, itemsOf_cons_neg (Bool.eq_false_of_not_eq_true hin),
            List.map_cons]
          simp only [Case.addDesc, List.append_assoc, List.singleton_append]
        · have hdescs : case.addDescs f (item :: l) = case.addDescs f l := by
            unfold Case.addDescs
            rw [itemsOf_cons_neg (Bool.eq_false_of_not_eq_true hin),
              itemsOf_cons_neg (Bool.eq_false_of_not_eq_true hout)]
          rw [if_neg hout, hdescs]
          by_cases hattr : startswith item.1 ATTR_PREFIX = true
          · rw [if_pos hattr, itemsOf_cons_pos hattr, List.mapM_cons]
            -- The first attribute that cannot be made ends the loop, as it ends the map.
            cases makeAttr o opInfo item.1 item.2 with
            | error e => rfl
            | ok a =>
                refine (ih hrest _).trans ?_
                cases (itemsOf ATTR_PREFIX l).mapM fun item => makeAttr o opInfo item.1 item.2 with
                | error e => rfl
                | ok attrs => exact congrArg Except.ok (addAttrs_cons (case.addDescs f l) a attrs)
          · rw [if_neg hattr, itemsOf_cons_neg (Bool.eq_false_of_not_eq_true hattr)]
            exact ih hrest case

/-- The data types of a tensor are not an empty text. -/
theorem dtypes_text_ne_empty (dtypes : Dtypes) : dtypes.text ≠ "" := by
  intro hempty
  have hsplit := split_dtypes dtypes
  rw [hempty, show split "" "," = [""] from rfl] at hsplit
  obtain ⟨i, _, hi⟩ := List.mem_map.mp (hsplit ▸ List.mem_singleton_self "")
  exact text_ne_empty i hi

/-- The description of an entry that is declared. -/
theorem generateAicpuOpDesc_eq (side : Side) (hname : value.get? "name" = some (.str name.text))
    (htype : value.get? "type" = some (.str dtypes.text))
    (hformat : value.get? "format" = some (.str "")) :
    generateAicpuOpDesc o side value = .ok (descOf o side (name, dtypes)) := by
  have hformatText : textOf value "format" = .ok "" := by
    unfold textOf
    rw [hformat]
  have htypeText : textOf value "type" = .ok dtypes.text := by
    unfold textOf
    rw [htype]
  unfold generateAicpuOpDesc
  rw [hformatText, htypeText, hname]
  dsimp only [bind, Except.bind]
  rw [if_pos rfl, if_neg (dtypes_text_ne_empty dtypes), split_dtypes]
  rfl

theorem sliceFrom_attrKey (name : Ident) : sliceFrom (attrKey name) ATTR_PREFIX.length = name.text := by
  unfold sliceFrom attrKey
  rw [String.toList_append]
  show String.ofList (("attr_".toList ++ name.text.toList).drop "attr_".toList.length) = _
  rw [List.drop_left, String.ofList_toList]

/-- The attribute of an entry that is declared. -/
theorem makeAttr_eq (haicpu : isAicpuOp opInfo = true) {type : Ident}
    (hlast : lastOf (Decl.typeOf name) decls = some type)
    (htype : value.get? "type" = some (attrType type))
    (hdefault : value.get? "defaultValue"
      = (lastOf (Decl.defaultOf name) decls).map fun d => .str d.value) :
    makeAttr o opInfo (attrKey name) value = attrOf o decls name := by
  unfold makeAttr attrOf
  rw [sliceFrom_attrKey, haicpu, if_neg (by decide), hlast, htype, hdefault]
  unfold attrType
  rw [Option.bind_some]
  unfold caseType
  cases hproto : OP_PROTO_PARSE_ATTR_TYPE_MAP.lookup type.text with
  | none => cases lastOf (Decl.defaultOf name) decls <;> rfl
  | some t =>
      rw [Option.bind_some]
      dsimp only
      cases hcase : ATTR_TYPE_MAP.lookup t with
      | none => cases lastOf (Decl.defaultOf name) decls <;> rfl
      | some dataType =>
          cases lastOf (Decl.defaultOf name) decls with
          | none => rfl
          | some default => rfl

end Items

/-! ## §5. From the head file to the case. -/

/-- There are no tensors and attributes yet. -/
def Bare (opInfo : OpInfo) : Prop :=
  ∀ key ∈ opInfo.keys, (∀ side : Side, startswith key side.text = false) ∧
    startswith key ATTR_PREFIX = false

section Prototype

variable {o : Outside} {opInfo : OpInfo} {decls : List Decl} {name : Ident}

theorem Bare.filter_side (h : Bare opInfo) (side : Side) :
    opInfo.keys.filter (startswith · side.text) = [] := by
  rw [List.filter_eq_nil_iff]
  intro key hkey
  rw [(h key hkey).1 side]
  exact Bool.false_ne_true

theorem Bare.filter_attr (h : Bare opInfo) : opInfo.keys.filter (startswith · ATTR_PREFIX) = [] := by
  rw [List.filter_eq_nil_iff]
  intro key hkey
  rw [(h key hkey).2]
  exact Bool.false_ne_true

/-- The `.ini` file gives no types. -/
theorem Bare.getAicpuOpInfoFromIniFile (h : Bare opInfo) (o : Outside) :
    getAicpuOpInfoFromIniFile o opInfo = .ok 0 := by
  have hkeys : ∀ item ∈ opInfo.entries, isTensorKey item.1 = false := by
    intro item hitem
    have hkey := h item.1 (List.mem_map_of_mem hitem)
    unfold isTensorKey
    rw [show startswith item.1 INI_INPUT = false from hkey.1 .input,
      show startswith item.1 INI_OUTPUT = false from hkey.1 .output]
    rfl
  unfold CaseGenerator.getAicpuOpInfoFromIniFile
  generalize opInfo.entries = l at hkeys
  induction l with
  | nil => rfl
  | cons item l ih =>
      obtain ⟨hitem, hl⟩ := List.forall_mem_cons.mp hkeys
      rw [List.foldlM_cons]
      unfold countTensor
      rw [hitem, if_neg Bool.false_ne_true]
      exact ih hl

theorem Bare.entryAt_attrKey (h : Bare opInfo) (name : Ident) (key1 : String) :
    entryAt opInfo (attrKey name) key1 = none := by
  have hnot : attrKey name ∉ opInfo.keys := by
    intro hmem
    have hstart := (h _ hmem).2
    rw [startswith_attrKey] at hstart
    cases hstart
  unfold entryAt
  rw [Dict.mem_keys_iff, ← Option.ne_none_iff_exists', not_not] at hnot
  rw [hnot]
  rfl

/-- The operator is still one for the AI CPU. -/
theorem isAicpuOp_of_describes {opInfo' : OpInfo} (h : Describes decls opInfo opInfo') :
    isAicpuOp opInfo' = isAicpuOp opInfo := by
  have hnot : ∀ key1, ¬ Declared decls "opInfo" key1 := by
    intro key1 hdeclared
    generalize hkey : "opInfo" = key0 at hdeclared
    cases hdeclared with
    | tensor side i key1 hi hkey1 =>
        have hstart : startswith (side.key i) side.text = true := startswith_append _ _
        rw [← hkey] at hstart
        revert hstart
        cases side <;> decide
    | attr name key1 hname hkey1 =>
        have hhead := head_attrKey name
        rw [← hkey] at hhead
        exact absurd hhead (by decide)
    | default name hname =>
        have hhead := head_attrKey name
        rw [← hkey] at hhead
        exact absurd hhead (by decide)
  unfold isAicpuOp
  rw [h.other _ _ (hnot _)]

/-- What an entry is found by. -/
theorem entryAt_value {opInfo : OpInfo} {key0 key1 : String} {v : PyVal}
    (h : entryAt opInfo key0 key1 = some v) :
    ((opInfo.get? key0).getD .empty).get? key1 = some v := by
  unfold entryAt at h
  cases hvalue : opInfo.get? key0 with
  | none =>
      rw [hvalue] at h
      cases h
  | some value =>
      rw [hvalue] at h
      exact h

theorem entryAt_value_none {opInfo : OpInfo} {key0 key1 : String}
    (h : entryAt opInfo key0 key1 = none) :
    ((opInfo.get? key0).getD .empty).get? key1 = none := by
  unfold entryAt at h
  cases hvalue : opInfo.get? key0 with
  | none => rfl
  | some value =>
      rw [hvalue] at h
      exact h

/-- An attribute that is declared has a last type. -/
theorem exists_lastOf_typeOf (hname : name ∈ attrNames decls) :
    ∃ type, lastOf (Decl.typeOf name) decls = some type := by
  unfold attrNames at hname
  rw [List.mem_eraseDups, List.mem_filterMap] at hname
  obtain ⟨d, hd, hattr⟩ := hname
  unfold lastOf
  rw [← Option.isSome_iff_exists, List.findSome?_isSome_iff]
  refine ⟨d, List.mem_reverse.mpr hd, ?_⟩
  cases d with
  | tensor keyword name' dtypes => cases hattr
  | attr name' type default =>
      cases hattr
      simp [Decl.typeOf]
  | requiredAttr name' type =>
      cases hattr
      simp [Decl.typeOf]

/-- What is under a key. -/
def valueAt (opInfo : OpInfo) (key : String) : Dict PyVal := (opInfo.get? key).getD .empty

/-- The items of the tensors of a side become its descriptions. -/
theorem generateAicpuOpDesc_declared {opInfo' : OpInfo} (h : Describes decls opInfo opInfo')
    (side : Side) {i : Nat} (hi : i < (tensorsOf side decls).length) :
    generateAicpuOpDesc o side (valueAt opInfo' (side.key i))
      = .ok (descOf o side (tensorsOf side decls)[i]) := by
  obtain ⟨hname, htype, hformat⟩ := h.tensor side i _ _ (List.getElem?_eq_getElem hi)
  exact generateAicpuOpDesc_eq side (entryAt_value hname) (entryAt_value htype)
    (entryAt_value hformat)

/-- The items of the attributes become the attributes of the case. -/
theorem makeAttr_declared {opInfo' : OpInfo} (h : Describes decls opInfo opInfo')
    (haicpu : isAicpuOp opInfo = true) (hbare : Bare opInfo) (hname : name ∈ attrNames decls) :
    makeAttr o opInfo' (attrKey name) (valueAt opInfo' (attrKey name)) = attrOf o decls name := by
  obtain ⟨type, htype⟩ := exists_lastOf_typeOf hname
  refine makeAttr_eq ((isAicpuOp_of_describes h).trans haicpu) htype
    (entryAt_value (h.attr name type htype).2) ?_
  cases hdefault : lastOf (Decl.defaultOf name) decls with
  | some default => exact entryAt_value (h.default name default hdefault)
  | none =>
      refine entryAt_value_none ((h.other _ _ ?_).trans (hbare.entryAt_attrKey name _))
      intro hdeclared
      generalize hkey : attrKey name = key0 at hdeclared
      generalize hkey1 : "defaultValue" = key1 at hdeclared
      cases hdeclared with
      | tensor side i key1 hi hmem => exact key_ne_attrKey hkey.symm
      | attr name' key1 hname' hmem =>
          rw [← hkey1] at hmem
          exact absurd hmem (by decide)
      | default name' hname' =>
          rw [attrKey_inj] at hkey
          subst hkey
          rw [hdefault] at hname'
          cases hname'

/-- The entries of a side, and their descriptions. -/
theorem map_itemsOf_side {opInfo' : OpInfo} {side : Side} {n : Nat}
    (hkeys : opInfo'.keys.filter (startswith · side.text) = (List.range n).map side.key) :
    itemsOf side.text opInfo'.entries
      = (List.range n).map fun i => (side.key i, valueAt opInfo' (side.key i)) := by
  unfold itemsOf
  rw [Dict.filter_entries opInfo' (startswith · side.text) .empty, hkeys, List.map_map]
  rfl

theorem map_itemsOf_attr {opInfo' : OpInfo} {names : List Ident}
    (hkeys : opInfo'.keys.filter (startswith · ATTR_PREFIX) = names.map attrKey) :
    itemsOf ATTR_PREFIX opInfo'.entries
      = names.map fun name => (attrKey name, valueAt opInfo' (attrKey name)) := by
  unfold itemsOf
  rw [Dict.filter_entries opInfo' (startswith · ATTR_PREFIX) .empty, hkeys, List.map_map]
  rfl

/-- The entries of the declarations, turned into a case. -/
theorem foldlM_declared {opInfo' : OpInfo} (h : Describes decls opInfo opInfo')
    (haicpu : isAicpuOp opInfo = true) (hbare : Bare opInfo)
    (hkeys : (∀ side : Side, opInfo'.keys.filter (startswith · side.text)
        = (List.range (tensorsOf side decls).length).map side.key) ∧
      opInfo'.keys.filter (startswith · ATTR_PREFIX) = (attrNames decls).map attrKey)
    (o : Outside) (case : Case Desc) :
    opInfo'.entries.foldlM (addItem o opInfo') case
      = ((attrNames decls).mapM (attrOf o decls)).map
        { case with
          inputDesc := case.inputDesc ++ (tensorsOf .input decls).map (descOf o .input),
          outputDesc := case.outputDesc
            ++ (tensorsOf .output decls).map (descOf o .output) }.addAttrs := by
  -- what the description of an item is
  let f : Side → String × Dict PyVal → Desc := fun side item =>
    (generateAicpuOpDesc o side item.2).toOption.getD .empty
  have hdesc : ∀ side : Side, ∀ item ∈ itemsOf side.text opInfo'.entries,
      generateAicpuOpDesc o side item.2 = .ok (f side item) := by
    intro side item hitem
    rw [map_itemsOf_side (hkeys.1 side)] at hitem
    obtain ⟨i, hi, rfl⟩ := List.mem_map.mp hitem
    have hok := generateAicpuOpDesc_declared (o := o) h side (List.mem_range.mp hi)
    show _ = Except.ok ((generateAicpuOpDesc o side (valueAt opInfo' (side.key i))).toOption.getD _)
    rw [hok]
    rfl
  have hmap : ∀ side : Side, (itemsOf side.text opInfo'.entries).map (f side)
      = (tensorsOf side decls).map (descOf o side) := by
    intro side
    rw [map_itemsOf_side (hkeys.1 side), List.map_map]
    refine List.ext_getElem (by simp) fun i hi hi' => ?_
    rw [List.length_map] at hi'
    rw [List.getElem_map, List.getElem_range, List.getElem_map]
    show (generateAicpuOpDesc o side (valueAt opInfo' (side.key i))).toOption.getD _ = _
    rw [generateAicpuOpDesc_declared h side hi']
    rfl
  have hattrs : (itemsOf ATTR_PREFIX opInfo'.entries).mapM
      (fun item => makeAttr o opInfo' item.1 item.2) = (attrNames decls).mapM (attrOf o decls) := by
    rw [map_itemsOf_attr hkeys.2, List.mapM_map]
    exact HwEfat.Lib.mapM_congr fun name hname => makeAttr_declared h haicpu hbare hname
  rw [foldlM_addItem opInfo'.entries hdesc, hattrs]
  unfold Case.addDescs
  rw [show itemsOf INI_INPUT = itemsOf Side.input.text from rfl,
    show itemsOf INI_OUTPUT = itemsOf Side.output.text from rfl, hmap, hmap]

/-- What is filled in where nothing is declared. -/
theorem fillDescs_declared (o : Outside) (opType : String) (decls : List Decl)
    (attrs : List PyVal) :
    fillDescs (Case.addAttrs { emptyCase opType with
        inputDesc := [] ++ (tensorsOf .input decls).map (descOf o .input),
        outputDesc := [] ++ (tensorsOf .output decls).map (descOf o .output) } attrs)
      = { emptyCase opType with
        inputDesc := descsOf o .input decls, outputDesc := descsOf o .output decls,
        attr := if attrs = [] then none else some attrs } := by
  have hfill : ∀ side : Side,
      (if ((tensorsOf side decls).map (descOf o side)).isEmpty then [makeDesc side [] []]
        else (tensorsOf side decls).map (descOf o side)) = descsOf o side decls := by
    intro side
    unfold descsOf
    by_cases hnil : tensorsOf side decls = []
    · rw [if_pos hnil, hnil]
      rfl
    · rw [if_neg hnil, if_neg]
      rw [List.isEmpty_iff, List.map_eq_nil_iff]
      exact hnil
  unfold fillDescs Case.addAttrs
  simp only [List.nil_append, hfill]
  rfl

/-- **From a head file to the case.**  Whatever comments and blanks are in the head file, the case
has a description for every tensor, side by side and in order, and every attribute once, with
its last type and default value. -/
theorem base_case_of_prototype (o : Outside) (opType : String) {r : Registration} {text : String}
    (h : RegisteredIn r text) (haicpu : isAicpuOp opInfo = true) (hbare : Bare opInfo) :
    generateAicpuBaseCase o opType (some text) opInfo = caseOf o opType r.decls := by
  obtain ⟨hdescribes, _⟩ := describes_foldl r.decls opInfo
  have hkeys := keys_foldl hbare.filter_side hbare.filter_attr r.decls
  unfold generateAicpuBaseCase
  rw [hbare.getAicpuOpInfoFromIniFile]
  dsimp only [bind, Except.bind]
  rw [if_pos rfl]
  unfold findAicpuOpProtoPath
  dsimp only
  rw [parseAicpuOpProto_eq h]
  dsimp only [Except.map]
  rw [foldlM_declared hdescribes haicpu hbare hkeys]
  unfold caseOf
  cases (attrNames r.decls).mapM (attrOf o r.decls) with
  | error e => rfl
  | ok attrs => exact congrArg Except.ok (fillDescs_declared o opType r.decls attrs)

/-- What the `.ini` file of an operator for the AI CPU gives. -/
def kernelSoInfo : OpInfo := setOpInfo .empty "opInfo" "kernelSo" (.str "libaicpu_kernels.so")

/-- One type, and one number. -/
def smallOutside : Outside where
  aicpuIr2iniTypeMap := [("DT_FLOAT", "float")]
  listSet := List.eraseDups
  float s := if s = "1.0" then .ok (.finite 1) else .error (.valueError "")

theorem bare_kernelSoInfo : Bare kernelSoInfo := by
  intro key hkey
  obtain rfl : key = "opInfo" := List.mem_singleton.mp hkey
  refine ⟨fun side => ?_, by decide⟩
  cases side <;> decide

theorem base_case_of_prototype_add :
    RegisteredIn addRegistration addText ∧ isAicpuOp kernelSoInfo = true ∧ Bare kernelSoInfo ∧
      generateAicpuBaseCase smallOutside "Add" (some addText) kernelSoInfo
        = caseOf smallOutside "Add" addRegistration.decls :=
  ⟨registeredIn_addText, by decide, bare_kernelSoInfo,
    base_case_of_prototype smallOutside "Add" registeredIn_addText (by decide) bare_kernelSoInfo⟩

end Prototype

end CaseGenerator

end HwEfat.Main
