/-
  HwEfat.Main.CaseGenerator.AttrValue — the default value of an attribute:
  `_get_default_attr_value`.

  A list is written in brackets with commas, a list of lists with lists for elements.  The reader
  of lists of lists removes every space first and cuts off two brackets at each end.  So it reads
  no list that is empty or has an empty list in it, and takes digits with spaces between them for
  one number.  An empty text raises an `IndexError`, which is not caught.

  Main result: `default_attr_value_iff`.
-/
import HwEfat.Lib.Bracketed
import HwEfat.Lib.IntText

namespace HwEfat.Main

open HwEfat.Lib (PyError PyVal PyFloat raiseIf split strip slice startswith endswith contains pyInt
  intOf brackets removeSpaces Raises Spaced EmptyBrackets Elements RendersList)

namespace CaseGenerator

/-! ## §1. Reading a default value. -/

/-- `s.lower()`; no other character becomes a letter of `true` or `false`. -/
def lower (s : String) : String := String.ofList (s.toList.map Char.toLower)

/-- `_parse_bool_value` -/
def parseBoolValue (value : String) : Except PyError Bool :=
  let newValue := lower (strip value)
  if newValue = "true" then .ok true
  else if newValue = "false" then .ok false
  else .error (.valueError "")

/-- The part of a list of lists behind `value.split('],[')`. -/
def parseItem (item : String) : Except PyError (List Int) := do
  raiseIf (contains item "]" = true ∨ contains item "[" = true) (.valueError "")
  (split item ",").mapM pyInt

/-- `_parse_list_list_int_value` -/
def parseListListIntValue (value : String) : Except PyError (List (List Int)) := do
  let value := removeSpaces value
  raiseIf (startswith value "[[" = false ∨ endswith value "]]" = false) (.valueError "")
  (split (slice value 2 (value.length - 2)) "],[").mapM parseItem

def ints (l : List Int) : PyVal := .list (l.map .int)
def bools (l : List Bool) : PyVal := .list (l.map .bool)
def nestedInts (l : List (List Int)) : PyVal := .list (l.map ints)

/-- The check of the brackets. -/
def checkBrackets (s : String) : Except PyError Unit :=
  match s.toList with
  | [] => .error (.indexError "string index out of range")
  | c :: cs =>
      raiseIf (¬ (c = '[' ∧ (c :: cs).getLast (List.cons_ne_nil c cs) = ']')) (.valueError "")

/-- `_get_attr_type_list_value`, given `float(s)`. -/
def getAttrTypeListValue (float : String → Except PyError PyFloat) (attrType s : String) :
    Except PyError PyVal := do
  checkBrackets s
  let defaultValue ←
    if attrType = "listListInt" then (parseListListIntValue s).map nestedInts else .ok .none
  if s = "[]" then return .list []
  let valueList := split (slice s 1 (s.length - 1)) ","
  if attrType = "listInt" then (valueList.mapM pyInt).map ints
  else if attrType = "listFloat" then (valueList.mapM float).map fun l => .list (l.map .float)
  else if attrType = "listStr" then return .list (valueList.map fun x => .str (strip x))
  else if attrType = "listBool" then (valueList.mapM parseBoolValue).map bools
  else return defaultValue

/-- `_get_default_value` -/
def getDefaultValue (float : String → Except PyError PyFloat) (attrType s : String) :
    Except PyError PyVal :=
  if attrType = "float" then (float s).map .float
  else if attrType = "int" then (pyInt s).map .int
  else if attrType = "bool" then (parseBoolValue s).map .bool
  else if attrType = "str" then .ok (.str s)
  else if startswith attrType "list" then getAttrTypeListValue float attrType s
  else .ok (.str "")

/-- `_get_default_attr_value`: a `ValueError` is caught. -/
def getDefaultAttrValue (float : String → Except PyError PyFloat) (attrType s : String) :
    Except PyError PyVal :=
  match getDefaultValue float attrType (strip s) with
  | .error (.valueError _) => .ok .none
  | result => result

/-! ## §2. How a value is written. -/

/-- The types of lists of numbers and truth values. -/
inductive ListType where
  | listInt
  | listBool
  | listListInt

def ListType.name : ListType → String
  | listInt => "listInt"
  | listBool => "listBool"
  | listListInt => "listListInt"

/-- A text that is the number `n`. -/
def IntText (t : String) (n : Int) : Prop := intOf t = some n

/-- A text that is the truth value `b`, in letters of any case. -/
def BoolText (t : String) (b : Bool) : Prop := lower (strip t) = if b then "true" else "false"

/-- A list of lists, with spaces around the inner ones. -/
def NestedText (loose : Bool) : String → List (List Int) → Prop :=
  RendersList loose (Spaced (RendersList loose IntText))

/-- How a value of a type is written. -/
def Renders (loose : Bool) : ListType → String → PyVal → Prop
  | .listInt, s, v => ∃ l, RendersList loose IntText s l ∧ v = ints l
  | .listBool, s, v => ∃ l, RendersList loose BoolText s l ∧ v = bools l
  | .listListInt, s, v => ∃ l, NestedText loose s l ∧ v = nestedInts l

/-- **Values are read back**: a text, without the white space around, that a value of the type is
written as gives this value, and any other text gives `None`. -/
def RoundTrips (float : String → Except PyError PyFloat) (loose : Bool) (ty : ListType)
    (s : String) : Prop :=
  (∀ v, Renders loose ty (strip s) v → getDefaultAttrValue float ty.name s = .ok v) ∧
    ((∀ v, ¬ Renders loose ty (strip s) v) → getDefaultAttrValue float ty.name s = .ok .none)

/-- The text is not empty, and there are no spaces between the brackets of an empty list.  A list
of lists is not empty and has no empty list in it, and what is none does not become one without
its spaces. -/
def Readable (loose : Bool) : ListType → String → Prop
  | .listInt, s | .listBool, s => s ≠ "" ∧ (EmptyBrackets loose s → s = "[]")
  | .listListInt, s => s ≠ "" ∧ (∀ l, NestedText loose s l → l ≠ [] ∧ [] ∉ l) ∧
      ∀ l, Elements (Elements IntText) (removeSpaces s) l → ∃ l', NestedText loose s l'

/-- What is read as a value of a type. -/
def Reads : ListType → String → PyVal → Prop
  | .listInt, s, v => ∃ l, v = ints l ∧ ((l = [] ∧ s = "[]") ∨ Elements IntText s l)
  | .listBool, s, v => ∃ l, v = bools l ∧ ((l = [] ∧ s = "[]") ∨ Elements BoolText s l)
  | .listListInt, s, v =>
      ∃ l, v = nestedInts l ∧ Elements (Elements IntText) (removeSpaces s) l

/-! ## §3. Elements. -/

section Elements

variable {t : String} {n : Int} {b : Bool}

theorem parseBoolValue_eq_ok : parseBoolValue t = .ok b ↔ BoolText t b := by
  unfold parseBoolValue BoolText
  dsimp only
  split
  · next htrue =>
      rw [htrue]
      cases b <;> decide
  · split
    · next hfalse =>
        rw [hfalse]
        cases b <;> decide
    · next htrue hfalse => cases b <;> simp [htrue, hfalse]

theorem not_mem_of_intText {c : Char} (hspace : HwEfat.Lib.intSpace c = false)
    (hchar : ¬ HwEfat.Lib.IntChar c) (h : IntText t n) : c ∉ t.toList := by
  intro hc
  rcases HwEfat.Lib.intChar_of_intOf h hc with hc | hc
  · rw [hspace] at hc
    cases hc
  · exact hchar hc

theorem comma_not_mem_of_intText (h : IntText t n) : ',' ∉ t.toList :=
  not_mem_of_intText (by decide) (by unfold HwEfat.Lib.IntChar; decide) h

/-- A character that is no white space is not trimmed away. -/
theorem mem_strip {c : Char} (h : c ∈ t.toList) (hspace : HwEfat.Lib.isspace c = false) :
    c ∈ (strip t).toList := by
  have hkeep : ∀ l : List Char, c ∈ l → c ∈ l.dropWhile HwEfat.Lib.isspace := by
    intro l hl
    rw [← List.takeWhile_append_dropWhile (p := HwEfat.Lib.isspace) (l := l)] at hl
    refine (List.mem_append.mp hl).resolve_left fun hmem => ?_
    rw [List.mem_takeWhile_imp hmem] at hspace
    cases hspace
  unfold strip List.rdropWhile
  rw [String.toList_ofList, List.mem_reverse]
  exact hkeep _ (List.mem_reverse.mpr (hkeep _ h))

theorem comma_not_mem_of_boolText (h : BoolText t b) : ',' ∉ t.toList := by
  intro hcomma
  have hmem : ',' ∈ (lower (strip t)).toList := by
    unfold lower
    rw [String.toList_ofList]
    exact List.mem_map.mpr ⟨',', mem_strip hcomma (by decide), by decide⟩
  rw [h] at hmem
  revert hmem
  cases b <;> decide

/-- A list of numbers has no brackets but its own. -/
theorem brackets_of_elements {l : List Int} (h : Elements IntText t l) :
    ∃ p, brackets p = t ∧ ']' ∉ p.toList ∧ '[' ∉ p.toList := by
  obtain ⟨_, texts, htexts, rfl⟩ := h
  have hnot : ∀ c, c ≠ ',' → HwEfat.Lib.intSpace c = false → ¬ HwEfat.Lib.IntChar c →
      c ∉ (",".intercalate texts).toList := by
    intro c hc hspace hchar hmem
    rcases HwEfat.Lib.mem_intercalate_comma hmem with heq | ⟨u, hu, hmem⟩
    · exact hc heq
    · obtain ⟨n, _, hn⟩ := HwEfat.Lib.exists_of_forall₂ htexts.flip hu
      exact not_mem_of_intText hspace hchar hn hmem
  exact ⟨_, rfl, hnot ']' (by decide) (by decide) (by unfold HwEfat.Lib.IntChar; decide),
    hnot '[' (by decide) (by decide) (by unfold HwEfat.Lib.IntChar; decide)⟩

end Elements

/-! ## §4. Lists. -/

section Lists

variable {float : String → Except PyError PyFloat} {s t : String} {v : PyVal}

theorem parseInts_eq_ok {l : List Int} :
    (split t ",").mapM pyInt = .ok l ↔ Elements IntText (brackets t) l :=
  HwEfat.Lib.mapM_split_eq_ok (fun _ _ => HwEfat.Lib.pyInt_eq_ok)
    fun _ _ => comma_not_mem_of_intText

theorem parseBools_eq_ok {l : List Bool} :
    (split t ",").mapM parseBoolValue = .ok l ↔ Elements BoolText (brackets t) l :=
  HwEfat.Lib.mapM_split_eq_ok (fun _ _ => parseBoolValue_eq_ok)
    fun _ _ => comma_not_mem_of_boolText

theorem parseItem_eq_ok {l : List Int} :
    parseItem t = .ok l ↔ Elements IntText (brackets t) l := by
  unfold parseItem
  rw [HwEfat.Lib.bind_eq_ok]
  constructor
  · rintro ⟨_, _, h⟩
    exact parseInts_eq_ok.mp h
  · intro h
    refine ⟨(), HwEfat.Lib.raiseIf_eq_ok.mpr ?_, parseInts_eq_ok.mpr h⟩
    obtain ⟨p, hp, hclose, hopen⟩ := brackets_of_elements h
    rw [HwEfat.Lib.contains_iff_mem (c := ']') rfl, HwEfat.Lib.contains_iff_mem (c := '[') rfl,
      ← HwEfat.Lib.brackets_inj.mp hp]
    exact not_or.mpr ⟨hclose, hopen⟩

/-- **A list of lists is read** if no list is empty, and the text is one without its spaces. -/
theorem parseListListIntValue_eq_ok {l : List (List Int)} :
    parseListListIntValue t = .ok l ↔ Elements (Elements IntText) (removeSpaces t) l := by
  unfold parseListListIntValue
  dsimp only
  rw [HwEfat.Lib.bind_eq_ok]
  have hitems : ∀ p, (split (slice (brackets (brackets p)) 2
      ((brackets (brackets p)).length - 2)) "],[").mapM parseItem = .ok l ↔
        Elements (Elements IntText) (brackets (brackets p)) l := by
    intro p
    have hslice : slice (brackets (brackets p)) 2 ((brackets (brackets p)).length - 2) = p := by
      have hbrackets : brackets (brackets p) = "[[" ++ p ++ "]]" := by
        rw [← String.toList_inj, HwEfat.Lib.toList_brackets, HwEfat.Lib.toList_brackets]
        simp [String.toList_append]
      rw [hbrackets]
      exact HwEfat.Lib.slice_around "[[" p "]]"
    rw [hslice]
    refine HwEfat.Lib.mapM_split_brackets_eq_ok (fun _ _ => parseItem_eq_ok) fun u a h => ?_
    obtain ⟨q, hq, hclose, _⟩ := brackets_of_elements h
    exact ⟨q, hq, hclose⟩
  constructor
  · rintro ⟨_, hbrackets, h⟩
    -- The brackets that are cut off are there.
    have hdouble := HwEfat.Lib.raiseIf_eq_ok.mp hbrackets
    rw [not_or, Bool.not_eq_false, Bool.not_eq_false, HwEfat.Lib.double_brackets_iff] at hdouble
    obtain ⟨p, hp⟩ := hdouble
    rw [hp] at h ⊢
    exact (hitems p).mp h
  · intro h
    obtain ⟨parts, _, _, hp⟩ := h.exists_parts fun u a hu =>
      (brackets_of_elements hu).imp fun q hq => hq.1
    refine ⟨(), HwEfat.Lib.raiseIf_eq_ok.mpr ?_, ?_⟩
    · rw [not_or, Bool.not_eq_false, Bool.not_eq_false, HwEfat.Lib.double_brackets_iff]
      exact ⟨_, hp⟩
    · rw [hp] at h ⊢
      exact (hitems _).mpr h

theorem checkBrackets_eq_ok : checkBrackets s = .ok () ↔ ∃ t, s = brackets t := by
  unfold checkBrackets
  cases hs : s.toList with
  | nil =>
      refine iff_of_false (fun h => by cases h) ?_
      rintro ⟨t, rfl⟩
      rw [HwEfat.Lib.toList_brackets] at hs
      cases hs
  | cons c cs =>
      dsimp only
      rw [HwEfat.Lib.raiseIf_eq_ok, not_not, HwEfat.Lib.eq_brackets_iff hs]

/-- **A list that is not nested is read.** -/
theorem readList_eq_ok {α : Type} {read : String → Except PyError α} {elem : String → α → Prop}
    {values : List α → PyVal} (hvalues : values [] = .list [])
    (hread : ∀ t l, (split t ",").mapM read = .ok l ↔ Elements elem (brackets t) l)
    (hempty : ∀ a, read "" ≠ .ok a) :
    (∃ u, checkBrackets s = .ok u ∧ (if s = "[]" then .ok (.list [])
        else ((split (slice s 1 (s.length - 1)) ",").mapM read).map values) = .ok v) ↔
      ∃ l, v = values l ∧ ((l = [] ∧ s = "[]") ∨ Elements elem s l) := by
  have hslice : ∀ t, slice (brackets t) 1 ((brackets t).length - 1) = t := fun t =>
    HwEfat.Lib.slice_around "[" t "]"
  constructor
  · rintro ⟨_, hbrackets, h⟩
    obtain ⟨t, rfl⟩ := checkBrackets_eq_ok.mp hbrackets
    split at h
    · next hnil =>
        cases h
        exact ⟨[], hvalues.symm, Or.inl ⟨rfl, hnil⟩⟩
    · rw [hslice] at h
      obtain ⟨l, hl, rfl⟩ := HwEfat.Lib.map_eq_ok.mp h
      exact ⟨l, rfl, Or.inr ((hread t l).mp hl)⟩
  · rintro ⟨l, rfl, ⟨rfl, rfl⟩ | h⟩
    · exact ⟨(), by decide, by rw [if_pos rfl, hvalues]⟩
    · obtain ⟨t, rfl⟩ : ∃ t, s = brackets t := h.2.imp' _ fun _ h => h.2
      refine ⟨(), checkBrackets_eq_ok.mpr ⟨t, rfl⟩, ?_⟩
      rw [if_neg, hslice, HwEfat.Lib.map_eq_ok]
      · exact ⟨l, (hread t l).mpr h, rfl⟩
      · -- Between the brackets of an empty list there is an empty text, which is no element.
        intro hnil
        obtain rfl : t = "" := HwEfat.Lib.brackets_inj.mp hnil
        have hmap := HwEfat.Lib.mapM_eq_ok.mp ((hread "" l).mpr h)
        cases hmap with
        | cons ha _ => exact hempty _ ha

theorem getAttrTypeListValue_listInt :
    getAttrTypeListValue float "listInt" s = .ok v ↔ Reads .listInt s v := by
  unfold getAttrTypeListValue
  simp only [String.reduceEq, if_true, if_false]
  rw [HwEfat.Lib.bind_eq_ok]
  exact readList_eq_ok rfl (fun _ _ => parseInts_eq_ok) fun a h => by cases h

theorem getAttrTypeListValue_listBool :
    getAttrTypeListValue float "listBool" s = .ok v ↔ Reads .listBool s v := by
  unfold getAttrTypeListValue
  simp only [String.reduceEq, if_true, if_false]
  rw [HwEfat.Lib.bind_eq_ok]
  exact readList_eq_ok rfl (fun _ _ => parseBools_eq_ok) fun a h => by cases h

/-- White space around a text is no bracket. -/
theorem eq_brackets_of_removeSpaces (hstrip : strip s = s) (h : removeSpaces s = brackets t) :
    ∃ t', s = brackets t' := by
  -- Neither end of the text is a space, so both are still there without its spaces.
  have hlist : (s.toList.dropWhile HwEfat.Lib.isspace).rdropWhile HwEfat.Lib.isspace
      = s.toList := by
    rw [← String.toList_inj] at hstrip
    exact String.toList_ofList.symm.trans hstrip
  have hfront : s.toList.dropWhile HwEfat.Lib.isspace = s.toList := by
    rw [← hlist]
    exact HwEfat.Lib.dropWhile_rdropWhile_dropWhile _ _
  have hback : s.toList.rdropWhile HwEfat.Lib.isspace = s.toList := by
    rw [hfront] at hlist
    exact hlist
  have hfilter : s.toList.filter (· != ' ') = '[' :: (t.toList ++ [']']) := by
    rw [← HwEfat.Lib.toList_removeSpaces, h, HwEfat.Lib.toList_brackets]
  have hspace : ∀ c : Char, ¬ HwEfat.Lib.isspace c = true → (c != ' ') = true := by
    intro c hc
    rw [bne_iff_ne]
    rintro rfl
    exact hc (by decide)
  cases hs : s.toList with
  | nil =>
      rw [hs] at hfilter
      cases hfilter
  | cons c cs =>
      refine (HwEfat.Lib.eq_brackets_iff hs).mp ⟨?_, ?_⟩
      · rw [hs, List.dropWhile_eq_self_iff] at hfront
        have hfirst := hspace c (hfront (Nat.succ_pos _))
        rw [hs, List.filter_cons_of_pos (p := (· != ' ')) hfirst] at hfilter
        exact (List.cons.inj hfilter).1
      · rw [hs, List.rdropWhile_eq_self_iff] at hback
        have hlast := hspace _ (hback (List.cons_ne_nil c cs))
        rw [hs, ← List.dropLast_concat_getLast (List.cons_ne_nil c cs), List.filter_append,
          List.filter_cons_of_pos (p := (· != ' ')) hlast, List.filter_nil,
          ← List.cons_append] at hfilter
        exact List.singleton_inj.mp (List.append_inj' hfilter rfl).2

theorem getAttrTypeListValue_listListInt (hstrip : strip s = s) :
    getAttrTypeListValue float "listListInt" s = .ok v ↔ Reads .listListInt s v := by
  unfold getAttrTypeListValue
  simp only [String.reduceEq, if_true, if_false]
  rw [HwEfat.Lib.bind_eq_ok]
  have hnil : ∀ l, Elements (Elements IntText) (removeSpaces s) l → s ≠ "[]" := by
    rintro l h rfl
    obtain ⟨parts, _, _, hs⟩ := h.exists_parts fun u a hu =>
      (brackets_of_elements hu).imp fun q hq => hq.1
    have hinner := HwEfat.Lib.brackets_inj.mp ((show brackets "" = _ from rfl).trans hs)
    rw [← String.toList_inj, HwEfat.Lib.toList_brackets] at hinner
    cases hinner
  constructor
  · rintro ⟨_, hbrackets, h⟩
    obtain ⟨_, hparse, h⟩ := HwEfat.Lib.bind_eq_ok.mp h
    obtain ⟨l, hl, rfl⟩ := HwEfat.Lib.map_eq_ok.mp hparse
    rw [parseListListIntValue_eq_ok] at hl
    rw [if_neg (hnil l hl)] at h
    cases h
    exact ⟨l, rfl, hl⟩
  · rintro ⟨l, rfl, h⟩
    obtain ⟨t, ht⟩ : ∃ t, removeSpaces s = brackets t := h.2.imp' _ fun _ h => h.2
    refine ⟨(), checkBrackets_eq_ok.mpr (eq_brackets_of_removeSpaces hstrip ht), ?_⟩
    refine HwEfat.Lib.bind_eq_ok.mpr ⟨nestedInts l, HwEfat.Lib.map_eq_ok.mpr
      ⟨l, parseListListIntValue_eq_ok.mpr h, rfl⟩, ?_⟩
    rw [if_neg (hnil l h)]
    rfl

/-- **What is read as a value of a type.** -/
theorem getAttrTypeListValue_eq_ok (ty : ListType) (hstrip : strip s = s) :
    getAttrTypeListValue float ty.name s = .ok v ↔ Reads ty s v := by
  cases ty with
  | listInt => exact getAttrTypeListValue_listInt
  | listBool => exact getAttrTypeListValue_listBool
  | listListInt => exact getAttrTypeListValue_listListInt hstrip

/-- An error that is caught. -/
def IsValueError (e : PyError) : Prop := ∃ message, e = .valueError message

theorem raises_pyInt (t : String) : Raises IsValueError (pyInt t) := by
  unfold pyInt
  split
  · exact HwEfat.Lib.raises_ok _
  · exact HwEfat.Lib.raises_error ⟨_, rfl⟩

theorem raises_parseBoolValue (t : String) : Raises IsValueError (parseBoolValue t) := by
  unfold parseBoolValue
  dsimp only
  split
  · exact HwEfat.Lib.raises_ok _
  · split
    · exact HwEfat.Lib.raises_ok _
    · exact HwEfat.Lib.raises_error ⟨_, rfl⟩

theorem raises_parseListListIntValue (t : String) :
    Raises IsValueError (parseListListIntValue t) := by
  refine (HwEfat.Lib.raises_raiseIf ⟨_, rfl⟩).bind fun _ => Raises.mapM (fun item => ?_) _
  exact (HwEfat.Lib.raises_raiseIf ⟨_, rfl⟩).bind fun _ => Raises.mapM raises_pyInt _

/-- **What is raised is caught**, unless the text is empty. -/
theorem raises_getAttrTypeListValue (ty : ListType) (hne : s ≠ "") :
    Raises IsValueError (getAttrTypeListValue float ty.name s) := by
  have hbrackets : Raises IsValueError (checkBrackets s) := by
    unfold checkBrackets
    split
    · next hnil => exact absurd (String.toList_eq_nil_iff.mp hnil) hne
    · exact HwEfat.Lib.raises_raiseIf ⟨_, rfl⟩
  refine hbrackets.bind fun _ => ?_
  cases ty with
  | listInt =>
      simp only [ListType.name, String.reduceEq, if_true, if_false]
      refine (HwEfat.Lib.raises_ok _).bind fun _ => ?_
      split
      · exact HwEfat.Lib.raises_ok _
      · exact (Raises.mapM raises_pyInt _).map ints
  | listBool =>
      simp only [ListType.name, String.reduceEq, if_true, if_false]
      refine (HwEfat.Lib.raises_ok _).bind fun _ => ?_
      split
      · exact HwEfat.Lib.raises_ok _
      · exact (Raises.mapM raises_parseBoolValue _).map bools
  | listListInt =>
      simp only [ListType.name, String.reduceEq, if_true, if_false]
      refine ((raises_parseListListIntValue s).map nestedInts).bind fun _ => ?_
      split
      · exact HwEfat.Lib.raises_ok _
      · exact HwEfat.Lib.raises_ok _

theorem getDefaultValue_list (ty : ListType) :
    getDefaultValue float ty.name s = getAttrTypeListValue float ty.name s := by
  unfold getDefaultValue
  cases ty with
  | listInt =>
      simp only [ListType.name, String.reduceEq, if_false]
      exact if_pos (by decide)
  | listBool =>
      simp only [ListType.name, String.reduceEq, if_false]
      exact if_pos (by decide)
  | listListInt =>
      simp only [ListType.name, String.reduceEq, if_false]
      exact if_pos (by decide)

/-- **The default value**: what is read. -/
theorem getDefaultAttrValue_read (float : String → Except PyError PyFloat) (ty : ListType)
    (v : PyVal) (hv : Reads ty (strip s) v) :
    getDefaultAttrValue float ty.name s = .ok v := by
  unfold getDefaultAttrValue
  rw [getDefaultValue_list, (getAttrTypeListValue_eq_ok ty (HwEfat.Lib.strip_strip s)).mpr hv]

/-- It is `None` if nothing is read. -/
theorem getDefaultAttrValue_unread (float : String → Except PyError PyFloat) (ty : ListType)
    (hne : strip s ≠ "") (hnone : ∀ v, ¬ Reads ty (strip s) v) :
    getDefaultAttrValue float ty.name s = .ok .none := by
  unfold getDefaultAttrValue
  rw [getDefaultValue_list]
  cases hread : getAttrTypeListValue float ty.name (strip s) with
  | ok v =>
      exact absurd ((getAttrTypeListValue_eq_ok ty (HwEfat.Lib.strip_strip s)).mp hread) (hnone v)
  | error e =>
      obtain ⟨message, rfl⟩ := raises_getAttrTypeListValue ty hne e hread
      rfl

end Lists

/-! ## §5. Reading what was written. -/

section RoundTrip

variable {float : String → Except PyError PyFloat} {loose : Bool} {ty : ListType} {s : String}
  {v : PyVal}

theorem ints_injective : Function.Injective ints := fun _ _ h =>
  List.map_injective_iff.mpr (fun _ _ => PyVal.int.inj) (PyVal.list.inj h)

theorem nestedInts_injective : Function.Injective nestedInts := fun _ _ h =>
  List.map_injective_iff.mpr ints_injective (PyVal.list.inj h)

theorem ne_none_of_reads (h : Reads ty s v) : v ≠ .none := by
  cases ty with
  | listInt | listBool | listListInt =>
      obtain ⟨l, rfl, _⟩ := h
      exact fun hnone => by cases hnone

theorem ne_none_of_renders (h : Renders loose ty s v) : v ≠ .none := by
  cases ty with
  | listInt | listBool | listListInt =>
      obtain ⟨l, _, rfl⟩ := h
      exact fun hnone => by cases hnone

theorem not_renders_empty (v : PyVal) : ¬ Renders loose ty "" v := by
  have hne : ∀ (α : Type) (elem : String → α → Prop) (l : List α),
      ¬ RendersList loose elem "" l := by
    rintro α elem l (⟨_, spaces, _, _, hs⟩ | ⟨_, texts, _, hs⟩)
    · rw [← String.toList_inj, HwEfat.Lib.toList_brackets] at hs
      cases hs
    · rw [← String.toList_inj, HwEfat.Lib.toList_brackets] at hs
      cases hs
  intro h
  cases ty with
  | listInt | listBool | listListInt =>
      obtain ⟨l, hl, _⟩ := h
      exact hne _ _ _ hl

/-- Values are read back if the renderings are what is read. -/
theorem roundTrips_iff_reads : RoundTrips float loose ty s ↔ strip s ≠ "" ∧
    (∀ v, Renders loose ty (strip s) v → Reads ty (strip s) v) ∧
      ∀ v, Reads ty (strip s) v → ∃ v', Renders loose ty (strip s) v' := by
  constructor
  · rintro ⟨hvalues, hothers⟩
    have hne : strip s ≠ "" := by
      intro hempty
      have hnone := hothers fun v hv => not_renders_empty v (hempty ▸ hv)
      unfold getDefaultAttrValue at hnone
      rw [getDefaultValue_list, hempty] at hnone
      cases hnone
    have hread := fun v => getDefaultAttrValue_read float ty v (s := s)
    have hunread := getDefaultAttrValue_unread float ty hne
    refine ⟨hne, fun v hv => ?_, fun v hv => ?_⟩
    · have hvalue := hvalues v hv
      -- The default value is not `None`, so something was read.
      by_cases hany : ∃ v', Reads ty (strip s) v'
      · obtain ⟨v', hv'⟩ := hany
        have heq := (hread v' hv').symm.trans hvalue
        cases heq
        exact hv'
      · have heq := (hunread (not_exists.mp hany)).symm.trans hvalue
        cases heq
        exact absurd rfl (ne_none_of_renders hv)
    · by_contra hany
      have heq := (hothers (not_exists.mp hany)).symm.trans (hread v hv)
      cases heq
      exact ne_none_of_reads hv rfl
  · rintro ⟨hne, hrenders, hreads⟩
    refine ⟨fun v hv => getDefaultAttrValue_read float ty v (hrenders v hv),
      fun hnone => getDefaultAttrValue_unread float ty hne fun v hv => ?_⟩
    obtain ⟨v', hv'⟩ := hreads v hv
    exact hnone v' hv'

/-- A list that is not nested is read unless there are spaces between its brackets. -/
theorem flat_iff {α : Type} {elem : String → α → Prop} {values : List α → PyVal}
    (hvalues : ∀ l, values [] = values l → l = []) :
    ((∀ v, (∃ l, RendersList loose elem s l ∧ v = values l) →
        ∃ l, v = values l ∧ ((l = [] ∧ s = "[]") ∨ Elements elem s l)) ∧
      ∀ v, (∃ l, v = values l ∧ ((l = [] ∧ s = "[]") ∨ Elements elem s l)) →
        ∃ v' l, RendersList loose elem s l ∧ v' = values l) ↔
      (EmptyBrackets loose s → s = "[]") := by
  constructor
  · rintro ⟨hreads, _⟩ hempty
    obtain ⟨l, hl, ⟨_, hs⟩ | ⟨hne, _⟩⟩ := hreads _ ⟨[], Or.inl ⟨rfl, hempty⟩, rfl⟩
    · exact hs
    · exact absurd (hvalues l hl) hne
  · intro hspaces
    refine ⟨?_, ?_⟩
    · rintro _ ⟨l, ⟨rfl, hempty⟩ | h, rfl⟩
      · exact ⟨[], rfl, Or.inl ⟨rfl, hspaces hempty⟩⟩
      · exact ⟨l, rfl, Or.inr h⟩
    · rintro _ ⟨l, rfl, ⟨rfl, rfl⟩ | h⟩
      · exact ⟨_, [], Or.inl ⟨rfl, HwEfat.Lib.emptyBrackets_nil loose⟩, rfl⟩
      · exact ⟨_, l, Or.inr h, rfl⟩

/-- A list of lists without its spaces, if no list is empty. -/
theorem elements_of_nestedText {l : List (List Int)} (h : NestedText loose s l) (hne : l ≠ [])
    (hinner : [] ∉ l) : Elements (Elements IntText) (removeSpaces s) l := by
  rcases h with ⟨hnil, _⟩ | h
  · exact absurd hnil hne
  · refine h.removeSpaces fun t a ha ht => ?_
    obtain ⟨core, hcore, hspaces⟩ := ht.removeSpaces
    rcases hcore with ⟨hnil, _⟩ | hcore
    · exact absurd (hnil ▸ ha) hinner
    · rw [hspaces]
      exact hcore.removeSpaces fun u n _ hn => HwEfat.Lib.intOf_filter hn

theorem inner_ne_nil {l : List (List Int)} (h : Elements (Elements IntText) s l) :
    l ≠ [] ∧ [] ∉ l := by
  obtain ⟨hne, texts, htexts, _⟩ := h
  refine ⟨hne, fun hmem => ?_⟩
  obtain ⟨t, _, ht⟩ := HwEfat.Lib.exists_of_forall₂ htexts hmem
  exact ht.1 rfl

/-- **Which lists of lists are read.** -/
theorem nested_iff : ((∀ v, Renders loose .listListInt s v → Reads .listListInt s v) ∧
      ∀ v, Reads .listListInt s v → ∃ v', Renders loose .listListInt s v') ↔
    (∀ l, NestedText loose s l → l ≠ [] ∧ [] ∉ l) ∧
      ∀ l, Elements (Elements IntText) (removeSpaces s) l → ∃ l', NestedText loose s l' := by
  constructor
  · rintro ⟨hrenders, hreads⟩
    refine ⟨fun l hl => ?_, fun l hl => ?_⟩
    · obtain ⟨l', hvalue, hl'⟩ := hrenders _ ⟨l, hl, rfl⟩
      rw [nestedInts_injective hvalue]
      exact inner_ne_nil hl'
    · obtain ⟨_, l', hl', _⟩ := hreads _ ⟨l, rfl, hl⟩
      exact ⟨l', hl'⟩
  · rintro ⟨hfull, hspaces⟩
    refine ⟨?_, ?_⟩
    · rintro _ ⟨l, hl, rfl⟩
      exact ⟨l, rfl, elements_of_nestedText hl (hfull l hl).1 (hfull l hl).2⟩
    · rintro _ ⟨l, rfl, hl⟩
      obtain ⟨l', hl'⟩ := hspaces l hl
      exact ⟨_, l', hl', rfl⟩

/-- A list of numbers as it is printed. -/
def printInts (l : List Int) : String := brackets (",".intercalate (l.map toString))

theorem renders_printInts (loose : Bool) (l : List Int) :
    RendersList loose IntText (printInts l) l := by
  cases l with
  | nil => exact Or.inl ⟨rfl, HwEfat.Lib.emptyBrackets_nil loose⟩
  | cons n l =>
      refine Or.inr ⟨List.cons_ne_nil n l, (n :: l).map toString, ?_, rfl⟩
      rw [List.forall₂_map_left_iff, List.forall₂_same]
      intro k _
      have hread := HwEfat.Lib.intOf_toString k "" ""
        (fun _ hc => absurd hc List.not_mem_nil) fun _ hc => absurd hc List.not_mem_nil
      rw [String.empty_append, String.append_empty] at hread
      exact hread

/-- **A printed list of numbers is read back.** -/
theorem getDefaultAttrValue_printInts (float : String → Except PyError PyFloat) (l : List Int) :
    getDefaultAttrValue float "listInt" (printInts l) = .ok (ints l) := by
  refine getDefaultAttrValue_read float .listInt (ints l) ?_
  rw [show strip (printInts l) = printInts l from HwEfat.Lib.strip_brackets _]
  refine ⟨l, rfl, ?_⟩
  rcases renders_printInts false l with ⟨rfl, _⟩ | h
  · exact Or.inl ⟨rfl, rfl⟩
  · exact Or.inr h

end RoundTrip

/-- **Values are read back** exactly if the text is readable. -/
theorem default_attr_value_iff (float : String → Except PyError PyFloat) (loose : Bool)
    (ty : ListType) (s : String) :
    RoundTrips float loose ty s ↔ Readable loose ty (strip s) := by
  rw [roundTrips_iff_reads]
  cases ty with
  | listInt => exact and_congr_right' (flat_iff fun l hl => (ints_injective hl).symm)
  | listBool =>
      refine and_congr_right' (flat_iff fun l hl => ?_)
      exact (List.map_injective_iff.mpr (fun _ _ => PyVal.bool.inj) (PyVal.list.inj hl)).symm
  | listListInt => exact and_congr_right' nested_iff

/-- The empty list is one of the lists of lists, but it is not read. -/
theorem empty_list_lost :
    ¬ RoundTrips (fun _ => .error (.valueError "")) false .listListInt "[]" := by
  rintro ⟨hvalues, _⟩
  have hvalue := hvalues (nestedInts []) ⟨[], Or.inl ⟨rfl, HwEfat.Lib.emptyBrackets_nil false⟩, rfl⟩
  have hnone : getDefaultAttrValue (fun _ => .error (.valueError "")) "listListInt" "[]"
      = .ok .none := rfl
  cases hnone.symm.trans hvalue

/-- Two numbers are taken for one. -/
example (float : String → Except PyError PyFloat) :
    getDefaultAttrValue float "listListInt" "[[1 2], [3]]" = .ok (nestedInts [[12], [3]]) := rfl

end CaseGenerator

end HwEfat.Main
