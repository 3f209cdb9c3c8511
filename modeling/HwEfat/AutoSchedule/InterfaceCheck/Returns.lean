/-
  HwEfat.AutoSchedule.InterfaceCheck.Returns — when the comparisons return at all.

  Each comparison goes on after it has found a difference and looks names up in both
  dictionaries.  `_compare_func` compares the two padded columns first; `compare_class_spec`
  reads one column only, and so looks up every public method of the first class in the second.
  A file's classes and global variables are looked up under their trimmed names.

  Main result: `compare_returns_false_iff`, exactly which specs are compared without an
  exception, with `False` if their public names differ.
-/
import HwEfat.AutoSchedule.InterfaceCheck.Padding

namespace HwEfat.AutoSchedule.InterfaceCheck

open HwEfat.Lib

/-! ## §1. The comparisons return. -/

/-- A call that returns a boolean. -/
def Returns (x : Except PyError Bool) : Prop := ∃ b, x = .ok b

/-- What has returned. -/
theorem returns_ok (b : Bool) : Returns (.ok b) := ⟨b, rfl⟩

/-- The loops do not stop at a difference. -/
theorem returns_checkEach {α : Type} {check : α → Except PyError Bool} {matched : Bool}
    {l : List α} : Returns (checkEach check matched l) ↔ ∀ x ∈ l, Returns (check x) := by
  unfold checkEach
  induction l generalizing matched with
  | nil => exact iff_of_true (returns_ok matched) (by simp)
  | cons x l ih =>
      rw [List.forall_mem_cons, List.foldlM_cons]
      cases hx : check x with
      | error e =>
          refine iff_of_false ?_ ?_
          · rintro ⟨b, h⟩
            cases h
          · rintro ⟨⟨b, h⟩, _⟩
            cases h
      | ok b =>
          rw [and_iff_right (returns_ok b)]
          exact ih

/-- Both items have to be there. -/
theorem returns_compareItems {α : Type} {compare : α → α → Except PyError Bool} {d1 d2 : Dict α}
    {name1 name2 : String} :
    Returns (compareItems compare d1 d2 name1 name2) ↔
      ∃ a b, d1.get? name1 = some a ∧ d2.get? name2 = some b ∧ Returns (compare a b) := by
  unfold compareItems Returns
  constructor
  · intro ⟨r, h⟩
    obtain ⟨a, ha, h⟩ := bind_eq_ok.mp h
    obtain ⟨b, hb, h⟩ := bind_eq_ok.mp h
    exact ⟨a, b, Dict.getItem_eq_ok.mp ha, Dict.getItem_eq_ok.mp hb, r, h⟩
  · intro ⟨a, b, ha, hb, r, h⟩
    exact ⟨r, bind_eq_ok.mpr ⟨a, Dict.getItem_eq_ok.mpr ha,
      bind_eq_ok.mpr ⟨b, Dict.getItem_eq_ok.mpr hb, h⟩⟩⟩

/-- A comparison of items that cannot fail itself only needs the two keys. -/
theorem returns_compareItems_ok {α : Type} {compare : α → α → Bool} {d1 d2 : Dict α}
    {name1 name2 : String} :
    Returns (compareItems (fun a b => .ok (compare a b)) d1 d2 name1 name2) ↔
      name1 ∈ d1.keys ∧ name2 ∈ d2.keys := by
  rw [returns_compareItems, Dict.mem_keys_iff, Dict.mem_keys_iff]
  constructor
  · intro ⟨a, b, ha, hb, _⟩
    exact ⟨⟨a, ha⟩, ⟨b, hb⟩⟩
  · intro ⟨⟨a, ha⟩, ⟨b, hb⟩⟩
    exact ⟨a, b, ha, hb, returns_ok _⟩

/-! ## §2. The names that are looked up. -/

/-- A name that the loop over the two columns looks up: one that shows as padding in its own
row anyway, or a common one that no smaller common one holds up by occurring more often in the
first list. -/
def LookedUp (names1 names2 : List String) (name : String) : Prop :=
  isPadding name = true ∧ (name ∈ names1 ∨ name ∈ names2) ∨
    name ∈ names1 ∧ name ∈ names2 ∧
      ∀ c ∈ names1, c ∈ names2 → c < name → names1.count c ≤ names2.count c

/-- Names are paired as long as no common name comes behind them. -/
theorem pairable_sorted {names1 names2 : List String} {name : String} :
    Pairable (sorted names2) (sorted names1) (sorted names2) name ↔
      name ∈ names1 ∧ name ∈ names2 ∧
        ∀ c ∈ names1, c ∈ names2 → c < name → names1.count c ≤ names2.count c := by
  have hcount (names : List String) (c : String) : (sorted names).count c = names.count c :=
    (List.perm_insertionSort _ names).count_eq c
  simp only [Pairable, mem_sorted, hcount]

/-- The names in order. -/
theorem pairwise_sorted (names : List String) : (sorted names).Pairwise (· ≤ ·) :=
  List.sortedLE_insertionSort.pairwise

/-- The two columns show a name twice in a row exactly if it is looked up. -/
theorem mem_columns_iff {names1 names2 : List String} {name : String} :
    (name, name) ∈ (buildDiffListResult (sorted names1) (sorted names2)).1.zip
        (buildDiffListResult (sorted names1) (sorted names2)).2 ↔
      LookedUp names1 names2 name := by
  have hboth : Row.both name ∈ alignment (sorted names1) (sorted names2) ↔ _ :=
    (mem_paired_align (pairwise_sorted names1) (pairwise_sorted names2) (List.Subset.refl _)
      (List.Subset.refl _)).trans pairable_sorted
  have hfst := filterMap_fst?_alignment (sorted names1) (sorted names2)
  have hsnd := filterMap_snd?_alignment (sorted names1) (sorted names2)
  rw [buildDiffListResult_eq, List.zip_map', List.mem_map]
  generalize alignment (sorted names1) (sorted names2) = rows at hboth hfst hsnd ⊢
  constructor
  · intro ⟨row, hrow, htexts⟩
    obtain ⟨htext1, htext2⟩ := Prod.mk.inj htexts
    cases row with
    | both n =>
        obtain rfl : n = name := htext1
        exact .inr (hboth.mp hrow)
    | left n =>
        obtain rfl : n = name := htext1
        have hmem : n ∈ sorted names1 := hfst ▸ List.mem_filterMap.mpr ⟨_, hrow, rfl⟩
        exact .inl ⟨underscores_eq_self.mp htext2, .inl (mem_sorted.mp hmem)⟩
    | right n =>
        obtain rfl : n = name := htext2
        have hmem : n ∈ sorted names2 := hsnd ▸ List.mem_filterMap.mpr ⟨_, hrow, rfl⟩
        exact .inl ⟨underscores_eq_self.mp htext1, .inr (mem_sorted.mp hmem)⟩
  · intro h
    cases h with
    | inr h => exact ⟨.both name, hboth.mpr h, rfl⟩
    | inl h =>
        -- In whichever row the name stands, both entries are the name.
        obtain ⟨hpadding, hmem⟩ := h
        have hself := underscores_eq_self.mpr hpadding
        cases hmem with
        | inl hmem =>
            rw [← mem_sorted, ← hfst] at hmem
            obtain ⟨row, hrow, hname⟩ := List.mem_filterMap.mp hmem
            refine ⟨row, hrow, ?_⟩
            rcases Row.fst?_eq_some.mp hname with rfl | rfl
            · rfl
            · exact Prod.ext rfl hself
        | inr hmem =>
            rw [← mem_sorted, ← hsnd] at hmem
            obtain ⟨row, hrow, hname⟩ := List.mem_filterMap.mp hmem
            refine ⟨row, hrow, ?_⟩
            rcases Row.snd?_eq_some.mp hname with rfl | rfl
            · rfl
            · exact Prod.ext hself rfl

/-- Of two lists with the same names every name is looked up. -/
theorem lookedUp_of_perm {names1 names2 : List String} (h : names1.Perm names2) {name : String} :
    LookedUp names1 names2 name ↔ name ∈ names1 := by
  constructor
  · intro hname
    rcases hname with ⟨_, hmem | hmem⟩ | ⟨hmem, _⟩
    · exact hmem
    · exact h.mem_iff.mpr hmem
    · exact hmem
  · intro hmem
    exact .inr ⟨hmem, h.mem_iff.mp hmem, fun c _ _ _ => (h.count_eq c).le⟩

/-- **The comparison of names** returns if every pair is there. -/
theorem returns_compareNames {α : Type} {compare : α → α → Bool} {names1 names2 : List String}
    {d1 d2 : Dict α} {matched : Bool} :
    Returns (compareNames compare (sorted names1) (sorted names2) d1 d2 matched) ↔
      ∀ name, LookedUp names1 names2 name → name ∈ d1.keys ∧ name ∈ d2.keys := by
  unfold compareNames
  by_cases hnames : sorted names1 = sorted names2
  · rw [if_neg (by simpa using hnames), ← hnames, List.zip_eq_zipWith, List.zipWith_self,
      returns_checkEach]
    simp only [List.forall_mem_map, mem_sorted, ne_eq, not_true_eq_false, if_false,
      returns_compareItems_ok, lookedUp_of_perm (sorted_eq_sorted_iff.mp hnames)]
  · rw [if_pos hnames]
    dsimp only
    rw [returns_checkEach]
    constructor
    · intro h name hname
      have hreturns := h (name, name) (mem_columns_iff.mpr hname)
      rw [if_neg (by simp)] at hreturns
      exact returns_compareItems_ok.mp hreturns
    · rintro h ⟨name1, name2⟩ hmem
      by_cases hne : name1 = name2
      · obtain rfl := hne
        rw [if_neg (by simp)]
        exact returns_compareItems_ok.mpr (h name1 (mem_columns_iff.mp hmem))
      · rw [if_pos hne]
        exact returns_ok false

/-! ## §3. Classes. -/

/-- When two classes can be compared: the second one has every public method of the first,
and the empty name, whose padding is not skipped, is not a method of the second one only. -/
def ClassComparable (class1 class2 : ClassIntfSpec) : Prop :=
  (∀ name ∈ publicNames class1.funcList, name ∈ class2.funcList.keys) ∧
    ("" ∈ class2.funcList.keys → "" ∈ class1.funcList.keys)

instance (class1 class2 : ClassIntfSpec) : Decidable (ClassComparable class1 class2) :=
  inferInstanceAs (Decidable (_ ∧ _))

/-- The names that are public. -/
theorem mem_publicNames {α : Type} {d : Dict α} {name : String} :
    name ∈ publicNames d ↔ name ∈ d.keys ∧ startswith name "_" = false := by
  rw [publicNames_eq, List.mem_filter]
  simp [isPublic]

/-- Padding is skipped, unless it is empty. -/
theorem startswith_underscores (name : String) :
    startswith (underscores name) "_" = false ↔ name = "" := by
  have hlist : (underscores name).toList = List.replicate name.length '_' :=
    String.toList_ofList
  unfold startswith
  rw [hlist]
  cases hlength : name.length with
  | zero => exact iff_of_true rfl (String.length_eq_zero_iff.mp hlength)
  | succ n =>
      refine iff_of_false (by simp [List.replicate_succ]) ?_
      rintro rfl
      cases hlength

/-- The empty name is padded with nothing. -/
theorem underscores_empty : underscores "" = "" := rfl

/-- What the loop of `compare_class_spec` looks up in the padded column. -/
theorem mem_column_iff {names1 names2 : List String} {name : String} :
    (name ∈ (buildDiffListResult names1 names2).1 ∧ startswith name "_" = false) ↔
      name ∈ names1 ∧ startswith name "_" = false ∨ name = "" ∧ "" ∈ names2 := by
  have hfst := filterMap_fst?_alignment names1 names2
  have hsnd := filterMap_snd?_alignment names1 names2
  rw [buildDiffListResult_eq]
  generalize alignment names1 names2 = rows at hfst hsnd ⊢
  have hfst_mem (n : String) : n ∈ names1 ↔ ∃ row ∈ rows, row.fst? = some n := by
    rw [← hfst, List.mem_filterMap]
  have hsnd_mem (n : String) : n ∈ names2 ↔ ∃ row ∈ rows, row.snd? = some n := by
    rw [← hsnd, List.mem_filterMap]
  constructor
  · intro ⟨hmem, hpublic⟩
    obtain ⟨row, hrow, rfl⟩ := List.mem_map.mp hmem
    cases row with
    | both n => exact .inl ⟨(hfst_mem n).mpr ⟨_, hrow, rfl⟩, hpublic⟩
    | left n => exact .inl ⟨(hfst_mem n).mpr ⟨_, hrow, rfl⟩, hpublic⟩
    | right n =>
        obtain rfl : n = "" := (startswith_underscores n).mp hpublic
        exact .inr ⟨rfl, (hsnd_mem "").mpr ⟨_, hrow, rfl⟩⟩
  · intro h
    rcases h with ⟨hmem, hpublic⟩ | ⟨rfl, hmem⟩
    · obtain ⟨row, hrow, hname⟩ := (hfst_mem name).mp hmem
      refine ⟨List.mem_map.mpr ⟨row, hrow, ?_⟩, hpublic⟩
      rcases Row.fst?_eq_some.mp hname with rfl | rfl <;> rfl
    · obtain ⟨row, hrow, hname⟩ := (hsnd_mem "").mp hmem
      refine ⟨List.mem_map.mpr ⟨row, hrow, ?_⟩, by decide⟩
      rcases Row.snd?_eq_some.mp hname with rfl | rfl
      · rfl
      · exact underscores_empty

/-- The empty name is public. -/
theorem empty_mem_publicNames {α : Type} {d : Dict α} : "" ∈ publicNames d ↔ "" ∈ d.keys := by
  rw [mem_publicNames]
  exact and_iff_left (by decide)

/-- What a turn of the loop of `compare_class_spec` needs. -/
theorem returns_check {class1 class2 : ClassIntfSpec} {name : String} :
    Returns (if startswith name "_" then .ok true
      else compareItems (fun func1 func2 => .ok (compareFuncSpec func1 func2))
        class1.funcList class2.funcList name name) ↔
      (startswith name "_" = false →
        name ∈ class1.funcList.keys ∧ name ∈ class2.funcList.keys) := by
  cases startswith name "_" with
  | true => exact iff_of_true (returns_ok true) (by simp)
  | false =>
      rw [if_neg Bool.false_ne_true, returns_compareItems_ok]
      simp

/-- The comparison of classes returns if their methods can be compared. -/
theorem returns_compareClassSpec {class1 class2 : ClassIntfSpec} :
    Returns (compareClassSpec class1 class2) ↔ ClassComparable class1 class2 := by
  unfold compareClassSpec ClassComparable
  by_cases hnames : sorted (publicNames class1.funcList) = sorted (publicNames class2.funcList)
  · -- The same names: everything that is looked up is there, and the condition holds.
    have hmem (name : String) :
        name ∈ publicNames class1.funcList ↔ name ∈ publicNames class2.funcList :=
      (sorted_eq_sorted_iff.mp hnames).mem_iff
    rw [if_neg (by simpa using hnames), returns_checkEach]
    refine iff_of_true (fun name hname => returns_check.mpr fun _ => ?_)
      ⟨fun name hname => ?_, fun hempty => ?_⟩
    · rw [mem_sorted] at hname
      exact ⟨(mem_publicNames.mp hname).1, (mem_publicNames.mp ((hmem name).mp hname)).1⟩
    · exact (mem_publicNames.mp ((hmem name).mp hname)).1
    · exact empty_mem_publicNames.mp ((hmem "").mpr (empty_mem_publicNames.mpr hempty))
  · rw [if_pos hnames, returns_checkEach]
    simp only [returns_check]
    have hlooked (name : String) :
        (name ∈ (buildDiffListResult (sorted (publicNames class1.funcList))
            (sorted (publicNames class2.funcList))).1 ∧ startswith name "_" = false) ↔
          name ∈ publicNames class1.funcList ∧ startswith name "_" = false ∨
            name = "" ∧ "" ∈ publicNames class2.funcList := by
      rw [mem_column_iff, mem_sorted, mem_sorted]
    constructor
    · intro h
      refine ⟨fun name hname => ?_, fun hempty => ?_⟩
      · obtain ⟨hcolumn, hpublic⟩ :=
          (hlooked name).mpr (.inl ⟨hname, (mem_publicNames.mp hname).2⟩)
        exact (h name hcolumn hpublic).2
      · obtain ⟨hcolumn, hpublic⟩ :=
          (hlooked "").mpr (.inr ⟨rfl, empty_mem_publicNames.mpr hempty⟩)
        exact (h "" hcolumn hpublic).1
    · intro ⟨hkeys, hempty⟩ name hcolumn hpublic
      rcases (hlooked name).mp ⟨hcolumn, hpublic⟩ with ⟨hname, _⟩ | ⟨rfl, hname⟩
      · exact ⟨(mem_publicNames.mp hname).1, hkeys name hname⟩
      · have hkey := empty_mem_publicNames.mp hname
        exact ⟨hempty hkey, hkey⟩

/-! ## §4. Files. -/

/-- The global variables can be compared: each trimmed name that is looked up is a name. -/
def GlobalVarsComparable (spec1 spec2 : FileSpec) : Prop :=
  ∀ name, LookedUp (spec1.globalVarSpec.keys.map strip) (spec2.globalVarSpec.keys.map strip)
    name → name ∈ spec1.globalVarSpec.keys ∧ name ∈ spec2.globalVarSpec.keys

/-- The functions can be compared: the empty name is one of both or of neither. -/
def FuncsComparable (spec1 spec2 : FileSpec) : Prop :=
  "" ∈ spec1.funcSpecs.keys ↔ "" ∈ spec2.funcSpecs.keys

/-- The classes can be compared: if the files have the same trimmed names, each of them is the
name of a class of both, and the two can be compared. -/
def ClassesComparable (spec1 spec2 : FileSpec) : Prop :=
  (spec1.classSpecs.keys.map strip).Perm (spec2.classSpecs.keys.map strip) →
    ∀ name ∈ spec1.classSpecs.keys.map strip,
      ∃ class1 class2, spec1.classSpecs.get? name = some class1 ∧
        spec2.classSpecs.get? name = some class2 ∧ ClassComparable class1 class2

/-- When two files can be compared. -/
def FileComparable (spec1 spec2 : FileSpec) : Prop :=
  GlobalVarsComparable spec1 spec2 ∧ FuncsComparable spec1 spec2 ∧ ClassesComparable spec1 spec2

/-- That of global variables, too. -/
theorem returns_compareGlobalVar {matched : Bool} {spec1 spec2 : FileSpec} :
    Returns (compareGlobalVar matched spec1 spec2) ↔ GlobalVarsComparable spec1 spec2 :=
  returns_compareNames

/-- Of the public names only the empty one consists of underscores. -/
theorem isPadding_public {name : String} (h : startswith name "_" = false) :
    isPadding name = true ↔ name = "" := by
  constructor
  · intro hpadding
    rw [← underscores_eq_self.mpr hpadding] at h
    exact (startswith_underscores name).mp h
  · rintro rfl
    rfl

/-- `compare_func` returns exactly if the functions of the two files can be compared. -/
theorem returns_compareFunc {matched : Bool} {spec1 spec2 : FileSpec} :
    Returns (compareFunc matched spec1 spec2) ↔ FuncsComparable spec1 spec2 := by
  unfold compareFunc FuncsComparable
  rw [returns_compareNames]
  constructor
  · intro h
    have hlooked (hmem : "" ∈ publicNames spec1.funcSpecs ∨ "" ∈ publicNames spec2.funcSpecs) :=
      h "" (.inl ⟨rfl, hmem⟩)
    rw [empty_mem_publicNames, empty_mem_publicNames] at hlooked
    exact ⟨fun hmem => (hlooked (.inl hmem)).2, fun hmem => (hlooked (.inr hmem)).1⟩
  · intro h name hname
    rcases hname with ⟨hpadding, hmem⟩ | ⟨hmem1, hmem2, _⟩
    · have hpublic : startswith name "_" = false :=
        hmem.elim (fun hmem => (mem_publicNames.mp hmem).2) fun hmem => (mem_publicNames.mp hmem).2
      obtain rfl := (isPadding_public hpublic).mp hpadding
      rw [empty_mem_publicNames, empty_mem_publicNames, ← h, or_self] at hmem
      exact ⟨hmem, h.mp hmem⟩
    · exact ⟨(mem_publicNames.mp hmem1).1, (mem_publicNames.mp hmem2).1⟩

/-- `compare_class` returns exactly if the classes of the two files can be compared. -/
theorem returns_compareClass {matched : Bool} {spec1 spec2 : FileSpec} :
    Returns (compareClass matched spec1 spec2) ↔ ClassesComparable spec1 spec2 := by
  unfold compareClass ClassesComparable
  rw [← sorted_eq_sorted_iff]
  by_cases hnil : spec1.classSpecs.keys = []
  · rw [hnil]
    refine iff_of_true ?_ (fun _ => List.forall_mem_nil _)
    cases sorted (spec2.classSpecs.keys.map strip) with
    | nil => exact returns_ok matched
    | cons name rest => exact returns_ok _
  · generalize hnames1 : sorted (spec1.classSpecs.keys.map strip) = names1
    have hcons : names1 ≠ [] := by
      rw [← hnames1, Ne, sorted_eq_nil_iff, List.map_eq_nil_iff]
      exact hnil
    match names1, hcons with
    | name :: rest, _ =>
        show Returns (if name :: rest ≠ sorted (spec2.classSpecs.keys.map strip) then
          Except.ok false else checkEach _ matched (name :: rest)) ↔ _
        rw [← hnames1]
        by_cases hsame :
            sorted (spec1.classSpecs.keys.map strip) = sorted (spec2.classSpecs.keys.map strip)
        · rw [if_neg (by simpa using hsame), returns_checkEach, forall_prop_of_true hsame]
          simp only [mem_sorted, returns_compareItems, returns_compareClassSpec]
        · rw [if_pos hsame]
          exact iff_of_true (returns_ok false) fun h => absurd h hsame

/-- `compare_file_spec` returns exactly if everything in the two files can be compared. -/
theorem returns_compareFileSpec {spec1 spec2 : FileSpec} :
    Returns (compareFileSpec spec1 spec2) ↔ FileComparable spec1 spec2 := by
  unfold compareFileSpec FileComparable
  constructor
  · intro ⟨b, h⟩
    obtain ⟨m, hglobals, h⟩ := bind_eq_ok.mp h
    obtain ⟨m', hfuncs, hclasses⟩ := bind_eq_ok.mp h
    exact ⟨returns_compareGlobalVar.mp ⟨m, hglobals⟩, returns_compareFunc.mp ⟨m', hfuncs⟩,
      returns_compareClass.mp ⟨b, hclasses⟩⟩
  · intro ⟨hglobals, hfuncs, hclasses⟩
    obtain ⟨m, hm⟩ := returns_compareGlobalVar.mpr hglobals
    obtain ⟨m', hm'⟩ := returns_compareFunc.mpr hfuncs
    obtain ⟨b, hb⟩ := returns_compareClass.mpr hclasses
    exact ⟨b, bind_eq_ok.mpr ⟨m, hm, bind_eq_ok.mpr ⟨m', hm', hb⟩⟩⟩

/-! ## §5. What the comparisons return. -/

/-- The two dictionaries have the same public names. -/
def SamePublic (d1 d2 : Dict FuncIntfSpec) : Prop :=
  ∀ name, name ∈ publicNames d1 ↔ name ∈ publicNames d2

/-- The same functions have the same public names. -/
theorem SameFuncs.samePublic {d1 d2 : Dict FuncIntfSpec} (h : SameFuncs d1 d2) :
    SamePublic d1 d2 := by
  intro name
  rw [publicNames_eq, publicNames_eq, List.mem_filter, List.mem_filter]
  exact and_congr_left fun hpublic => h.mem_keys hpublic

/-- A comparison returns a boolean, and `False` if the public names differ. -/
def ReturnsFalseIfDifferent (result : Except PyError Bool) (d1 d2 : Dict FuncIntfSpec) : Prop :=
  ∃ b, result = .ok b ∧ (¬ SamePublic d1 d2 → b = false)

/-- A comparison that accepts the same public names only has nothing to do but return. -/
theorem returnsFalseIfDifferent_iff {result : Except PyError Bool} {d1 d2 : Dict FuncIntfSpec}
    (h : result = .ok true → SameFuncs d1 d2) :
    ReturnsFalseIfDifferent result d1 d2 ↔ Returns result := by
  constructor
  · intro ⟨b, hb, _⟩
    exact ⟨b, hb⟩
  · intro ⟨b, hb⟩
    refine ⟨b, hb, fun hdiffer => ?_⟩
    cases b with
    | false => rfl
    | true => exact absurd (h hb).samePublic hdiffer

/-- **When two classes, and two files, are compared without an exception**, and with `False`
if the public names differ. -/
theorem compare_returns_false_iff (class1 class2 : ClassIntfSpec) (spec1 spec2 : FileSpec) :
    (ReturnsFalseIfDifferent (compareClassSpec class1 class2) class1.funcList class2.funcList ↔
        ClassComparable class1 class2) ∧
      (ReturnsFalseIfDifferent (compareFileSpec spec1 spec2) spec1.funcSpecs spec2.funcSpecs ↔
        FileComparable spec1 spec2) := by
  constructor
  · rw [returnsFalseIfDifferent_iff fun h => compareClassSpec_eq_true.mp h]
    exact returns_compareClassSpec
  · rw [returnsFalseIfDifferent_iff fun h => (compareFileSpec_eq_true.mp h).2.1]
    exact returns_compareFileSpec

/-- The class `Op` with one method. -/
def oneMethod (funcName : String) : ClassIntfSpec where
  className := "Op"
  superClasses := []
  funcList := Dict.empty.set funcName
    { funcName, paramList := ["self"], stripped := by decide +kernel }

/-- A public method of the first class only is looked up in the second one. -/
theorem extra_method_raises :
    compareClassSpec (oneMethod "run") (oneMethod "infer") = .error (.keyError "run") ∧
      ¬ ReturnsFalseIfDifferent (compareClassSpec (oneMethod "run") (oneMethod "infer"))
        (oneMethod "run").funcList (oneMethod "infer").funcList := by
  have hraises :
      compareClassSpec (oneMethod "run") (oneMethod "infer") = .error (.keyError "run") := by
    have hnames1 : sorted (publicNames (oneMethod "run").funcList) = ["run"] := by
      decide +kernel
    have hnames2 : sorted (publicNames (oneMethod "infer").funcList) = ["infer"] := by
      decide +kernel
    have hdiff : (buildDiffListResult ["run"] ["infer"]).1 = ["run", "_____"] := by
      rw [buildDiffListResult, buildDiffList, if_neg (by decide), if_neg (by decide),
        if_neg (by decide), buildDiffList]
      decide +kernel
    unfold compareClassSpec
    rw [hnames1, hnames2, if_pos (by decide), hdiff]
    rfl
  refine ⟨hraises, ?_⟩
  rintro ⟨b, hb, _⟩
  rw [hraises] at hb
  cases hb

end HwEfat.AutoSchedule.InterfaceCheck
