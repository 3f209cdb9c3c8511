/-
  HwEfat.AutoSchedule.InterfaceCheck.Compare — `compare_file_spec` and the comparisons it
  calls, and when each of them returns `True`.

  Functions are compared under their names, classes and global variables under the trimmed
  names, and the value of a variable as the list of its characters.
-/
import HwEfat.AutoSchedule.InterfaceCheck.Def

namespace HwEfat.AutoSchedule.InterfaceCheck

open HwEfat.Lib

/-! ## §1. The comparisons. -/

/-- `compare_func_spec` -/
def compareFuncSpec (spec1 spec2 : FuncIntfSpec) : Bool :=
  let params1 := sorted (spec1.paramList.map strip)
  let params2 := sorted (spec2.paramList.map strip)
  params1 == params2

/-- `"_" * len(name)` -/
def underscores (name : String) : String := String.ofList (List.replicate name.length '_')

/-- The loop of `build_diff_list_result`, on what is left of the two lists. -/
def buildDiffList (funcNames1 funcNames2 : List String) :
    List String → List String → List String × List String
  | name1 :: rest1, name2 :: rest2 =>
      if name1 = name2 then
        let diff := buildDiffList funcNames1 funcNames2 rest1 rest2
        (name1 :: diff.1, name2 :: diff.2)
      else if name1 ∈ funcNames2 then
        let diff := buildDiffList funcNames1 funcNames2 (name1 :: rest1) rest2
        (underscores name2 :: diff.1, name2 :: diff.2)
      else if name2 ∈ funcNames1 then
        let diff := buildDiffList funcNames1 funcNames2 rest1 (name2 :: rest2)
        (name1 :: diff.1, underscores name1 :: diff.2)
      else
        let diff := buildDiffList funcNames1 funcNames2 rest1 rest2
        (name1 :: underscores name2 :: diff.1, underscores name1 :: name2 :: diff.2)
  | [], rest2 => (rest2.map underscores, rest2)
  | rest1, [] => (rest1, rest1.map underscores)
  termination_by rest1 rest2 => rest1.length + rest2.length

/-- `build_diff_list_result` -/
def buildDiffListResult (funcNames1 funcNames2 : List String) : List String × List String :=
  buildDiffList funcNames1 funcNames2 funcNames1 funcNames2

/-- `for x in l: if not check(x): compare_matched = False` -/
def checkEach {α : Type} (check : α → Except PyError Bool) (compareMatched : Bool)
    (l : List α) : Except PyError Bool :=
  l.foldlM (fun matched x => do return matched && (← check x)) compareMatched

/-- `compare(d1[name1], d2[name2])` -/
def compareItems {α : Type} (compare : α → α → Except PyError Bool) (d1 d2 : Dict α)
    (name1 name2 : String) : Except PyError Bool := do
  let a ← d1.getItem name1
  let b ← d2.getItem name2
  compare a b

/-- The names of a dictionary that do not start with `_`. -/
def publicNames {α : Type} (d : Dict α) : List String :=
  d.keys.filter fun name => !startswith name "__" && !startswith name "_"

/-- `compare_class_spec` -/
def compareClassSpec (spec1 spec2 : ClassIntfSpec) : Except PyError Bool :=
  let funcNames1 := sorted (publicNames spec1.funcList)
  let funcNames2 := sorted (publicNames spec2.funcList)
  let check (funcName : String) : Except PyError Bool :=
    if startswith funcName "_" then .ok true
    else
      compareItems (fun func1 func2 => .ok (compareFuncSpec func1 func2))
        spec1.funcList spec2.funcList funcName funcName
  if funcNames1 ≠ funcNames2 then
    checkEach check false (buildDiffListResult funcNames1 funcNames2).1
  else checkEach check true funcNames1

/-- `[x.strip() for x in values]` on a string: its characters. -/
def strippedChars (values : String) : List String :=
  values.toList.map fun c => strip (String.ofList [c])

/-- `compare_global_var_spec` -/
def compareGlobalVarSpec (spec1 spec2 : GlobalVarSpec) : Bool :=
  let values1 := sorted (strippedChars spec1.globalVarValues)
  let values2 := sorted (strippedChars spec2.globalVarValues)
  values1 == values2

/-- The loop over two sorted lists of names, which are padded if they differ. -/
def compareNames {α : Type} (compare : α → α → Bool) (names1 names2 : List String)
    (d1 d2 : Dict α) (compareMatched : Bool) : Except PyError Bool :=
  let check (names : String × String) : Except PyError Bool :=
    if names.1 ≠ names.2 then .ok false
    else compareItems (fun a b => .ok (compare a b)) d1 d2 names.1 names.2
  if names1 ≠ names2 then
    let diff := buildDiffListResult names1 names2
    checkEach check false (diff.1.zip diff.2)
  else checkEach check compareMatched (names1.zip names2)

/-- `_compare_global_var` -/
def compareGlobalVar (compareMatched : Bool) (spec1 spec2 : FileSpec) : Except PyError Bool :=
  compareNames compareGlobalVarSpec
    (sorted (spec1.globalVarSpec.keys.map strip)) (sorted (spec2.globalVarSpec.keys.map strip))
    spec1.globalVarSpec spec2.globalVarSpec compareMatched

/-- `_compare_func` -/
def compareFunc (compareMatched : Bool) (spec1 spec2 : FileSpec) : Except PyError Bool :=
  compareNames compareFuncSpec
    (sorted (publicNames spec1.funcSpecs)) (sorted (publicNames spec2.funcSpecs))
    spec1.funcSpecs spec2.funcSpecs compareMatched

/-- `_compare_class` -/
def compareClass (compareMatched : Bool) (spec1 spec2 : FileSpec) : Except PyError Bool :=
  let className1 := sorted (spec1.classSpecs.keys.map strip)
  let className2 := sorted (spec2.classSpecs.keys.map strip)
  let check (className : String) : Except PyError Bool :=
    compareItems compareClassSpec spec1.classSpecs spec2.classSpecs className className
  match className1, className2 with
  -- The loop over the second file's names returns at the first of them.
  | [], name :: _ => .ok (if startswith name "_" then compareMatched else false)
  | _, _ =>
      if className1 ≠ className2 then .ok false
      else checkEach check compareMatched className1

/-- `compare_file_spec` -/
def compareFileSpec (spec1 spec2 : FileSpec) : Except PyError Bool := do
  let compareMatched ← compareGlobalVar true spec1 spec2
  let compareMatched ← compareFunc compareMatched spec1 spec2
  compareClass compareMatched spec1 spec2

/-! ## §2. When a loop finds no difference. -/

/-- All checks pass. -/
theorem checkEach_eq_true {α : Type} {check : α → Except PyError Bool} {matched : Bool}
    {l : List α} :
    checkEach check matched l = .ok true ↔ matched = true ∧ ∀ x ∈ l, check x = .ok true := by
  unfold checkEach
  induction l generalizing matched with
  | nil =>
      show Except.ok matched = Except.ok true ↔ _
      simp
  | cons x l ih =>
      rw [List.foldlM_cons, bind_eq_ok]
      have hhead : ∀ m, (do return matched && (← check x)) = Except.ok (ε := PyError) m ↔
          ∃ b, check x = .ok b ∧ (matched && b) = m := by
        intro m
        rw [bind_eq_ok]
        simp only [pure, Except.pure, Except.ok.injEq]
      simp only [hhead, ih, List.forall_mem_cons]
      constructor
      · intro ⟨m, ⟨b, hb, hm⟩, hmatched, hl⟩
        rw [hmatched, Bool.and_eq_true] at hm
        exact ⟨hm.1, hm.2 ▸ hb, hl⟩
      · intro ⟨hmatched, hx, hl⟩
        exact ⟨true, ⟨true, hx, by rw [hmatched]; rfl⟩, rfl, hl⟩

/-- Both items are there, and the same. -/
theorem compareItems_eq_true {α : Type} {compare : α → α → Except PyError Bool} {d1 d2 : Dict α}
    {name1 name2 : String} :
    compareItems compare d1 d2 name1 name2 = .ok true ↔
      ∃ a b, d1.get? name1 = some a ∧ d2.get? name2 = some b ∧ compare a b = .ok true := by
  unfold compareItems
  constructor
  · intro h
    obtain ⟨a, ha, h⟩ := bind_eq_ok.mp h
    obtain ⟨b, hb, h⟩ := bind_eq_ok.mp h
    exact ⟨a, b, Dict.getItem_eq_ok.mp ha, Dict.getItem_eq_ok.mp hb, h⟩
  · intro ⟨a, b, ha, hb, h⟩
    exact bind_eq_ok.mpr ⟨a, Dict.getItem_eq_ok.mpr ha,
      bind_eq_ok.mpr ⟨b, Dict.getItem_eq_ok.mpr hb, h⟩⟩

/-- A padded comparison never succeeds, so nothing depends on how the lists are padded. -/
theorem compareNames_eq_true {α : Type} {compare : α → α → Bool} {names1 names2 : List String}
    {d1 d2 : Dict α} {matched : Bool} :
    compareNames compare (sorted names1) (sorted names2) d1 d2 matched = .ok true ↔
      matched = true ∧ names1.Perm names2 ∧
        ∀ name ∈ names1, ∃ a b, d1.get? name = some a ∧ d2.get? name = some b ∧
          compare a b = true := by
  unfold compareNames
  by_cases hnames : sorted names1 = sorted names2
  · rw [if_neg (by simpa using hnames), ← hnames, List.zip_eq_zipWith, List.zipWith_self,
      checkEach_eq_true, and_iff_right (sorted_eq_sorted_iff.mp hnames)]
    simp only [List.forall_mem_map, mem_sorted, ne_eq, not_true_eq_false, if_false,
      compareItems_eq_true, Except.ok.injEq]
  · rw [if_pos hnames, checkEach_eq_true, ← sorted_eq_sorted_iff]
    simp [hnames]

/-! ## §3. When a comparison returns `True`. -/

/-- A public name. -/
def isPublic (name : String) : Bool := !startswith name "_"

/-- The names that do not start with an underscore. -/
theorem publicNames_eq {α : Type} (d : Dict α) : publicNames d = d.keys.filter isPublic := by
  apply List.filter_congr
  intro name _
  -- A name that starts with `__` starts with `_`.
  have himp (h : startswith name "__" = true) : startswith name "_" = true :=
    List.isPrefixOf_iff_prefix.mpr
      ((by decide : "_".toList <+: "__".toList).trans (List.isPrefixOf_iff_prefix.mp h))
  show (!startswith name "__" && !startswith name "_") = !startswith name "_"
  cases hstart : startswith name "__" with
  | false => rfl
  | true => rw [himp hstart]; rfl

/-- The same parameters, with their multiplicities. -/
def SameParams (func1 func2 : FuncIntfSpec) : Prop := func1.paramList.Perm func2.paramList

/-- The same public functions with the same parameters. -/
def SameFuncs : Dict FuncIntfSpec → Dict FuncIntfSpec → Prop := Dict.Agree isPublic SameParams

/-- Functions are the same if their parameters are. -/
theorem compareFuncSpec_iff {func1 func2 : FuncIntfSpec} :
    compareFuncSpec func1 func2 = true ↔ SameParams func1 func2 := by
  have hstripped : ∀ func : FuncIntfSpec, func.paramList.map strip = func.paramList :=
    fun func => (List.map_congr_left func.stripped).trans (List.map_id _)
  show (_ == _) = true ↔ _
  rw [hstripped, hstripped, beq_iff_eq, sorted_eq_sorted_iff]
  rfl

/-- **All functions** are the same. -/
theorem compareFunc_eq_true {matched : Bool} {spec1 spec2 : FileSpec} :
    compareFunc matched spec1 spec2 = .ok true ↔
      matched = true ∧ SameFuncs spec1.funcSpecs spec2.funcSpecs := by
  unfold compareFunc SameFuncs
  rw [compareNames_eq_true, Dict.agree_iff, publicNames_eq, publicNames_eq]
  simp only [compareFuncSpec_iff]

/-- Classes are the same if their methods are. -/
theorem compareClassSpec_eq_true {class1 class2 : ClassIntfSpec} :
    compareClassSpec class1 class2 = .ok true ↔ SameFuncs class1.funcList class2.funcList := by
  unfold compareClassSpec SameFuncs
  rw [Dict.agree_iff, publicNames_eq, publicNames_eq, ← sorted_eq_sorted_iff]
  by_cases hnames :
      sorted (class1.funcList.keys.filter isPublic) = sorted (class2.funcList.keys.filter isPublic)
  · rw [if_neg (by simpa using hnames), checkEach_eq_true, and_iff_right rfl,
      and_iff_right hnames]
    simp only [mem_sorted]
    apply forall₂_congr
    intro name hname
    have hpublic : startswith name "_" = false := by
      simpa [isPublic] using (List.mem_filter.mp hname).2
    rw [hpublic, if_neg Bool.false_ne_true, compareItems_eq_true]
    simp only [Except.ok.injEq, compareFuncSpec_iff]
  · rw [if_pos hnames, checkEach_eq_true]
    simp [hnames]

/-- The same characters, with their multiplicities, where all white space is one. -/
def SameChars (spec1 spec2 : GlobalVarSpec) : Prop :=
  (strippedChars spec1.globalVarValues).Perm (strippedChars spec2.globalVarValues)

/-- Two dictionaries have the same names up to trimming, each trimmed name is a name of
both, and they hold related values there. -/
def TrimmedAgree {α : Type} (R : α → α → Prop) (d1 d2 : Dict α) : Prop :=
  (d1.keys.map strip).Perm (d2.keys.map strip) ∧
    ∀ name ∈ d1.keys.map strip, ∃ a b, d1.get? name = some a ∧ d2.get? name = some b ∧ R a b

/-- **All global variables** are the same. -/
theorem compareGlobalVar_eq_true {matched : Bool} {spec1 spec2 : FileSpec} :
    compareGlobalVar matched spec1 spec2 = .ok true ↔
      matched = true ∧ TrimmedAgree SameChars spec1.globalVarSpec spec2.globalVarSpec := by
  unfold compareGlobalVar TrimmedAgree
  rw [compareNames_eq_true]
  simp only [compareGlobalVarSpec, beq_iff_eq, sorted_eq_sorted_iff]
  rfl

/-- The same public methods with the same parameters. -/
def SameMethods (class1 class2 : ClassIntfSpec) : Prop :=
  SameFuncs class1.funcList class2.funcList

/-- What `_compare_class` accepts: in the first file a class for each class of the second
one and conversely, private or not, with the same methods; or, if the first file has no
class at all, a private name as the first in the second file. -/
def ClassesPass (spec1 spec2 : FileSpec) : Prop :=
  if spec1.classSpecs.keys = [] then
    ∀ name ∈ (sorted (spec2.classSpecs.keys.map strip)).head?, isPublic name = false
  else TrimmedAgree SameMethods spec1.classSpecs spec2.classSpecs

/-- **All classes** pass. -/
theorem compareClass_eq_true {matched : Bool} {spec1 spec2 : FileSpec} :
    compareClass matched spec1 spec2 = .ok true ↔
      matched = true ∧ ClassesPass spec1 spec2 := by
  unfold compareClass ClassesPass
  by_cases hnil : spec1.classSpecs.keys = []
  · rw [if_pos hnil, hnil]
    -- The loop over the classes of the second file returns in its first turn.
    generalize sorted (spec2.classSpecs.keys.map strip) = names2
    cases names2 with
    | nil =>
        show checkEach _ matched [] = .ok true ↔ _
        rw [checkEach_eq_true]
        simp
    | cons name rest =>
        show Except.ok (if startswith name "_" then matched else false) = .ok true ↔ _
        have hhead : (∀ n ∈ (name :: rest).head?, isPublic n = false) ↔
            startswith name "_" = true := by
          simp [isPublic]
        rw [hhead, Except.ok.injEq]
        cases startswith name "_" <;> simp
  · rw [if_neg hnil]
    generalize hnames1 : sorted (spec1.classSpecs.keys.map strip) = names1
    have hcons : names1 ≠ [] := by
      rw [← hnames1, Ne, sorted_eq_nil_iff, List.map_eq_nil_iff]
      exact hnil
    match names1, hcons with
    | name :: rest, _ =>
        show (if name :: rest ≠ sorted (spec2.classSpecs.keys.map strip) then Except.ok false
          else checkEach _ matched (name :: rest)) = .ok true ↔ _
        rw [← hnames1]
        unfold TrimmedAgree
        rw [← sorted_eq_sorted_iff]
        by_cases hsame :
            sorted (spec1.classSpecs.keys.map strip) = sorted (spec2.classSpecs.keys.map strip)
        · rw [if_neg (by simpa using hsame), checkEach_eq_true, and_iff_right hsame]
          simp only [mem_sorted, compareItems_eq_true, compareClassSpec_eq_true]
          rfl
        · rw [if_pos hsame]
          simp [hsame]

/-- **What the comparison accepts.** -/
theorem compareFileSpec_eq_true {spec1 spec2 : FileSpec} :
    compareFileSpec spec1 spec2 = .ok true ↔
      TrimmedAgree SameChars spec1.globalVarSpec spec2.globalVarSpec ∧
        SameFuncs spec1.funcSpecs spec2.funcSpecs ∧ ClassesPass spec1 spec2 := by
  constructor
  · intro h
    obtain ⟨m, hglobals, h⟩ := bind_eq_ok.mp h
    obtain ⟨m', hfuncs, hclasses⟩ := bind_eq_ok.mp h
    obtain ⟨hm', hclasses⟩ := compareClass_eq_true.mp hclasses
    obtain ⟨hm, hfuncs⟩ := compareFunc_eq_true.mp (hm' ▸ hfuncs)
    exact ⟨(compareGlobalVar_eq_true.mp (hm ▸ hglobals)).2, hfuncs, hclasses⟩
  · intro ⟨hglobals, hfuncs, hclasses⟩
    exact bind_eq_ok.mpr ⟨true, compareGlobalVar_eq_true.mpr ⟨rfl, hglobals⟩,
      bind_eq_ok.mpr ⟨true, compareFunc_eq_true.mpr ⟨rfl, hfuncs⟩,
        compareClass_eq_true.mpr ⟨rfl, hclasses⟩⟩⟩

end HwEfat.AutoSchedule.InterfaceCheck
