/-
  HwEfat.AutoSchedule.InterfaceCheck.Soundness — whether `compare_file_spec` returns `True` for
  exactly the files with the same interface.

  A pair of files for which it does is one where files that look the same hide nothing, and
  files that are the same trim to names that are found (`compareFileSpec_iff_sameInterface`).
  A value whose characters are rearranged passes (`anagram_passes`).
-/
import HwEfat.AutoSchedule.InterfaceCheck.Compare

namespace HwEfat.AutoSchedule.InterfaceCheck

open HwEfat.Lib

/-! ## §1. The same interface. -/

/-- A class is public under its trimmed name. -/
def isPublicClass (className : String) : Bool := isPublic (strip className)

/-- The same value. -/
def SameValue (spec1 spec2 : GlobalVarSpec) : Prop :=
  spec1.globalVarValues = spec2.globalVarValues

/-- The two files have the same public functions with the same parameters, the same public
classes with the same public methods, and the same global variables with the same values. -/
structure SameInterface (spec1 spec2 : FileSpec) : Prop where
  funcs : SameFuncs spec1.funcSpecs spec2.funcSpecs
  classes : Dict.Agree isPublicClass SameMethods spec1.classSpecs spec2.classSpecs
  globals : Dict.Agree (fun _ => true) SameValue spec1.globalVarSpec spec2.globalVarSpec

/-! ## §2. What the comparison looks at. -/

/-- What the comparison looks at is the same in both files. -/
structure LooksSame (spec1 spec2 : FileSpec) : Prop where
  globals : TrimmedAgree SameChars spec1.globalVarSpec spec2.globalVarSpec
  funcs : SameFuncs spec1.funcSpecs spec2.funcSpecs
  classes : ClassesPass spec1 spec2

/-- The comparison accepts exactly the files that look the same. -/
theorem compareFileSpec_iff_looksSame {spec1 spec2 : FileSpec} :
    compareFileSpec spec1 spec2 = .ok true ↔ LooksSame spec1 spec2 := by
  rw [compareFileSpec_eq_true]
  constructor
  · intro ⟨hglobals, hfuncs, hclasses⟩
    exact ⟨hglobals, hfuncs, hclasses⟩
  · intro h
    exact ⟨h.globals, h.funcs, h.classes⟩

/-- The two files do not differ where the comparison does not look: in the order or the
white space of a value, in a name that is not trimmed, in the classes of the second file
if the first has none. -/
structure NothingHidden (spec1 spec2 : FileSpec) : Prop where
  values : ∀ name var1 var2, spec1.globalVarSpec.get? name = some var1 →
    spec2.globalVarSpec.get? name = some var2 → SameValue var1 var2
  globalNames : ∀ name, strip name ≠ name →
    (name ∈ spec1.globalVarSpec.keys ↔ name ∈ spec2.globalVarSpec.keys)
  classNames : ∀ name, strip name ≠ name → isPublicClass name →
    Option.Rel SameMethods (spec1.classSpecs.get? name) (spec2.classSpecs.get? name)
  noClasses : spec1.classSpecs.keys = [] →
    ∀ name ∈ spec2.classSpecs.keys, isPublicClass name = false

/-- The comparison finds each global variable under its trimmed name, and has nothing to
object to private classes. -/
structure NothingTrimmed (spec1 spec2 : FileSpec) : Prop where
  globalNames : ∀ name ∈ spec1.globalVarSpec.keys, strip name ∈ spec1.globalVarSpec.keys
  classes : ClassesPass spec1 spec2

section

variable {spec1 spec2 : FileSpec}

/-- Files with the same interface do not differ where the comparison does not look. -/
theorem SameInterface.nothingHidden (h : SameInterface spec1 spec2) :
    NothingHidden spec1 spec2 where
  values := by
    intro name var1 var2 h1 h2
    have hrel := h.globals name rfl
    rw [h1, h2] at hrel
    cases hrel with
    | some hsame => exact hsame
  globalNames := fun _ _ => h.globals.mem_keys rfl
  classNames := fun name _ hpublic => h.classes name hpublic
  noClasses := by
    intro hnil name hmem
    apply Bool.eq_false_iff.mpr
    intro hpublic
    have hmem' := (h.classes.mem_keys hpublic).mpr hmem
    rw [hnil] at hmem'
    cases hmem'

/-- A trimmed name that one of two files has under which they look the same is a name of
both. -/
theorem TrimmedAgree.get? {α : Type} {R : α → α → Prop} {d1 d2 : Dict α}
    (h : TrimmedAgree R d1 d2) {name : String} (htrim : strip name = name)
    (hmem : name ∈ d1.keys ∨ name ∈ d2.keys) :
    ∃ a b, d1.get? name = some a ∧ d2.get? name = some b ∧ R a b := by
  apply h.2
  cases hmem with
  | inl h1 => exact List.mem_map.mpr ⟨name, h1, htrim⟩
  | inr h2 => exact h.1.mem_iff.mpr (List.mem_map.mpr ⟨name, h2, htrim⟩)

/-- Files that look the same have the same interface if nothing is hidden. -/
theorem LooksSame.sameInterface (h : LooksSame spec1 spec2)
    (hhidden : NothingHidden spec1 spec2) : SameInterface spec1 spec2 where
  funcs := h.funcs
  classes := by
    intro name hpublic
    by_cases htrim : strip name = name
    · apply Dict.rel_of_mem
      intro hmem
      have hpass := h.classes
      unfold ClassesPass at hpass
      by_cases hnil : spec1.classSpecs.keys = []
      · -- Then the name is one of the second file, which has no public one.
        rw [hnil, List.mem_nil_iff, false_or] at hmem
        rw [hhidden.noClasses hnil name hmem] at hpublic
        exact absurd hpublic Bool.false_ne_true
      · rw [if_neg hnil] at hpass
        exact hpass.get? htrim hmem
    · exact hhidden.classNames name htrim hpublic
  globals := by
    intro name _
    apply Dict.rel_of_mem
    intro hmem
    obtain ⟨var1, var2, h1, h2⟩ : ∃ var1 var2,
        spec1.globalVarSpec.get? name = some var1 ∧ spec2.globalVarSpec.get? name = some var2 := by
      by_cases htrim : strip name = name
      · obtain ⟨var1, var2, h1, h2, -⟩ := h.globals.get? htrim hmem
        exact ⟨var1, var2, h1, h2⟩
      · have hiff := hhidden.globalNames name htrim
        obtain ⟨var1, h1⟩ := Dict.mem_keys_iff.mp (hmem.elim id hiff.mpr)
        obtain ⟨var2, h2⟩ := Dict.mem_keys_iff.mp (hmem.elim hiff.mp id)
        exact ⟨var1, var2, h1, h2⟩
    exact ⟨var1, var2, h1, h2, hhidden.values name var1 var2 h1 h2⟩

/-- Files with the same interface look the same if the comparison finds what it looks up. -/
theorem SameInterface.looksSame (h : SameInterface spec1 spec2)
    (htrimmed : NothingTrimmed spec1 spec2) : LooksSame spec1 spec2 where
  funcs := h.funcs
  classes := htrimmed.classes
  globals := by
    have hglobals := Dict.agree_iff.mp h.globals
    simp only [List.filter_true] at hglobals
    constructor
    · exact hglobals.1.map strip
    · intro name hname
      obtain ⟨raw, hraw, rfl⟩ := List.mem_map.mp hname
      obtain ⟨var1, var2, h1, h2, hvalue⟩ :=
        hglobals.2 (strip raw) (htrimmed.globalNames raw hraw)
      refine ⟨var1, var2, h1, h2, ?_⟩
      show (strippedChars _).Perm (strippedChars _)
      rw [show var1.globalVarValues = var2.globalVarValues from hvalue]

/-- Of a file that looks the same as another, the comparison has found all names. -/
theorem LooksSame.nothingTrimmed (h : LooksSame spec1 spec2) : NothingTrimmed spec1 spec2 where
  globalNames := by
    intro name hmem
    obtain ⟨var1, -, h1, -⟩ := h.globals.2 (strip name) (List.mem_map_of_mem hmem)
    exact Dict.mem_keys_iff.mpr ⟨var1, h1⟩
  classes := h.classes

/-- **`compare_file_spec` returns `True` for exactly the files with the same interface** as
far as nothing is hidden from it in files that look the same, and nothing is trimmed away in
files that are the same. -/
theorem compareFileSpec_iff_sameInterface (spec1 spec2 : FileSpec) :
    ((compareFileSpec spec1 spec2 = .ok true → SameInterface spec1 spec2) ∧
      (SameInterface spec1 spec2 → compareFileSpec spec1 spec2 = .ok true)) ↔
    (LooksSame spec1 spec2 → NothingHidden spec1 spec2) ∧
      (SameInterface spec1 spec2 → NothingTrimmed spec1 spec2) := by
  rw [compareFileSpec_iff_looksSame]
  constructor
  · intro ⟨hsound, hcomplete⟩
    exact ⟨fun h => (hsound h).nothingHidden, fun h => (hcomplete h).nothingTrimmed⟩
  · intro ⟨hhidden, htrimmed⟩
    exact ⟨fun h => h.sameInterface (hhidden h), fun h => h.looksSame (htrimmed h)⟩

end

/-! ## §3. A value with its characters rearranged. -/

/-- `AXIS = 12` in one file and `AXIS = 21` in the other compare as the same. -/
theorem anagram_passes :
    ∃ spec1 spec2,
      buildFileSpec Char.isUpper Char.isLower ["AXIS = 12"] (.new "a.pyh" "a.py") = .ok spec1 ∧
      buildFileSpec Char.isUpper Char.isLower ["AXIS = 21"] (.new "" "a.py") = .ok spec2 ∧
      ¬ (compareFileSpec spec1 spec2 = .ok true → SameInterface spec1 spec2) := by
  let value (spec : FileSpec) : Option String :=
    (spec.globalVarSpec.get? "AXIS").map (·.globalVarValues)
  obtain ⟨spec1, h1, htest1⟩ := exists_eq_ok
    (x := buildFileSpec Char.isUpper Char.isLower ["AXIS = 12"] (.new "a.pyh" "a.py"))
    (p := fun spec1 => value spec1 == some "12" &&
      (buildFileSpec Char.isUpper Char.isLower ["AXIS = 21"] (.new "" "a.py")).toOption.any
        fun spec2 => value spec2 == some "21" && (compareFileSpec spec1 spec2).toOption == some true)
    (by decide +kernel)
  rw [Bool.and_eq_true, beq_iff_eq] at htest1
  obtain ⟨spec2, h2, htest2⟩ := exists_eq_ok htest1.2
  rw [Bool.and_eq_true, beq_iff_eq, beq_iff_eq, toOption_eq_some] at htest2
  refine ⟨spec1, spec2, h1, h2, fun hsound => ?_⟩
  -- The names are the same, the values are not.
  have hrel := (hsound htest2.2).globals "AXIS" rfl
  obtain ⟨var1, hvar1, hvalue1⟩ := Option.map_eq_some_iff.mp htest1.1
  obtain ⟨var2, hvar2, hvalue2⟩ := Option.map_eq_some_iff.mp htest2.1
  rw [hvar1, hvar2] at hrel
  cases hrel with
  | some hsame =>
      have hsame : var1.globalVarValues = var2.globalVarValues := hsame
      rw [hvalue1, hvalue2] at hsame
      exact absurd hsame (by decide)

end HwEfat.AutoSchedule.InterfaceCheck
