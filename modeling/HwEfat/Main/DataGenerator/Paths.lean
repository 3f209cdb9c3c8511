/-
  HwEfat.Main.DataGenerator.Paths — the files of different cases are different.

  A path tells the case and the index of the input or output it belongs to, if no name has
  a slash and no type an underscore; and the expected outputs are in a directory of their own.
-/
import HwEfat.Lib.Infix
import HwEfat.Main.DataGenerator.Def

namespace HwEfat.Main

open HwEfat.Lib (PyVal pathJoin append_cons_inj_last)

namespace DataGenerator

/-! ## §1. Joining paths. -/

/-- What `os.path.join` puts in front of a file name. -/
def dirPrefix (dir : String) : List Char :=
  if dir.toList.isEmpty || "/".toList.isSuffixOf dir.toList then dir.toList
  else dir.toList ++ ['/']

section Join

variable {dir file : String}

theorem toList_pathJoin (h : ¬ "/".toList.isPrefixOf file.toList = true) :
    (pathJoin dir file).toList = dirPrefix dir ++ file.toList := by
  unfold pathJoin dirPrefix
  rw [if_neg h]
  split
  · rw [String.toList_append]
  · rw [String.toList_append, String.toList_append]
    rfl

/-- A file name without a slash. -/
theorem slash_not_first (h : '/' ∉ file.toList) : ¬ "/".toList.isPrefixOf file.toList = true := by
  intro hdir
  obtain ⟨rest, hrest⟩ := List.isPrefixOf_iff_prefix.mp hdir
  exact h (hrest ▸ List.mem_append_left _ (List.mem_singleton_self '/'))

end Join

/-! ## §2. File names. -/

/-- The decimal digits of an index. -/
def digits (i : Nat) : List Char := Nat.toDigits 10 i

theorem toList_toString (i : Nat) : (toString i).toList = digits i := Nat.toList_repr

theorem digits_injective {i j : Nat} (h : digits i = digits j) : i = j := by
  have hvalue := congrArg (Nat.ofDigitChars 10 · 0) h
  unfold digits at hvalue
  simpa only [Nat.ofDigitChars_ten_toDigits] using hvalue

theorem notMem_digits {c : Char} (hc : c.isDigit = false) (i : Nat) : c ∉ digits i := by
  intro hmem
  have hdigit := Nat.isDigit_of_mem_toDigits (by decide) (by decide) hmem
  rw [hc] at hdigit
  cases hdigit

section Names

variable {name name' out : String} {i j : Nat} {α : Type} {env : DataEnv α} {dtype dtype' : PyVal}

theorem toList_inputName (name : String) (i : Nat) :
    (name ++ "_input_" ++ toString i ++ ".bin").toList
      = (name.toList ++ "_input".toList) ++ '_' :: (digits i ++ ".bin".toList) := by
  simp only [String.toList_append, toList_toString, List.append_assoc]
  rfl

theorem toList_expectName (name : String) (i : Nat) (text : String) :
    (name ++ "_expect_output_" ++ toString i ++ "_" ++ text ++ ".bin").toList
      = ((name.toList ++ "_expect_output".toList) ++ '_' :: digits i) ++
        '_' :: (text.toList ++ ".bin".toList) := by
  simp only [String.toList_append, toList_toString, List.append_assoc]
  rfl

/-- The name of a file of data has a slash only if the name of the case has one. -/
theorem slash_notMem_inputName (h : '/' ∉ name.toList) (i : Nat) :
    '/' ∉ (name ++ "_input_" ++ toString i ++ ".bin").toList := by
  rw [toList_inputName]
  have hdigits : '/' ∉ digits i := notMem_digits (by decide) i
  simp [h, hdigits]

theorem slash_not_first_expectName (h : '/' ∉ name.toList) (i : Nat) (text : String) :
    ¬ "/".toList.isPrefixOf
      (name ++ "_expect_output_" ++ toString i ++ "_" ++ text ++ ".bin").toList = true := by
  rw [toList_expectName]
  cases hname : name.toList with
  | nil => simp [List.isPrefixOf]
  | cons c cs =>
      have hc : '/' ≠ c := by
        rintro rfl
        exact h (hname ▸ List.mem_cons_self)
      simp [List.isPrefixOf, hc]

theorem underscore_notMem {l : List Char} (h : '_' ∉ l) : '_' ∉ l ++ ".bin".toList := by
  simp [h]

/-- **The path of an input tells the case and the input.** -/
theorem inputPath_inj (hname : '/' ∉ name.toList) (hname' : '/' ∉ name'.toList)
    (h : inputPath out name i = inputPath out name' j) : name = name' ∧ i = j := by
  have hlists := congrArg String.toList h
  unfold inputPath at hlists
  rw [toList_pathJoin (slash_not_first (slash_notMem_inputName hname i)),
    toList_pathJoin (slash_not_first (slash_notMem_inputName hname' j)), toList_inputName,
    toList_inputName] at hlists
  obtain ⟨hnames, hindex⟩ := append_cons_inj_last
    (underscore_notMem (notMem_digits (by decide) i))
    (underscore_notMem (notMem_digits (by decide) j)) (List.append_cancel_left hlists)
  exact ⟨String.toList_injective (List.append_cancel_right hnames),
    digits_injective (List.append_cancel_right hindex)⟩

/-- The text of the type has no underscore. -/
def PlainType (env : DataEnv α) (dtype : PyVal) : Prop := '_' ∉ (textOf env dtype).toList

/-- **The path of an expected output tells the case and the output.** -/
theorem expectPath_inj (hname : '/' ∉ name.toList) (hname' : '/' ∉ name'.toList)
    (hdtype : PlainType env dtype) (hdtype' : PlainType env dtype')
    (h : expectPath env out name i dtype = expectPath env out name' j dtype') :
    name = name' ∧ i = j := by
  have hlists := congrArg String.toList h
  unfold expectPath at hlists
  rw [toList_pathJoin (slash_not_first_expectName hname i _),
    toList_pathJoin (slash_not_first_expectName hname' j _), toList_expectName,
    toList_expectName] at hlists
  obtain ⟨hrest, _⟩ := append_cons_inj_last (underscore_notMem hdtype)
    (underscore_notMem hdtype') (List.append_cancel_left hlists)
  obtain ⟨hnames, hindex⟩ := append_cons_inj_last (notMem_digits (by decide) i)
    (notMem_digits (by decide) j) hrest
  exact ⟨String.toList_injective (List.append_cancel_right hnames), digits_injective hindex⟩

/-- **The expected outputs are apart from the inputs.** -/
theorem inputPath_ne_expectPath (hname : '/' ∉ name.toList) (hname' : '/' ∉ name'.toList) :
    inputPath out name i ≠ expectPath env out name' j dtype := by
  intro h
  have hlists := congrArg String.toList h
  unfold inputPath expectPath at hlists
  have hexpect : (pathJoin out "expect").toList = dirPrefix out ++ "expect".toList :=
    toList_pathJoin (by decide)
  have hdir : dirPrefix (pathJoin out "expect") = dirPrefix out ++ "expect/".toList := by
    have hlast : "/".toList.isSuffixOf (pathJoin out "expect").toList = false := by
      rw [hexpect, Bool.eq_false_iff]
      intro hsuffix
      obtain ⟨front, hfront⟩ := List.isSuffixOf_iff_suffix.mp hsuffix
      have hlast := congrArg List.getLast? hfront
      simp at hlast
    unfold dirPrefix
    rw [hlast, hexpect]
    simp [dirPrefix]
  rw [toList_pathJoin (slash_not_first (slash_notMem_inputName hname i)),
    toList_pathJoin (slash_not_first_expectName hname' j _), hdir, List.append_assoc]
    at hlists
  -- The name of an input would start with a directory.
  have hslash := slash_notMem_inputName hname i
  rw [List.append_cancel_left hlists] at hslash
  exact hslash (List.mem_append_left _ (by decide))

end Names

end DataGenerator

end HwEfat.Main
