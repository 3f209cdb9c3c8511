/-
  HwEfat.Lib.Text — how Python trims, cuts and sorts strings.

  Trimming a second time changes nothing (`strip_strip`), and a string is trimmed to the same
  when its end has been trimmed before (`strip_rstrip`).  Two lists of strings are equal once
  sorted exactly when they are equal up to order (`sorted_eq_sorted_iff`).
-/
import Mathlib.Data.List.DropRight
import Mathlib.Data.List.Sort
import Mathlib.Data.List.TakeWhile
import Mathlib.Data.String.Basic
import HwEfat.Lib.Python

namespace HwEfat.Lib

/-! ## §1. White space. -/

/-- `c.isspace()` -/
def isspace (c : Char) : Bool :=
  let n := c.toNat
  (9 ≤ n && n ≤ 13) || (28 ≤ n && n ≤ 32) || n == 0x85 || n == 0xA0 || n == 0x1680 ||
    (0x2000 ≤ n && n ≤ 0x200A) || n == 0x2028 || n == 0x2029 || n == 0x202F || n == 0x205F ||
    n == 0x3000

/-- `s.rstrip()` -/
def rstrip (s : String) : String := String.ofList (s.toList.rdropWhile isspace)

/-- `s.strip()` -/
def strip (s : String) : String := String.ofList ((s.toList.dropWhile isspace).rdropWhile isspace)

/-- Cutting off behind a first character. -/
theorem rdropWhile_cons {α : Type} (p : α → Bool) (a : α) (l : List α) :
    (a :: l).rdropWhile p
      = if l.rdropWhile p = [] ∧ p a = true then [] else a :: l.rdropWhile p := by
  unfold List.rdropWhile
  rw [List.reverse_cons, List.dropWhile_append]
  by_cases hnil : l.reverse.dropWhile p = []
  · rw [hnil]
    cases hp : p a with
    | false => simp [hp]
    | true => simp [hp]
  · rw [if_neg (by simpa using hnil), if_neg fun h => hnil (List.reverse_eq_nil_iff.mp h.1)]
    simp

/-- The two ends are trimmed in either order. -/
theorem dropWhile_rdropWhile {α : Type} (p : α → Bool) (l : List α) :
    (l.rdropWhile p).dropWhile p = (l.dropWhile p).rdropWhile p := by
  induction l with
  | nil => rfl
  | cons a l ih =>
      rw [rdropWhile_cons]
      cases hp : p a with
      | false =>
          rw [if_neg fun h => Bool.false_ne_true h.2,
            List.dropWhile_cons_of_neg (by simp [hp]), List.dropWhile_cons_of_neg (by simp [hp]),
            rdropWhile_cons, hp, if_neg fun h => Bool.false_ne_true h.2]
      | true =>
          rw [List.dropWhile_cons_of_pos hp, ← ih]
          by_cases hnil : l.rdropWhile p = []
          · rw [if_pos ⟨hnil, rfl⟩, hnil]
          · rw [if_neg fun h => hnil h.1, List.dropWhile_cons_of_pos hp]

/-- Cutting off in front once is enough. -/
theorem dropWhile_rdropWhile_dropWhile {α : Type} (p : α → Bool) (l : List α) :
    ((l.dropWhile p).rdropWhile p).dropWhile p = (l.dropWhile p).rdropWhile p := by
  rw [dropWhile_rdropWhile, List.dropWhile_idempotent]

/-- Cutting off twice is cutting off once. -/
theorem strip_strip (s : String) : strip (strip s) = strip s := by
  show String.ofList _ = String.ofList _
  rw [strip, String.toList_ofList, dropWhile_rdropWhile_dropWhile, List.rdropWhile_idempotent]

/-- Cutting off at the end first changes nothing. -/
theorem strip_rstrip (s : String) : strip (rstrip s) = strip s := by
  unfold strip rstrip
  rw [String.toList_ofList, dropWhile_rdropWhile, List.rdropWhile_idempotent]

/-- The end of a line is trimmed. -/
theorem rstrip_newline (s : String) : rstrip (s ++ "\n") = rstrip s := by
  unfold rstrip
  rw [String.toList_append, show "\n".toList = ['\n'] from rfl,
    List.rdropWhile_concat_pos _ _ _ (by decide)]

/-- A space in front is cut off. -/
theorem strip_space (s : String) : strip (" " ++ s) = strip s := by
  unfold strip
  rw [String.toList_append, show " ".toList = [' '] from rfl, List.singleton_append,
    List.dropWhile_cons_of_pos (by decide)]

/-! ## §2. Where a string occurs. -/

/-- `s.startswith(t)` -/
def startswith (s t : String) : Bool := t.toList.isPrefixOf s.toList

/-- `s.endswith(t)` -/
def endswith (s t : String) : Bool := t.toList.isSuffixOf s.toList

/-- Where `sub` starts for the first time. -/
def findChars (sub : List Char) : List Char → Option Nat
  | [] => if sub.isEmpty then some 0 else none
  | c :: cs =>
      if sub.isPrefixOf (c :: cs) then some 0
      else (findChars sub cs).map (· + 1)

/-- `s.index(sub)` -/
def strIndex (s sub : String) : Except PyError Nat :=
  match findChars sub.toList s.toList with
  | some i => .ok i
  | none => .error (.valueError "substring not found")

/-- `s[i:j]` -/
def slice (s : String) (i j : Nat) : String := String.ofList ((s.toList.take j).drop i)

/-- `s[i:]` -/
def sliceFrom (s : String) (i : Nat) : String := String.ofList (s.toList.drop i)

/-- `s.isupper()`, given the upper-case letters of Unicode and the other letters that have
a case. -/
def isupper (upper lower : Char → Bool) (s : String) : Bool :=
  !s.toList.any lower && s.toList.any upper

/-! ## §3. Sorting. -/

/-- `sorted(l)` -/
def sorted (l : List String) : List String := l.insertionSort (· ≤ ·)

/-- Sorting forgets the order, and only that. -/
theorem sorted_eq_sorted_iff {l l' : List String} : sorted l = sorted l' ↔ l.Perm l' := by
  unfold sorted
  constructor
  · intro h
    exact (List.perm_insertionSort _ l).symm.trans (h ▸ List.perm_insertionSort _ l')
  · intro h
    have hperm : (l.insertionSort (· ≤ ·)).Perm (l'.insertionSort (· ≤ ·)) :=
      (List.perm_insertionSort _ l).trans (h.trans (List.perm_insertionSort _ l').symm)
    exact hperm.eq_of_sortedLE List.sortedLE_insertionSort List.sortedLE_insertionSort

/-- Sorting loses nothing, -/
theorem sorted_eq_nil_iff {l : List String} : sorted l = [] ↔ l = [] := by
  show sorted l = sorted [] ↔ l = []
  rw [sorted_eq_sorted_iff, List.perm_nil]

/-- and adds nothing. -/
theorem mem_sorted {l : List String} {a : String} : a ∈ sorted l ↔ a ∈ l :=
  List.mem_insertionSort _

end HwEfat.Lib
