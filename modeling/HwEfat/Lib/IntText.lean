/-
  HwEfat.Lib.IntText — how Python reads an integer: `int(s)`.

  Between white space a text has a sign, if any, and decimal digits of Unicode with single
  underscores between them.  What is read does not depend on the spaces around
  (`intOf_eq_some_iff`), and decimal numbers are read as such (`intOf_toString`).
-/
import HwEfat.Lib.Text

namespace HwEfat.Lib

/-! ## §1. Characters. -/

/-- The digits zero of Unicode; the nine characters behind each of them are its other digits. -/
def decimalZeros : List Nat :=
  [0x30, 0x660, 0x6F0, 0x7C0, 0x966, 0x9E6, 0xA66, 0xAE6, 0xB66, 0xBE6, 0xC66, 0xCE6, 0xD66, 0xDE6,
    0xE50, 0xED0, 0xF20, 0x1040, 0x1090, 0x17E0, 0x1810, 0x1946, 0x19D0, 0x1A80, 0x1A90, 0x1B50,
    0x1BB0, 0x1C40, 0x1C50, 0xA620, 0xA8D0, 0xA900, 0xA9D0, 0xA9F0, 0xAA50, 0xABF0, 0xFF10, 0x104A0,
    0x10D30, 0x11066, 0x110F0, 0x11136, 0x111D0, 0x112F0, 0x11450, 0x114D0, 0x11650, 0x116C0,
    0x11730, 0x118E0, 0x11950, 0x11C50, 0x11D50, 0x11DA0, 0x16A60, 0x16AC0, 0x16B50, 0x1D7CE,
    0x1D7D8, 0x1D7E2, 0x1D7EC, 0x1D7F6, 0x1E140, 0x1E2F0, 0x1E950, 0x1FBF0]

/-- The value of the digit with this number. -/
def decimalNat (n : Nat) : Option Nat :=
  (decimalZeros.find? fun first => first ≤ n && n < first + 10).map (n - ·)

/-- `unicodedata.decimal(c)` -/
def decimal (c : Char) : Option Nat := decimalNat c.toNat

/-- White space that `int` passes over. -/
def intSpace (c : Char) : Bool := isspace c && !(28 ≤ c.toNat && c.toNat ≤ 31)

section Chars

variable {c : Char}

/-- The value of a digit. -/
theorem decimal_of_isDigit (h : c.isDigit = true) : decimal c = some (c.toNat - 48) := by
  have hrange : 48 ≤ c.toNat ∧ c.toNat < 48 + 10 := by
    unfold Char.isDigit at h
    rw [Bool.and_eq_true, decide_eq_true_eq, decide_eq_true_eq] at h
    exact ⟨UInt32.le_iff_toNat_le.mp h.1, Nat.lt_succ_of_le (UInt32.le_iff_toNat_le.mp h.2)⟩
  unfold decimal decimalNat decimalZeros
  rw [List.find?_cons_of_pos (by simp [hrange])]
  rfl

/-- White space is no digit. -/
theorem decimal_of_intSpace (h : intSpace c = true) : decimal c = none := by
  have hmem : c.toNat ∈ [9, 10, 11, 12, 13, 32, 0x85, 0xA0, 0x1680, 0x2000, 0x2001, 0x2002, 0x2003,
      0x2004, 0x2005, 0x2006, 0x2007, 0x2008, 0x2009, 0x200A, 0x2028, 0x2029, 0x202F, 0x205F,
      0x3000] := by
    unfold intSpace isspace at h
    simp only [Bool.and_eq_true, Bool.or_eq_true, decide_eq_true_eq, beq_iff_eq,
      Bool.not_eq_true', Bool.and_eq_false_iff, decide_eq_false_iff_not] at h
    simp only [List.mem_cons, List.not_mem_nil, or_false]
    omega
  unfold decimal
  generalize c.toNat = n at hmem
  revert n
  decide

end Chars

/-! ## §2. Numbers. -/

/-- The value of digits with underscores between them, which goes on that of the digits before;
the first character is a digit if there was none just before. -/
def readDigits : Bool → Nat → List Char → Option Nat
  | afterDigit, value, [] => if afterDigit then some value else none
  | afterDigit, value, c :: cs =>
      if afterDigit && c == '_' then readDigits false value cs
      else
        match decimal c with
        | some d => readDigits true (10 * value + d) cs
        | none => none

/-- The value of a number with its sign. -/
def readInt : List Char → Option Int
  | [] => none
  | c :: cs =>
      if c = '-' then (readDigits false 0 cs).map fun n : Nat => -(n : Int)
      else if c = '+' then (readDigits false 0 cs).map fun n : Nat => (n : Int)
      else (readDigits false 0 (c :: cs)).map fun n : Nat => (n : Int)

/-- The value of a text, if it is a number. -/
def intOf (s : String) : Option Int :=
  readInt ((s.toList.dropWhile intSpace).rdropWhile intSpace)

/-- `int(s)` -/
def pyInt (s : String) : Except PyError Int :=
  match intOf s with
  | some n => .ok n
  | none => .error (.valueError ("invalid literal for int() with base 10: " ++ s))

/-- A character of a number. -/
def IntChar (c : Char) : Prop := c = '-' ∨ c = '+' ∨ c = '_' ∨ (decimal c).isSome = true

section Numbers

variable {cs l m r : List Char} {c : Char} {s : String} {n : Int}

/-- `int(s)` returns the number that is written. -/
theorem pyInt_eq_ok : pyInt s = .ok n ↔ intOf s = some n := by
  unfold pyInt
  cases intOf s <;> simp

/-- Only digits and underscores are read. -/
theorem intChar_of_readDigits {afterDigit : Bool} {value k : Nat}
    (h : readDigits afterDigit value cs = some k) : ∀ c ∈ cs, IntChar c := by
  induction cs generalizing afterDigit value with
  | nil => exact fun c hc => absurd hc List.not_mem_nil
  | cons d cs ih =>
      unfold readDigits at h
      rw [List.forall_mem_cons]
      split at h
      · next hunderscore =>
          rw [Bool.and_eq_true, beq_iff_eq] at hunderscore
          exact ⟨Or.inr (Or.inr (Or.inl hunderscore.2)), ih h⟩
      · split at h
        · next d' hd =>
            refine ⟨Or.inr (Or.inr (Or.inr ?_)), ih h⟩
            rw [hd]
            rfl
        · cases h

/-- A number is made of its characters, and there is one. -/
theorem intChar_of_readInt (h : readInt cs = some n) : cs ≠ [] ∧ ∀ c ∈ cs, IntChar c := by
  cases cs with
  | nil => cases h
  | cons c cs =>
      refine ⟨List.cons_ne_nil c cs, ?_⟩
      rw [readInt] at h
      split at h
      · next hminus =>
          obtain ⟨k, hk, _⟩ := Option.map_eq_some_iff.mp h
          exact List.forall_mem_cons.mpr ⟨Or.inl hminus, intChar_of_readDigits hk⟩
      · split at h
        · next hplus =>
            obtain ⟨k, hk, _⟩ := Option.map_eq_some_iff.mp h
            exact List.forall_mem_cons.mpr ⟨Or.inr (Or.inl hplus), intChar_of_readDigits hk⟩
        · obtain ⟨k, hk, _⟩ := Option.map_eq_some_iff.mp h
          exact intChar_of_readDigits hk

/-- No character of a number is white space. -/
theorem IntChar.not_space (h : IntChar c) : intSpace c = false := by
  rcases h with rfl | rfl | rfl | h
  · decide
  · decide
  · decide
  · by_contra hspace
    rw [decimal_of_intSpace (Bool.of_not_eq_false hspace)] at h
    cases h

/-- What stands between white space. -/
theorem trim_around (hl : ∀ c ∈ l, intSpace c = true) (hr : ∀ c ∈ r, intSpace c = true)
    (hm : m ≠ []) (hnot : ∀ c ∈ m, intSpace c = false) :
    ((l ++ m ++ r).dropWhile intSpace).rdropWhile intSpace = m := by
  obtain ⟨c, cs, rfl⟩ := List.exists_cons_of_ne_nil hm
  have hfront : (l ++ c :: cs ++ r).dropWhile intSpace = c :: cs ++ r := by
    rw [List.append_assoc, List.dropWhile_append_of_pos hl, List.cons_append,
      List.dropWhile_cons_of_neg (by rw [hnot c List.mem_cons_self]; exact Bool.false_ne_true)]
  rw [hfront]
  unfold List.rdropWhile
  rw [List.reverse_append, List.dropWhile_append_of_pos fun c hc => hr c (List.mem_reverse.mp hc)]
  have hback : (c :: cs).reverse.dropWhile intSpace = (c :: cs).reverse := by
    rw [List.dropWhile_eq_self_iff]
    intro hpos
    rw [hnot _ (List.mem_reverse.mp (List.getElem_mem hpos))]
    exact Bool.false_ne_true
  rw [hback, List.reverse_reverse]

/-- **What `int` reads**: a number, with any white space around it. -/
theorem intOf_eq_some_iff : intOf s = some n ↔ ∃ l m r, s.toList = l ++ m ++ r ∧
    (∀ c ∈ l, intSpace c = true) ∧ (∀ c ∈ r, intSpace c = true) ∧ readInt m = some n := by
  unfold intOf
  constructor
  · intro h
    refine ⟨s.toList.takeWhile intSpace, _, (s.toList.dropWhile intSpace).rtakeWhile intSpace, ?_,
      fun c hc => List.mem_takeWhile_imp hc, fun c hc => List.mem_rtakeWhile_imp hc, h⟩
    rw [List.append_assoc, List.rdropWhile_append_rtakeWhile, List.takeWhile_append_dropWhile]
  · rintro ⟨l, m, r, hs, hl, hr, hm⟩
    obtain ⟨hnil, hchars⟩ := intChar_of_readInt hm
    rw [hs, trim_around hl hr hnil fun c hc => (hchars c hc).not_space]
    exact hm

/-- The characters of a text that is read. -/
theorem intChar_of_intOf (h : intOf s = some n) (hc : c ∈ s.toList) :
    intSpace c = true ∨ IntChar c := by
  obtain ⟨l, m, r, hs, hl, hr, hm⟩ := intOf_eq_some_iff.mp h
  rw [hs] at hc
  rcases List.mem_append.mp hc with hc | hc
  · rcases List.mem_append.mp hc with hc | hc
    · exact Or.inl (hl c hc)
    · exact Or.inr ((intChar_of_readInt hm).2 c hc)
  · exact Or.inl (hr c hc)

/-- Spaces can be added around a number and taken away. -/
theorem intOf_filter (h : intOf s = some n) :
    intOf (String.ofList (s.toList.filter (· != ' '))) = some n := by
  obtain ⟨l, m, r, hs, hl, hr, hm⟩ := intOf_eq_some_iff.mp h
  have hfilter : m.filter (· != ' ') = m := by
    refine List.filter_eq_self.mpr fun c hc => bne_iff_ne.mpr ?_
    rintro rfl
    have hspace := ((intChar_of_readInt hm).2 ' ' hc).not_space
    revert hspace
    decide
  refine intOf_eq_some_iff.mpr ⟨l.filter (· != ' '), m, r.filter (· != ' '), ?_,
    fun c hc => hl c (List.mem_filter.mp hc).1, fun c hc => hr c (List.mem_filter.mp hc).1, hm⟩
  rw [String.toList_ofList, hs, List.filter_append, List.filter_append, hfilter]

/-! ## §3. Decimal numbers. -/

/-- A text of digits is read as a number. -/
theorem readDigits_of_isDigit (h : ∀ c ∈ cs, c.isDigit = true) (value : Nat) :
    readDigits true value cs = some (Nat.ofDigitChars 10 cs value) := by
  induction cs generalizing value with
  | nil => rfl
  | cons c cs ih =>
      obtain ⟨hc, hcs⟩ := List.forall_mem_cons.mp h
      have hne : (c == '_') = false := by
        refine beq_false_of_ne ?_
        rintro rfl
        cases hc
      unfold readDigits
      rw [hne, Bool.and_false, if_neg Bool.false_ne_true, decimal_of_isDigit hc]
      dsimp only
      rw [ih hcs]
      rfl

/-- A number that is written out is read again, -/
theorem readDigits_toDigits (k : Nat) : readDigits false 0 (Nat.toDigits 10 k) = some k := by
  have hdigits : ∀ c ∈ Nat.toDigits 10 k, c.isDigit = true :=
    fun c hc => Nat.isDigit_of_mem_toDigits (by decide) (by decide) hc
  obtain ⟨c, cs, hcs⟩ := List.exists_cons_of_ne_nil (Nat.toDigits_ne_nil (b := 10) (n := k))
  have hvalue : Nat.ofDigitChars 10 (c :: cs) 0 = k := by
    rw [← hcs]
    exact Nat.ofDigitChars_ten_toDigits
  rw [hcs] at hdigits
  obtain ⟨hc, hrest⟩ := List.forall_mem_cons.mp hdigits
  rw [hcs]
  unfold readDigits
  rw [Bool.false_and, if_neg Bool.false_ne_true, decimal_of_isDigit hc]
  dsimp only
  rw [readDigits_of_isDigit hrest, ← hvalue]
  rfl

/-- The number can be read off its text. -/
theorem toString_injective {i j : Nat} (h : toString i = toString j) : i = j := by
  have hdigits : Nat.toDigits 10 i = Nat.toDigits 10 j := by
    have hlist := congrArg String.toList h
    rwa [Nat.toString_eq_repr, Nat.toString_eq_repr, Nat.toList_repr, Nat.toList_repr] at hlist
  have hread := readDigits_toDigits i
  rw [hdigits, readDigits_toDigits] at hread
  exact (Option.some.inj hread).symm

/-- also if it is negative. -/
theorem readInt_toString (n : Int) : readInt (toString n).toList = some n := by
  have hdigits : ∀ k : Nat, ∃ c cs, Nat.toDigits 10 k = c :: cs ∧ c ≠ '-' ∧ c ≠ '+' := by
    intro k
    obtain ⟨c, cs, hcs⟩ := List.exists_cons_of_ne_nil (Nat.toDigits_ne_nil (b := 10) (n := k))
    have hdigit : c.isDigit = true :=
      Nat.isDigit_of_mem_toDigits (by decide) (by decide) (hcs ▸ List.mem_cons_self)
    refine ⟨c, cs, hcs, ?_, ?_⟩
    · rintro rfl
      cases hdigit
    · rintro rfl
      cases hdigit
  rw [Int.toString_eq_repr, Int.repr_eq_if]
  split
  · next hpos =>
      obtain ⟨c, cs, hcs, hminus, hplus⟩ := hdigits n.toNat
      rw [Nat.toList_repr, hcs, readInt, if_neg hminus, if_neg hplus, ← hcs, readDigits_toDigits,
        Option.map_some]
      congr 1
      omega
  · rw [String.toList_append, Nat.toList_repr]
    show readInt ('-' :: Nat.toDigits 10 (-n).toNat) = some n
    rw [readInt, if_pos rfl, readDigits_toDigits, Option.map_some]
    congr 1
    omega

/-- **A decimal number is read**, with any spaces around it. -/
theorem intOf_toString (n : Int) (left right : String)
    (hleft : ∀ c ∈ left.toList, c = ' ') (hright : ∀ c ∈ right.toList, c = ' ') :
    intOf (left ++ toString n ++ right) = some n := by
  refine intOf_eq_some_iff.mpr ⟨left.toList, (toString n).toList, right.toList, ?_,
    fun c hc => ?_, fun c hc => ?_, readInt_toString n⟩
  · rw [String.toList_append, String.toList_append]
  · rw [hleft c hc]
    decide
  · rw [hright c hc]
    decide

end Numbers

end HwEfat.Lib
