/-
  HwEfat.Lib.First — the first occurrence of a text.

  `FirstAt sub l` says that where `sub` follows on `l` it does not occur any earlier, neither
  inside `l` nor across its end.  Then a search finds it behind `l` (`findChars_append`), and a
  split at `sub` cuts `l` off (`splitChars_append`).  So joined lists are split again although
  single characters of the separator may occur in them: `splitChars_joined`.
-/
import Mathlib.Data.List.Infix
import HwEfat.Lib.Split
import HwEfat.Lib.Text

namespace HwEfat.Lib

variable {α : Type}

/-! ## §1. Occurrences. -/

/-- No occurrence of `sub` in `l ++ sub` starts before the last one. -/
def FirstAt (sub l : List α) : Prop := ¬ sub <:+: l ++ sub.dropLast

instance [DecidableEq α] (sub l : List α) : Decidable (FirstAt sub l) :=
  inferInstanceAs (Decidable (¬ _))

section FirstAt

variable {sub l r : List α} {c d : α}

/-- An occurrence that is not before the head is not before the tail. -/
theorem FirstAt.tail (h : FirstAt sub (c :: l)) : FirstAt sub l := by
  intro hin
  refine h (hin.trans ?_)
  rw [List.cons_append]
  exact List.infix_cons (List.infix_refl _)

/-- It does not occur at the start. -/
theorem FirstAt.not_prefix (h : FirstAt sub (c :: l)) : ¬ sub <+: c :: (l ++ (sub ++ r)) := by
  intro hpre
  refine h (List.IsPrefix.isInfix (List.prefix_of_prefix_length_le hpre ?_ ?_))
  · -- What is in front of the last character of the occurrence.
    rw [List.cons_append, List.prefix_cons_inj, List.prefix_append_right_inj]
    exact (List.dropLast_prefix sub).trans (List.prefix_append sub r)
  · rw [List.length_append, List.length_cons, List.length_dropLast]
    omega

/-- Two characters occur nowhere before if one of them does not. -/
theorem firstAt_pair (hcd : c ≠ d) (h : c ∉ l ∨ d ∉ l) : FirstAt [c, d] l := by
  rintro ⟨s, t, hst⟩
  have hst' : s ++ c :: d :: t = l ++ [c] := by
    rw [← show ([c, d] : List α).dropLast = [c] from rfl, ← hst, List.append_assoc]
    rfl
  rcases h with hc | hd
  · -- the only `c` is the last character, and there is one behind it
    have hle : l.length ≤ s.length := by
      by_contra hlt
      rw [not_le] at hlt
      refine hc ?_
      have hat := congrArg (·[s.length]?) hst'
      simp only [List.getElem?_append_right (Nat.le_refl _), Nat.sub_self,
        List.getElem?_append_left hlt, List.getElem?_cons_zero] at hat
      exact List.mem_of_getElem? hat.symm
    have hlen := congrArg List.length hst'
    simp only [List.length_append, List.length_cons, List.length_nil] at hlen
    omega
  · have hmem : d ∈ l ++ [c] := by
      rw [← hst']
      simp
    rcases List.mem_append.mp hmem with hmem | hmem
    · exact hd hmem
    · exact hcd (List.mem_singleton.mp hmem).symm

/-- One character stands first where it is not in what comes before. -/
theorem firstAt_singleton : FirstAt [c] l ↔ c ∉ l := by
  unfold FirstAt
  rw [show ([c] : List α).dropLast = [] from rfl, List.append_nil, List.singleton_infix_iff]

end FirstAt

/-! ## §2. Searching and splitting. -/

/-- What is in joined lists. -/
theorem mem_intercalate {sep : List α} {parts : List (List α)} {a : α}
    (h : a ∈ sep.intercalate parts) : a ∈ sep ∨ ∃ part ∈ parts, a ∈ part := by
  induction parts with
  | nil => cases h
  | cons part parts ih =>
      by_cases hparts : parts = []
      · subst hparts
        rw [List.intercalate_singleton] at h
        exact Or.inr ⟨part, List.mem_singleton_self part, h⟩
      · rw [List.intercalate_cons_of_ne_nil hparts, List.mem_append, List.mem_append] at h
        rcases h with (h | h) | h
        · exact Or.inr ⟨part, List.mem_cons_self, h⟩
        · exact Or.inl h
        · rcases ih h with h | ⟨part', hpart', h⟩
          · exact Or.inl h
          · exact Or.inr ⟨part', List.mem_cons_of_mem _ hpart', h⟩


section Search

variable {sub l r cur : List Char} {c : Char}

/-- **The first occurrence is found.** -/
theorem findChars_append (hne : sub ≠ []) (h : FirstAt sub l) :
    findChars sub (l ++ (sub ++ r)) = some l.length := by
  induction l with
  | nil =>
      obtain ⟨c, cs, rfl⟩ := List.exists_cons_of_ne_nil hne
      have hpre : (c :: cs).isPrefixOf (c :: (cs ++ r)) = true :=
        List.isPrefixOf_iff_prefix.mpr ⟨r, rfl⟩
      rw [List.nil_append, List.cons_append, findChars, if_pos hpre]
      rfl
  | cons c l ih =>
      rw [List.cons_append, findChars,
        if_neg (fun hpre => h.not_prefix (List.isPrefixOf_iff_prefix.mp hpre)), ih h.tail]
      rfl

/-- A character is found behind a text without it. -/
theorem findChars_char (h : c ∉ l) : findChars [c] (l ++ c :: r) = some l.length :=
  findChars_append (List.cons_ne_nil c []) (firstAt_singleton.mpr h)

/-- What is in front of the first separator is the first part. -/
theorem splitChars_append (hne : sub ≠ []) (h : FirstAt sub l) :
    splitChars sub 0 cur (l ++ (sub ++ r)) = (cur.reverse ++ l) :: splitChars sub 0 [] r := by
  induction l generalizing cur with
  | nil =>
      obtain ⟨c, cs, rfl⟩ := List.exists_cons_of_ne_nil hne
      rw [List.nil_append, List.append_nil]
      exact splitChars_sep cur
  | cons c l ih =>
      rw [List.cons_append, splitChars,
        if_neg (fun hpre => h.not_prefix (List.isPrefixOf_iff_prefix.mp hpre)), ih h.tail,
        List.reverse_cons, List.append_assoc, List.singleton_append]

/-- A text without the separator is one piece. -/
theorem splitChars_last (h : ¬ sub <:+: l) : splitChars sub 0 cur l = [cur.reverse ++ l] := by
  induction l generalizing cur with
  | nil => rw [splitChars, List.append_nil]
  | cons c l ih =>
      have hpre : ¬ sub.isPrefixOf (c :: l) = true :=
        fun hpre => h (List.isPrefixOf_iff_prefix.mp hpre).isInfix
      rw [splitChars, if_neg hpre, ih fun hin => h (List.infix_cons hin), List.reverse_cons,
        List.append_assoc, List.singleton_append]

/-- **Joined lists, split again**: every separator is the first one behind its part. -/
theorem splitChars_joined (hne : sub ≠ []) {last : List Char} (hlast : ¬ sub <:+: last) :
    ∀ (parts : List (List Char)), (∀ part ∈ parts, FirstAt sub part) →
      splitChars sub 0 [] (sub.intercalate (parts ++ [last])) = parts ++ [last]
  | [], _ => by
      rw [List.nil_append, List.intercalate_singleton, splitChars_last hlast]
      rfl
  | part :: parts, h => by
      obtain ⟨hpart, hparts⟩ := List.forall_mem_cons.mp h
      rw [List.cons_append, List.intercalate_cons_of_ne_nil (by simp), List.append_assoc,
        splitChars_append hne hpart, splitChars_joined hne hlast parts hparts]
      rfl

end Search

end HwEfat.Lib
