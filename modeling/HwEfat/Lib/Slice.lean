/-
  HwEfat.Lib.Slice — indices and slices of Python sequences, which count from the end when
  they are negative, and texts that are joined.

  A slice never raises, an index does (`getIndex`).  What stands in the middle of a joined
  text can be read off it, given the rest: `intercalate_middle_inj`.
-/
import HwEfat.Lib.Python

namespace HwEfat.Lib

section Slices

variable {α : Type}

/-! ## §1. Indices and slices. -/

/-- The position that a bound of a slice stands for, in a sequence of `n` elements. -/
def sliceBound (n : Nat) (i : Int) : Nat :=
  if i < 0 then (i + n).toNat else min i.toNat n

/-- `l[i:j]` -/
def getSlice (l : List α) (i j : Int) : List α :=
  (l.take (sliceBound l.length j)).drop (sliceBound l.length i)

/-- `l[i]` -/
def getIndex (l : List α) (i : Int) : Except PyError α :=
  match if i < 0 then (if i + l.length < 0 then none else l[(i + l.length).toNat]?)
    else l[i.toNat]? with
  | some a => .ok a
  | none => .error (.indexError "list index out of range")

/-- A slice between two positions from the front. -/
theorem getSlice_ofNat (l : List α) (i j : Nat) : getSlice l i j = (l.take j).drop i := by
  have hbound : ∀ k : Nat, sliceBound l.length k = min k l.length := by
    intro k
    unfold sliceBound
    rw [if_neg (by omega), Int.toNat_natCast]
  unfold getSlice
  rw [hbound, hbound, ← List.take_eq_take_min]
  rcases Nat.le_total i l.length with hi | hi
  · rw [Nat.min_eq_left hi]
  · rw [Nat.min_eq_right hi, List.drop_eq_nil_of_le, List.drop_eq_nil_of_le]
    · exact (List.length_take_le' _ _).trans hi
    · exact List.length_take_le' _ _

/-- An element at a position from the front. -/
theorem getIndex_ofNat {l : List α} {i : Nat} {a : α} (h : l[i]? = some a) :
    getIndex l i = .ok a := by
  unfold getIndex
  rw [if_neg (by omega), Int.toNat_natCast, h]

/-- What an index gives that finds this. -/
def ofIndex : Option α → Except PyError α
  | some a => .ok a
  | none => .error (.indexError "list index out of range")

/-- In lists that belong together an index finds what belongs together. -/
theorem getIndex_forall₂ {β : Type} {R : α → β → Prop} {l : List α} {l' : List β}
    (h : List.Forall₂ R l l') (i : Int) :
    (∃ a b, getIndex l i = .ok a ∧ getIndex l' i = .ok b ∧ R a b) ∨
      ((∃ e, getIndex l i = .error e) ∧ ∃ e, getIndex l' i = .error e) := by
  have hget : ∀ n : Nat, (∃ a b, l[n]? = some a ∧ l'[n]? = some b ∧ R a b) ∨
      l[n]? = none ∧ l'[n]? = none := by
    intro n
    rcases Nat.lt_or_ge n l.length with hn | hn
    · have hn' : n < l'.length := h.length_eq ▸ hn
      exact Or.inl ⟨_, _, List.getElem?_eq_getElem hn, List.getElem?_eq_getElem hn',
        h.get hn hn'⟩
    · exact Or.inr ⟨List.getElem?_eq_none hn, List.getElem?_eq_none (h.length_eq ▸ hn)⟩
  have hcases : ∀ (o : Option α) (o' : Option β),
      (∃ a b, o = some a ∧ o' = some b ∧ R a b) ∨ o = none ∧ o' = none →
      (∃ a b, ofIndex o = .ok a ∧ ofIndex o' = .ok b ∧ R a b) ∨
        ((∃ e, ofIndex o = .error e) ∧ ∃ e, ofIndex o' = .error e) := by
    rintro o o' (⟨a, b, rfl, rfl, hab⟩ | ⟨rfl, rfl⟩)
    · exact Or.inl ⟨a, b, rfl, rfl, hab⟩
    · exact Or.inr ⟨⟨_, rfl⟩, ⟨_, rfl⟩⟩
  refine hcases _ _ ?_
  rw [h.length_eq]
  split
  · split
    · exact Or.inr ⟨rfl, rfl⟩
    · exact hget _
  · exact hget _

/-- What an index finds stands somewhere in the list. -/
theorem exists_of_getIndex {l : List α} {i : Int} {a : α} (h : getIndex l i = .ok a) :
    ∃ n : Nat, l[n]? = some a := by
  unfold getIndex at h
  split at h
  · next heq =>
      cases h
      split at heq
      · split at heq
        · cases heq
        · exact ⟨_, heq⟩
      · exact ⟨_, heq⟩
  · cases h

end Slices

/-! ## §2. Joined texts. -/

section Join

variable {sep : String}

/-- One of the texts that are joined, between what stands before and behind it. -/
theorem exists_around (sep : String) (l r : List String) :
    ∃ before behind, ∀ s, sep.intercalate (l ++ [s] ++ r) = before ++ s ++ behind := by
  have hbehind : ∃ behind, ∀ s, sep.intercalate (s :: r) = s ++ behind := by
    cases r with
    | nil => exact ⟨"", fun s => by rw [String.intercalate_singleton, String.append_empty]⟩
    | cons t r =>
        refine ⟨sep ++ sep.intercalate (t :: r), fun s => ?_⟩
        rw [String.intercalate_cons_cons, String.append_assoc]
  obtain ⟨behind, hbehind⟩ := hbehind
  by_cases hl : l = []
  · refine ⟨"", behind, fun s => ?_⟩
    rw [hl, List.nil_append, List.singleton_append, hbehind, String.empty_append]
  · refine ⟨sep.intercalate l ++ sep, behind, fun s => ?_⟩
    rw [List.append_assoc, List.singleton_append,
      String.intercalate_append_of_ne_nil hl (List.cons_ne_nil _ _), hbehind,
      ← String.append_assoc]

/-- **The middle of a joined text** can be told from the rest. -/
theorem intercalate_middle_inj {l r : List String} {s t : String} :
    sep.intercalate (l ++ [s] ++ r) = sep.intercalate (l ++ [t] ++ r) ↔ s = t := by
  obtain ⟨before, behind, haround⟩ := exists_around sep l r
  rw [haround, haround, String.append_left_inj, String.append_right_inj]

/-- One more text that changes nothing is the only one, and empty. -/
theorem intercalate_concat_eq (hsep : sep ≠ "") {l : List String} {s : String} :
    sep.intercalate (l ++ [s]) = sep.intercalate l ↔ l = [] ∧ s = "" := by
  by_cases hl : l = []
  · subst hl
    rw [List.nil_append, String.intercalate_singleton, String.intercalate_nil]
    exact (and_iff_right rfl).symm
  · rw [String.intercalate_append_of_ne_nil hl (List.cons_ne_nil _ _)]
    refine iff_of_false (fun h => hsep ?_) fun h => hl h.1
    have hlength := congrArg String.length h
    rw [String.length_append, String.length_append] at hlength
    exact String.length_eq_zero_iff.mp (by omega)

end Join

end HwEfat.Lib
