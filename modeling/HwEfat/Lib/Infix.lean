/-
  HwEfat.Lib.Infix — where a list occurs in a concatenation.

  Names are put together from pieces with a separator in between, and taken apart by
  looking for a mark.  What decides is whether an occurrence can reach over the border of
  two pieces: not if the second piece starts with something that the mark does not have
  (`isInfix_append_iff_of_head`), and `rfind` does not see a rest without the core of the
  mark (`rfindChars_append_rest`).
-/
import Mathlib.Data.List.Infix
import HwEfat.Lib.Python

namespace HwEfat.Lib

section Infix

variable {α : Type} {l xs ys : List α} {c : α}

/-! ## §1. Borders. -/

/-- No occurrence reaches over the border. -/
theorem isInfix_append_iff_of_head (hhead : ∀ a, ys.head? = some a → a ∉ l) :
    l <:+: xs ++ ys ↔ l <:+: xs ∨ l <:+: ys := by
  rw [List.infix_append_iff]
  constructor
  · rintro (h | h | ⟨l₁, l₂, rfl, h₁, h₂⟩)
    · exact Or.inl h
    · exact Or.inr h
    · cases l₂ with
      | nil =>
          rw [List.append_nil]
          exact Or.inl h₁.isInfix
      | cons a l₂ =>
          obtain ⟨t, rfl⟩ := h₂
          exact absurd (by simp : a ∈ l₁ ++ a :: l₂) (hhead a rfl)
  · intro h
    exact h.imp_right Or.inl

/-- Nor over a separator. -/
theorem isInfix_append_cons_iff (hc : c ∉ l) : l <:+: xs ++ c :: ys ↔ l <:+: xs ∨ l <:+: ys := by
  rw [isInfix_append_iff_of_head (by simpa using hc), List.infix_cons_iff]
  constructor
  · rintro (h | h | h)
    · exact Or.inl h
    · cases l with
      | nil => exact Or.inl List.nil_infix
      | cons a l =>
          obtain rfl : a = c := (List.cons_prefix_cons.mp h).1
          exact absurd List.mem_cons_self hc
    · exact Or.inr h
  · intro h
    exact h.imp_right Or.inr

/-- A list of other elements has no occurrence. -/
theorem not_isInfix_of_forall {p : α → Prop} (hl : ∃ a ∈ l, ¬ p a) (hxs : ∀ a ∈ xs, p a) :
    ¬ l <:+: xs := by
  intro h
  obtain ⟨a, ha, hnot⟩ := hl
  exact hnot (hxs a (h.subset ha))

/-- What follows a common start is the longer piece's end, or the shorter one is all of it. -/
theorem suffix_or_append_suffix {t a m : List α} (h : t <:+ a ++ m) :
    t <:+ m ∨ ∃ s, t = s ++ m ∧ s <:+ a := by
  rcases List.suffix_or_suffix_of_suffix h (List.suffix_append a m) with h' | ⟨s, rfl⟩
  · exact Or.inl h'
  · refine Or.inr ⟨s, rfl, ?_⟩
    obtain ⟨r, hr⟩ := h
    rw [← List.append_assoc] at hr
    exact ⟨r, List.append_cancel_right hr⟩

/-- A piece of a mark that starts with something that the core does not have includes the
core. -/
theorem core_suffix {start core t : List α} (ht : t <:+ start ++ core)
    (hhead : ∃ a, t.head? = some a ∧ a ∉ core) : core <:+ t := by
  rcases suffix_or_append_suffix ht with h | ⟨s, rfl, -⟩
  · obtain ⟨a, ha, hnot⟩ := hhead
    exact absurd (h.subset (List.mem_of_head? ha)) hnot
  · exact List.suffix_append s core

/-- The number of a name ends at the separator. -/
theorem append_cons_inj {p : α → Prop} {n n' w w' : List α} (hn : ∀ a ∈ n, p a)
    (hn' : ∀ a ∈ n', p a) (hc : ¬ p c) (h : n ++ c :: w = n' ++ c :: w') : n = n' ∧ w = w' := by
  induction n generalizing n' with
  | nil =>
      cases n' with
      | nil => exact ⟨rfl, (List.cons.inj h).2⟩
      | cons a n' =>
          obtain rfl : c = a := (List.cons.inj h).1
          exact absurd (hn' c List.mem_cons_self) hc
  | cons a n ih =>
      cases n' with
      | nil =>
          obtain rfl : a = c := (List.cons.inj h).1
          exact absurd (hn a List.mem_cons_self) hc
      | cons a' n' =>
          obtain ⟨rfl, htail⟩ := List.cons.inj h
          obtain ⟨rfl, hw⟩ := ih (fun x hx => hn x (List.mem_cons_of_mem a hx))
            (fun x hx => hn' x (List.mem_cons_of_mem a hx)) htail
          exact ⟨rfl, hw⟩

/-- What is behind the last separator, and what is in front of it. -/
theorem append_cons_inj_last {a a' b b' : List α} (hb : c ∉ b) (hb' : c ∉ b')
    (h : a ++ c :: b = a' ++ c :: b') : a = a' ∧ b = b' := by
  have hreverse : b.reverse ++ c :: a.reverse = b'.reverse ++ c :: a'.reverse := by
    have hcongr := congrArg List.reverse h
    simpa only [List.reverse_append, List.reverse_cons, List.append_assoc,
      List.singleton_append] using hcongr
  have hne : ∀ l : List α, c ∉ l → ∀ x ∈ l.reverse, x ≠ c := by
    intro l hl x hx hxc
    exact hl (hxc ▸ List.mem_reverse.mp hx)
  obtain ⟨hbs, has⟩ := append_cons_inj (p := (· ≠ c)) (hne b hb) (hne b' hb')
    (fun hself => hself rfl) hreverse
  exact ⟨List.reverse_injective has, List.reverse_injective hbs⟩

/-- **What comes before the number ends with the mark.**  So it cannot be longer: it would
end inside the number or the words, which do not have the mark. -/
theorem eq_nil_of_mark {p : α → Prop} {n w t rest b m core : List α} (hne : n ≠ [])
    (hn : ∀ a ∈ n, p a) (hmark : ∀ a ∈ m, ¬ p a) (hcore : core <:+: m) (hcore_ne : core ≠ [])
    (hc : c ∉ core) (hw : ¬ core <:+: w) (ht : t <:+ b ++ m) (h : n ++ c :: w = t ++ rest) :
    t = [] := by
  by_contra htne
  rcases suffix_or_append_suffix ht with hsuffix | ⟨s, rfl, -⟩
  · -- It starts as the number does.
    obtain ⟨a, t, rfl⟩ := List.exists_cons_of_ne_nil htne
    obtain ⟨a', n, rfl⟩ := List.exists_cons_of_ne_nil hne
    obtain rfl : a' = a := (List.cons.inj h).1
    exact hmark a' (hsuffix.subset List.mem_cons_self) (hn a' List.mem_cons_self)
  · have hinfix : core <:+: n ++ c :: w := by
      rw [h]
      exact hcore.trans ⟨s, rest, rfl⟩
    rcases (isInfix_append_cons_iff hc).mp hinfix with hnumber | hwords
    · obtain ⟨a, ha⟩ := List.exists_mem_of_ne_nil core hcore_ne
      exact hmark a (hcore.subset ha) (hn a (hnumber.subset ha))
    · exact hw hwords

end Infix

/-! ## §2. `rfind`. -/

section Rfind

variable {sub cs : List Char} {i : Nat}

/-- What is not found is not there. -/
theorem rfindChars_eq_none_iff : rfindChars sub cs = none ↔ ¬ sub <:+: cs := by
  induction cs with
  | nil => cases sub <;> simp [rfindChars]
  | cons c cs ih =>
      rw [List.infix_cons_iff, not_or, ← ih, rfindChars]
      cases hrest : rfindChars sub cs with
      | none => simp
      | some i => simp

/-- What is there is found. -/
theorem rfindChars_isSome_iff : (rfindChars sub cs).isSome = true ↔ sub <:+: cs := by
  have hnone : rfindChars sub cs = none ↔ ¬ sub <:+: cs := rfindChars_eq_none_iff
  cases hfind : rfindChars sub cs with
  | none => simp [hnone.mp hfind]
  | some i =>
      rw [hfind] at hnone
      simpa using hnone

/-- A text of one character. -/
theorem contains_iff_mem {c : Char} {s t : String} (ht : t.toList = [c]) :
    contains s t = true ↔ c ∈ s.toList := by
  unfold contains
  rw [rfindChars_isSome_iff, ht, List.singleton_infix_iff]

/-- What is found is there. -/
theorem rfindChars_le (h : rfindChars sub cs = some i) : i + sub.length ≤ cs.length := by
  induction cs generalizing i with
  | nil =>
      unfold rfindChars at h
      split at h
      · next hempty =>
          cases h
          rw [List.isEmpty_iff.mp hempty]
          exact Nat.le_refl 0
      · cases h
  | cons c cs ih =>
      rw [rfindChars] at h
      split at h
      · next j hj =>
          cases h
          have hle := ih hj
          rw [List.length_cons]
          omega
      · split at h
        · next hpre =>
            cases h
            have hle := (List.isPrefixOf_iff_prefix.mp hpre).length_le
            omega
        · cases h

/-- Nothing comes after an occurrence at the end. -/
theorem rfindChars_append_self (b sub : List Char) : rfindChars sub (b ++ sub) = some b.length := by
  induction b with
  | nil =>
      cases sub with
      | nil => rfl
      | cons c sub =>
          have hnone : rfindChars (c :: sub) sub = none := by
            rw [rfindChars_eq_none_iff]
            intro h
            have hle := h.length_le
            rw [List.length_cons] at hle
            omega
          simp [rfindChars, hnone]
  | cons c b ih => simp [rfindChars, ih]

/-- **A rest in which no occurrence ends** is passed over. -/
theorem rfindChars_append {sub xs rest : List Char} (hne : sub ≠ []) (hsub : ¬ sub <:+: rest)
    (hover : ∀ t, t <:+ sub → t <+: rest → t = []) :
    rfindChars sub (xs ++ rest) = rfindChars sub xs := by
  induction xs with
  | nil =>
      have hnil : rfindChars sub [] = none := by
        rw [rfindChars_eq_none_iff, List.infix_nil]
        exact hne
      rw [List.nil_append, rfindChars_eq_none_iff.mpr hsub, hnil]
  | cons c xs ih =>
      have hpre : sub <+: c :: xs ++ rest ↔ sub <+: c :: xs := by
        constructor
        · intro h
          rcases List.prefix_or_prefix_of_prefix h (List.prefix_append (c :: xs) rest) with h' | h'
          · exact h'
          · -- What reaches into the rest is nothing.
            obtain ⟨t, ht⟩ := h'
            rw [← ht, List.prefix_append_right_inj] at h
            have hnil : t = [] := hover t (ht ▸ List.suffix_append _ t) h
            rw [← ht, hnil, List.append_nil]
        · intro h
          exact h.trans (List.prefix_append _ _)
      have hbool : sub.isPrefixOf (c :: (xs ++ rest)) = sub.isPrefixOf (c :: xs) := by
        rw [Bool.eq_iff_iff, List.isPrefixOf_iff_prefix, List.isPrefixOf_iff_prefix]
        exact hpre
      show rfindChars sub (c :: (xs ++ rest)) = rfindChars sub (c :: xs)
      rw [rfindChars, rfindChars, ih, hbool]

/-- A rest without the core of the mark is one, if it starts with something that the core
does not have. -/
theorem rfindChars_append_rest {start core xs rest : List Char} (hne : core ≠ [])
    (hcore : ¬ core <:+: rest) (hhead : ∀ a, rest.head? = some a → a ∉ core) :
    rfindChars (start ++ core) (xs ++ rest) = rfindChars (start ++ core) xs := by
  apply rfindChars_append (by simp [hne])
  · intro h
    exact hcore ((List.suffix_append start core).isInfix.trans h)
  · intro t ht hrest
    cases t with
    | nil => rfl
    | cons a t =>
        obtain ⟨r, rfl⟩ := hrest
        have hsuffix : core <:+ a :: t := core_suffix ht ⟨a, rfl, hhead a rfl⟩
        exact absurd (hsuffix.isInfix.trans (List.prefix_append _ _).isInfix) hcore

end Rfind

end HwEfat.Lib
