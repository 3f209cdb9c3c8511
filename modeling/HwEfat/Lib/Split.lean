/-
  HwEfat.Lib.Split — `str.split` with a separator.

  Splitting and joining are inverse to each other: `intercalate_split`, `split_intercalate`.
-/
import HwEfat.Lib.Python

namespace HwEfat.Lib

/-! ## §1. Lists of characters. -/

section Chars

variable {c : Char} {rest part cs : List Char} {parts : List (List Char)}

/-- There is a piece at least. -/
theorem splitChars_ne_nil (sep : List Char) (skip : Nat) (cur cs : List Char) :
    splitChars sep skip cur cs ≠ [] := by
  induction cs generalizing skip cur with
  | nil =>
      cases skip with
      | zero => exact List.cons_ne_nil _ _
      | succ skip => exact List.cons_ne_nil _ _
  | cons d cs ih =>
      cases skip with
      | zero =>
          rw [splitChars]
          split
          · exact List.cons_ne_nil _ _
          · exact ih 0 (d :: cur)
      | succ skip =>
          rw [splitChars]
          exact ih skip cur

/-- The characters of a separator are passed over. -/
theorem splitChars_skip (sep cur l cs : List Char) :
    splitChars sep l.length cur (l ++ cs) = splitChars sep 0 cur cs := by
  induction l with
  | nil => rfl
  | cons d l ih =>
      rw [List.length_cons, List.cons_append, splitChars]
      exact ih

/-- A part without the first character of the separator. -/
theorem splitChars_part (rest cur cs : List Char) (h : c ∉ part) :
    splitChars (c :: rest) 0 cur (part ++ cs)
      = splitChars (c :: rest) 0 (part.reverse ++ cur) cs := by
  induction part generalizing cur with
  | nil => rfl
  | cons d part ih =>
      rw [List.mem_cons, not_or] at h
      have hprefix : ¬ (c :: rest).isPrefixOf (d :: (part ++ cs)) = true := by
        rw [List.isPrefixOf_cons_cons, beq_false_of_ne h.1, Bool.false_and]
        exact Bool.false_ne_true
      rw [List.cons_append, splitChars, if_neg hprefix, ih _ h.2, List.reverse_cons,
        List.append_assoc, List.singleton_append]

/-- A separator ends a piece. -/
theorem splitChars_sep (cur : List Char) :
    splitChars (c :: rest) 0 cur (c :: rest ++ cs)
      = cur.reverse :: splitChars (c :: rest) 0 [] cs := by
  have hprefix : (c :: rest).isPrefixOf (c :: (rest ++ cs)) = true :=
    List.isPrefixOf_iff_prefix.mpr ⟨cs, rfl⟩
  rw [List.cons_append, splitChars, if_pos hprefix]
  exact congrArg (cur.reverse :: ·) (splitChars_skip (c :: rest) [] rest cs)

/-- **Joined lists, split again.** -/
theorem splitChars_intercalate (hparts : parts ≠ []) (h : ∀ part ∈ parts, c ∉ part) :
    splitChars (c :: rest) 0 [] ((c :: rest).intercalate parts) = parts := by
  induction parts with
  | nil => exact absurd rfl hparts
  | cons part parts ih =>
      obtain ⟨hpart, hrest⟩ := List.forall_mem_cons.mp h
      cases parts with
      | nil =>
          rw [List.intercalate_singleton]
          have hlast := splitChars_part rest [] [] hpart
          rw [List.append_nil, List.append_nil] at hlast
          rw [hlast, splitChars, List.reverse_reverse]
      | cons next parts =>
          rw [List.intercalate_cons_cons, List.append_assoc, splitChars_part rest [] _ hpart,
            splitChars_sep, List.append_nil, List.reverse_reverse, ih (List.cons_ne_nil _ _) hrest]

/-- **The parts, joined again.** -/
theorem intercalate_splitChars (skip : Nat) (cur cs : List Char) :
    (c :: rest).intercalate (splitChars (c :: rest) skip cur cs) = cur.reverse ++ cs.drop skip := by
  induction cs generalizing skip cur with
  | nil =>
      rw [List.drop_nil, List.append_nil]
      cases skip with
      | zero => exact List.intercalate_singleton
      | succ skip => exact List.intercalate_singleton
  | cons d cs ih =>
      cases skip with
      | succ skip =>
          rw [splitChars, ih, List.drop_succ_cons]
      | zero =>
          rw [splitChars, List.drop_zero]
          split
          · next hprefix =>
              obtain ⟨tail, htail⟩ := List.isPrefixOf_iff_prefix.mp hprefix
              obtain ⟨rfl, rfl⟩ := List.cons.inj htail
              rw [List.intercalate_cons_of_ne_nil (splitChars_ne_nil _ _ _ _), ih,
                List.reverse_nil, List.nil_append, List.length_cons, Nat.add_sub_cancel,
                List.append_eq, List.drop_left, List.append_assoc]
              rfl
          · rw [ih, List.drop_zero, List.reverse_cons, List.append_assoc, List.singleton_append]

/-- No part contains a separator of one character. -/
theorem not_mem_of_mem_splitChars {cur : List Char} (hcur : c ∉ cur)
    (h : part ∈ splitChars [c] 0 cur cs) : c ∉ part := by
  induction cs generalizing cur with
  | nil =>
      rw [splitChars, List.mem_singleton] at h
      rw [h, List.mem_reverse]
      exact hcur
  | cons d cs ih =>
      rw [splitChars] at h
      split at h
      · rcases List.mem_cons.mp h with rfl | h
        · rw [List.mem_reverse]
          exact hcur
        · exact ih List.not_mem_nil h
      · next hprefix =>
          refine ih (fun hmem => ?_) h
          rcases List.mem_cons.mp hmem with rfl | hmem
          · exact hprefix (List.isPrefixOf_iff_prefix.mpr ⟨cs, rfl⟩)
          · exact hcur hmem

end Chars

/-! ## §2. Texts. -/

section Texts

variable {sep s : String} {c : Char} {rest : List Char} {l : List String}

/-- The pieces, as lists of characters. -/
theorem toList_split (s sep : String) :
    (split s sep).map String.toList = splitChars sep.toList 0 [] s.toList := by
  unfold split
  rw [List.map_map]
  refine (List.map_congr_left fun cs _ => ?_).trans (List.map_id _)
  exact String.toList_ofList

/-- A text has one piece at least. -/
theorem split_ne_nil (s sep : String) : split s sep ≠ [] := by
  intro h
  refine splitChars_ne_nil sep.toList 0 [] s.toList ?_
  rw [← toList_split, h, List.map_nil]

/-- No piece has the separator. -/
theorem not_mem_of_mem_split {part : String} (hsep : sep.toList = [c]) (h : part ∈ split s sep) :
    c ∉ part.toList := by
  have hmem := List.mem_map_of_mem (f := String.toList) h
  rw [toList_split, hsep] at hmem
  exact not_mem_of_mem_splitChars List.not_mem_nil hmem

/-- **The parts, joined again.** -/
theorem intercalate_split (hsep : sep.toList = c :: rest) (s : String) :
    sep.intercalate (split s sep) = s := by
  rw [← String.toList_inj, String.toList_intercalate, toList_split, hsep, intercalate_splitChars]
  rfl

/-- **Joined texts, split again**: none of them contains the character that the separator
starts with. -/
theorem split_intercalate (hsep : sep.toList = c :: rest) (hl : l ≠ [])
    (h : ∀ t ∈ l, c ∉ t.toList) : split (sep.intercalate l) sep = l := by
  have hlists : (split (sep.intercalate l) sep).map String.toList = l.map String.toList := by
    rw [toList_split, String.toList_intercalate, hsep]
    refine splitChars_intercalate (by rw [Ne, List.map_eq_nil_iff]; exact hl) fun t ht => ?_
    obtain ⟨u, hu, rfl⟩ := List.mem_map.mp ht
    exact h u hu
  exact (List.map_inj_right fun _ _ => String.toList_inj.mp).mp hlists

/-- The parts of two texts with a separator between them. -/
theorem split_append (hsep : sep.toList = [c]) (a b : String) :
    split (a ++ (sep ++ b)) sep = split a sep ++ split b sep := by
  have hjoined : a ++ (sep ++ b) = sep.intercalate (split a sep ++ split b sep) := by
    rw [String.intercalate_append_of_ne_nil (split_ne_nil a sep) (split_ne_nil b sep),
      intercalate_split hsep, intercalate_split hsep, String.append_assoc]
  rw [hjoined]
  refine split_intercalate hsep (List.append_ne_nil_of_left_ne_nil (split_ne_nil a sep) _) ?_
  intro t ht
  rcases List.mem_append.mp ht with ht | ht
  · exact not_mem_of_mem_split hsep ht
  · exact not_mem_of_mem_split hsep ht

/-- A text has two parts exactly if there is one separator in it. -/
theorem split_eq_pair_iff (hsep : sep.toList = [c]) {a b : String} :
    split s sep = [a, b] ↔ s = a ++ sep ++ b ∧ c ∉ a.toList ∧ c ∉ b.toList := by
  have hjoin : sep.intercalate [a, b] = a ++ sep ++ b := rfl
  constructor
  · intro h
    refine ⟨?_, not_mem_of_mem_split hsep (h ▸ List.mem_cons_self),
      not_mem_of_mem_split hsep (h ▸ List.mem_cons_of_mem _ List.mem_cons_self)⟩
    rw [← hjoin, ← h, intercalate_split hsep]
  · rintro ⟨rfl, ha, hb⟩
    rw [← hjoin]
    refine split_intercalate hsep (List.cons_ne_nil _ _) fun t ht => ?_
    rcases List.mem_pair.mp ht with rfl | rfl
    · exact ha
    · exact hb

end Texts

end HwEfat.Lib
