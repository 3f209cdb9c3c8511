/-
  HwEfat.Lib.Bracketed — lists that are written in brackets.

  The elements of `[a,b,c]` are found by cutting off the brackets and splitting at the commas.
  That reads a list exactly if the text is one of its renderings (`mapM_split_eq_ok`).  The
  brackets of the elements can be taken for separators (`brackets_intercalate`), and spaces can
  be taken away (`removeSpaces_intercalate`).
-/
import Mathlib.Data.Set.List
import HwEfat.Lib.Collect
import HwEfat.Lib.Infix
import HwEfat.Lib.Split
import HwEfat.Lib.Text

namespace HwEfat.Lib

variable {α : Type}

/-! ## §1. Renderings. -/

/-- `"[" + s + "]"` -/
def brackets (s : String) : String := "[" ++ s ++ "]"

/-- `s.replace(' ', '')` -/
def removeSpaces (s : String) : String := String.ofList (s.toList.filter (· != ' '))

/-- Nothing but spaces. -/
def Spaces (s : String) : Prop := ∀ c ∈ s.toList, c = ' '

/-- An element with spaces around. -/
def Spaced (elem : String → α → Prop) (t : String) (a : α) : Prop :=
  ∃ left core right, Spaces left ∧ Spaces right ∧ t = left ++ core ++ right ∧ elem core a

/-- Brackets with no element between them; it is left open whether there may be spaces. -/
def EmptyBrackets (loose : Bool) (s : String) : Prop :=
  ∃ spaces, Spaces spaces ∧ (loose = false → spaces = "") ∧ s = brackets spaces

/-- Elements in brackets, with commas between them. -/
def Elements (elem : String → α → Prop) (s : String) (l : List α) : Prop :=
  l ≠ [] ∧ ∃ texts, List.Forall₂ elem texts l ∧ s = brackets (",".intercalate texts)

/-- How a list is written. -/
def RendersList (loose : Bool) (elem : String → α → Prop) (s : String) (l : List α) : Prop :=
  (l = [] ∧ EmptyBrackets loose s) ∨ Elements elem s l

/-! ## §2. Brackets. -/

section Brackets

variable {s t : String}

/-- The characters of a text in brackets. -/
theorem toList_brackets (s : String) : (brackets s).toList = '[' :: (s.toList ++ [']']) := by
  unfold brackets
  rw [String.toList_append, String.toList_append]
  rfl

/-- Texts in brackets are equal if they are equal inside. -/
theorem brackets_inj : brackets s = brackets t ↔ s = t := by
  unfold brackets
  rw [String.append_left_inj, String.append_right_inj]

theorem emptyBrackets_nil (loose : Bool) : EmptyBrackets loose "[]" :=
  ⟨"", fun _ hc => absurd hc List.not_mem_nil, fun _ => rfl, rfl⟩

/-- Brackets are no white space. -/
theorem strip_brackets (s : String) : strip (brackets s) = brackets s := by
  unfold strip
  rw [toList_brackets, List.dropWhile_cons_of_neg (by decide), ← List.cons_append,
    List.rdropWhile_concat_neg (p := isspace) _ _ (by decide), ← String.toList_inj,
    String.toList_ofList, toList_brackets, List.cons_append]

/-- A text between two others. -/
theorem slice_around (l m r : String) :
    slice (l ++ m ++ r) l.length ((l ++ m ++ r).length - r.length) = m := by
  unfold slice
  rw [← String.length_toList, ← String.length_toList, ← String.length_toList, String.toList_append,
    String.toList_append, List.length_append, Nat.add_sub_cancel, List.take_left, List.drop_left,
    String.ofList_toList]

/-- **In brackets**: the first and the last character are one. -/
theorem eq_brackets_iff {c : Char} {cs : List Char} (hs : s.toList = c :: cs) :
    (c = '[' ∧ (c :: cs).getLast (List.cons_ne_nil c cs) = ']') ↔ ∃ t, s = brackets t := by
  constructor
  · rintro ⟨rfl, hlast⟩
    cases hcs : cs with
    | nil =>
        subst hcs
        cases hlast
    | cons d ds =>
        have hne : cs ≠ [] := by
          rw [hcs]
          exact List.cons_ne_nil d ds
        rw [List.getLast_cons hne] at hlast
        refine ⟨String.ofList cs.dropLast, String.toList_inj.mp ?_⟩
        rw [toList_brackets, String.toList_ofList, hs, ← hlast, List.dropLast_concat_getLast hne]
  · rintro ⟨t, rfl⟩
    rw [toList_brackets] at hs
    obtain ⟨rfl, rfl⟩ := List.cons.inj hs
    refine ⟨rfl, ?_⟩
    rw [List.getLast_cons (List.append_ne_nil_of_right_ne_nil _ (List.cons_ne_nil _ _)),
      List.getLast_append_singleton]

/-- **In double brackets.** -/
theorem double_brackets_iff :
    (startswith s "[[" = true ∧ endswith s "]]" = true) ↔ ∃ t, s = brackets (brackets t) := by
  unfold startswith endswith
  rw [List.isPrefixOf_iff_prefix, List.isSuffixOf_iff_suffix]
  constructor
  · rintro ⟨⟨rest, hrest⟩, hsuffix⟩
    rw [← hrest] at hsuffix
    rcases suffix_or_append_suffix hsuffix with ⟨t, ht⟩ | ⟨front, hfront, hin⟩
    · refine ⟨String.ofList t, String.toList_inj.mp ?_⟩
      rw [toList_brackets, toList_brackets, String.toList_ofList, ← hrest, ← ht]
      simp
    · -- The brackets at the start are no brackets of the end.
      cases front with
      | nil =>
          refine ⟨"", String.toList_inj.mp ?_⟩
          rw [← hrest, ← (show _ = rest from hfront)]
          rfl
      | cons c front =>
          have hclose : c = ']' := (List.cons.inj hfront).1.symm
          have hopen : ']' ∈ "[[".toList := hclose ▸ hin.subset List.mem_cons_self
          exact absurd hopen (by decide)
  · rintro ⟨t, rfl⟩
    rw [toList_brackets, toList_brackets]
    refine ⟨⟨t.toList ++ [']'] ++ [']'], rfl⟩, ⟨'[' :: '[' :: t.toList, ?_⟩⟩
    simp

end Brackets

/-! ## §3. Reading. -/

section Reading

variable {elem : String → α → Prop} {s : String} {l : List α}

/-- A character of a list with commas is a comma, or in one of the texts. -/
theorem mem_intercalate_comma {texts : List String} {c : Char}
    (h : c ∈ (",".intercalate texts).toList) : c = ',' ∨ ∃ t ∈ texts, c ∈ t.toList := by
  induction texts with
  | nil => exact absurd h List.not_mem_nil
  | cons t texts ih =>
      cases texts with
      | nil =>
          rw [String.intercalate_singleton] at h
          exact Or.inr ⟨t, List.mem_cons_self, h⟩
      | cons u texts =>
          rw [String.intercalate_cons_cons, String.toList_append, String.toList_append] at h
          rcases List.mem_append.mp h with h | h
          · rcases List.mem_append.mp h with h | h
            · exact Or.inr ⟨t, List.mem_cons_self, h⟩
            · exact Or.inl (List.mem_singleton.mp h)
          · exact (ih h).imp_right fun ⟨v, hv, hc⟩ => ⟨v, List.mem_cons_of_mem t hv, hc⟩

theorem comma_toList : ",".toList = [','] := rfl

theorem closeOpen_toList : "],[".toList = [']', ',', '['] := rfl

/-- **Reading the elements**: `elem` says what is read, and that has no comma. -/
theorem mapM_split_eq_ok {read : String → Except PyError α}
    (hread : ∀ t a, read t = .ok a ↔ elem t a) (hcomma : ∀ t a, elem t a → ',' ∉ t.toList) :
    (split s ",").mapM read = .ok l ↔ Elements elem (brackets s) l := by
  rw [mapM_eq_ok]
  constructor
  · intro h
    refine ⟨?_, split s ",", h.imp fun t a => (hread t a).mp, ?_⟩
    · rintro rfl
      exact split_ne_nil s "," (List.forall₂_nil_right_iff.mp h)
    · rw [intercalate_split comma_toList]
  · rintro ⟨hne, texts, htexts, hs⟩
    have hsplit : split s "," = texts := by
      rw [brackets_inj.mp hs]
      refine split_intercalate comma_toList ?_ fun t ht => ?_
      · rintro rfl
        exact hne (List.forall₂_nil_left_iff.mp htexts)
      · obtain ⟨a, _, ha⟩ := exists_of_forall₂ htexts.flip ht
        exact hcomma t a ha
    rw [hsplit]
    exact htexts.imp fun t a => (hread t a).mpr

/-- The brackets of the elements and the commas between them. -/
theorem brackets_intercalate {parts : List String} (hne : parts ≠ []) :
    brackets ("],[".intercalate parts) = ",".intercalate (parts.map brackets) := by
  induction parts with
  | nil => exact absurd rfl hne
  | cons p parts ih =>
      cases parts with
      | nil => rw [List.map_singleton, String.intercalate_singleton, String.intercalate_singleton]
      | cons q parts =>
          have hrest := ih (List.cons_ne_nil q parts)
          rw [List.map_cons] at hrest
          rw [List.map_cons, List.map_cons, String.intercalate_cons_cons,
            String.intercalate_cons_cons, ← hrest]
          unfold brackets
          rw [← String.toList_inj]
          simp [String.toList_append]

/-- Elements in brackets of their own. -/
theorem Elements.exists_parts (h : Elements elem s l)
    (helem : ∀ t a, elem t a → ∃ p, brackets p = t) :
    ∃ parts : List String, parts ≠ [] ∧ List.Forall₂ (fun p a => elem (brackets p) a) parts l ∧
      s = brackets (brackets ("],[".intercalate parts)) := by
  obtain ⟨hne, texts, htexts, hs⟩ := h
  obtain ⟨parts, rfl⟩ : ∃ parts : List String, parts.map brackets = texts := by
    rw [← Set.mem_range, Set.range_list_map]
    intro t ht
    obtain ⟨a, _, ha⟩ := exists_of_forall₂ htexts.flip ht
    exact helem t a ha
  have hparts : parts ≠ [] := by
    rintro rfl
    exact hne (List.forall₂_nil_left_iff.mp htexts)
  refine ⟨parts, hparts, List.forall₂_map_left_iff.mp htexts, ?_⟩
  rw [hs, brackets_intercalate hparts]

/-- **Reading lists in a list**: the brackets between the elements separate them, since there are
no others in an element. -/
theorem mapM_split_brackets_eq_ok {read : String → Except PyError α}
    (hread : ∀ p a, read p = .ok a ↔ elem (brackets p) a)
    (helem : ∀ t a, elem t a → ∃ p, brackets p = t ∧ ']' ∉ p.toList) :
    (split s "],[").mapM read = .ok l ↔ Elements elem (brackets (brackets s)) l := by
  rw [mapM_eq_ok]
  constructor
  · intro h
    have hne : split s "],[" ≠ [] := split_ne_nil s "],["
    refine ⟨?_, (split s "],[").map brackets,
      List.forall₂_map_left_iff.mpr (h.imp fun p a => (hread p a).mp), ?_⟩
    · rintro rfl
      exact hne (List.forall₂_nil_right_iff.mp h)
    · rw [← brackets_intercalate hne, intercalate_split closeOpen_toList]
  · intro h
    obtain ⟨parts, hne, hparts, hs⟩ := h.exists_parts fun t a ha =>
      (helem t a ha).imp fun p hp => hp.1
    have hsplit : split s "],[" = parts := by
      rw [brackets_inj, brackets_inj] at hs
      rw [hs]
      refine split_intercalate closeOpen_toList hne fun p hp => ?_
      obtain ⟨a, _, ha⟩ := exists_of_forall₂ hparts.flip hp
      obtain ⟨p', hp', hnot⟩ := helem _ a ha
      rw [← brackets_inj.mp hp']
      exact hnot
    rw [hsplit]
    exact hparts.imp fun p a => (hread p a).mpr

end Reading

/-! ## §4. Taking spaces away. -/

section RemoveSpaces

variable {elem elem' : String → α → Prop} {s t : String} {l : List α}

/-- The characters that are left. -/
theorem toList_removeSpaces (s : String) :
    (removeSpaces s).toList = s.toList.filter (· != ' ') := String.toList_ofList

/-- Spaces are removed from two pieces as from the whole. -/
theorem removeSpaces_append (s t : String) :
    removeSpaces (s ++ t) = removeSpaces s ++ removeSpaces t := by
  rw [← String.toList_inj, String.toList_append]
  simp only [toList_removeSpaces, String.toList_append, List.filter_append]

/-- Of spaces nothing is left. -/
theorem removeSpaces_spaces (h : Spaces s) : removeSpaces s = "" := by
  rw [← String.toList_inj, toList_removeSpaces]
  refine List.filter_eq_nil_iff.mpr fun c hc => ?_
  rw [h c hc]
  decide

/-- Brackets stay. -/
theorem removeSpaces_brackets (s : String) :
    removeSpaces (brackets s) = brackets (removeSpaces s) := by
  unfold brackets
  rw [removeSpaces_append, removeSpaces_append]
  rfl

/-- Commas stay. -/
theorem removeSpaces_intercalate (texts : List String) :
    removeSpaces (",".intercalate texts) = ",".intercalate (texts.map removeSpaces) := by
  induction texts with
  | nil => rfl
  | cons t texts ih =>
      cases texts with
      | nil => rw [List.map_singleton, String.intercalate_singleton, String.intercalate_singleton]
      | cons u texts =>
          rw [List.map_cons] at ih
          rw [List.map_cons, List.map_cons, String.intercalate_cons_cons,
            String.intercalate_cons_cons, removeSpaces_append, removeSpaces_append, ih]
          rfl

/-- An element without the spaces around. -/
theorem Spaced.removeSpaces {a : α} (h : Spaced elem t a) :
    ∃ core, elem core a ∧ removeSpaces t = removeSpaces core := by
  obtain ⟨left, core, right, hleft, hright, rfl, hcore⟩ := h
  refine ⟨core, hcore, ?_⟩
  rw [removeSpaces_append, removeSpaces_append, removeSpaces_spaces hleft,
    removeSpaces_spaces hright, String.append_empty, String.empty_append]

/-- **A list without spaces.** -/
theorem Elements.removeSpaces (h : Elements elem s l)
    (helem : ∀ t a, a ∈ l → elem t a → elem' (removeSpaces t) a) :
    Elements elem' (removeSpaces s) l := by
  obtain ⟨hne, texts, htexts, rfl⟩ := h
  refine ⟨hne, texts.map HwEfat.Lib.removeSpaces, List.forall₂_map_left_iff.mpr
    ((forall₂_mem htexts).imp fun t a h => helem t a h.2.2 h.1), ?_⟩
  rw [removeSpaces_brackets, removeSpaces_intercalate]

end RemoveSpaces

end HwEfat.Lib
