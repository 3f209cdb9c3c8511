/-
  HwEfat.Lib.Comments — C comments and blanks between the characters of a text.

  A comment runs from `//` to the end of the line, or from `/*` to the first `*/` behind it; one
  that is not closed is none.  `Layout t s` says that `t` is `s` with comments and blanks put in.
  Then `s` is what is left of `t` without them (`unblank_deleteComments`), also if white space
  is trimmed at the ends first.
-/
import HwEfat.Lib.First

namespace HwEfat.Lib

/-! ## §1. Taking comments away. -/

/-- The length of the comment at the start of a text. -/
def commentLength : List Char → Option Nat
  | '/' :: '/' :: cs => some (2 + (cs.takeWhile (· != '\n')).length)
  | '/' :: '*' :: cs => (findChars ['*', '/'] cs).map (· + 4)
  | _ => none

/-- The text without its comments; `skip` characters of one are still to be passed over. -/
def deleteCommentChars : Nat → List Char → List Char
  | _, [] => []
  | skip + 1, _ :: cs => deleteCommentChars skip cs
  | 0, c :: cs =>
      match commentLength (c :: cs) with
      | some n => deleteCommentChars (n - 1) cs
      | none => c :: deleteCommentChars 0 cs

/-- `re.sub(r'//.*|/\*(\s|.)*?\*/', '', s)` -/
def deleteComments (s : String) : String := String.ofList (deleteCommentChars 0 s.toList)

/-- A blank. -/
def isBlank (c : Char) : Bool := c == ' ' || c == '\n' || c == '\r' || c == '\t'

/-- The text without its blanks. -/
def unblank (cs : List Char) : List Char := cs.filter fun c => !isBlank c

/-! ## §2. Layouts. -/

/-- A character that is neither white space nor part of a comment. -/
def Solid (c : Char) : Prop := c ≠ '/' ∧ isspace c = false

instance (c : Char) : Decidable (Solid c) := inferInstanceAs (Decidable (_ ∧ _))

/-- A test of the characters of a list. -/
theorem solid_of_all {l : List Char} (h : l.all (fun c => decide (Solid c)) = true) :
    ∀ c ∈ l, Solid c := by
  intro c hc
  exact of_decide_eq_true (List.all_eq_true.mp h c hc)

/-- A text with comments and blanks put in. -/
inductive Layout : List Char → List Char → Prop where
  | nil : Layout [] []
  | char {t s : List Char} (c : Char) (hc : Solid c) (h : Layout t s) : Layout (c :: t) (c :: s)
  | blank {t s : List Char} (c : Char) (hc : isBlank c = true) (h : Layout t s) : Layout (c :: t) s
  | line {t s : List Char} (body : List Char) (hbody : '\n' ∉ body)
      (hend : ∀ c ∈ t.head?, c = '\n') (h : Layout t s) : Layout ('/' :: '/' :: (body ++ t)) s
  | block {t s : List Char} (body : List Char) (hbody : FirstAt ['*', '/'] body)
      (h : Layout t s) : Layout ('/' :: '*' :: (body ++ ('*' :: '/' :: t))) s

section Chars

variable {c : Char} {cs t s : List Char}

/-- A blank is white space. -/
theorem isspace_of_isBlank (h : isBlank c = true) : isspace c = true := by
  simp only [isBlank, Bool.or_eq_true, beq_iff_eq] at h
  rcases h with ((rfl | rfl) | rfl) | rfl <;> decide

/-- A solid character is no blank. -/
theorem not_isBlank_of_solid (h : Solid c) : isBlank c = false := by
  cases hb : isBlank c with
  | false => rfl
  | true =>
      have hspace := isspace_of_isBlank hb
      rw [h.2] at hspace
      cases hspace

/-- Only a slash starts a comment. -/
theorem commentLength_cons (h : c ≠ '/') : commentLength (c :: cs) = none := by
  unfold commentLength
  split
  · next heq => exact absurd (List.cons.inj heq).1 h
  · next heq => exact absurd (List.cons.inj heq).1 h
  · rfl

/-- Everything else is kept. -/
theorem deleteCommentChars_cons (h : c ≠ '/') :
    deleteCommentChars 0 (c :: cs) = c :: deleteCommentChars 0 cs := by
  rw [deleteCommentChars, commentLength_cons h]

/-- The characters of a comment are passed over. -/
theorem deleteCommentChars_skip (l cs : List Char) :
    deleteCommentChars l.length (l ++ cs) = deleteCommentChars 0 cs := by
  induction l with
  | nil => rfl
  | cons c l ih => exact ih

/-- A comment of one line goes, its line feed stays. -/
theorem deleteCommentChars_line {body : List Char} (hbody : '\n' ∉ body)
    (hend : ∀ c ∈ t.head?, c = '\n') :
    deleteCommentChars 0 ('/' :: '/' :: (body ++ t)) = deleteCommentChars 0 t := by
  have htake : (body ++ t).takeWhile (· != '\n') = body := by
    rw [List.takeWhile_append_of_pos]
    · cases t with
      | nil => rw [List.takeWhile_nil, List.append_nil]
      | cons d t =>
          obtain rfl := hend d rfl
          rw [List.takeWhile_cons_of_neg (by simp), List.append_nil]
    · intro d hd
      rw [bne_iff_ne]
      rintro rfl
      exact hbody hd
  rw [deleteCommentChars, commentLength, htake]
  show deleteCommentChars (2 + body.length - 1) ('/' :: body ++ t) = _
  rw [show 2 + body.length - 1 = ('/' :: body).length by rw [List.length_cons]; omega,
    deleteCommentChars_skip]

/-- A block comment goes as far as its first end. -/
theorem deleteCommentChars_block {body : List Char} (hbody : FirstAt ['*', '/'] body) :
    deleteCommentChars 0 ('/' :: '*' :: (body ++ ('*' :: '/' :: t))) = deleteCommentChars 0 t := by
  have hfind : findChars ['*', '/'] (body ++ ('*' :: '/' :: t)) = some body.length :=
    findChars_append (List.cons_ne_nil _ _) hbody
  rw [deleteCommentChars, commentLength, hfind]
  show deleteCommentChars (body.length + 4 - 1) ('*' :: (body ++ ('*' :: '/' :: t))) = _
  have hlist : '*' :: (body ++ ('*' :: '/' :: t)) = ('*' :: (body ++ ['*', '/'])) ++ t := by
    simp
  rw [hlist, show body.length + 4 - 1 = ('*' :: (body ++ ['*', '/'])).length by simp,
    deleteCommentChars_skip]

/-- Nothing need be put in. -/
theorem Layout.solid_append {l : List Char} (hl : ∀ c ∈ l, Solid c) (h : Layout t s) :
    Layout (l ++ t) (l ++ s) := by
  induction l with
  | nil => exact h
  | cons c l ih =>
      obtain ⟨hc, hl⟩ := List.forall_mem_cons.mp hl
      exact .char c hc (ih hl)

/-- **What a layout is a layout of.**  Without its comments it is the text with blanks, and
there is no other white space. -/
theorem Layout.deleteCommentChars (h : Layout t s) :
    unblank (deleteCommentChars 0 t) = s ∧
      ∀ c ∈ HwEfat.Lib.deleteCommentChars 0 t, isspace c = true → isBlank c = true := by
  induction h with
  | nil => exact ⟨rfl, fun c hc => absurd hc List.not_mem_nil⟩
  | char c hc _ ih =>
      rw [deleteCommentChars_cons hc.1]
      refine ⟨?_, fun d hd hspace => ?_⟩
      · unfold unblank
        rw [List.filter_cons_of_pos (by rw [not_isBlank_of_solid hc]; rfl)]
        exact congrArg _ ih.1
      · rcases List.mem_cons.mp hd with rfl | hd
        · rw [hc.2] at hspace
          cases hspace
        · exact ih.2 d hd hspace
  | blank c hc _ ih =>
      have hne : c ≠ '/' := by
        rintro rfl
        exact absurd hc (by decide)
      rw [deleteCommentChars_cons hne]
      refine ⟨?_, fun d hd hspace => ?_⟩
      · unfold unblank
        rw [List.filter_cons_of_neg (by rw [hc]; exact Bool.false_ne_true)]
        exact ih.1
      · rcases List.mem_cons.mp hd with rfl | hd
        · exact hc
        · exact ih.2 d hd hspace
  -- Comments go as a whole, and leave nothing between what is around them.
  | line body hbody hend _ ih =>
      rw [deleteCommentChars_line hbody hend]
      exact ih
  | block body hbody _ ih =>
      rw [deleteCommentChars_block hbody]
      exact ih

end Chars

/-! ## §3. White space at the ends. -/

section Ends

variable {t s w : List Char}

/-- White space is a layout of nothing. -/
theorem Layout.eq_nil (h : Layout w s) (hw : ∀ c ∈ w, isspace c = true) : s = [] := by
  induction h with
  | nil => rfl
  | char c hc _ _ =>
      have hspace := hw c List.mem_cons_self
      rw [hc.2] at hspace
      cases hspace
  | blank c _ _ ih => exact ih fun d hd => hw d (List.mem_cons_of_mem _ hd)
  | line _ _ _ _ _ => exact absurd (hw '/' List.mem_cons_self) (by decide)
  | block _ _ _ _ => exact absurd (hw '/' List.mem_cons_self) (by decide)

/-- Where a text ends in white space, a character that is none is in front of that. -/
theorem cons_eq_append {c : Char} {cs t' : List Char} (hc : isspace c = false)
    (hw : ∀ d ∈ w, isspace d = true) (h : c :: cs = t' ++ w) :
    ∃ t'', t' = c :: t'' ∧ cs = t'' ++ w := by
  cases t' with
  | nil =>
      rw [List.nil_append] at h
      have hspace := hw c (h ▸ List.mem_cons_self)
      rw [hc] at hspace
      cases hspace
  | cons d t'' =>
      rw [List.cons_append] at h
      obtain ⟨rfl, hcs⟩ := List.cons.inj h
      exact ⟨t'', rfl, hcs⟩

/-- **White space at the end does not matter**, be it in a comment or behind it. -/
theorem Layout.of_append (h : Layout t s) :
    ∀ t', (∀ c ∈ w, isspace c = true) → t = t' ++ w → Layout t' s := by
  induction h with
  | nil =>
      intro t' _ ht
      rw [(List.append_eq_nil_iff.mp ht.symm).1]
      exact .nil
  | char c hc _ ih =>
      intro t' hw ht
      obtain ⟨t'', rfl, ht''⟩ := cons_eq_append hc.2 hw ht
      exact .char c hc (ih t'' hw ht'')
  | @blank t s c hc h ih =>
      intro t' hw ht
      cases t' with
      | nil =>
          have hs : s = [] := h.eq_nil fun d hd =>
            hw d (by rw [← List.nil_append w, ← ht]; exact List.mem_cons_of_mem _ hd)
          rw [hs]
          exact .nil
      | cons d t'' =>
          obtain ⟨rfl, ht''⟩ := List.cons.inj ht
          exact .blank c hc (ih t'' hw ht'')
  | @line t s body hbody hend h ih =>
      intro t' hw ht
      obtain ⟨t₁, rfl, ht₁⟩ := cons_eq_append (by decide) hw ht
      obtain ⟨t₂, rfl, ht₂⟩ := cons_eq_append (by decide) hw ht₁
      rcases List.append_eq_append_iff.mp ht₂ with ⟨rest, hbody', htail⟩ | ⟨rest, hbody', htail⟩
      · -- the text goes on behind the comment
        rw [hbody']
        refine .line body hbody (fun c hc => hend c ?_) (ih rest hw htail)
        rw [htail]
        exact List.mem_head?_append_of_mem_head? hc
      · -- the white space starts in the comment
        have hs : s = [] := h.eq_nil fun d hd =>
          hw d (by rw [htail]; exact List.mem_append_right _ hd)
        rw [hs, ← List.append_nil t₂]
        refine .line t₂ (fun hmem => hbody ?_) (fun c hc => absurd hc (by simp)) .nil
        rw [hbody']
        exact List.mem_append_left _ hmem
  | @block t s body hbody h ih =>
      intro t' hw ht
      obtain ⟨t₁, rfl, ht₁⟩ := cons_eq_append (by decide) hw ht
      obtain ⟨t₂, rfl, ht₂⟩ := cons_eq_append (by decide) hw ht₁
      rcases List.append_eq_append_iff.mp ht₂ with ⟨rest, hbody', htail⟩ | ⟨rest, hbody', htail⟩
      · obtain ⟨t₃, rfl, ht₃⟩ := cons_eq_append (by decide) hw htail
        obtain ⟨t₄, rfl, ht₄⟩ := cons_eq_append (by decide) hw ht₃
        rw [hbody']
        exact .block body hbody (ih t₄ hw ht₄)
      · -- the white space would contain the end of the comment
        refine absurd (hw '*' ?_) (by decide)
        rw [htail]
        exact List.mem_append_right _ List.mem_cons_self

/-- Cutting blanks off at both ends does not matter where all blanks go. -/
theorem unblank_strip {cs : List Char} (h : ∀ c ∈ cs, isspace c = true → isBlank c = true) :
    unblank ((cs.dropWhile isspace).rdropWhile isspace) = unblank cs := by
  -- a blank that is dropped would be filtered out
  have hdrop : ∀ l : List Char, (∀ c ∈ l, isspace c = true → isBlank c = true) →
      unblank (l.dropWhile isspace) = unblank l := by
    intro l hl
    induction l with
    | nil => rfl
    | cons c l ih =>
        rw [List.dropWhile_cons]
        split
        · next hspace =>
            rw [ih fun d hd => hl d (List.mem_cons_of_mem _ hd)]
            unfold unblank
            rw [List.filter_cons_of_neg]
            rw [hl c List.mem_cons_self hspace]
            exact Bool.false_ne_true
        · rfl
  have hrev : ∀ l : List Char, unblank l.reverse = (unblank l).reverse := fun l =>
    List.filter_reverse
  unfold List.rdropWhile
  rw [hrev, hdrop, hrev, List.reverse_reverse, hdrop cs h]
  intro c hc
  rw [List.mem_reverse] at hc
  exact h c ((List.dropWhile_sublist _).subset hc)

/-- **The text of a layout**: trimmed, without its comments, trimmed again and without its
blanks. -/
theorem unblank_deleteComments {text : String} {c : Char} {cs : List Char}
    (hsolid : Solid c) (htext : text.toList = c :: cs) (h : Layout text.toList s) :
    unblank (strip (deleteComments (strip text))).toList = s := by
  have hstart : text.toList.dropWhile isspace = text.toList := by
    rw [htext, List.dropWhile_cons_of_neg]
    rw [hsolid.2]
    exact Bool.false_ne_true
  have htrim : Layout (text.toList.rdropWhile isspace) s := by
    refine h.of_append (w := text.toList.rtakeWhile isspace) _ (fun d hd => ?_) ?_
    · exact List.mem_rtakeWhile_imp hd
    · exact List.rdropWhile_append_rtakeWhile.symm
  obtain ⟨hdelete, hblank⟩ := htrim.deleteCommentChars
  unfold strip deleteComments
  rw [String.toList_ofList, String.toList_ofList, String.toList_ofList, hstart,
    unblank_strip hblank]
  exact hdelete

end Ends

end HwEfat.Lib
