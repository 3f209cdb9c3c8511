/-
  HwEfat.AutoSchedule.InterfaceCheck.SubFuncs — `remove_sub_func_under_func`, and the header
  lines that it is meant for.

  A header is a line that declares a class, a function or a global variable, indented by four
  spaces for each header that it is under.  What the program reads of such a line, with or
  without the white space behind it, is collected in §3.
-/
import HwEfat.Lib.Infix
import HwEfat.AutoSchedule.InterfaceCheck.Def

namespace HwEfat.AutoSchedule.InterfaceCheck

open HwEfat.Lib

variable {upper lower : Char → Bool}

/-! ## §1. Removing the functions in functions. -/

/-- The variables of the loop; `type_name` is that of the line before until the line is found
to be something. -/
structure RemoveState where
  treeInfo : List String
  typeName : Option String
  newLines : List String

/-- `type_name`, after the line has been looked at -/
def typeNameOf (upper lower : Char → Bool) (line : String) (typeName : Option String) :
    Option String :=
  if startswith (strip line) "def " then some "func"
  else if startswith (strip line) "class " then some "class"
  else if isGlobalVariable upper lower line then
    match strIndex line "=" with
    | .ok i => some (rstrip (slice line 0 i))
    | .error _ => typeName
  else typeName

/-- `tree_info[min(len(tree_info) - 1, idx - 1)] == "func"` -/
def underFunc (treeInfo : List String) (idx : Nat) : Bool :=
  treeInfo[min (treeInfo.length - 1) (idx - 1)]? == some "func"

/-- The body of the loop. -/
def removeLine (upper lower : Char → Bool) (st : RemoveState) (line : String) :
    Except PyError RemoveState :=
  let idx := getTreeIdx line
  match typeNameOf upper lower line st.typeName with
  | none => .error (.raised "UnboundLocalError" 0)
  | some typeName =>
      if typeName = "func" ∧ underFunc st.treeInfo idx then
        .ok { st with typeName := some typeName }
      else
        .ok
          { treeInfo :=
              if st.treeInfo.length ≤ idx then st.treeInfo ++ [typeName]
              else st.treeInfo.set idx typeName
            typeName := some typeName
            newLines := st.newLines ++ [line] }

/-- The loop, over some of the lines. -/
def removeLines (upper lower : Char → Bool) (lines : List String) : Except PyError RemoveState :=
  lines.foldlM (removeLine upper lower) { treeInfo := [""], typeName := none, newLines := [] }

/-- `remove_sub_func_under_func` -/
def removeSubFuncUnderFunc (upper lower : Char → Bool) (lines : List String) :
    Except PyError (List String) := do
  let st ← removeLines upper lower lines
  .ok st.newLines

/-! ## §2. Headers. -/

/-- What a header declares. -/
inductive HeaderKind where
  | cls
  | func
  | globalVar
  deriving Repr, DecidableEq

/-- A header line: a class, a function with its parentheses, or at top level a global
variable. -/
structure Header (upper lower : Char → Bool) where
  kind : HeaderKind
  level : Nat
  line : String
  indented : ∃ c rest, isspace c = false ∧ c ≠ '#' ∧
    line.toList = List.replicate (4 * level) ' ' ++ c :: rest
  cls_line : kind = .cls → startswith (strip line) "class " = true ∧
    (contains line "(" = true → contains line ")" = true)
  func_line : kind = .func → startswith (strip line) "def " = true ∧
    contains line "(" = true ∧ contains line ")" = true
  global_line : kind = .globalVar → level = 0 ∧ startswith (strip line) "def " = false ∧
    startswith (strip line) "class " = false ∧ isGlobalVariable upper lower line = true

/-- The headers that are open after a header: those that a line further in is under. -/
def push (scope : List (Header upper lower)) (h : Header upper lower) :
    List (Header upper lower) :=
  if h.kind = .globalVar then [] else scope.take h.level ++ [h]

/-- The headers that are open after some headers, from the outermost to the innermost one. -/
def openHeaders (headers : List (Header upper lower)) : List (Header upper lower) :=
  headers.foldl push []

/-- The headers that a header is under. -/
def enclosing (before : List (Header upper lower)) (h : Header upper lower) :
    List (Header upper lower) :=
  (openHeaders before).take h.level

/-- No header is further in than just under the innermost open one. -/
def WellNested (headers : List (Header upper lower)) : Prop :=
  ∀ before h after, headers = before ++ h :: after → h.level ≤ (openHeaders before).length

/-- A further header is pushed on those that are open. -/
theorem openHeaders_concat (headers : List (Header upper lower)) (h : Header upper lower) :
    openHeaders (headers ++ [h]) = push (openHeaders headers) h := by
  unfold openHeaders
  rw [List.foldl_append]
  rfl

/-! ## §3. The text of a header. -/

section Text

variable {s sub : String} {l rest : List Char} {c : Char}

/-- `sub in s` -/
theorem contains_iff : contains s sub = true ↔ sub.toList <:+: s.toList :=
  rfindChars_isSome_iff

/-- A text is found exactly if it is a part. -/
theorem findChars_isSome_iff {sub cs : List Char} :
    (findChars sub cs).isSome = true ↔ sub <:+: cs := by
  induction cs with
  | nil =>
      unfold findChars
      cases sub <;> simp
  | cons d cs ih =>
      unfold findChars
      rw [List.infix_cons_iff, ← ih]
      by_cases hpre : sub.isPrefixOf (d :: cs) = true
      · rw [if_pos hpre]
        exact iff_of_true rfl (Or.inl (List.isPrefixOf_iff_prefix.mp hpre))
      · rw [if_neg hpre, Option.isSome_map]
        exact (or_iff_right fun h => hpre (List.isPrefixOf_iff_prefix.mpr h)).symm

/-- `index` finds what `in` finds. -/
theorem strIndex_iff : (∃ i, strIndex s sub = .ok i) ↔ contains s sub = true := by
  rw [contains_iff, ← findChars_isSome_iff]
  unfold strIndex
  cases findChars sub.toList s.toList with
  | none => simp
  | some i => simp

/-- White space behind a character that is none. -/
theorem rdropWhile_append_cons (p : Char → Bool) (hc : p c = false) :
    (l ++ c :: rest).rdropWhile p = l ++ c :: rest.rdropWhile p := by
  unfold List.rdropWhile
  rw [List.reverse_append, List.reverse_cons, List.append_assoc, List.singleton_append,
    List.dropWhile_append]
  have hstop : (c :: l.reverse).dropWhile p = c :: l.reverse := by
    rw [List.dropWhile_cons_of_neg (by simp [hc])]
  by_cases hnil : (rest.reverse.dropWhile p).isEmpty = true
  · rw [if_pos hnil, hstop, List.isEmpty_iff.mp hnil]
    simp
  · rw [if_neg hnil]
    simp

/-- Four spaces are one level. -/
theorem getTreeIdxChars_replicate (hc : c ≠ ' ') (n : Nat) :
    getTreeIdxChars (List.replicate (4 * n) ' ' ++ c :: rest) = n + 1 := by
  induction n with
  | zero =>
      rw [Nat.mul_zero, List.replicate_zero, List.nil_append]
      unfold getTreeIdxChars
      split
      · next heq =>
          rw [List.cons.injEq] at heq
          exact absurd heq.1 hc
      · rfl
  | succ n ih =>
      have hfour : List.replicate (4 * (n + 1)) ' ' ++ c :: rest
          = ' ' :: ' ' :: ' ' :: ' ' :: (List.replicate (4 * n) ' ' ++ c :: rest) := by
        rw [Nat.mul_succ, Nat.add_comm, List.replicate_add, List.append_assoc]
        rfl
      rw [hfour, getTreeIdxChars, ih, Nat.add_comm]

/-- What is looked for before the white space behind. -/
theorem findChars_append_right {ch : Char} {w : List Char} (hw : ch ∉ w) :
    findChars [ch] (l ++ w) = findChars [ch] l := by
  induction l with
  | nil =>
      have hnone : findChars [ch] w = none := by
        rw [← Option.not_isSome_iff_eq_none, findChars_isSome_iff]
        intro h
        exact hw (h.subset List.mem_cons_self)
      rw [List.nil_append, hnone]
      rfl
  | cons d l ih =>
      rw [List.cons_append, findChars, findChars, ih]
      have hpre : [ch].isPrefixOf (d :: (l ++ w)) = [ch].isPrefixOf (d :: l) := by
        simp [List.isPrefixOf]
      rw [hpre]

/-- A character is found inside the text. -/
theorem findChars_lt {ch : Char} {i : Nat} (h : findChars [ch] l = some i) : i < l.length := by
  induction l generalizing i with
  | nil => cases h
  | cons d l ih =>
      rw [findChars] at h
      split at h
      · cases h
        exact Nat.succ_pos _
      · obtain ⟨j, hj, rfl⟩ := Option.map_eq_some_iff.mp h
        exact Nat.succ_lt_succ (ih hj)

end Text

namespace Header

variable (h : Header upper lower)

/-- A header without the white space around it and behind it. -/
theorem exists_text : ∃ c t w, isspace c = false ∧ c ≠ '#' ∧ (∀ x ∈ w, isspace x = true) ∧
    (strip h.line).toList = c :: t ∧
    (rstrip h.line).toList = List.replicate (4 * h.level) ' ' ++ c :: t ∧
    h.line.toList = (rstrip h.line).toList ++ w := by
  obtain ⟨c, rest, hc, hhash, hline⟩ := h.indented
  have hspaces : (h.line.toList).dropWhile isspace = c :: rest := by
    have hall : ∀ x ∈ List.replicate (4 * h.level) ' ', isspace x = true := fun x hx => by
      rw [List.eq_of_mem_replicate hx]
      decide
    rw [hline, List.dropWhile_append_of_pos hall, List.dropWhile_cons_of_neg (by simp [hc])]
  have hrstrip : (rstrip h.line).toList
      = List.replicate (4 * h.level) ' ' ++ c :: rest.rdropWhile isspace := by
    unfold rstrip
    rw [String.toList_ofList, hline, rdropWhile_append_cons isspace hc]
  refine ⟨c, rest.rdropWhile isspace, rest.rtakeWhile isspace, hc, hhash,
    fun x hx => List.mem_rtakeWhile_imp hx, ?_, hrstrip, ?_⟩
  · unfold strip
    rw [String.toList_ofList, hspaces]
    exact rdropWhile_append_cons (l := []) isspace hc
  · rw [hrstrip, hline, List.append_assoc, List.cons_append, List.rdropWhile_append_rtakeWhile]

/-- The level of a header without the white space behind it. -/
theorem getTreeIdx_rstrip : getTreeIdx (rstrip h.line) = h.level + 1 := by
  obtain ⟨c, t, _, hc, _, _, _, hrstrip, _⟩ := h.exists_text
  unfold getTreeIdx
  rw [hrstrip]
  refine getTreeIdxChars_replicate (fun hspace => ?_) h.level
  rw [hspace] at hc
  cases hc

/-- The level of a header as the program computes it. -/
theorem getTreeIdx_line : getTreeIdx h.line = h.level + 1 := by
  obtain ⟨c, rest, hc, _, hline⟩ := h.indented
  unfold getTreeIdx
  rw [hline]
  refine getTreeIdxChars_replicate (fun hspace => ?_) h.level
  rw [hspace] at hc
  cases hc

/-- A header is no comment. -/
theorem not_comment : startswith (rstrip h.line) "#" = false := by
  obtain ⟨c, t, _, _, hhash, _, _, hrstrip, _⟩ := h.exists_text
  unfold startswith
  rw [hrstrip]
  cases hlevel : 4 * h.level with
  | zero => simpa [List.isPrefixOf] using hhash.symm
  | succ n => simp [List.replicate_succ, List.isPrefixOf]

/-- A character that is no white space is in the text. -/
theorem mem_texts {d : Char} (hd : isspace d = false) :
    (d ∈ (rstrip h.line).toList ↔ d ∈ h.line.toList) ∧
      (d ∈ (strip h.line).toList ↔ d ∈ h.line.toList) := by
  obtain ⟨c, t, w, _, _, hw, hstrip, hrstrip, hline⟩ := h.exists_text
  have hnotw : d ∉ w := fun hmem => by
    rw [hw d hmem] at hd
    cases hd
  have hnots : d ∉ List.replicate (4 * h.level) ' ' := fun hmem => by
    rw [List.eq_of_mem_replicate hmem] at hd
    cases hd
  rw [hline, List.mem_append, or_iff_left hnotw]
  refine ⟨Iff.rfl, ?_⟩
  rw [hstrip, hrstrip, List.mem_append, or_iff_right hnots]

/-- The parentheses of a line are in what is left of it. -/
theorem contains_texts {paren : String} (hparen : paren ∈ ["(", ")"]) :
    (contains (rstrip h.line) paren = true ↔ contains h.line paren = true) ∧
      (contains (strip h.line) paren = true ↔ contains h.line paren = true) := by
  obtain ⟨c, hlist, hc⟩ : ∃ c, paren.toList = [c] ∧ isspace c = false := by
    rcases List.mem_pair.mp hparen with rfl | rfl
    · exact ⟨'(', rfl, rfl⟩
    · exact ⟨')', rfl, rfl⟩
  rw [contains_iff_mem hlist, contains_iff_mem hlist, contains_iff_mem hlist]
  exact h.mem_texts hc

/-- What the text starts with is in the line. -/
theorem contains_of_startswith {s sub : String} (hs : startswith (strip h.line) s = true)
    (hsub : sub.toList <+: s.toList) : contains (rstrip h.line) sub = true := by
  obtain ⟨c, t, _, _, _, _, hstrip, hrstrip, _⟩ := h.exists_text
  unfold startswith at hs
  rw [List.isPrefixOf_iff_prefix, hstrip] at hs
  rw [contains_iff, hrstrip]
  exact (hsub.trans hs).isInfix.trans (List.suffix_append _ _).isInfix

/-- The white space behind does not matter for a global variable. -/
theorem isGlobalVariable_rstrip (hkind : h.kind = .globalVar) :
    isGlobalVariable upper lower (rstrip h.line) = true := by
  obtain ⟨hlevel, _, _, hglobal⟩ := h.global_line hkind
  obtain ⟨c, t, w, hc, _, hw, _, hrstrip, hline⟩ := h.exists_text
  have hnotw : '=' ∉ w := fun hmem => absurd (hw '=' hmem) (by decide)
  have hstart : startswith (rstrip h.line) "    " = false := by
    unfold startswith
    rw [hrstrip, hlevel]
    have hne : ' ' ≠ c := fun heq => by
      rw [← heq] at hc
      cases hc
    simp [List.isPrefixOf, hne]
  unfold isGlobalVariable at hglobal ⊢
  rw [hstart, if_neg Bool.false_ne_true]
  split at hglobal
  · cases hglobal
  · -- The text in front of the first `=` is not touched by the stripping.
    have hindex : strIndex (rstrip h.line) "=" = strIndex h.line "=" := by
      unfold strIndex
      rw [hline]
      rw [show "=".toList = ['='] from rfl, findChars_append_right hnotw]
    rw [hindex]
    cases hi : strIndex h.line "=" with
    | error e =>
        rw [hi] at hglobal
        cases hglobal
    | ok i =>
        rw [hi] at hglobal
        have hlt : i < (rstrip h.line).toList.length := by
          rw [← hindex] at hi
          unfold strIndex at hi
          split at hi
          · next heq =>
              cases hi
              exact findChars_lt heq
          · cases hi
        have hslice : slice (rstrip h.line) 0 i = slice h.line 0 i := by
          unfold slice
          rw [hline, List.take_append_of_le_length hlt.le]
        dsimp only at hglobal ⊢
        rw [hslice]
        exact hglobal

end Header

end HwEfat.AutoSchedule.InterfaceCheck
