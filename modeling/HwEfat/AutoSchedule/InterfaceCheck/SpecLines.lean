/-
  HwEfat.AutoSchedule.InterfaceCheck.SpecLines — `get_spec_from_file`, on the lines of a file.

  The program goes through the lines with two flags, one for block comments and one for headers
  over several lines, and looks only for what a line contains and how it ends.  §3 says of a
  line, given where it stands in the text, that this is enough to read it.

  Main result: `extracts_iff`.
-/
import Mathlib.Data.List.Induction
import HwEfat.Lib.Except
import HwEfat.AutoSchedule.InterfaceCheck.SubFuncs
import HwEfat.AutoSchedule.InterfaceCheck.Interface

namespace HwEfat.AutoSchedule.InterfaceCheck

open HwEfat.Lib

variable {upper lower : Char → Bool}

/-! ## §1. The program. -/

/-- The variables of the loop. -/
structure ScanState where
  newLines : List String
  blockComment : Bool
  lineEnd : Bool

/-- `line[:line.index("#")]`, when there is a `#`. -/
def uncomment (line : String) : String :=
  match strIndex line "#" with
  | .ok i => slice line 0 i
  | .error _ => line

/-- `"def " in line or "class " in line` -/
def hasHeaderWord (line : String) : Bool := contains line "def " || contains line "class "

/-- `_get_new_lines` -/
def getNewLines (upper lower : Char → Bool) (line : String) (st : ScanState) : ScanState :=
  if hasHeaderWord line then
    if !endswith (rstrip line) ":" then
      { st with lineEnd := false, newLines := st.newLines ++ [rstrip line] }
    else { st with newLines := st.newLines ++ [rstrip line] }
  else if isGlobalVariable upper lower line then
    { st with newLines := st.newLines ++ [rstrip line] }
  else st

/-- The body of the loop. -/
def scanLine (upper lower : Char → Bool) (st : ScanState) (line : String) :
    Except PyError ScanState :=
  let tmpLine := strip line
  if st.blockComment then
    if contains tmpLine tripleQuotes then .ok { st with blockComment := false } else .ok st
  else if startswith tmpLine "#" then .ok st
  else if contains tmpLine tripleQuotes && !endswith tmpLine tripleQuotes then
    .ok { st with blockComment := true }
  else if st.lineEnd then .ok (getNewLines upper lower (uncomment line) st)
  else
    match st.newLines.getLast? with
    | none => .error (.indexError "list index out of range")
    | some last =>
        .ok
          { st with
            newLines := st.newLines.dropLast ++ [last ++ strip (uncomment line)]
            lineEnd := endswith (rstrip (uncomment line)) ":" }

/-- The loop, over some of the lines. -/
def scanLines (upper lower : Char → Bool) (lines : List String) : Except PyError ScanState :=
  lines.foldlM (scanLine upper lower) { newLines := [], blockComment := false, lineEnd := true }

/-- `get_spec_from_file`, on the lines of the file. -/
def getSpecFromFile (upper lower : Char → Bool) (lines : List String) :
    Except PyError (List String) := do
  let st ← scanLines upper lower lines
  .ok st.newLines

/-! ## §2. What it is to read a text. -/

/-- The variables that go with a text that has been read. -/
def ScanState.of (st : Source) : ScanState :=
  { newLines := st.interface, blockComment := st.place.isMarked, lineEnd := !st.inHeader }

/-- The interface is returned.  At every line the lines so far are those of the interface, and
the flags say whether the text is in a string in triple quotes of which the first line goes on
behind the quotes, and whether it is in a header. -/
structure Extracts (upper lower : Char → Bool) (lines : List String) : Prop where
  returned : getSpecFromFile upper lower lines = .ok (interface upper lower lines)
  follows : ∀ before after, lines = before ++ after →
    scanLines upper lower before = .ok (.of (source upper lower before))

/-! ## §3. Lines that can be read. -/

/-- The line begins no header, adds no text to one, and assigns no global variable. -/
structure AddsNothing (upper lower : Char → Bool) (st : Source) (line : String) : Prop where
  header : st.inHeader = true → strip (st.headOf line) = ""
  starts : st.startsHeader line = false
  assigns : st.assignsGlobal upper lower line = false

/-- A line that is no more looked at. -/
def skips (line : String) : Bool := startswith (strip line) "#" || hasQuotesInside line

/-- A line that is what the program takes it for, as it stands in the text.  A docstring of
which the first line ends in quotes is read like code. -/
structure Readable (upper lower : Char → Bool) (st : Source) (line : String) : Prop where
  /-- A marked string is over on its first line that has triple quotes. -/
  block : st.place.isMarked = true → AddsNothing upper lower st line ∧
    (st.read upper lower line).place.isMarked = !contains (strip line) tripleQuotes
  /-- Quotes that the line goes on behind open a string that the line does not close. -/
  skipped : st.place.isMarked = false → skips line = true → AddsNothing upper lower st line ∧
    (st.read upper lower line).place.isMarked = !startswith (strip line) "#"
  /-- What the line has of a header is what is in front of its first `#`, and the header is over
  on the first of its lines that ends in a colon there. -/
  begins : st.place.isMarked = false → skips line = false → st.startsHeader line = true →
    rstrip (uncomment line) = rstrip (st.headOf line) ∧
      endswith (rstrip (uncomment line)) ":" = st.endsHeader line
  goesOn : st.place.isMarked = false → skips line = false → st.inHeader = true →
    strip (uncomment line) = strip (st.headOf line) ∧
      endswith (rstrip (uncomment line)) ":" = st.endsHeader line
  /-- An assignment is what is in front of the first `#`, and looks like one and not like a
  header that goes on. -/
  assigns : st.place.isMarked = false → skips line = false →
    st.assignsGlobal upper lower line = true →
      rstrip (uncomment line) = rstrip (st.textOf line) ∧
        (hasHeaderWord (uncomment line) = true ∧ endswith (rstrip (uncomment line)) ":" = true ∨
          hasHeaderWord (uncomment line) = false ∧
            isGlobalVariable upper lower (uncomment line) = true)
  /-- No other line has a word of a header in it or looks like a global variable. -/
  other : st.place.isMarked = false → skips line = false → st.inHeader = false →
    st.startsHeader line = false → st.assignsGlobal upper lower line = false →
      hasHeaderWord (uncomment line) = false ∧
        isGlobalVariable upper lower (uncomment line) = false

/-! ## §4. The text of a line. -/

section Text

variable {line : String} {marked : Bool} {place : Place} {taken : Nat}
  {chars : List Char}

/-- What is no comment is the front of the line. -/
theorem lex_prefix : (lex marked place taken chars).1.map Prod.fst <+: chars := by
  -- Each step keeps the character that it reads.
  have hbehind : ∀ {c : Char} {inCode : Bool} {rest : List (Char × Bool) × Place} {cs : List Char},
      rest.1.map Prod.fst <+: cs → (behind c inCode rest).1.map Prod.fst <+: c :: cs := by
    intro c inCode rest cs h
    exact (List.cons_prefix_cons).mpr ⟨rfl, h⟩
  induction chars generalizing place taken with
  | nil =>
      unfold lex
      exact List.prefix_rfl
  | cons c cs ih =>
      rcases taken with _ | taken
      · cases place with
        | code =>
            rw [lex]
            split
            -- A comment drops the rest of the line.
            · exact List.nil_prefix
            · split
              · split
                · exact hbehind ih
                · exact hbehind ih
              · exact hbehind ih
        | str quote =>
            rw [lex]
            split
            · exact hbehind ih
            · split
              · exact hbehind ih
              · exact hbehind ih
        | block quote first =>
            rw [lex]
            split
            · exact hbehind ih
            · split
              · exact hbehind ih
              · exact hbehind ih
      · rw [lex]
        exact hbehind ih

/-- A line with no mark to give ends in a marked string only if it begins there. -/
theorem lex_isMarked (hplace : place.isMarked = false) :
    (lex false place taken chars).2.isMarked = false := by
  induction chars generalizing place taken with
  | nil =>
      unfold lex
      exact hplace
  | cons c cs ih =>
      rcases taken with _ | taken
      · -- On a line that is not skipped no marked string begins.
        cases place with
        | code =>
            rw [lex]
            split
            · rfl
            · split
              · split
                · exact ih rfl
                · exact ih rfl
              · exact ih rfl
        | str quote =>
            rw [lex]
            split
            · exact ih rfl
            · split
              · exact ih rfl
              · exact ih rfl
        | block quote first =>
            rw [lex]
            split
            · exact ih hplace
            · split
              · exact ih rfl
              · exact ih hplace
      · rw [lex]
        exact ih hplace

/-- What is in front of the first `c`, by its position. -/
theorem takeWhile_eq_findChars {c : Char} {cs : List Char} :
    cs.takeWhile (· != c) = match findChars [c] cs with
      | some i => cs.take i
      | none => cs := by
  induction cs with
  | nil => rfl
  | cons d cs ih =>
      rw [findChars]
      by_cases hd : d = c
      · have hpre : [c].isPrefixOf (d :: cs) = true := by simp [List.isPrefixOf, hd]
        rw [if_pos hpre, List.takeWhile_cons_of_neg (by simp [hd])]
        rfl
      · have hpre : ¬[c].isPrefixOf (d :: cs) = true := by
          simp [List.isPrefixOf, Ne.symm hd]
        rw [if_neg hpre, List.takeWhile_cons_of_pos (by simp [hd]), ih]
        cases findChars [c] cs with
        | none => rfl
        | some i => rfl

/-- `uncomment` keeps what is in front of the first `#`. -/
theorem uncomment_toList : (uncomment line).toList = line.toList.takeWhile (· != '#') := by
  rw [takeWhile_eq_findChars]
  unfold uncomment strIndex
  rw [show "#".toList = ['#'] from rfl]
  cases findChars ['#'] line.toList with
  | none => rfl
  | some i =>
      dsimp only
      unfold slice
      rw [String.toList_ofList, List.drop_zero]

/-- A line that starts with a word after stripping has it behind its white space. -/
theorem prefix_of_startswith {text word : String} (hstart : startswith (strip text) word = true) :
    word.toList <+: text.toList.dropWhile isspace := by
  unfold startswith strip at hstart
  rw [List.isPrefixOf_iff_prefix, String.toList_ofList] at hstart
  exact hstart.trans (List.rdropWhile_prefix isspace _)

/-- What the text starts with is in front of the first `#`. -/
theorem contains_uncomment {text word : String} (htext : text.toList <+: line.toList)
    (hword : '#' ∉ word.toList) (hstart : startswith (strip text) word = true) :
    contains (uncomment line) word = true := by
  obtain ⟨more, hmore⟩ := prefix_of_startswith hstart
  obtain ⟨rest, hrest⟩ := htext
  have hline : line.toList
      = (text.toList.takeWhile isspace ++ word.toList) ++ (more ++ rest) := by
    calc line.toList = text.toList ++ rest := hrest.symm
      _ = (text.toList.takeWhile isspace ++ (word.toList ++ more)) ++ rest := by
          rw [hmore, List.takeWhile_append_dropWhile]
      _ = (text.toList.takeWhile isspace ++ word.toList) ++ (more ++ rest) := by
          simp only [List.append_assoc]
  -- There is no `#` before the text, since the text is no comment.
  have hkeeps : ∀ c ∈ text.toList.takeWhile isspace ++ word.toList, (c != '#') = true := by
    intro c hc
    rcases List.mem_append.mp hc with hc | hc
    · have hspace := List.mem_takeWhile_imp hc
      rw [bne_iff_ne]
      rintro rfl
      cases hspace
    · rw [bne_iff_ne]
      rintro rfl
      exact hword hc
  rw [contains_iff, uncomment_toList, hline, List.takeWhile_append_of_pos hkeeps]
  exact List.infix_append _ _ _

/-- The colon is the last of what a line has of a header that it ends. -/
theorem headPart_ends {depth : Nat} {cs : List (Char × Bool)}
    (hends : (headPart depth cs).2 = true) : ':' ∈ (headPart depth cs).1 := by
  induction cs generalizing depth with
  | nil => cases hends
  | cons c cs ih =>
      rw [headPart] at hends ⊢
      split at hends
      · next hcolon =>
          rw [if_pos hcolon]
          exact List.mem_singleton_self _
      · next hcolon =>
          rw [if_neg hcolon]
          exact List.mem_cons_of_mem _ (ih hends)

/-- What is no white space is still there when a text is stripped. -/
theorem mem_strip {s : String} {c : Char} (hc : c ∈ s.toList) (hspace : isspace c = false) :
    c ∈ (strip s).toList := by
  unfold strip
  rw [String.toList_ofList]
  have hdrop : c ∈ s.toList.dropWhile isspace := by
    rw [← List.takeWhile_append_dropWhile (p := isspace) (l := s.toList)] at hc
    refine (List.mem_append.mp hc).resolve_left fun hmem => ?_
    rw [List.mem_takeWhile_imp hmem] at hspace
    cases hspace
  rw [← List.rdropWhile_append_rtakeWhile (p := isspace) (l := s.toList.dropWhile isspace)] at hdrop
  refine (List.mem_append.mp hdrop).resolve_right fun hmem => ?_
  rw [List.mem_rtakeWhile_imp hmem] at hspace
  cases hspace

section Spaces

variable {ws : List Char}

/-- Behind white space, a `#` hides the rest of the line. -/
theorem lex_comment (hws : ∀ c ∈ ws, isspace c = true) (rest : List Char) :
    lex marked .code 0 (ws ++ '#' :: rest) = (ws.map (·, true), .code) := by
  induction ws with
  | nil =>
      rw [List.nil_append, lex]
      exact if_pos rfl
  | cons c ws ih =>
      have hc := hws c List.mem_cons_self
      have hhash : ¬c = '#' := fun heq => by
        rw [heq] at hc
        cases hc
      have hquote : ¬(c = '"' ∨ c = '\'') := by
        rintro (rfl | rfl)
        · cases hc
        · cases hc
      rw [List.cons_append, lex, if_neg hhash, if_neg hquote,
        ih fun d hd => hws d (List.mem_cons_of_mem c hd)]
      rfl

/-- White space is all part of a header, and does not end it. -/
theorem headPart_spaces {depth : Nat} (hws : ∀ c ∈ ws, isspace c = true) :
    headPart depth (ws.map (·, true)) = (ws, false) := by
  induction ws generalizing depth with
  | nil => rfl
  | cons c ws ih =>
      have hcolon : ¬((c, true) = (':', true) ∧ depth = 0) := by
        rintro ⟨heq, _⟩
        have hc := hws c List.mem_cons_self
        rw [(Prod.mk.inj heq).1] at hc
        cases hc
      rw [List.map_cons, headPart, if_neg hcolon,
        ih fun d hd => hws d (List.mem_cons_of_mem c hd)]

/-- Of white space, stripping leaves nothing. -/
theorem strip_spaces (hws : ∀ c ∈ ws, isspace c = true) : strip (String.ofList ws) = "" := by
  unfold strip
  rw [String.toList_ofList, List.dropWhile_eq_nil_iff.mpr hws]
  rfl

/-- White space assigns nothing. -/
theorem isGlobalAssignment_spaces (hws : ∀ c ∈ ws, isspace c = true) :
    isGlobalAssignment upper lower (String.ofList ws) = false := by
  unfold isGlobalAssignment
  cases hindex : strIndex (String.ofList ws) "=" with
  | error e => rfl
  | ok i =>
      have hmem := (contains_iff_mem (c := '=') rfl).mp (strIndex_iff.mp ⟨i, hindex⟩)
      rw [String.toList_ofList] at hmem
      exact absurd (hws _ hmem) (by decide)

/-- The white space in front of a comment is what there is of its line. -/
theorem lexed_of_comment {st : Source} (hplace : st.place = .code)
    (hcomment : startswith (strip line) "#" = true) :
    ∃ ws : List Char, (∀ c ∈ ws, isspace c = true) ∧
      st.lexed line = (ws.map (·, true), .code) := by
  obtain ⟨more, hmore⟩ : ∃ more, '#' :: more = line.toList.dropWhile isspace :=
    prefix_of_startswith hcomment
  refine ⟨line.toList.takeWhile isspace, fun c hc => List.mem_takeWhile_imp hc, ?_⟩
  have hline : line.toList = line.toList.takeWhile isspace ++ '#' :: more := by
    calc line.toList = line.toList.takeWhile isspace ++ line.toList.dropWhile isspace :=
          (List.takeWhile_append_dropWhile).symm
      _ = line.toList.takeWhile isspace ++ '#' :: more := by
          rw [← hmore]
  unfold Source.lexed
  rw [hplace]
  exact (congrArg (lex _ .code 0) hline).trans
    (lex_comment (fun c hc => List.mem_takeWhile_imp hc) more)

end Spaces

end Text

/-! ## §5. One line. -/

section Step

variable {st : Source} {line : String}

/-- A header does not end on a line that adds nothing to it. -/
theorem not_endsHeader (hhead : strip (st.headOf line) = "") : st.endsHeader line = false := by
  rw [← Bool.not_eq_true]
  intro hends
  have hcolon : ':' ∈ (st.headOf line).toList := by
    unfold Source.headOf
    rw [String.toList_ofList]
    exact headPart_ends hends
  have hmem := mem_strip hcolon (by decide)
  rw [hhead] at hmem
  cases hmem

/-- A header begins outside of headers only. -/
theorem startsHeader_inHeader (hstarts : st.startsHeader line = true) : st.inHeader = false := by
  unfold Source.startsHeader Source.startsStatement at hstarts
  cases hheader : st.inHeader with
  | false => rfl
  | true =>
      rw [hheader] at hstarts
      cases hstarts

/-- A global variable is assigned outside of headers, on a line that begins none. -/
theorem assignsGlobal_inHeader (hassigns : st.assignsGlobal upper lower line = true) :
    st.inHeader = false ∧ st.startsHeader line = false := by
  unfold Source.assignsGlobal at hassigns
  unfold Source.startsHeader
  simp only [Bool.and_eq_true, Bool.not_eq_true'] at hassigns
  obtain ⟨⟨hstatement, hword⟩, _⟩ := hassigns
  rw [hword, Bool.and_false]
  unfold Source.startsStatement at hstatement
  cases hheader : st.inHeader with
  | false => exact ⟨rfl, rfl⟩
  | true =>
      rw [hheader] at hstatement
      cases hstatement

/-- The program knows a header when it begins. -/
theorem hasHeaderWord_of_starts (hstarts : st.startsHeader line = true) :
    hasHeaderWord (uncomment line) = true := by
  have htext : (st.textOf line).toList <+: line.toList := by
    unfold Source.textOf
    rw [String.toList_ofList]
    exact lex_prefix
  have hword := (Bool.and_eq_true_iff.mp hstarts).2
  unfold headerWord at hword
  unfold hasHeaderWord
  simp only [Bool.or_eq_true] at hword ⊢
  rcases hword with (hclass | hdef) | hasync
  · exact Or.inr (contains_uncomment htext (by decide) hclass)
  · exact Or.inl (contains_uncomment htext (by decide) hdef)
  · have hcontains := contains_uncomment htext (by decide) hasync
    rw [contains_iff] at hcontains ⊢
    refine Or.inl ?_
    have hpart : "def ".toList <:+: "async def ".toList := ⟨"async ".toList, [], rfl⟩
    exact hpart.trans hcontains

/-- The interface and the open header stay as they are. -/
theorem addsNothing_iff (hne : st.inHeader = true → st.interface ≠ []) :
    AddsNothing upper lower st line ↔
      (st.read upper lower line).interface = st.interface ∧
        (st.read upper lower line).inHeader = st.inHeader := by
  unfold Source.read
  dsimp only
  cases hheader : st.inHeader with
  | true =>
      obtain ⟨init, last, hlast⟩ := (List.eq_nil_or_concat' _).resolve_left (hne hheader)
      have hstarts : st.startsHeader line = false := by
        rw [← Bool.not_eq_true]
        intro hstarts
        rw [startsHeader_inHeader hstarts] at hheader
        cases hheader
      have hassigns : st.assignsGlobal upper lower line = false := by
        rw [← Bool.not_eq_true]
        intro hassigns
        rw [(assignsGlobal_inHeader hassigns).1] at hheader
        cases hheader
      rw [if_pos rfl, hlast, List.dropLast_concat, List.getLast?_concat]
      -- Only text for the open header changes its line, and a colon is text.
      constructor
      · intro hnothing
        have hhead := hnothing.header hheader
        rw [hhead, not_endsHeader hhead]
        exact ⟨by simp, rfl⟩
      · intro ⟨hsame, _⟩
        refine ⟨fun _ => ?_, hstarts, hassigns⟩
        have heq : last ++ strip (st.headOf line) = last := by simpa using hsame
        simpa using heq
  | false =>
      rw [if_neg Bool.false_ne_true]
      -- A header or an assignment makes the interface longer.
      constructor
      · intro hnothing
        rw [hnothing.starts, hnothing.assigns]
        exact ⟨rfl, rfl⟩
      · intro ⟨hsame, _⟩
        cases hstarts : st.startsHeader line with
        | true => simp [hstarts] at hsame
        | false =>
            cases hassigns : st.assignsGlobal upper lower line with
            | true => simp [hstarts, hassigns] at hsame
            | false =>
                exact ⟨fun h => absurd (hheader.symm.trans h) Bool.false_ne_true, hstarts,
                  hassigns⟩

/-- When the program's state is the one of a source that is read. -/
theorem eq_of_iff {newLines : List String} {blockComment lineEnd : Bool} {st' : Source} :
    ({ newLines, blockComment, lineEnd } : ScanState) = .of st' ↔
      newLines = st'.interface ∧ blockComment = st'.place.isMarked ∧
        lineEnd = !st'.inHeader := by
  unfold ScanState.of
  rw [ScanState.mk.injEq]

/-- A line inside a block comment adds nothing, and ends the block with its quotes. -/
theorem scanLine_block (hblock : st.place.isMarked = true) :
    scanLine upper lower (.of st) line = .ok
      { newLines := st.interface
        blockComment := !contains (strip line) tripleQuotes
        lineEnd := !st.inHeader } := by
  unfold scanLine ScanState.of
  dsimp only
  rw [hblock, if_pos rfl]
  cases contains (strip line) tripleQuotes <;> rfl

/-- A line that is skipped adds nothing, and opens a block unless it is a comment. -/
theorem scanLine_skips (hblock : st.place.isMarked = false) (hskips : skips line = true) :
    scanLine upper lower (.of st) line = .ok
      { newLines := st.interface
        blockComment := !startswith (strip line) "#"
        lineEnd := !st.inHeader } := by
  unfold skips hasQuotesInside at hskips
  unfold scanLine ScanState.of
  dsimp only
  rw [hblock, if_neg Bool.false_ne_true]
  cases hcomment : startswith (strip line) "#" with
  | true => rfl
  | false =>
      rw [hcomment, Bool.false_or] at hskips
      rw [if_neg Bool.false_ne_true, if_pos hskips]
      rfl

/-- A line that is read further. -/
theorem scanLine_code (hblock : st.place.isMarked = false) (hskips : skips line = false) :
    scanLine upper lower (.of st) line =
      if !st.inHeader then .ok (getNewLines upper lower (uncomment line) (.of st))
      else
        match st.interface.getLast? with
        | none => .error (.indexError "list index out of range")
        | some last =>
            .ok
              { newLines := st.interface.dropLast ++ [last ++ strip (uncomment line)]
                blockComment := false
                lineEnd := endswith (rstrip (uncomment line)) ":" } := by
  unfold skips hasQuotesInside at hskips
  obtain ⟨hcomment, hquotes⟩ := Bool.or_eq_false_iff.mp hskips
  unfold scanLine ScanState.of
  dsimp only
  rw [hblock, hcomment, hquotes]
  rfl

/-- A line with a header word is a new line of the interface. -/
theorem getNewLines_word (hword : hasHeaderWord (uncomment line) = true)
    (hheader : st.inHeader = false) (hblock : st.place.isMarked = false) :
    getNewLines upper lower (uncomment line) (.of st) =
      { newLines := st.interface ++ [rstrip (uncomment line)]
        blockComment := false
        lineEnd := endswith (rstrip (uncomment line)) ":" } := by
  unfold getNewLines ScanState.of
  rw [if_pos hword, hheader, hblock]
  cases endswith (rstrip (uncomment line)) ":" <;> rfl

/-- So is one that `is_global_variable` accepts, and it leaves the rest of the state. -/
theorem getNewLines_global (hword : hasHeaderWord (uncomment line) = false)
    (hglobal : isGlobalVariable upper lower (uncomment line) = true) :
    getNewLines upper lower (uncomment line) (.of st) =
      { ScanState.of st with newLines := st.interface ++ [rstrip (uncomment line)] } := by
  unfold getNewLines
  rw [hword, if_neg Bool.false_ne_true, if_pos hglobal]
  rfl

/-- Any other line leaves the state. -/
theorem getNewLines_other (hword : hasHeaderWord (uncomment line) = false)
    (hglobal : isGlobalVariable upper lower (uncomment line) = false) :
    getNewLines upper lower (uncomment line) (.of st) = .of st := by
  unfold getNewLines
  rw [hword, hglobal]
  rfl

/-- A line that is not skipped does not end in a marked string. -/
theorem read_isMarked (hblock : st.place.isMarked = false) (hskips : skips line = false) :
    (st.read upper lower line).place.isMarked = false := by
  have hquotes := (Bool.or_eq_false_iff.mp hskips).2
  change (lex (hasQuotesInside line) st.place 0 line.toList).2.isMarked = false
  rw [hquotes]
  exact lex_isMarked hblock

/-- The program takes nothing from the line. -/
theorem unchanged_iff (hne : st.inHeader = true → st.interface ≠ []) {blockComment : Bool} :
    ({ newLines := st.interface, blockComment, lineEnd := !st.inHeader } : ScanState)
        = .of (st.read upper lower line) ↔
      AddsNothing upper lower st line ∧
        (st.read upper lower line).place.isMarked = blockComment := by
  rw [eq_of_iff, addsNothing_iff hne]
  constructor
  · rintro ⟨hlines, hplace, hheader⟩
    exact ⟨⟨hlines.symm, (Bool.not_inj hheader).symm⟩, hplace.symm⟩
  · rintro ⟨⟨hlines, hheader⟩, hplace⟩
    exact ⟨hlines.symm, hplace.symm, by rw [hheader]⟩

/-- A line in a marked string. -/
theorem block_iff (hne : st.inHeader = true → st.interface ≠ [])
    (hblock : st.place.isMarked = true) :
    scanLine upper lower (.of st) line = .ok (.of (st.read upper lower line)) ↔
      AddsNothing upper lower st line ∧
        (st.read upper lower line).place.isMarked = !contains (strip line) tripleQuotes := by
  rw [scanLine_block hblock, Except.ok.injEq, unchanged_iff hne]

/-- A line that is skipped. -/
theorem skipped_iff (hne : st.inHeader = true → st.interface ≠ [])
    (hblock : st.place.isMarked = false) (hskips : skips line = true) :
    scanLine upper lower (.of st) line = .ok (.of (st.read upper lower line)) ↔
      AddsNothing upper lower st line ∧
        (st.read upper lower line).place.isMarked = !startswith (strip line) "#" := by
  rw [scanLine_skips hblock hskips, Except.ok.injEq, unchanged_iff hne]

/-- A line of a header that is open. -/
theorem goesOn_iff (hne : st.inHeader = true → st.interface ≠ [])
    (hblock : st.place.isMarked = false) (hskips : skips line = false)
    (hheader : st.inHeader = true) :
    scanLine upper lower (.of st) line = .ok (.of (st.read upper lower line)) ↔
      strip (uncomment line) = strip (st.headOf line) ∧
        endswith (rstrip (uncomment line)) ":" = st.endsHeader line := by
  have hplace : (st.read upper lower line).place.isMarked = false := read_isMarked hblock hskips
  obtain ⟨init, last, hlast⟩ := (List.eq_nil_or_concat' _).resolve_left (hne hheader)
  have hread : (st.read upper lower line).interface = init ++ [last ++ strip (st.headOf line)] ∧
      (st.read upper lower line).inHeader = !st.endsHeader line := by
    unfold Source.read
    dsimp only
    rw [hheader, if_pos rfl, hlast, List.dropLast_concat, List.getLast?_concat]
    exact ⟨rfl, rfl⟩
  rw [scanLine_code hblock hskips, hheader, hlast, List.dropLast_concat, List.getLast?_concat]
  rw [show (!true) = false from rfl, if_neg Bool.false_ne_true]
  dsimp only
  rw [Except.ok.injEq, eq_of_iff, hread.1, hread.2, Bool.not_not]
  constructor
  · rintro ⟨hlines, _, hends⟩
    have htext : last ++ strip (uncomment line) = last ++ strip (st.headOf line) := by
      simpa using hlines
    exact ⟨by simpa using htext, hends⟩
  · rintro ⟨htext, hends⟩
    exact ⟨by rw [htext], hplace.symm, hends⟩

/-- A line outside of headers. -/
theorem statement_iff (hblock : st.place.isMarked = false) (hskips : skips line = false)
    (hheader : st.inHeader = false) :
    scanLine upper lower (.of st) line = .ok (.of (st.read upper lower line)) ↔
      getNewLines upper lower (uncomment line) (.of st) = .of (st.read upper lower line) := by
  rw [scanLine_code hblock hskips, hheader, show (!false) = true from rfl, if_pos rfl,
    Except.ok.injEq]

/-- The first line of a header. -/
theorem begins_iff (hblock : st.place.isMarked = false) (hskips : skips line = false)
    (hstarts : st.startsHeader line = true) :
    scanLine upper lower (.of st) line = .ok (.of (st.read upper lower line)) ↔
      rstrip (uncomment line) = rstrip (st.headOf line) ∧
        endswith (rstrip (uncomment line)) ":" = st.endsHeader line := by
  have hplace : (st.read upper lower line).place.isMarked = false := read_isMarked hblock hskips
  have hheader := startsHeader_inHeader hstarts
  have hread : (st.read upper lower line).interface
        = st.interface ++ [rstrip (st.headOf line)] ∧
      (st.read upper lower line).inHeader = !st.endsHeader line := by
    unfold Source.read
    dsimp only
    rw [hheader, hstarts, if_neg Bool.false_ne_true, if_pos rfl]
    exact ⟨rfl, rfl⟩
  rw [statement_iff hblock hskips hheader,
    getNewLines_word (hasHeaderWord_of_starts hstarts) hheader hblock, eq_of_iff, hread.1, hread.2,
    Bool.not_not]
  constructor
  · rintro ⟨hlines, _, hends⟩
    exact ⟨by simpa using hlines, hends⟩
  · rintro ⟨htext, hends⟩
    exact ⟨by rw [htext], hplace.symm, hends⟩

/-- A line that assigns a global variable. -/
theorem assigns_iff (hblock : st.place.isMarked = false) (hskips : skips line = false)
    (hassigns : st.assignsGlobal upper lower line = true) :
    scanLine upper lower (.of st) line = .ok (.of (st.read upper lower line)) ↔
      rstrip (uncomment line) = rstrip (st.textOf line) ∧
        (hasHeaderWord (uncomment line) = true ∧ endswith (rstrip (uncomment line)) ":" = true ∨
          hasHeaderWord (uncomment line) = false ∧
            isGlobalVariable upper lower (uncomment line) = true) := by
  have hplace : (st.read upper lower line).place.isMarked = false := read_isMarked hblock hskips
  obtain ⟨hheader, hstarts⟩ := assignsGlobal_inHeader hassigns
  have hread : (st.read upper lower line).interface
        = st.interface ++ [rstrip (st.textOf line)] ∧
      (st.read upper lower line).inHeader = false := by
    unfold Source.read
    dsimp only
    rw [hheader, hstarts, hassigns, if_neg Bool.false_ne_true, if_neg Bool.false_ne_true, if_pos rfl]
    exact ⟨rfl, rfl⟩
  rw [statement_iff hblock hskips hheader]
  cases hword : hasHeaderWord (uncomment line) with
  | true =>
      rw [getNewLines_word hword hheader hblock, eq_of_iff, hread.1, hread.2]
      constructor
      · rintro ⟨hlines, _, hends⟩
        exact ⟨by simpa using hlines, Or.inl ⟨rfl, hends⟩⟩
      · rintro ⟨htext, hends | hnot⟩
        · exact ⟨by rw [htext], hplace.symm, hends.2⟩
        · cases hnot.1
  | false =>
      cases hglobal : isGlobalVariable upper lower (uncomment line) with
      | true =>
          rw [getNewLines_global hword hglobal]
          unfold ScanState.of
          rw [ScanState.mk.injEq, hread.1, hread.2, hblock, hheader]
          constructor
          · rintro ⟨hlines, _, _⟩
            exact ⟨by simpa using hlines, Or.inr ⟨rfl, rfl⟩⟩
          · rintro ⟨htext, _⟩
            exact ⟨by rw [htext], hplace.symm, rfl⟩
      | false =>
          -- The program passes over an assignment that it does not know.
          rw [getNewLines_other hword hglobal]
          unfold ScanState.of
          rw [ScanState.mk.injEq, hread.1]
          simp

/-- Any other line outside of headers. -/
theorem other_iff (hblock : st.place.isMarked = false) (hskips : skips line = false)
    (hheader : st.inHeader = false) (hstarts : st.startsHeader line = false)
    (hassigns : st.assignsGlobal upper lower line = false) :
    scanLine upper lower (.of st) line = .ok (.of (st.read upper lower line)) ↔
      hasHeaderWord (uncomment line) = false ∧
        isGlobalVariable upper lower (uncomment line) = false := by
  have hplace : (st.read upper lower line).place.isMarked = false := read_isMarked hblock hskips
  have hread : (st.read upper lower line).interface = st.interface ∧
      (st.read upper lower line).inHeader = false := by
    unfold Source.read
    dsimp only
    rw [hheader, hstarts, hassigns]
    exact ⟨rfl, rfl⟩
  rw [statement_iff hblock hskips hheader]
  cases hword : hasHeaderWord (uncomment line) with
  | true =>
      rw [getNewLines_word hword hheader hblock, eq_of_iff, hread.1]
      simp
  | false =>
      cases hglobal : isGlobalVariable upper lower (uncomment line) with
      | true =>
          rw [getNewLines_global hword hglobal]
          unfold ScanState.of
          rw [ScanState.mk.injEq, hread.1]
          simp
      | false =>
          rw [getNewLines_other hword hglobal]
          unfold ScanState.of
          rw [ScanState.mk.injEq, hread.1, hread.2, hblock, hheader]
          exact iff_of_true ⟨rfl, hplace.symm, rfl⟩ ⟨rfl, rfl⟩

/-- The program reads a line rightly exactly when it is what the program takes it for. -/
theorem readable_iff (hne : st.inHeader = true → st.interface ≠ []) :
    scanLine upper lower (.of st) line = .ok (.of (st.read upper lower line)) ↔
      Readable upper lower st line := by
  constructor
  · intro hscan
    exact
      { block := fun hblock => (block_iff hne hblock).mp hscan
        skipped := fun hblock hskips => (skipped_iff hne hblock hskips).mp hscan
        begins := fun hblock hskips hstarts => (begins_iff hblock hskips hstarts).mp hscan
        goesOn := fun hblock hskips hheader =>
          (goesOn_iff hne hblock hskips hheader).mp hscan
        assigns := fun hblock hskips hassigns => (assigns_iff hblock hskips hassigns).mp hscan
        other := fun hblock hskips hheader hstarts hassigns =>
          (other_iff hblock hskips hheader hstarts hassigns).mp hscan }
  -- The conditions follow the branches of the scan, so each branch needs its own one.
  · intro hreadable
    cases hblock : st.place.isMarked with
    | true => exact (block_iff hne hblock).mpr (hreadable.block hblock)
    | false =>
        cases hskips : skips line with
        | true => exact (skipped_iff hne hblock hskips).mpr (hreadable.skipped hblock hskips)
        | false =>
            cases hheader : st.inHeader with
            | true =>
                exact (goesOn_iff hne hblock hskips hheader).mpr
                  (hreadable.goesOn hblock hskips hheader)
            | false =>
                cases hstarts : st.startsHeader line with
                | true =>
                    exact (begins_iff hblock hskips hstarts).mpr
                      (hreadable.begins hblock hskips hstarts)
                | false =>
                    cases hassigns : st.assignsGlobal upper lower line with
                    | true =>
                        exact (assigns_iff hblock hskips hassigns).mpr
                          (hreadable.assigns hblock hskips hassigns)
                    | false =>
                        exact (other_iff hblock hskips hheader hstarts hassigns).mpr
                          (hreadable.other hblock hskips hheader hstarts hassigns)

/-- A comment adds nothing, whatever is in it. -/
theorem readable_of_comment (hplace : st.place = .code)
    (hcomment : startswith (strip line) "#" = true) : Readable upper lower st line := by
  obtain ⟨ws, hws, hlexed⟩ := lexed_of_comment hplace hcomment
  have hhead : headPart st.depth (st.lexed line).1 = (ws, false) := by
    rw [hlexed]
    exact headPart_spaces hws
  -- What is in front of the `#` is white space, from which nothing is read.
  have hnothing : AddsNothing upper lower st line := by
    have htext : st.textOf line = String.ofList ws := by
      unfold Source.textOf
      rw [hlexed, List.map_map]
      exact congrArg String.ofList (List.map_id ws)
    refine ⟨fun _ => ?_, ?_, ?_⟩
    · unfold Source.headOf
      rw [hhead]
      exact strip_spaces hws
    · unfold Source.startsHeader headerWord
      rw [htext, strip_spaces hws]
      exact Bool.and_false _
    · unfold Source.assignsGlobal
      rw [htext, isGlobalAssignment_spaces hws, Bool.and_false]
  have hmarked : st.place.isMarked = false := by
    rw [hplace]
    rfl
  have hskips : skips line = true := by
    unfold skips
    rw [hcomment]
    rfl
  have hnot : ¬skips line = false := by
    rw [hskips]
    decide
  exact
    { block := fun hblock => absurd (hmarked.symm.trans hblock) Bool.false_ne_true
      skipped := fun _ _ => ⟨hnothing, by
        rw [hcomment]
        change (st.lexed line).2.isMarked = false
        rw [hlexed]
        rfl⟩
      begins := fun _ h => absurd h hnot
      goesOn := fun _ h => absurd h hnot
      assigns := fun _ h => absurd h hnot
      other := fun _ h => absurd h hnot }

/-- An open header is in the interface. -/
theorem interface_ne_nil (hne : st.inHeader = true → st.interface ≠ [])
    (hheader : (st.read upper lower line).inHeader = true) :
    (st.read upper lower line).interface ≠ [] := by
  unfold Source.read at hheader ⊢
  dsimp only at hheader ⊢
  obtain ⟨hopen, _⟩ := Bool.and_eq_true_iff.mp hheader
  cases hin : st.inHeader with
  | true =>
      obtain ⟨init, last, hlast⟩ := (List.eq_nil_or_concat' _).resolve_left (hne hin)
      rw [if_pos rfl, hlast, List.getLast?_concat]
      simp
  | false =>
      rw [hin, Bool.false_or] at hopen
      rw [if_neg Bool.false_ne_true, if_pos hopen]
      simp

end Step

/-! ## §6. The lines of a file. -/

section Runs

variable {before : List String} {line : String}

/-- A further line is read from the place that the lines before lead to. -/
theorem source_concat :
    source upper lower (before ++ [line]) = (source upper lower before).read upper lower line := by
  unfold source
  rw [List.foldl_append]
  rfl

/-- While a header is open, the interface has its line. -/
theorem source_interface_ne_nil (lines : List String) :
    (source upper lower lines).inHeader = true → (source upper lower lines).interface ≠ [] := by
  induction lines using List.reverseRecOn with
  | nil => nofun
  | append_singleton before line ih =>
      rw [source_concat]
      exact interface_ne_nil ih

/-- **The interface is extracted exactly where every line is what the program takes it
for.** -/
theorem extracts_iff (upper lower : Char → Bool) (lines : List String) :
    Extracts upper lower lines ↔ ∀ before line after, lines = before ++ line :: after →
      Readable upper lower (source upper lower before) line := by
  constructor
  · intro hextracts before line after heq
    have hbefore := hextracts.follows before (line :: after) heq
    have hline := hextracts.follows (before ++ [line]) after (by simp [heq])
    rw [source_concat] at hline
    exact (readable_iff (source_interface_ne_nil before)).mp
      ((foldlM_concat line hbefore).symm.trans hline)
  · intro hreadable
    have hfollows : ∀ before after, lines = before ++ after →
        scanLines upper lower before = .ok (.of (source upper lower before)) := by
      intro before
      induction before using List.reverseRecOn with
      | nil =>
          intro after _
          rfl
      | append_singleton before line ih =>
          intro after heq
          have heq' : lines = before ++ line :: after := by simp [heq]
          have hline := (readable_iff (source_interface_ne_nil before)).mpr
            (hreadable before line after heq')
          rw [source_concat]
          exact (foldlM_concat line (ih (line :: after) heq')).trans hline
    -- The result is read off after the last line.
    have hall := hfollows lines [] (List.append_nil _).symm
    exact ⟨bind_eq_ok.mpr ⟨_, hall, rfl⟩, hfollows⟩

/-- The lines of a docstring that is opened by quotes alone. -/
theorem docstring_read : ¬∀ (upper lower : Char → Bool) (lines : List String),
    getSpecFromFile upper lower lines = .ok (interface upper lower lines) := by
  intro h
  have hlines := h Char.isUpper Char.isLower ["\"\"\"\n", "A class of shapes.\n", "\"\"\"\n"]
  have hscan : getSpecFromFile Char.isUpper Char.isLower
      ["\"\"\"\n", "A class of shapes.\n", "\"\"\"\n"]
        = .ok ["A class of shapes.\"\"\""] := by
    decide +kernel
  have hinterface : interface Char.isUpper Char.isLower
      ["\"\"\"\n", "A class of shapes.\n", "\"\"\"\n"] = [] := by
    decide +kernel
  rw [hscan, hinterface] at hlines
  cases hlines

end Runs

end HwEfat.AutoSchedule.InterfaceCheck
