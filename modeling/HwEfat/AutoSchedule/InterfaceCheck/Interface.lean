/-
  HwEfat.AutoSchedule.InterfaceCheck.Interface — the interface of a Python source text: the
  headers of its classes and functions, and the upper-case global variables that it assigns.

  This is what `get_spec_from_file` is for, told from the text and not from the program.  A text
  is its lines, one statement a line.  It is read character by character, so that a quote, a
  `#`, a bracket or a colon counts only where it stands in the code.
-/
import HwEfat.AutoSchedule.InterfaceCheck.Def

namespace HwEfat.AutoSchedule.InterfaceCheck

open HwEfat.Lib

/-! ## §1. The characters of a line. -/

/-- Where a line begins or ends: in the code, in a string that a backslash carries over the end
of a line, or in a string in triple quotes, with a mark that it has from its first line. -/
inductive Place where
  | code
  | str (quote : Char)
  | block (quote : Char) (marked : Bool)
  deriving Repr, DecidableEq

/-- A block of text that ends with a mark. -/
def Place.isMarked : Place → Bool
  | block _ marked => marked
  | _ => false

/-- A character in front of what has been read, in the code or in a string. -/
def behind (c : Char) (inCode : Bool) (rest : List (Char × Bool) × Place) :
    List (Char × Bool) × Place :=
  ((c, inCode) :: rest.1, rest.2)

/-- The characters of a line that are in no comment, each with whether it is in the code, and
where the line ends.  `taken` characters belong to the one before them, as the other two of
three quotes and what a backslash in a string stands before.  A string in triple quotes that
begins on the line gets its mark. -/
def lex (marked : Bool) : Place → Nat → List Char → List (Char × Bool) × Place
  | place, _, [] => ([], place)
  | place, taken + 1, c :: cs => behind c false (lex marked place taken cs)
  | .code, 0, c :: cs =>
      if c = '#' then ([], .code)
      else if c = '"' ∨ c = '\'' then
        -- Two quotes alone are an empty string.
        if cs.take 2 = [c, c] then behind c false (lex marked (.block c marked) 2 cs)
        else behind c false (lex marked (.str c) 0 cs)
      else behind c true (lex marked .code 0 cs)
  | .str quote, 0, c :: cs =>
      if c = '\\' then behind c false (lex marked (.str quote) 1 cs)
      -- A line end that no backslash stands before ends the string too.
      else if c = quote ∨ c = '\n' then behind c false (lex marked .code 0 cs)
      else behind c false (lex marked (.str quote) 0 cs)
  | .block quote first, 0, c :: cs =>
      if c = '\\' then behind c false (lex marked (.block quote first) 1 cs)
      else if c = quote ∧ cs.take 2 = [quote, quote] then behind c false (lex marked .code 2 cs)
      else behind c false (lex marked (.block quote first) 0 cs)

/-- How many brackets are open after a character. -/
def nest (depth : Nat) (c : Char × Bool) : Nat :=
  if c.2 = false then depth
  else if c.1 ∈ ['(', '[', '{'] then depth + 1
  else if c.1 ∈ [')', ']', '}'] then depth - 1
  else depth

/-- What a line has of a header, up to the colon that ends it, and whether the colon is there. -/
def headPart : Nat → List (Char × Bool) → List Char × Bool
  | _, [] => ([], false)
  | depth, c :: cs =>
      if c = (':', true) ∧ depth = 0 then ([':'], true)
      else (c.1 :: (headPart (nest depth c) cs).1, (headPart (nest depth c) cs).2)

/-! ## §2. Statements. -/

/-- The first word of a class or of a function. -/
def headerWord (text : String) : Bool :=
  startswith (strip text) "class " || startswith (strip text) "def " ||
    startswith (strip text) "async def "

/-- The characters of a name, and those between several. -/
def isTargetChar (c : Char) : Bool :=
  c.isAlphanum || c == '_' || 127 < c.toNat || c == ',' || c == ' '

/-- `NAME = ...`, `NAME: ... = ...` or `NAME, NAME = ...`, not indented, where the names are
upper-case: they have letters with a case, and no lower-case one. -/
def isGlobalAssignment (upper lower : Char → Bool) (text : String) : Bool :=
  match strIndex text "=" with
  | .error _ => false
  | .ok i =>
      let name := rstrip (String.ofList ((slice text 0 i).toList.takeWhile (· != ':')))
      !startswith text " " && name.toList.all isTargetChar &&
        isupper upper lower name && !startswith (sliceFrom text (i + 1)) "="

/-! ## §3. The lines of a text. -/

/-- The lines of a text that have been read: where they end, how many brackets are open there
and whether a header is, and their interface.  An open header is the last line of it. -/
structure Source where
  place : Place
  depth : Nat
  inHeader : Bool
  interface : List String

/-- The mark of a block of text. -/
def tripleQuotes : String := "\"\"\""

/-- The line has triple quotes and does not end in them.  A string in triple quotes that begins
on such a line is marked. -/
def hasQuotesInside (line : String) : Bool :=
  contains (strip line) tripleQuotes && !endswith (strip line) tripleQuotes

namespace Source

variable (upper lower : Char → Bool) (st : Source) (line : String)

/-- The characters of the line, and where it ends. -/
def lexed : List (Char × Bool) × Place :=
  lex (hasQuotesInside line) st.place 0 line.toList

/-- The line without its comment. -/
def textOf : String := String.ofList ((st.lexed line).1.map Prod.fst)

/-- What the line has of a header. -/
def headOf : String := String.ofList (headPart st.depth (st.lexed line).1).1

/-- The line has the colon that ends a header. -/
def endsHeader : Bool := (headPart st.depth (st.lexed line).1).2

/-- A statement starts here. -/
def startsStatement : Bool := !st.inHeader && st.depth == 0 && decide (st.place = .code)

/-- It is a header. -/
def startsHeader : Bool := st.startsStatement && headerWord (st.textOf line)

/-- It gives a global variable its value. -/
def assignsGlobal : Bool :=
  st.startsStatement && !headerWord (st.textOf line) &&
    isGlobalAssignment upper lower (st.textOf line)

/-- The text with one more line. -/
def read : Source :=
  { place := (st.lexed line).2
    depth := (st.lexed line).1.foldl nest st.depth
    inHeader := (st.inHeader || st.startsHeader line) && !st.endsHeader line
    interface :=
      if st.inHeader then
        st.interface.dropLast
          ++ (st.interface.getLast?.map (· ++ strip (st.headOf line))).toList
      else if st.startsHeader line then st.interface ++ [rstrip (st.headOf line)]
      else if st.assignsGlobal upper lower line then
        st.interface ++ [rstrip (st.textOf line)]
      else st.interface }

end Source

/-- What the lines are, read from the front. -/
def source (upper lower : Char → Bool) (lines : List String) : Source :=
  lines.foldl (Source.read upper lower)
    { place := .code, depth := 0, inHeader := false, interface := [] }

/-- The interface of a source text. -/
def interface (upper lower : Char → Bool) (lines : List String) : List String :=
  (source upper lower lines).interface

end HwEfat.AutoSchedule.InterfaceCheck
