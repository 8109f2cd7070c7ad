import RestScaffold.Text.Basic

/-!
# Positions in a YAML text

A cursor is the text that is still to be read and the mark of the place: its line, its column and
its offset. Columns count characters, so that text lines up with what stands above it. Offsets count
the bytes of the text in UTF-8, since that is what the length of a key is measured in. A carriage
return with a line feed behind it is one line break of two bytes.
-/

namespace RestScaffold.Yaml

open Text

/-- The characters that end a line. -/
def isBreak (c : Char) : Bool :=
  c = '\n' || c = '\x0d' || c = '\u0085' || c = '\u2028' || c = '\u2029'

/-- The blanks inside of a line. -/
def isWhite (c : Char) : Bool := c = ' ' || c = '\t'

/-- Whether a word that stands in front of the text ends there. -/
def endsWord : Text → Bool
  | [] => true
  | c :: _ => isWhite c || isBreak c

/-- Whether a line that stands in front of the text ends there. -/
def endsLine : Text → Bool
  | [] => true
  | c :: _ => isBreak c

/-- How a line break is kept in a scalar: most are line feeds there. -/
def breakText (c : Char) : Text := if c = '\u2028' || c = '\u2029' then [c] else ['\n']

/-- The characters of names and numbers. -/
def isNameChar (c : Char) : Bool := c.isAlphanum || c = '_' || c = '-'

/-- Whether a character may stand in a text at all. -/
def isAllowed (c : Char) : Bool :=
  let n := c.toNat
  n = 0x09 || n = 0x0A || n = 0x0D || (0x20 ≤ n && n ≤ 0x7E) || n = 0x85 ||
    (0xA0 ≤ n && n ≤ 0xD7FF) || (0xE000 ≤ n && n ≤ 0xFFFD) || (0x10000 ≤ n && n ≤ 0x10FFFF)

/-- A place in a text, counted from zero. -/
structure Mark where
  line : Nat := 0
  /-- The characters in front of it on its line. -/
  column : Nat := 0
  /-- The bytes in front of it. -/
  offset : Nat := 0
  deriving DecidableEq

namespace Mark

/-- The place behind a character of a line. -/
def step (m : Mark) (c : Char) : Mark :=
  { m with column := m.column + 1, offset := m.offset + c.utf8Size }

/-- The place behind characters of a line. -/
def steps (m : Mark) (s : Text) : Mark := s.foldl step m

/-- The place behind a line break of a number of bytes. -/
def newLine (m : Mark) (width : Nat) : Mark := ⟨m.line + 1, 0, m.offset + width⟩

end Mark

/-- A place and what is still to be read there. -/
structure Cursor where
  mark : Mark := {}
  rest : Text
  deriving DecidableEq

namespace Cursor

/-- The cursor behind a number of characters of a line. -/
def skip (c : Cursor) (n : Nat) : Cursor := ⟨c.mark.steps (c.rest.take n), c.rest.drop n⟩

/-- The character at the cursor. -/
def head? (c : Cursor) : Option Char := c.rest.head?

/-- The characters of a class, which has no line breaks, and the cursor behind them. -/
def takeWhile (p : Char → Bool) (c : Cursor) : Text × Cursor :=
  let taken := c.rest.takeWhile p
  (taken, ⟨c.mark.steps taken, c.rest.dropWhile p⟩)

/-- The cursor behind the blanks of the line. -/
def skipWhite (c : Cursor) : Cursor := (c.takeWhile isWhite).2

/-- The cursor behind a comment, if there is one. -/
def skipComment (c : Cursor) : Cursor :=
  if c.head? = some '#' then (c.takeWhile fun x => !isBreak x).2 else c

/-- A line break as it is kept in a scalar, and the cursor behind it. There may be none. -/
def takeBreak (c : Cursor) : Text × Cursor :=
  match c.rest with
  | '\x0d' :: '\n' :: s => (['\n'], ⟨c.mark.newLine 2, s⟩)
  | x :: s => if isBreak x then (breakText x, ⟨c.mark.newLine x.utf8Size, s⟩) else ([], c)
  | [] => ([], c)

/-- The cursor behind the rest of a line, which may hold blanks and a comment only. -/
def finishLine? (c : Cursor) : Option Cursor :=
  let c := c.skipWhite.skipComment
  if endsLine c.rest then some c.takeBreak.2 else none

/-- Whether the line starts with three times this character and nothing that goes on the word. -/
def atIndicator (x : Char) (c : Cursor) : Bool :=
  c.mark.column = 0 &&
    match dropLead? [x, x, x] c.rest with
    | some s => endsWord s
    | none => false

/-- Whether the line is a mark between documents. -/
def atDocumentMark (c : Cursor) : Bool := c.atIndicator '-' || c.atIndicator '.'

end Cursor

end RestScaffold.Yaml
