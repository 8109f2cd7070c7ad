import RestScaffold.Manifest.Yaml.Cursor

/-!
# YAML scalars

A scalar is plain, in single or double quotes, or a block of lines. Plain and quoted scalars are
words with gaps between them. A gap within a line is kept as it is; a gap with one line break is a
space, and with more line breaks it is those behind the first. A block keeps its lines or folds
them, and its indentation is taken from its first line or its header.

Every reader gives the content and the cursor behind the scalar, or nothing if the scalar is not
well formed.
-/

namespace RestScaffold.Yaml

open Text

/-! ## Gaps -/

/-- What stands between two words. -/
structure Gap where
  /-- The blanks in front of the first line break. -/
  white : Text := []
  /-- Whether there is a line break. -/
  broken : Bool := false
  first : Text := []
  /-- The line breaks behind the first. -/
  more : Text := []
  /-- Whether a tab stands where the indentation of a line is. -/
  tabbed : Bool := false
  deriving DecidableEq

namespace Gap

/-- Adds a line break. -/
def addBreak (g : Gap) (s : Text) : Gap :=
  if g.broken then { g with more := g.more ++ s }
  else { g with white := [], broken := true, first := s }

/-- Adds a blank in this column; in front of column `indent` a line is indented. -/
def addWhite (g : Gap) (indent column : Nat) (c : Char) : Gap :=
  if g.broken then { g with tabbed := g.tabbed || (c = '\t' && column < indent) }
  else { g with white := g.white ++ [c] }

/-- What the gap is in the content of a scalar. -/
def text (g : Gap) : Text :=
  if !g.broken then g.white
  else if g.first.head? = some '\n' then (if g.more = [] then " " else g.more)
  else g.first ++ g.more

end Gap

/-- Reads on in a gap. -/
def readGap (indent : Nat) (g : Gap) (m : Mark) : Text → Gap × Cursor
  | '\x0d' :: '\n' :: s => readGap indent (g.addBreak ['\n']) (m.newLine 2) s
  | c :: s =>
    if isBreak c then readGap indent (g.addBreak (breakText c)) (m.newLine c.utf8Size) s
    else if isWhite c then readGap indent (g.addWhite indent m.column c) (m.step c) s
    else (g, ⟨m, c :: s⟩)
  | [] => (g, ⟨m, []⟩)

/-! ## Plain scalars -/

/-- The characters that have a meaning of their own inside of brackets. -/
def isFlowIndicator (c : Char) : Bool :=
  c = ',' || c = '[' || c = ']' || c = '\x7b' || c = '\x7d'

/-- Reads a word of a plain scalar. A colon ends it in front of a blank. Inside of brackets a
bracket or comma ends it too, and a colon may not stand right in front of one. -/
def readWord (inFlow : Bool) : Text → Option (Text × Text)
  | [] => some ([], [])
  | c :: s =>
    if endsWord (c :: s) || (c = ':' && endsWord s) || (inFlow && isFlowIndicator c) then
      some ([], c :: s)
    else if inFlow && c = ':' && s.head?.any (fun d => isFlowIndicator d || d = '?') then none
    else (readWord inFlow s).map fun (word, rest) => (c :: word, rest)

/-- A plain scalar. -/
structure Plain where
  content : Text
  /-- Whether the cursor has come to a new line behind the scalar. -/
  onNewLine : Bool
  cursor : Cursor

/-- Reads on in a plain scalar, behind a gap. A line of the scalar stands at column `indent` or
behind it. -/
def readPlainFrom (inFlow : Bool) (indent : Nat) (content : Text) (g : Gap) (c : Cursor) :
    Nat → Option Plain
  | 0 => none
  | fuel + 1 =>
    if c.atDocumentMark || c.head? = some '#' then some ⟨content, g.broken, c⟩
    else
      match readWord inFlow c.rest with
      | none => none
      | some ([], _) => some ⟨content, g.broken, c⟩
      | some (word, rest) =>
        let content := content ++ g.text ++ word
        let (g, c) := readGap indent {} (c.mark.steps word) rest
        if g.tabbed then none
        else if !inFlow && c.mark.column < indent then some ⟨content, g.broken, c⟩
        else readPlainFrom inFlow indent content g c fuel

/-- Reads a plain scalar. -/
def readPlain (inFlow : Bool) (indent : Nat) (c : Cursor) : Option Plain :=
  readPlainFrom inFlow indent [] {} c (c.rest.length + 1)

/-! ## Quoted scalars -/

/-- The value of a hexadecimal digit. -/
def hexDigit? (c : Char) : Option Nat :=
  if '0' ≤ c && c ≤ '9' then some (c.toNat - 48)
  else if 'a' ≤ c && c ≤ 'f' then some (c.toNat - 87)
  else if 'A' ≤ c && c ≤ 'F' then some (c.toNat - 55)
  else none

/-- What an escape of one character stands for. -/
def shortEscape? : Char → Option Char
  | '0' => some '\x00'
  | 'a' => some '\x07'
  | 'b' => some '\x08'
  | 't' => some '\t'
  | '\t' => some '\t'
  | 'n' => some '\n'
  | 'v' => some '\x0b'
  | 'f' => some '\x0c'
  | 'r' => some '\x0d'
  | 'e' => some '\x1b'
  | ' ' => some ' '
  | '\x22' => some '\x22'
  | '/' => some '/'
  | '\\' => some '\\'
  | 'N' => some '\u0085'
  | '_' => some '\u00a0'
  | 'L' => some '\u2028'
  | 'P' => some '\u2029'
  | _ => none

/-- How many digits the code behind an escape has. -/
def codeLength? : Char → Option Nat
  | 'x' => some 2
  | 'u' => some 4
  | 'U' => some 8
  | _ => none

/-- The value of a number of hexadecimal digits at the start of a text. -/
def hexValue? (digits value : Nat) : Text → Option Nat
  | [] => if digits = 0 then some value else none
  | c :: s =>
    match digits with
    | 0 => some value
    | digits + 1 =>
      match hexDigit? c with
      | some d => hexValue? digits (16 * value + d) s
      | none => none

/-- What an escape stands for, and how many characters it has. The text starts behind the
backslash. -/
def readEscape : Text → Option (Char × Nat)
  | [] => none
  | c :: s =>
    match shortEscape? c with
    | some x => some (x, 1)
    | none =>
      match codeLength? c with
      | none => none
      | some digits =>
        match hexValue? digits 0 s with
        | none => none
        | some n => if n.isValidChar then some (Char.ofNat n, digits + 1) else none

/-- How a run of characters in quotes ends. -/
inductive RunEnd where
  /-- In front of the closing quote. -/
  | quote
  /-- Behind a backslash and a line break. -/
  | escapedBreak
  /-- In front of a blank or the end of the text. -/
  | gap
  deriving DecidableEq

/-- Reads a run of characters in quotes without blanks. -/
def readRun (single : Bool) (content : Text) (c : Cursor) :
    Nat → Option (Text × RunEnd × Cursor)
  | 0 => none
  | fuel + 1 =>
    match c.rest with
    | [] => some (content, .gap, c)
    | x :: s =>
      if endsWord (x :: s) then some (content, .gap, c)
      else if single then
        if x = '\'' then
          if s.head? = some '\'' then readRun single (content ++ ['\'']) (c.skip 2) fuel
          else some (content, .quote, c)
        else readRun single (content ++ [x]) (c.skip 1) fuel
      else if x = '\x22' then some (content, .quote, c)
      else if x = '\\' then
        if s.head?.any isBreak then some (content, .escapedBreak, (c.skip 1).takeBreak.2)
        else
          match readEscape s with
          | none => none
          | some (y, n) => readRun single (content ++ [y]) (c.skip (n + 1)) fuel
      else readRun single (content ++ [x]) (c.skip 1) fuel

/-- Reads on in a quoted scalar, behind a gap. -/
def readQuotedFrom (single : Bool) (content : Text) (c : Cursor) : Nat → Option (Text × Cursor)
  | 0 => none
  | fuel + 1 =>
    if c.atDocumentMark || c.rest = [] then none
    else
      match readRun single content c (c.rest.length + 1) with
      | none => none
      | some (content, .quote, c) => some (content, c.skip 1)
      | some (content, stop, c) =>
        if stop = .escapedBreak && c.head? = some '\x22' then some (content, c.skip 1)
        else
          let (g, c) := readGap 0 { broken := stop = .escapedBreak } c.mark c.rest
          readQuotedFrom single (content ++ g.text) c fuel

/-- Reads a quoted scalar, from the opening quote on. -/
def readQuoted (single : Bool) (c : Cursor) : Option (Text × Cursor) :=
  readQuotedFrom single [] (c.skip 1) (c.rest.length + 1)

/-! ## Blocks -/

/-- What becomes of the line breaks at the end of a block. -/
inductive Chomping where
  /-- The first is kept. -/
  | clip
  /-- None is kept. -/
  | strip
  /-- All are kept. -/
  | keep
  deriving DecidableEq

/-- What the header of a block says, and the cursor behind it. -/
structure BlockHeader where
  chomping : Chomping := .clip
  /-- The indentation against the surrounding block, if it is given. -/
  increment : Option Nat := none
  cursor : Cursor

namespace BlockHeader

/-- Reads the sign of the chomping, if there is one. -/
def readChomping (h : BlockHeader) : BlockHeader :=
  match h.cursor.head? with
  | some '+' => { h with chomping := .keep, cursor := h.cursor.skip 1 }
  | some '-' => { h with chomping := .strip, cursor := h.cursor.skip 1 }
  | _ => h

/-- Reads the digit of the indentation, if there is one. It is not zero. -/
def readIncrement (h : BlockHeader) : Option BlockHeader :=
  match h.cursor.head? with
  | some c =>
    if c = '0' then none
    else if c.isDigit then
      some { h with increment := some (c.toNat - 48), cursor := h.cursor.skip 1 }
    else some h
  | none => some h

/-- Reads a header, from the character behind the sign of the block on. The chomping and the
indentation may stand in either order. -/
def read? (c : Cursor) : Option BlockHeader := do
  let signed := readChomping { cursor := c }
  let h ← signed.readIncrement
  let h := if signed.cursor = c then h.readChomping else h
  let c ← h.cursor.finishLine?
  return { h with cursor := c }

end BlockHeader

/-- The empty lines in front of a line of a block: their breaks, the deepest column that was reached
and the cursor at the line. Spaces are passed over up to the indentation of the block, all of them
if it is not known; a tab may not stand there. -/
def readBlockGap (indent : Option Nat) (breaks : Text) (deepest : Nat) (m : Mark) :
    Text → Option (Text × Nat × Cursor)
  | '\x0d' :: '\n' :: s => readBlockGap indent (breaks ++ ['\n']) (max deepest m.column) (m.newLine 2) s
  | c :: s =>
    let indenting := indent.all fun n => m.column < n
    if indenting && c = ' ' then readBlockGap indent breaks deepest (m.step c) s
    else if indenting && c = '\t' then none
    else if isBreak c then
      readBlockGap indent (breaks ++ breakText c) (max deepest m.column) (m.newLine c.utf8Size) s
    else some (breaks, max deepest m.column, ⟨m, c :: s⟩)
  | [] => some (breaks, max deepest m.column, ⟨m, []⟩)

/-- The part of a block that has been read. -/
structure BlockReading where
  content : Text := []
  /-- The break of the last line. -/
  lastBreak : Text := []
  /-- The breaks of the empty lines behind it. -/
  breaks : Text := []
  /-- Whether the last line starts with a blank. -/
  wasIndented : Bool := false

/-- Reads the lines of a block, each at column `indent`. In a folded block the break between two
lines is a space, unless one of them starts with a blank. -/
def readBlockLines (literal : Bool) (indent : Nat) (b : BlockReading) (c : Cursor) :
    Nat → Option (BlockReading × Cursor)
  | 0 => none
  | fuel + 1 =>
    if c.mark.column ≠ indent || c.rest = [] then some (b, c)
    else
      let isIndented := c.head?.any isWhite
      let folds := !literal && b.lastBreak = ['\n'] && !b.wasIndented && !isIndented
      let between : Text :=
        if folds then (if b.breaks = [] then " " else b.breaks) else b.lastBreak ++ b.breaks
      let (line, c) := c.takeWhile fun x => !isBreak x
      let (lastBreak, c) := c.takeBreak
      match readBlockGap (some indent) [] 0 c.mark c.rest with
      | none => none
      | some (breaks, _, c) =>
        readBlockLines literal indent
          ⟨b.content ++ between ++ line, lastBreak, breaks, isIndented⟩ c fuel

/-- Reads a block, from its sign on. `outer` is the indentation of the surrounding block, and -1 if
there is none. -/
def readBlock (literal : Bool) (outer : Int) (c : Cursor) : Option (Text × Cursor) := do
  let h ← BlockHeader.read? (c.skip 1)
  let indent := h.increment.map fun n => outer.toNat + n
  let (breaks, deepest, c) ← readBlockGap indent [] 0 h.cursor.mark h.cursor.rest
  let indent := indent.getD (max deepest (max (outer + 1).toNat 1))
  let (b, c) ← readBlockLines literal indent { breaks } c (c.rest.length + 1)
  match h.chomping with
  | .strip => return (b.content, c)
  | .clip => return (b.content ++ b.lastBreak, c)
  | .keep => return (b.content ++ b.lastBreak ++ b.breaks, c)

end RestScaffold.Yaml
