import RestScaffold.Manifest.Yaml.Scalar
import RestScaffold.Manifest.Yaml.Token

/-!
# YAML layout

The tokens of a whole text. Two rules of YAML need memory. A deeper column starts a block and a
column further left ends the blocks that are deeper, so the columns of the open blocks are kept.
And a node may turn out to be a key only when a colon follows it, so the place of the last node that
may be a key is kept for each level of brackets; the tokens of a key are put in at that place. A key
stays on one line and is not longer than 1024 bytes.
-/

namespace RestScaffold.Yaml

open Text

/-- A node that may turn out to be a key. -/
structure PossibleKey where
  /-- How many tokens stand in front of it. -/
  position : Nat
  mark : Mark
  /-- Whether it cannot be anything else. -/
  required : Bool
  deriving DecidableEq

/-- How far a text has been read. -/
structure Layout where
  cursor : Cursor
  /-- The tokens so far, the latest first. -/
  tokens : List Token := []
  count : Nat := 0
  /-- The column of the innermost block, -1 if none is open. -/
  indent : Int := -1
  /-- The columns of the blocks around it, the innermost first. -/
  outerIndents : List Int := []
  /-- Whether the next node may be a key. -/
  keyAllowed : Bool := true
  /-- The possible key on the level of brackets at hand. -/
  key : Option PossibleKey := none
  /-- The possible keys on the levels around it, the innermost first. -/
  outerKeys : List (Option PossibleKey) := []

namespace Layout

/-- Whether brackets are open. -/
def inFlow (l : Layout) : Bool := l.outerKeys ≠ []

/-- The column at hand. -/
def column (l : Layout) : Nat := l.cursor.mark.column

/-- Adds a token behind the others. -/
def emit (l : Layout) (t : Token) : Layout :=
  { l with tokens := t :: l.tokens, count := l.count + 1 }

/-- Adds a token with a number of tokens in front of it. -/
def emitAt (l : Layout) (position : Nat) (t : Token) : Layout :=
  { l with tokens := l.tokens.insertIdx (l.count - position) t, count := l.count + 1 }

/-- Adds a token and goes on behind a number of characters. -/
def emitChars (l : Layout) (t : Token) (n : Nat) : Layout :=
  { l.emit t with cursor := l.cursor.skip n }

/-! ## Blocks -/

/-- How many of the open blocks are deeper than a column, and the columns of those that are not. -/
def deeperBlocks (column indent : Int) : List Int → Nat × Int × List Int
  | [] => (0, indent, [])
  | outer :: others =>
    if column < indent then
      let (n, rest) := deeperBlocks column outer others
      (n + 1, rest)
    else (0, indent, outer :: others)

/-- Ends the blocks that are deeper than a column. Brackets may hold any columns. -/
def closeBlocks (l : Layout) (column : Int) : Layout :=
  if l.inFlow then l
  else
    let (n, indent, outerIndents) := deeperBlocks column l.indent l.outerIndents
    { l with
      tokens := List.replicate n .blockEnd ++ l.tokens
      count := l.count + n
      indent
      outerIndents }

/-- Starts a block at a column, unless the block at hand has that column. -/
def startBlock (l : Layout) (column position : Nat) (t : Token) : Layout :=
  if l.inFlow || column ≤ l.indent then l
  else
    { l with indent := column, outerIndents := l.indent :: l.outerIndents }.emitAt position t

/-! ## Keys -/

/-- Gives up the possible key on the level at hand, if it may be something else. -/
def dropKey (l : Layout) : Option Layout :=
  if l.key.any (·.required) then none else some { l with key := none }

/-- Notes that the next node may be a key. In a block it must be one if it stands in its column. -/
def noteKey (l : Layout) : Option Layout :=
  if l.keyAllowed then do
    let l ← l.dropKey
    return { l with
      key := some ⟨l.count, l.cursor.mark, !l.inFlow && l.indent = l.column⟩ }
  else some l

/-- Whether a possible key is too far behind to be one. -/
def isStale (m : Mark) (k : PossibleKey) : Bool :=
  k.mark.line < m.line || k.mark.offset + 1024 < m.offset

/-- The possible key, if it can still be one. There is no result if it must be one and cannot. -/
def freshKey (m : Mark) : Option PossibleKey → Option (Option PossibleKey)
  | none => some none
  | some k => if isStale m k then (if k.required then none else some none) else some (some k)

/-- Gives up the possible keys that are too far behind. -/
def dropStaleKeys (l : Layout) : Option Layout := do
  let key ← freshKey l.cursor.mark l.key
  let outerKeys ← l.outerKeys.mapM (freshKey l.cursor.mark)
  return { l with key, outerKeys }

/-! ## Tokens -/

/-- Goes to the next token: past blanks, comments and line breaks. Behind a line break of a block a
key is allowed, and there a tab is no blank. A line may start with a mark of the byte order, which
takes a column like a blank. -/
def gapFrom (inFlow keyAllowed inComment : Bool) (m : Mark) : Text → Bool × Cursor
  | [] => (keyAllowed, ⟨m, []⟩)
  | '\x0d' :: '\n' :: s => gapFrom inFlow (keyAllowed || !inFlow) false (m.newLine 2) s
  | c :: s =>
    if isBreak c then gapFrom inFlow (keyAllowed || !inFlow) false (m.newLine c.utf8Size) s
    else if inComment || c = ' ' || (c = '\t' && (inFlow || !keyAllowed)) ||
        (c = '\ufeff' && m.column = 0) then
      gapFrom inFlow keyAllowed inComment (m.step c) s
    else if c = '#' then gapFrom inFlow keyAllowed true (m.step c) s
    else (keyAllowed, ⟨m, c :: s⟩)

/-- Goes to the next token. -/
def skipGap (l : Layout) : Layout :=
  let (keyAllowed, cursor) := gapFrom l.inFlow l.keyAllowed false l.cursor.mark l.cursor.rest
  { l with keyAllowed, cursor }

/-- Adds a token that stands outside of all blocks. -/
def atTop (l : Layout) : Option Layout := do
  let l ← (l.closeBlocks (-1)).dropKey
  return { l with keyAllowed := false }

/-- Opens brackets. -/
def openFlow (l : Layout) (t : Token) : Option Layout := do
  let l ← l.noteKey
  return { l with key := none, outerKeys := l.key :: l.outerKeys, keyAllowed := true }.emitChars t 1

/-- Closes brackets. -/
def closeFlow (l : Layout) (t : Token) : Option Layout := do
  let l ← l.dropKey
  let l :=
    match l.outerKeys with
    | [] => l
    | key :: outerKeys => { l with key, outerKeys }
  return { l with keyAllowed := false }.emitChars t 1

/-- Reads the comma inside of brackets. -/
def readFlowEntry (l : Layout) : Option Layout := do
  let l ← l.dropKey
  return { l with keyAllowed := true }.emitChars .flowEntry 1

/-- Starts a block for an entry in the column at hand. -/
def startBlockHere (l : Layout) (t : Token) : Option Layout :=
  if l.inFlow then some l
  else if l.keyAllowed then some (l.startBlock l.column l.count t)
  else none

/-- Reads the sign of an item of a block. -/
def readBlockEntry (l : Layout) : Option Layout := do
  let l ← l.startBlockHere .blockListStart
  let l ← l.dropKey
  return { l with keyAllowed := true }.emitChars .blockEntry 1

/-- Reads the sign of a key that is marked as one. -/
def readKey (l : Layout) : Option Layout := do
  let l ← l.startBlockHere .blockMappingStart
  let l ← l.dropKey
  return { l with keyAllowed := !l.inFlow }.emitChars .key 1

/-- Reads the colon in front of a value. The possible key is one now; without it the colon follows a
key that is marked as one. -/
def readValue (l : Layout) : Option Layout :=
  match l.key with
  | some k =>
    let l := l.emitAt k.position .key
    let l := l.startBlock k.mark.column k.position .blockMappingStart
    some ({ l with key := none, keyAllowed := false }.emitChars .value 1)
  | none => do
    let l ← l.startBlockHere .blockMappingStart
    return { l with keyAllowed := !l.inFlow }.emitChars .value 1

/-- Reads a node, or a property of a node, that may be a key or belong to one. -/
def readNode (l : Layout) (read : Layout → Option (Token × Cursor)) : Option Layout := do
  let l ← l.noteKey
  let (t, cursor) ← read l
  return { l.emit t with cursor, keyAllowed := false }

/-- Reads a plain scalar. Behind its last line a key is allowed again. -/
def readPlainScalar (l : Layout) : Option Layout := do
  let l ← l.noteKey
  let p ← readPlain l.inFlow (l.indent + 1).toNat l.cursor
  return { l.emit (.scalar true p.content) with cursor := p.cursor, keyAllowed := p.onNewLine }

/-- Reads a block scalar. -/
def readBlockScalar (l : Layout) (literal : Bool) : Option Layout := do
  let l ← l.dropKey
  let (content, cursor) ← readBlock literal l.indent l.cursor
  return { l.emit (.scalar false content) with cursor, keyAllowed := true }

/-- The characters that a plain scalar does not start with. -/
def isIndicator (c : Char) : Bool := ("-?:,[]\x7b\x7d#&*!|>'\x22%@\x60" : Text).contains c

/-- Whether a plain scalar starts with this character, in front of this text. -/
def startsPlain (inFlow : Bool) (c : Char) (s : Text) : Bool :=
  !(isIndicator c || isWhite c) || (c = '-' && !(s.head?.any isWhite)) ||
    (!inFlow && (c = '?' || c = ':') && !endsWord s)

/-- Reads the token that starts with this character, in front of this text. -/
def readToken (l : Layout) (c : Char) (s : Text) : Option Layout :=
  if l.column = 0 && c = '%' then do
    let l ← l.atTop
    let (t, cursor) ← readDirective l.cursor
    return { l.emit t with cursor }
  else if l.cursor.atIndicator '-' then l.atTop.map (·.emitChars .documentStart 3)
  else if l.cursor.atIndicator '.' then l.atTop.map (·.emitChars .documentEnd 3)
  else if c = '[' then l.openFlow .flowListStart
  else if c = '\x7b' then l.openFlow .flowMappingStart
  else if c = ']' then l.closeFlow .flowListEnd
  else if c = '\x7d' then l.closeFlow .flowMappingEnd
  else if c = ',' then l.readFlowEntry
  else if c = '-' && endsWord s then l.readBlockEntry
  else if c = '?' && (l.inFlow || endsWord s) then l.readKey
  else if c = ':' && (l.inFlow || endsWord s) then l.readValue
  else if c = '*' then l.readNode fun l => (readAnchor l.cursor).map fun (n, c) => (.reference n, c)
  else if c = '&' then l.readNode fun l => (readAnchor l.cursor).map fun (n, c) => (.anchor n, c)
  else if c = '!' then
    l.readNode fun l => (readTag l.inFlow l.cursor).map fun (handle, c) => (.tag handle, c)
  else if c = '|' && !l.inFlow then l.readBlockScalar true
  else if c = '>' && !l.inFlow then l.readBlockScalar false
  else if c = '\'' || c = '\x22' then
    l.readNode fun l =>
      (readQuoted (c = '\'') l.cursor).map fun (content, c) => (.scalar false content, c)
  else if startsPlain l.inFlow c s then l.readPlainScalar
  else none

/-- Reads the tokens that are left. Each step reads a token of one character at least. -/
def readAll (l : Layout) : Nat → Option (List Token)
  | 0 => none
  | fuel + 1 => do
    let l ← l.skipGap.dropStaleKeys
    let l := l.closeBlocks l.column
    match l.cursor.rest with
    | [] =>
      let l ← l.atTop
      return l.tokens.reverse
    | c :: s =>
      let l ← l.readToken c s
      l.readAll fuel

end Layout

/-- The tokens of a text. -/
def Token.ofText? (s : Text) : Option (List Token) :=
  if s.all isAllowed then Layout.readAll { cursor := { rest := s } } (s.length + 1) else none

end RestScaffold.Yaml
