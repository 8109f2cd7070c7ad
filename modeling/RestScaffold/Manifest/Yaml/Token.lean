import RestScaffold.Manifest.Yaml.Cursor

/-!
# YAML tokens

The tokens of a YAML text, and the readers of those that are neither punctuation nor scalars:
directives, anchors and tags. A tag has no meaning for a manifest, but it must be well formed, and
its handle must be known where it is used.
-/

namespace RestScaffold.Yaml

open Text

/-- A token. Blocks start and end by indentation, so their ends are not written. -/
inductive Token where
  | versionDirective (major minor : Nat)
  | tagDirective (handle : Text)
  | documentStart
  | documentEnd
  | blockListStart
  | blockMappingStart
  | blockEnd
  | flowListStart
  | flowListEnd
  | flowMappingStart
  | flowMappingEnd
  | blockEntry
  | flowEntry
  | key
  | value
  | reference (name : Text)
  | anchor (name : Text)
  | tag (handle : Text)
  | scalar (isPlain : Bool) (content : Text)
  deriving DecidableEq

/-! ## Anchors -/

/-- Whether the name of an anchor may end in front of a text. -/
def endsAnchor : Text → Bool
  | [] => true
  | c :: s => endsWord (c :: s) || ("?:,]\x7d%@\x60" : Text).contains c

/-- Reads the name of an anchor or an alias, from its sign on. -/
def readAnchor (c : Cursor) : Option (Text × Cursor) :=
  let (name, c) := (c.skip 1).takeWhile isNameChar
  if name ≠ [] && endsAnchor c.rest then some (name, c) else none

/-! ## Tags -/

/-- The value of an escaped byte at the start of a text. -/
def readOctet : Text → Option Nat
  | '%' :: a :: b :: _ =>
    if isHex a && isHex b then some (16 * hexValue a + hexValue b) else none
  | _ => none
where
  /-- Whether a character is a hexadecimal digit. -/
  isHex (c : Char) : Bool :=
    c.isDigit || ('a' ≤ c && c ≤ 'f') || ('A' ≤ c && c ≤ 'F')
  /-- The value of a hexadecimal digit. -/
  hexValue (c : Char) : Nat := if c.isDigit then c.toNat - 48 else (c.toNat % 32) + 9

/-- How many bytes a character has whose first byte this is. -/
def octetWidth? (n : Nat) : Option Nat :=
  if n < 0x80 then some 1
  else if 0xC0 ≤ n && n < 0xE0 then some 2
  else if 0xE0 ≤ n && n < 0xF0 then some 3
  else if 0xF0 ≤ n && n < 0xF8 then some 4
  else none

/-- The cursor behind a number of escaped bytes that go on a character. -/
def skipOctets (c : Cursor) : Nat → Option Cursor
  | 0 => some c
  | n + 1 =>
    match readOctet c.rest with
    | some octet => if 0x80 ≤ octet && octet < 0xC0 then skipOctets (c.skip 3) n else none
    | none => none

/-- The cursor behind an escaped character. -/
def skipEscaped (c : Cursor) : Option Cursor :=
  match (readOctet c.rest).bind octetWidth? with
  | some width => skipOctets (c.skip 3) (width - 1)
  | none => none

/-- The characters of a tag. Brackets and commas count only where the end of the tag is marked. -/
def isTagChar (marked : Bool) (c : Char) : Bool :=
  isNameChar c || (";/?:@&=+$.%!~*'()" : Text).contains c ||
    (marked && (c = ',' || c = '[' || c = ']'))

/-- The cursor behind the characters of a tag. -/
def skipTagChars (marked : Bool) (c : Cursor) : Nat → Option Cursor
  | 0 => some c
  | fuel + 1 =>
    match c.head? with
    | none => some c
    | some x =>
      if !isTagChar marked x then some c
      else if x = '%' then
        match skipEscaped c with
        | some c => skipTagChars marked c fuel
        | none => none
      else skipTagChars marked (c.skip 1) fuel

/-- Reads the characters of a tag, of which there must be one unless `mayBeEmpty`. -/
def readTagChars (marked mayBeEmpty : Bool) (c : Cursor) : Option Cursor :=
  match skipTagChars marked c c.rest.length with
  | some d => if d = c && !mayBeEmpty then none else some d
  | none => none

/-- The exclamation mark and the name behind it, with a second exclamation mark if there is one. -/
def takeHandle (c : Cursor) : Text × Cursor :=
  let (name, c) := (c.skip 1).takeWhile isNameChar
  if c.head? = some '!' then ('!' :: name ++ ['!'], c.skip 1) else ('!' :: name, c)

/-- Whether a handle has a second exclamation mark. -/
def isWholeHandle (handle : Text) : Bool := handle ≠ ['!'] && handle.getLast? = some '!'

/-- Reads a tag, from its sign on: the handle that must be known, which is empty for a tag that needs
none. -/
def readTag (inFlow : Bool) (c : Cursor) : Option (Text × Cursor) := do
  let (handle, c) ←
    if (c.skip 1).head? = some '<' then do
      let c ← readTagChars true false (c.skip 2)
      if c.head? = some '>' then some ([], c.skip 1) else none
    else
      let (handle, d) := takeHandle c
      if isWholeHandle handle then (readTagChars false false d).map (handle, ·)
      else (readTagChars false true d).map (if handle = ['!'] && endsTag d.rest then [] else ['!'], ·)
  if endsWord c.rest || (inFlow && c.head? = some ',') then some (handle, c) else none
where
  /-- Whether no character of a tag follows. -/
  endsTag (s : Text) : Bool := !(s.head?.any (isTagChar false))

/-! ## Directives -/

/-- Reads a part of a version: at most nine digits. -/
def readVersionPart (c : Cursor) : Option (Nat × Cursor) :=
  let (digits, c) := c.takeWhile Char.isDigit
  if digits.length ≤ 9 then (ofDigits? digits).map (·, c) else none

/-- Reads what follows the name of a version directive. -/
def readVersion (c : Cursor) : Option (Token × Cursor) := do
  let (major, c) ← readVersionPart c.skipWhite
  if c.head? ≠ some '.' then none
  let (minor, c) ← readVersionPart (c.skip 1)
  return (.versionDirective major minor, c)

/-- Reads what follows the name of a tag directive. -/
def readTagDirective (c : Cursor) : Option (Token × Cursor) := do
  let c := c.skipWhite
  if c.head? ≠ some '!' then none
  let (handle, c) := takeHandle c
  if handle ≠ ['!'] && !isWholeHandle handle then none
  if !(c.head?.any isWhite) then none
  let c ← readTagChars true false c.skipWhite
  if endsWord c.rest then some (.tagDirective handle, c) else none

/-- Reads a directive, from its sign on, with the rest of its line. -/
def readDirective (c : Cursor) : Option (Token × Cursor) := do
  let (name, c) := (c.skip 1).takeWhile isNameChar
  if !endsWord c.rest then none
  let (token, c) ←
    if name = "YAML" then readVersion c
    else if name = "TAG" then readTagDirective c
    else none
  let c ← c.finishLine?
  return (token, c)

end RestScaffold.Yaml
