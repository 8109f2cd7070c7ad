import RestScaffold.Manifest.Node

/-!
# JSON documents

JSON is read in two passes, each one walk over a list. The first groups the characters into tokens;
its state is the token that has been begun. The second puts the tokens together; its state is the
stack of the lists and mappings that have been opened, with what may come next. Both refuse what the
grammar refuses.

A text may escape the halves of a surrogate pair. A half that stands alone leaves the text without
content, which is no flaw as long as nobody reads the text.
-/

namespace RestScaffold.Json

open Text

/-- A token of a JSON text. -/
inductive Token where
  | openList
  | closeList
  | openMapping
  | closeMapping
  | comma
  | colon
  | text (content : Option Text)
  | literal
  deriving DecidableEq

/-! ## Literals -/

/-- The text behind a run of at least one digit. -/
def dropDigits? (s : Text) : Option Text :=
  if s.head?.any Char.isDigit then some (s.dropWhile Char.isDigit) else none

/-- The text behind the integer part of a number, which has no zero in front of other digits. -/
def dropInteger? : Text → Option Text
  | '0' :: s => some s
  | s => dropDigits? s

/-- The text behind a fraction, if there is a fraction. -/
def dropFraction? : Text → Option Text
  | '.' :: s => dropDigits? s
  | s => some s

/-- The text behind an exponent, if there is an exponent. -/
def dropExponent? : Text → Option Text
  | [] => some []
  | c :: s =>
    if c = 'e' || c = 'E' then
      match s with
      | '+' :: s => dropDigits? s
      | '-' :: s => dropDigits? s
      | s => dropDigits? s
    else some (c :: s)

/-- Whether a text is a number. -/
def isNumber (s : Text) : Bool :=
  ((dropInteger? ((dropLead? "-" s).getD s)).bind dropFraction?).bind dropExponent? = some []

/-- Whether a text is a literal. -/
def isLiteral (s : Text) : Bool := s = "null" || s = "true" || s = "false" || isNumber s

/-! ## Texts -/

/-- A text that has been begun. -/
structure Quoted where
  /-- The characters so far, the latest first. -/
  content : Text := []
  /-- The first half of a surrogate pair, whose second half must come next. -/
  half : Option Nat := none
  /-- Whether a half stood alone. -/
  broken : Bool := false
  deriving DecidableEq

namespace Quoted

/-- Adds a character. -/
def push (q : Quoted) (c : Char) : Quoted :=
  { content := c :: q.content, half := none, broken := q.broken || q.half.isSome }

/-- Adds a character or a half of a pair by its code. -/
def pushCode (q : Quoted) (n : Nat) : Quoted :=
  if 0xDC00 ≤ n && n ≤ 0xDFFF then
    match q.half with
    | some h =>
      { q with
        content := Char.ofNat (0x10000 + (h - 0xD800) * 0x400 + (n - 0xDC00)) :: q.content
        half := none }
    | none => { q with broken := true }
  else if 0xD800 ≤ n && n ≤ 0xDBFF then
    { q with half := some n, broken := q.broken || q.half.isSome }
  else q.push (Char.ofNat n)

/-- The text, with its end reached. -/
def token (q : Quoted) : Token :=
  .text (if q.broken || q.half.isSome then none else some q.content.reverse)

end Quoted

/-- The value of a hexadecimal digit. -/
def hexDigit? (c : Char) : Option Nat :=
  if '0' ≤ c && c ≤ '9' then some (c.toNat - 48)
  else if 'a' ≤ c && c ≤ 'f' then some (c.toNat - 87)
  else if 'A' ≤ c && c ≤ 'F' then some (c.toNat - 55)
  else none

/-- The character that a short escape stands for. -/
def shortEscape? : Char → Option Char
  | '\x22' => some '\x22'
  | '\\' => some '\\'
  | '/' => some '/'
  | 'b' => some '\x08'
  | 'f' => some '\x0c'
  | 'n' => some '\n'
  | 'r' => some '\x0d'
  | 't' => some '\t'
  | _ => none

/-! ## Tokens -/

/-- The token that has been begun. -/
inductive Begun where
  | nothing
  /-- A literal, the latest character first. -/
  | word (reversed : Text)
  | quoted (q : Quoted)
  /-- A text behind a backslash. -/
  | escape (q : Quoted)
  /-- A text inside of a character code, of which `digits` digits are missing. -/
  | code (q : Quoted) (digits value : Nat)
  deriving DecidableEq

/-- The token that a character is by itself. -/
def punctuation? : Char → Option Token
  | '[' => some .openList
  | ']' => some .closeList
  | '\x7b' => some .openMapping
  | '\x7d' => some .closeMapping
  | ',' => some .comma
  | ':' => some .colon
  | _ => none

/-- The characters between tokens. -/
def isSpace (c : Char) : Bool := c = ' ' || c = '\n' || c = '\t' || c = '\x0d'

/-- The literal of a word, the latest character first. -/
def endWord (reversed : Text) : Option (List Token) :=
  if isLiteral reversed.reverse then some [.literal] else none

/-- Reads a character outside of a text: what is begun, and the token that is complete. -/
def begin (c : Char) : Begun × List Token :=
  if isSpace c then (.nothing, [])
  else if c = '\x22' then (.quoted {}, [])
  else
    match punctuation? c with
    | some t => (.nothing, [t])
    | none => (.word [c], [])

/-- Reads a character: what is begun, and the tokens that are complete. -/
def readChar (b : Begun) (c : Char) : Option (Begun × List Token) :=
  match b with
  | .nothing => some (begin c)
  | .word w =>
    match begin c with
    | (.word _, _) => some (.word (c :: w), [])
    | (b, tokens) => (endWord w).map fun word => (b, word ++ tokens)
  | .quoted q =>
    if c = '\x22' then some (.nothing, [q.token])
    else if c = '\\' then some (.escape q, [])
    else if c.toNat < 0x20 then none
    else some (.quoted (q.push c), [])
  | .escape q =>
    if c = 'u' then some (.code q 4 0, [])
    else (shortEscape? c).map fun c => (.quoted (q.push c), [])
  | .code q digits value =>
    match hexDigit? c, digits with
    | some d, 1 => some (.quoted (q.pushCode (16 * value + d)), [])
    | some d, digits => some (.code q (digits - 1) (16 * value + d), [])
    | none, _ => none

/-- The tokens of a text, with a token begun. -/
def tokensFrom (b : Begun) : Text → Option (List Token)
  | [] =>
    match b with
    | .nothing => some []
    | .word w => endWord w
    | _ => none
  | c :: s =>
    match readChar b c with
    | none => none
    | some (b, tokens) => (tokensFrom b s).map (tokens ++ ·)

/-! ## Nodes -/

/-- A list or a mapping that has been opened, the latest part first. -/
inductive Frame where
  | list (items : List Node)
  | mapping (entries : List (Node × Node))
  /-- A mapping with a key whose value is still to come. -/
  | entry (entries : List (Node × Node)) (key : Node)

/-- What may come next. -/
inductive Expected where
  | value
  /-- A value, or the end of a list that is empty. -/
  | valueOrEnd
  /-- A comma, or the end of what was opened last; nothing, if all is closed. -/
  | commaOrEnd
  | key
  /-- A key, or the end of a mapping that is empty. -/
  | keyOrEnd
  | colon
  deriving DecidableEq

/-- What has been read: the open frames, the innermost first, the root if it is complete, and what
may come next. -/
structure Reading where
  frames : List Frame := []
  root : Option Node := none
  expected : Expected := .value

namespace Reading

/-- Adds a complete node. -/
def add (r : Reading) (n : Node) : Reading :=
  match r.frames with
  | .list items :: frames => { r with frames := .list (n :: items) :: frames, expected := .commaOrEnd }
  | .entry entries key :: frames =>
    { r with frames := .mapping ((key, n) :: entries) :: frames, expected := .commaOrEnd }
  | _ => { r with root := some n, expected := .commaOrEnd }

/-- Reads a token where a value may stand. -/
def readValue (r : Reading) : Token → Option Reading
  | .text content => some (r.add (.text content))
  | .literal => some (r.add .literal)
  | .openList => some { r with frames := .list [] :: r.frames, expected := .valueOrEnd }
  | .openMapping => some { r with frames := .mapping [] :: r.frames, expected := .keyOrEnd }
  | _ => none

/-- Closes the innermost list. -/
def closeList (r : Reading) : Option Reading :=
  match r.frames with
  | .list items :: frames => some ({ r with frames }.add (.list items.reverse))
  | _ => none

/-- Closes the innermost mapping. -/
def closeMapping (r : Reading) : Option Reading :=
  match r.frames with
  | .mapping entries :: frames => some ({ r with frames }.add (.mapping entries.reverse))
  | _ => none

/-- Reads a token where a key may stand. -/
def readKey (r : Reading) (t : Token) : Option Reading :=
  match t, r.frames with
  | .text content, .mapping entries :: frames =>
    some { r with frames := .entry entries (.text content) :: frames, expected := .colon }
  | _, _ => none

/-- Reads a token. -/
def read (r : Reading) (t : Token) : Option Reading :=
  match r.expected with
  | .value => r.readValue t
  | .valueOrEnd => if t = .closeList then r.closeList else r.readValue t
  | .key => r.readKey t
  | .keyOrEnd => if t = .closeMapping then r.closeMapping else r.readKey t
  | .colon => if t = .colon then some { r with expected := .value } else none
  | .commaOrEnd =>
    match t, r.frames with
    | .comma, .list _ :: _ => some { r with expected := .value }
    | .comma, .mapping _ :: _ => some { r with expected := .key }
    | .closeList, _ => r.closeList
    | .closeMapping, _ => r.closeMapping
    | _, _ => none

/-- The root, if all is closed. -/
def result (r : Reading) : Option Node :=
  match r.frames with
  | [] => r.root
  | _ :: _ => none

end Reading

/-- The document of a JSON text. -/
def read? (s : Text) : Option Document := do
  let tokens ← tokensFrom .nothing s
  let r ← tokens.foldlM Reading.read {}
  let root ← r.result
  return { root, listsAsRecords := true }

end RestScaffold.Json
