import RestScaffold.Verb

/-!
# Generation directives

A comment line of the form `+key` or `+key=value` is a directive. Only the family of the key
`genclient` is read here; lines of other families belong to other tools and are passed over.

`Directive.read` says what a single line means, `Directive.ofLines` collects the directives of a
comment block up to the first flaw, and `DirectiveSet.ofLines` sums them up: the last generate flag
holds, and verb lists of one kind are united.
-/

namespace RestScaffold

open Text

/-- What one line of the family says. -/
inductive Directive where
  /-- Whether the type is generated at all. -/
  | generate (enabled : Bool)
  | nonNamespaced
  | noVerbs
  | onlyVerbs (verbs : List Verb)
  | skipVerbs (verbs : List Verb)
  deriving DecidableEq

/-- Why a line of the family cannot be read. -/
inductive DirectiveFlaw where
  /-- The line is not of the form `+key` or `+key=value`. -/
  | shape
  | flagValue (value : Text)
  | unexpectedValue (key : Text)
  | missingVerbs
  | unknownVerb (name : Text)
  | unknownKey (key : Text)
  deriving DecidableEq

/-- Why a comment block gives no directives. -/
inductive DirectiveError where
  /-- No line belongs to the family. -/
  | absent
  /-- A line of the family, blanks around it aside, cannot be read. -/
  | malformed (line : Text) (flaw : DirectiveFlaw)
  deriving DecidableEq

/-- The wording of a flaw. -/
def DirectiveFlaw.message : DirectiveFlaw → Text
  | shape => "invalid directive syntax"
  | flagValue value => "expected true or false, got '" ++ value ++ "'"
  | unexpectedValue key => key ++ " takes no value"
  | missingVerbs => "expected a comma separated verb list"
  | unknownVerb name => Verb.unknownMessage name
  | unknownKey key => "unknown directive '" ++ key ++ "'"

/-- The wording of an error. -/
def DirectiveError.message : DirectiveError → Text
  | absent => "no generation directive present"
  | malformed line flaw => "malformed directive '" ++ line ++ "': " ++ flaw.message

namespace Directive

/-- The character that starts a directive. -/
def marker : Char := '+'

/-- The key of the generate flag. -/
def familyKey : Text := "genclient"

/-- The key of an extension of the family. -/
def extensionKey (name : Text) : Text := familyKey ++ ":" ++ name

/-- The characters of a key. -/
def isKeyChar (c : Char) : Bool :=
  c.isAlphanum || c = ':' || c = '.' || c = '_' || c = '-'

/-- The key and the value of a line `+key` or `+key=value`. A key starts with a letter; a value
may be anything on one line. -/
def split? : Text → Option (Text × Option Text)
  | [] => none
  | c :: rest =>
    let key := rest.takeWhile isKeyChar
    if c = marker && (key.head?.any Char.isAlpha) then
      match rest.dropWhile isKeyChar with
      | [] => some (key, none)
      | d :: value => if d = '=' && !(value.contains '\n') then some (key, some value) else none
    else none

/-- The verbs of a comma separated list, which must not be blank. -/
def readVerbs (value : Option Text) : Except DirectiveFlaw (List Verb) :=
  let list := trim (value.getD [])
  if list = [] then .error .missingVerbs
  else (splitOn ',' list).mapM fun part =>
    match Verb.ofText? part with
    | some v => .ok v
    | none => .error (.unknownVerb part)

/-- The generate flag that a value sets: no value means true. -/
def readFlag (value : Option Text) : Except DirectiveFlaw Bool :=
  let flag := trim (value.getD [])
  if flag = [] || flag = "true" then .ok true
  else if flag = "false" then .ok false
  else .error (.flagValue flag)

/-- What a key with a value says: nothing, if the key is of another family. -/
def interpret (key : Text) (value : Option Text) : Except DirectiveFlaw (Option Directive) :=
  if key = familyKey then (readFlag value).map fun enabled => some (generate enabled)
  else if key = extensionKey "nonNamespaced" then
    if value.isSome then .error (.unexpectedValue key) else .ok (some nonNamespaced)
  else if key = extensionKey "noVerbs" then
    if value.isSome then .error (.unexpectedValue key) else .ok (some noVerbs)
  else if key = extensionKey "onlyVerbs" then
    (readVerbs value).map fun verbs => some (onlyVerbs verbs)
  else if key = extensionKey "skipVerbs" then
    (readVerbs value).map fun verbs => some (skipVerbs verbs)
  else if startsWith (extensionKey []) key then .error (.unknownKey key)
  else .ok none

/-- What a line without blanks around it says: nothing, if it does not start like the family. -/
def read (line : Text) : Except DirectiveFlaw (Option Directive) :=
  if startsWith (marker :: familyKey) line then
    match split? line with
    | none => .error .shape
    | some (key, value) => interpret key value
  else .ok none

/-- The directives of a comment block in order, or its first flaw. -/
def ofLines : List Text → Except DirectiveError (List Directive)
  | [] => .ok []
  | line :: lines =>
    match read (trim line) with
    | .error flaw => .error (.malformed (trim line) flaw)
    | .ok none => ofLines lines
    | .ok (some d) => (ofLines lines).map (d :: ·)

end Directive

/-- What the directives of a comment block say together. -/
structure DirectiveSet where
  generate : Bool := false
  nonNamespaced : Bool := false
  noVerbs : Bool := false
  onlyVerbs : VerbSet := []
  skipVerbs : VerbSet := []
  deriving DecidableEq

namespace DirectiveSet

/-- The set with one more directive. -/
def add (s : DirectiveSet) : Directive → DirectiveSet
  | .generate enabled => { s with generate := enabled }
  | .nonNamespaced => { s with nonNamespaced := true }
  | .noVerbs => { s with noVerbs := true }
  | .onlyVerbs verbs => { s with onlyVerbs := s.onlyVerbs.union (VerbSet.ofList verbs) }
  | .skipVerbs verbs => { s with skipVerbs := s.skipVerbs.union (VerbSet.ofList verbs) }

/-- The directives of a list, taken together. -/
def ofDirectives (ds : List Directive) : DirectiveSet := ds.foldl add {}

/-- What a comment block says, if it has a directive and no flaw. -/
def ofLines (lines : List Text) : Except DirectiveError DirectiveSet :=
  match Directive.ofLines lines with
  | .error e => .error e
  | .ok [] => .error .absent
  | .ok ds => .ok (ofDirectives ds)

/-- The verbs that a client of the type supports. -/
def supportedVerbs (s : DirectiveSet) : VerbSet :=
  if s.noVerbs then []
  else VerbSet.diff (if s.onlyVerbs = [] then Verb.all else s.onlyVerbs) s.skipVerbs

/-- Whether a verb is supported. -/
def supports (s : DirectiveSet) (v : Verb) : Bool := v ∈ s.supportedVerbs

/-- Whether every required verb is supported. -/
def satisfies (s : DirectiveSet) (required : List Verb) : Bool := required.all s.supports

end DirectiveSet

end RestScaffold
