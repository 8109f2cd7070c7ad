import RestScaffold.Template.Token

/-!
# Reading templates

An action is `end`, a range with its key, or a placeholder. `Block.read` goes through the tokens of a
run of parts and reads the body of each range by itself, up to the end of the range. On the way it
records the name of every key. What it leaves of the tokens is never longer than what it was given,
which is part of its result, so reading ends.
-/

namespace RestScaffold

open Text

/-- How deep ranges may be nested. -/
def maxRangeDepth : Nat := 2

/-- What an action says, before its key is read. -/
inductive Action where
  | leave
  | enter (key : Text)
  | emit (source : Text)
  deriving DecidableEq

/-- What the content of an action says, blanks around it aside. The word `range` opens a range only
when it stands by itself. -/
def Action.ofText (content : Text) : Action :=
  let action := trim content
  if action = "end" then leave
  else
    match dropLead? "range" action with
    | none => emit action
    | some key => if key.head?.all isBlank then enter key else emit action

/-- The characters that a key starts with. -/
def isKeyStart (c : Char) : Bool := c.isAlpha || c = '_'

/-- The characters that a key goes on with. -/
def isKeyRest (c : Char) : Bool := c.isAlphanum || c = '_'

/-- An identifier of ASCII letters, digits and underscores. -/
def isIdentifier (name : Text) : Bool := name.head?.any isKeyStart && name.all isKeyRest

/-- Reads a key, which may have a dot in front. A dot alone is the current element. -/
def KeyRef.ofText (line : Nat) (s : Text) : Except TemplateError KeyRef :=
  let key := trim s
  if key = [] then .error (.flaw line .emptyAction)
  else if key = "." then .ok current
  else
    let name := (dropLead? "." key).getD key
    if isIdentifier name then .ok (named name) else .error (.flaw line (.invalidKey key))

/-- Reads a placeholder: a key, or a key and a form with a bar between them. -/
def Expression.ofText (line : Nat) (source : Text) : Except TemplateError Expression :=
  match splitFirst '|' source with
  | none => (KeyRef.ofText line source).map fun key => ⟨key, none⟩
  | some (key, form) =>
    if trim form = [] then .error (.flaw line (.emptyForm source))
    else (KeyRef.ofText line key).map fun key => ⟨key, some (trim form)⟩

/-- Puts the name of a reference, if it has one, among the sorted names of the keys. -/
def KeyRef.record : KeyRef → List Text → List Text
  | current, keys => keys
  | named name, keys => insertSorted name keys

namespace Block

/-- What reading a run of parts comes to: the run, the keys recorded so far and the tokens behind it,
of which there are not more than before. -/
structure Reading (tokens : List Token) where
  block : Block
  keys : List Text
  left : List Token
  length_le : left.length ≤ tokens.length

/-- Reads the parts up to the end of the range around them, or all parts when there is none. `depth`
says how many ranges are around them, and `openedAt` is the line of the innermost one. -/
def read (depth : Nat) (openedAt : Option Nat) (keys : List Text) :
    (tokens : List Token) → Except TemplateError (Reading tokens)
  | [] =>
    match openedAt with
    | some line => .error (.flaw line .unclosedRange)
    | none => .ok ⟨done, keys, [], Nat.le_refl _⟩
  | .text content :: tokens =>
    match read depth openedAt keys tokens with
    | .error e => .error e
    | .ok rest =>
      .ok ⟨text content rest.block, rest.keys, rest.left, Nat.le_succ_of_le rest.length_le⟩
  | .action content line :: tokens =>
    match Action.ofText content with
    | .leave =>
      match openedAt with
      | some _ => .ok ⟨done, keys, tokens, Nat.le_succ _⟩
      | none => .error (.flaw line .strayEnd)
    | .enter target =>
      if maxRangeDepth < depth + 1 then .error (.nestingTooDeep line maxRangeDepth)
      else
        match KeyRef.ofText line target with
        | .error e => .error e
        | .ok key =>
          match read (depth + 1) (some line) (key.record keys) tokens with
          | .error e => .error e
          | .ok body =>
            have := Nat.lt_succ_of_le body.length_le
            match read depth openedAt body.keys body.left with
            | .error e => .error e
            | .ok rest => .ok ⟨range key line body.block rest.block, rest.keys, rest.left,
                Nat.le_succ_of_le (Nat.le_trans rest.length_le body.length_le)⟩
    | .emit source =>
      match Expression.ofText line source with
      | .error e => .error e
      | .ok e =>
        match read depth openedAt (e.key.record keys) tokens with
        | .error e => .error e
        | .ok rest =>
          .ok ⟨emit e line rest.block, rest.keys, rest.left, Nat.le_succ_of_le rest.length_le⟩
termination_by tokens => tokens.length

end Block

/-- Reads a template. -/
def Template.ofText (d : Delimiters) (s : Text) : Except TemplateError Template :=
  match Token.ofText d s with
  | .error e => .error e
  | .ok tokens => (Block.read 0 none [] tokens).map fun all => ⟨all.block, all.keys⟩

/-- Reads the parts of a template. -/
def Block.ofText (d : Delimiters) (s : Text) : Except TemplateError Block :=
  (Template.ofText d s).map Template.block

end RestScaffold
