import RestScaffold.NameForm

/-!
# Templates

A template is text with placeholders and ranges. A placeholder writes a value, for a type in one of
its name forms; a range repeats its body for each element of a sequence, and inside the body the
element is the current one.

A `Block` is a run of such parts as one list-like inductive type, so that everything said of
templates is one structural recursion on it.
-/

namespace RestScaffold

/-- What a placeholder or a range refers to. -/
inductive KeyRef where
  /-- The element of the range around it. -/
  | current
  | named (name : Text)
  deriving DecidableEq

/-- How a reference is written in messages. -/
def KeyRef.display : KeyRef → Text
  | current => "."
  | named name => name

/-- A reference, with the tag of a name form if one is asked for. The tag may name no form. -/
structure Expression where
  key : KeyRef
  form : Option Text := none
  deriving DecidableEq

/-- A run of text, placeholders and ranges; `rest` is what follows a part. -/
inductive Block where
  | done
  | text (content : Text) (rest : Block)
  | emit (expression : Expression) (line : Nat) (rest : Block)
  | range (key : KeyRef) (line : Nat) (body : Block) (rest : Block)
  deriving DecidableEq

namespace Block

/-- The named keys of a run of parts, in order of appearance. -/
def namedKeys : Block → List Text
  | done => []
  | text _ rest => rest.namedKeys
  | emit e _ rest => ofRef e.key ++ rest.namedKeys
  | range key _ body rest => ofRef key ++ body.namedKeys ++ rest.namedKeys
where
  /-- The name of a reference, if it has one. -/
  ofRef : KeyRef → List Text
    | .current => []
    | .named name => [name]

/-- The named keys, sorted and each once. -/
def keys (b : Block) : List Text := Text.sortDistinct b.namedKeys

end Block

/-- A template as it is read: its parts, and the names of the keys that were recorded on the way. -/
structure Template where
  block : Block
  keys : List Text
  deriving DecidableEq

/-- What is wrong with the text of a template. -/
inductive TemplateFlaw where
  | unterminated (closing : Text)
  | emptyAction
  | emptyForm (action : Text)
  | invalidKey (key : Text)
  | strayEnd
  | unclosedRange
  deriving DecidableEq

/-- Why a template cannot be read or rendered. -/
inductive TemplateError where
  | flaw (line : Nat) (flaw : TemplateFlaw)
  | emptyDelimiter
  | nestingTooDeep (line limit : Nat)
  | unboundKey (key : Text)
  | unknownForm (tag : Text)
  | notAType (key : Text)
  | notASequence (key : Text)
  | notAScalar (key : Text)
  /-- A snippet uses a symbol that no snippet up to it introduces. -/
  | usedTooEarly (snippet symbol : Text)
  deriving DecidableEq

/-- The wording of a flaw. -/
def TemplateFlaw.message : TemplateFlaw → Text
  | unterminated closing => "Unterminated action, expected '" ++ closing ++ "'"
  | emptyAction => "Empty action"
  | emptyForm action => "Empty naming form in '" ++ action ++ "'"
  | invalidKey key => "Invalid key '" ++ key ++ "'"
  | strayEnd => "'end' without matching 'range'"
  | unclosedRange => "Unclosed 'range' block"

/-- The wording of an error. -/
def TemplateError.message : TemplateError → Text
  | flaw line f => "Invalid template syntax at line " ++ Text.ofNat line ++ ": " ++ f.message
  | emptyDelimiter => "Template delimiters cannot be empty"
  | nestingTooDeep line limit =>
    "Range nesting deeper than " ++ Text.ofNat limit ++ " levels at line " ++ Text.ofNat line
  | unboundKey key => "Unbound template key: " ++ key
  | unknownForm tag => "Unknown naming form: " ++ tag
  | notAType key => "Key " ++ key ++ " is not bound to a type"
  | notASequence key => "Key " ++ key ++ " is not bound to a sequence"
  | notAScalar key => "Key " ++ key ++ " is a sequence and cannot be emitted directly"
  | usedTooEarly snippet symbol =>
    "Template " ++ snippet ++ " uses " ++ symbol ++ " before it is introduced"

end RestScaffold
