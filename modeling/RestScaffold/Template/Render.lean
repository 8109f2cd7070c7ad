import RestScaffold.Declaration
import RestScaffold.Template.Parse

/-!
# Rendering templates

Rendering writes text and at the same time fills the import table of the file. A `Rendering` is that
effect, and renderings form a monoid: `append` does one after the other and stops at the first
error, with the table as it was then. A block is rendered by sending its parts into this monoid, a
range being the product of its body over the elements of its sequence.
-/

namespace RestScaffold

/-- What a key may be bound to. -/
inductive Value where
  | type (declaration : Declaration)
  | types (declarations : List Declaration)
  | scalar (text : Text)
  deriving DecidableEq

/-- The bindings that a template sees. -/
abbrev Bindings := TextMap Value

/-- The text that is written on an import table, or the first error, and the table afterwards. -/
abbrev Rendering := ImportTable → Except TemplateError Text × ImportTable

namespace Rendering

/-- Writes a text. -/
def text (s : Text) : Rendering := fun t => (.ok s, t)

/-- Stops with an error. -/
def fail (e : TemplateError) : Rendering := fun t => (.error e, t)

/-- Writes what `a` writes and then what `b` writes. -/
def append (a b : Rendering) : Rendering := fun t =>
  match a t with
  | (.error e, t₁) => (.error e, t₁)
  | (.ok s, t₁) =>
    match b t₁ with
    | (.error e, t₂) => (.error e, t₂)
    | (.ok s', t₂) => (.ok (s ++ s'), t₂)

instance : Append Rendering := ⟨append⟩

/-- One rendering after the other. -/
def concat (rs : List Rendering) : Rendering := rs.foldr append (text [])

/-- Writes a form of a name. -/
def name (scope : NameScope) (n : TypeName) (form : NameForm) : Rendering := fun t =>
  let (s, t) := scope.name n form t
  (.ok s, t)

end Rendering

/-- What a reference is bound to, with `current` as the element of the range around it. -/
def KeyRef.lookup (vars : Bindings) (current : Option Declaration) :
    KeyRef → Except TemplateError Value
  | .current =>
    match current with
    | some d => .ok (.type d)
    | none => .error (.unboundKey ".")
  | .named name =>
    match vars.get? name with
    | some v => .ok v
    | none => .error (.unboundKey name)

/-- Renders a placeholder. A type without a form is written in its public form. A form that does not
exist is reported before a value that has no forms. -/
def Expression.render (scope : NameScope) (vars : Bindings) (current : Option Declaration)
    (e : Expression) : Rendering :=
  match e.key.lookup vars current with
  | .error err => .fail err
  | .ok value =>
    match e.form with
    | none =>
      match value with
      | .type d => .name scope d.name .pub
      | .scalar s => .text s
      | .types _ => .fail (.notAScalar e.key.display)
    | some tag =>
      match NameForm.ofText? tag with
      | none => .fail (.unknownForm (Text.trim tag))
      | some form =>
        match value with
        | .type d => .name scope d.name form
        | _ => .fail (.notAType e.key.display)

namespace Block

/-- Renders a block with `current` as the element of the range around it. -/
def render (scope : NameScope) (vars : Bindings) : Block → Option Declaration → Rendering
  | done, _ => .text []
  | text s rest, current => .append (.text s) (rest.render scope vars current)
  | emit e _ rest, current =>
    .append (e.render scope vars current) (rest.render scope vars current)
  | range key _ body rest, current =>
    match key.lookup vars current with
    | .error err => .fail err
    | .ok (.types items) =>
      .append (.concat (items.map fun item => body.render scope vars (some item)))
        (rest.render scope vars current)
    | .ok _ => .fail (.notASequence key.display)

end Block

/-- Reads and renders the text of a template. -/
def renderText (d : Delimiters) (scope : NameScope) (vars : Bindings) (s : Text) : Rendering :=
  match Block.ofText d s with
  | .error e => .fail e
  | .ok block => block.render scope vars none

end RestScaffold
