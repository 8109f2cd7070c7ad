import RestScaffold.Text.Basic

/-!
# Document nodes

Manifests come in two formats, and a document of either is a tree of nodes. A node is told apart as
far as a manifest needs it: a text, a place without content, another literal, a list, a mapping or a
reference to an anchored node. Anchored nodes stand in a table beside the root, so a document that
refers to itself is still a finite tree.

A `Decoder` reads a value from a document. It follows references as it meets them and gives up when
it has followed as many as the document allows.
-/

namespace RestScaffold

/-- A node of a document. -/
inductive Node where
  /-- A text; there is no content if it cannot be written in Unicode. -/
  | text (content : Option Text)
  /-- A place where a node may stand but does not. -/
  | blank
  /-- A null, a number or a truth value, in a format that tells them from texts. -/
  | literal
  | list (items : List Node)
  | mapping (entries : List (Node × Node))
  | reference (anchor : Nat)
  deriving Inhabited

/-- A tree of nodes with its anchored nodes. -/
structure Document where
  root : Node
  anchors : List (Nat × Node) := []
  /-- Whether a record may be written as the list of its values. -/
  listsAsRecords : Bool := false
  /-- How many references may be followed. -/
  maxReferences : Nat := 0

/-- Reads a value from a document, given how many more references may be followed. -/
abbrev Decoder (α : Type) := ReaderT Document (StateT Nat Option) α

namespace Decoder

/-- Reads nothing. -/
def fail {α : Type} : Decoder α := fun _ _ => none

/-- The node, or the node that it refers to. -/
def resolve (n : Node) : Decoder Node := fun d left =>
  match n with
  | .reference anchor =>
    match left, d.anchors.lookup anchor with
    | left + 1, some n => some (n, left)
    | _, _ => none
  | n => some (n, left)

/-- Reads a text. A place without content is an empty text. -/
def text (n : Node) : Decoder Text := do
  match ← resolve n with
  | .text (some s) => return s
  | .blank => return []
  | _ => fail

/-- Reads a list. A place without content is an empty list. -/
def list {α : Type} (item : Node → Decoder α) (n : Node) : Decoder (List α) := do
  match ← resolve n with
  | .list items => items.mapM item
  | .blank => return []
  | _ => fail

/-- Puts the value of an entry beside the field of its key. There may be one value for a field, and
entries of other keys are passed over. -/
def bindField (key : Text) (value : Node) :
    List (Text × Option Node) → Decoder (List (Text × Option Node))
  | [] => return []
  | f :: fields => do
    if f.1 = key then
      if f.2.isSome then fail
      return (f.1, some value) :: fields
    return f :: (← bindField key value fields)

/-- Puts the values of a list of entries beside their fields. -/
def bindFields (fields : List (Text × Option Node)) :
    List (Node × Node) → Decoder (List (Text × Option Node))
  | [] => return fields
  | (key, value) :: entries => do
    bindFields (← bindField (← text key) value fields) entries

/-- The values of a list in the places of the fields. There may not be more values than fields. -/
def bindInOrder : List Text → List Node → Decoder (List (Option Node))
  | [], [] => return []
  | [], _ :: _ => fail
  | _ :: names, [] => return none :: (← bindInOrder names [])
  | _ :: names, n :: nodes => return some n :: (← bindInOrder names nodes)

/-- Reads a record: the node of each named field that is there, in the order of the names. -/
def record (names : List Text) (n : Node) : Decoder (List (Option Node)) := do
  match ← resolve n with
  | .mapping entries =>
    return (← bindFields (names.map fun name => (name, none)) entries).map Prod.snd
  | .list items =>
    if (← read).listsAsRecords then bindInOrder names items else fail
  | .blank => return names.map fun _ => none
  | _ => fail

/-- Reads a field that must be there. -/
def required {α : Type} (read : Node → Decoder α) : Option Node → Decoder α
  | none => fail
  | some n => read n

/-- Reads a field that may be missing. -/
def optional {α : Type} (read : Node → Decoder α) (default : α) : Option Node → Decoder α
  | none => return default
  | some n => read n

end Decoder

/-- Reads a value from the root of a document. -/
def Document.decode? {α : Type} (d : Document) (read : Node → Decoder α) : Option α :=
  (read d.root d d.maxReferences).map Prod.fst

end RestScaffold
