import RestScaffold.Declaration
import RestScaffold.Manifest.Node

/-!
# Encoding declarations

A declaration is written as a node that is read as a declaration: a mapping of all its fields, with
types in their written form.
-/

namespace RestScaffold

namespace Node

/-- The node of a text. -/
def ofText (s : Text) : Node := .text (some s)

/-- The mapping of named nodes. -/
def ofFields (fields : List (Text × Node)) : Node :=
  .mapping (fields.map fun f => (ofText f.1, f.2))

end Node

namespace Manifest

/-- Writes a member of a type. -/
def encodeMember (m : Member) : Node :=
  .ofFields [
    ("name", .ofText m.name),
    ("type", .ofText m.type.qualified),
    ("tags", .ofText m.tags)]

/-- Writes a type. -/
def encode (d : Declaration) : Node :=
  .ofFields [
    ("name", .ofText d.name.qualified),
    ("members", .list (d.members.map encodeMember)),
    ("comment_lines", .list (d.comments.map .ofText)),
    ("second_closest_comment_lines", .list (d.earlierComments.map .ofText))]

end Manifest

end RestScaffold
