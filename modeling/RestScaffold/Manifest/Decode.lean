import RestScaffold.Declaration
import RestScaffold.Manifest.Node

/-!
# Decoding manifests

How the packages of a manifest are written: a record with a list of packages, each with its path,
its comments and its types, and each type with its members and comments. Unknown fields are passed
over.
-/

namespace RestScaffold.Manifest

open Decoder

/-- Reads a member of a type. -/
def member (n : Node) : Decoder Member := do
  match ← record ["name", "type", "tags"] n with
  | [name, type, tags] =>
    return {
      name := ← required text name
      type := TypeName.ofText (← required text type)
      tags := ← optional text [] tags }
  | _ => fail

/-- Reads a type, whose name is read from its text in the given way. -/
def declaration (readName : Text → TypeName) (n : Node) : Decoder Declaration := do
  match ← record ["name", "members", "comment_lines", "second_closest_comment_lines"] n with
  | [name, members, comments, earlierComments] =>
    return {
      name := readName (← required text name)
      members := ← optional (list member) [] members
      comments := ← optional (list text) [] comments
      earlierComments := ← optional (list text) [] earlierComments }
  | _ => fail

/-- Reads a package. Its types are named without a package. -/
def package (n : Node) : Decoder SourcePackage := do
  match ← record ["path", "comments", "types"] n with
  | [path, comments, types] =>
    return {
      path := ← required text path
      comments := ← optional (list text) [] comments
      types := ← optional (list (declaration fun name => ⟨[], name⟩)) [] types }
  | _ => fail

/-- Reads the packages of a manifest. -/
def packages (n : Node) : Decoder (List SourcePackage) := do
  match ← record ["packages"] n with
  | [packages] => optional (list package) [] packages
  | _ => fail

end RestScaffold.Manifest
