import RestScaffold.TextMap

/-!
# Comment tags

Any comment line that starts with a marker is a tag with a key and a value; a line without an equals
sign has an empty value. The tags of a block are collected by key, values in order of appearance.
-/

namespace RestScaffold

open Text

/-- The key and the value of a tag line, if it starts with the marker and its key is not blank. -/
def readCommentTag? (marker line : Text) : Option (Text × Text) :=
  match dropLead? marker (trim line) with
  | none => none
  | some rest =>
    let (key, value) :=
      match splitFirst '=' rest with
      | some (key, value) => (trim key, trim value)
      | none => (trim rest, [])
    if key = [] then none else some (key, value)

/-- The tags of a comment block: each key with its values in order. -/
def collectCommentTags (marker : Text) (lines : List Text) : TextMap (List Text) :=
  (lines.filterMap (readCommentTag? marker)).foldl
    (fun tags t => tags.insert t.1 (((tags.get? t.1).getD []) ++ [t.2])) TextMap.empty

end RestScaffold
