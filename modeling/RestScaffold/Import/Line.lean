import RestScaffold.Text.Sorted

/-!
# Import lines

An import line is a quoted package path, with the local name in front when the file calls the
package by another name. An entry given by hand may leave the quotes out. The lines of a file are
the normal forms of its entries, sorted and each once, so neither the order nor the repetition of
entries matters.
-/

namespace RestScaffold.ImportLine

open Text

/-- The double quote. -/
def quote : Char := '\x22'

/-- A path in quotes. -/
def quoted (path : Text) : Text := quote :: path ++ [quote]

/-- The line that imports a path under a name, which is left out when it is the last
segment of the path. -/
def bind (path name : Text) : Text :=
  if afterLast '/' path = name then quoted path else name ++ " " ++ quoted path

/-- The line of an entry: one without quotes is a bare path. -/
def normalize (entry : Text) : Text :=
  let e := trim entry
  if e.contains quote then e else quoted e

/-- The lines of a list of entries, blank ones left out. -/
def merge (entries : List Text) : List Text :=
  sortDistinct ((entries.filter fun e => !isBlankText e).map normalize)

end RestScaffold.ImportLine
