import RestScaffold.Text.Basic

/-!
# Qualified type names

A type is named by the path of its package and its base name. The written form puts a dot between
them, and a builtin type, which has no package, is written by its base name alone. Reading cuts at
the last dot behind the last slash, so dots in a domain name stay in the path.
-/

namespace RestScaffold

open Text

/-- The package path and the base name of a type. -/
structure TypeName where
  package : Text
  base : Text
  deriving DecidableEq

namespace TypeName

/-- Whether a character ends the base name when a name is read from its end. -/
def endsBase (c : Char) : Bool := c = '.' || c = '/'

/-- Reads a written name, blanks around it aside. -/
def ofText (s : Text) : TypeName :=
  let name := trim s
  match name.reverse.dropWhile (!endsBase ·) with
  | c :: package =>
    if c = '.' then ⟨package.reverse, (name.reverse.takeWhile (!endsBase ·)).reverse⟩
    else ⟨[], name⟩
  | [] => ⟨[], name⟩

/-- The written form. -/
def qualified (n : TypeName) : Text :=
  if n.package = [] then n.base else n.package ++ "." ++ n.base

end TypeName

end RestScaffold
