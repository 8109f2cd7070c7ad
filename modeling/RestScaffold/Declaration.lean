import RestScaffold.TypeName
import RestScaffold.Text.Case

/-!
# Type declarations and source packages

What the scaffold is generated from: type declarations with their members and comments, grouped in
source packages. A universe is a list of source packages in which no path occurs twice, since adding
a package under a known path extends the package that is there.

Declarations are put in order by the base name with a small first letter, then by package path, then
by the base name itself.
-/

namespace RestScaffold

/-- A member of a type: its name, its type and the text of its struct tags. -/
structure Member where
  name : Text
  type : TypeName
  tags : Text := []
  deriving DecidableEq

/-- A type with its members, the comment lines right above it and those of the block before. -/
structure Declaration where
  name : TypeName
  members : List Member := []
  comments : List Text := []
  earlierComments : List Text := []
  deriving DecidableEq

namespace Declaration

/-- The comment lines that may hold directives. The block right above the type comes last, so its
flags hold. -/
def annotationLines (d : Declaration) : List Text := d.earlierComments ++ d.comments

/-- The first member of a name. -/
def member? (d : Declaration) (name : Text) : Option Member :=
  d.members.find? (·.name = name)

/-- What declarations are ordered by, the first part deciding first. -/
def sortKey (d : Declaration) : List Text :=
  [Text.decapitalize d.name.base, d.name.package, d.name.base]

/-- How two declarations are ordered. -/
def order (a b : Declaration) : Ordering :=
  if a.sortKey < b.sortKey then .lt else if b.sortKey < a.sortKey then .gt else .eq

/-- Whether `a` may stand before `b`. -/
def notAfter (a b : Declaration) : Bool := !decide (b.sortKey < a.sortKey)

/-- The declarations in order; equal ones keep their places. -/
def sort (ds : List Declaration) : List Declaration := ds.mergeSort notAfter

end Declaration

/-- A package that types are taken from. -/
structure SourcePackage where
  path : Text
  comments : List Text := []
  types : List Declaration := []
  deriving DecidableEq

namespace SourcePackage

/-- The package with one more type, which is named as one of this package. -/
def addType (p : SourcePackage) (d : Declaration) : SourcePackage :=
  { p with types := p.types ++ [{ d with name := ⟨p.path, d.name.base⟩ }] }

/-- A package of these types, each named as one of it. -/
def ofTypes (path : Text) (comments : List Text) (types : List Declaration) : SourcePackage :=
  types.foldl addType { path, comments }

/-- The package with the comments and the types of another one behind its own. -/
def absorb (p other : SourcePackage) : SourcePackage :=
  { p with comments := p.comments ++ other.comments, types := p.types ++ other.types }

end SourcePackage

/-- The source packages of a run, in the order in which their paths first appeared. -/
abbrev Universe := List SourcePackage

namespace Universe

/-- Adds a package, or extends the one of the same path. -/
def add : Universe → SourcePackage → Universe
  | [], p => [p]
  | q :: u, p => if q.path = p.path then q.absorb p :: u else q :: add u p

/-- The universe of the packages of a list, added in order. -/
def ofList (packages : List SourcePackage) : Universe := packages.foldl add []

/-- The package of a path. -/
def package? (u : Universe) (path : Text) : Option SourcePackage := u.find? (·.path = path)

end Universe

end RestScaffold
