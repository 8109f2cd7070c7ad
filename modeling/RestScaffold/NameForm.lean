import RestScaffold.Import.Table
import RestScaffold.Text.Case
import RestScaffold.TypeName

/-!
# Forms of a type's name

A template may ask for the name of a type in one of six forms. Five of them depend on the base name
and the irregular plurals alone. The raw form is the name as code of another package writes it: with
the local name of its package in front, which enters the import table.
-/

namespace RestScaffold

open Text

/-- A form of a type's name. -/
inductive NameForm where
  | pub
  | priv
  | pubPlural
  | lowerPlural
  | lower
  | raw
  deriving DecidableEq

namespace NameForm

/-- Every form. -/
def all : List NameForm := [pub, priv, pubPlural, lowerPlural, lower, raw]

/-- The word by which a template asks for the form. -/
def tag : NameForm → Text
  | pub => "public"
  | priv => "private"
  | pubPlural => "publicPlural"
  | lowerPlural => "allLowercasePlural"
  | lower => "lowercaseSingular"
  | raw => "raw"

/-- The form of exactly this tag. -/
def ofTag? (tag : Text) : Option NameForm := all.find? (·.tag = tag)

/-- The form that a text names, blanks around it aside. -/
def ofText? (s : Text) : Option NameForm := ofTag? (trim s)

/-- Whether the form may enter a package into the import table. -/
def needsImports (f : NameForm) : Bool := f = raw

theorem ofTag?_tag (f : NameForm) : ofTag? f.tag = some f := by cases f <;> decide

end NameForm

/-- The regular plural. -/
def plural (name : Text) : Text := name ++ "s"

/-- Where names are written: the package of the code and the irregular plurals, by the capitalized
singular. -/
structure NameScope where
  localPackage : Text
  plurals : TextMap Text := TextMap.empty
  deriving DecidableEq

namespace NameScope

/-- The plural of a base name with a capital first letter. -/
def publicPlural (scope : NameScope) (base : Text) : Text :=
  (scope.plurals.get? (capitalize base)).getD (plural (capitalize base))

/-- Whether names of this package are written without a package in front. -/
def isLocal (scope : NameScope) (package : Text) : Bool :=
  package = [] || package = scope.localPackage

/-- The raw form of a name, and the table in which its package has a local name. -/
def rawName (scope : NameScope) (n : TypeName) (t : ImportTable) : Text × ImportTable :=
  if scope.isLocal n.package then (n.base, t)
  else
    let (name, t) := t.localName n.package
    (name ++ "." ++ n.base, t)

/-- A form of a name, and the import table afterwards. -/
def name (scope : NameScope) (n : TypeName) (form : NameForm) (t : ImportTable) :
    Text × ImportTable :=
  match form with
  | .pub => (capitalize n.base, t)
  | .priv => (decapitalize n.base, t)
  | .pubPlural => (scope.publicPlural n.base, t)
  | .lowerPlural => (lower (scope.publicPlural n.base), t)
  | .lower => (lower n.base, t)
  | .raw => scope.rawName n t

end NameScope

end RestScaffold
