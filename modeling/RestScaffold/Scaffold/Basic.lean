import RestScaffold.Import.Path
import RestScaffold.Package

/-!
# Scaffolds

A scaffold is what all packages of a generated tree share: where the tree is, the header of its
files, the bindings of the source package and the irregular plurals. The tree has four directories
below the output package, and each controller has a directory of its own.
-/

namespace RestScaffold

/-- What the packages of a generated tree share. -/
structure Scaffold where
  outputPackage : Text
  header : List UInt8 := []
  vars : Bindings := TextMap.empty
  plurals : TextMap Text := TextMap.empty
  deriving DecidableEq

/-- The name of a type in file names, directories and routes. -/
def Declaration.stem (d : Declaration) : Text := Text.lower d.name.base

namespace Scaffold

/-- The directory of the server. -/
def serverDir : Text := "server"

/-- The directory of what controllers share, with the controllers below it. -/
def controllerDir : Text := "server/controller"

/-- The directory of the service. -/
def serviceDir : Text := "server/service"

/-- The directory of the middleware. -/
def middlewareDir : Text := "server/middleware"

/-- The path of a directory of the tree. -/
def path (s : Scaffold) (dir : Text) : Text := ImportPath.join s.outputPackage dir

/-- The path of the package that has the controller of a type. -/
def controllerPath (s : Scaffold) (d : Declaration) : Text :=
  ImportPath.join (s.path controllerDir) d.stem

/-- A generator of one file for all types. -/
def sharedGenerator (s : Scaffold) (package stem : Text) : Generator :=
  { id := ⟨package, stem⟩, vars := s.vars, plurals := s.plurals }

/-- A generator of one file that lists types. -/
def listingGenerator (s : Scaffold) (package stem : Text) (types : List Declaration) : Generator :=
  { id := ⟨package, stem⟩, vars := s.vars.insert "types" (.types types), plurals := s.plurals }

/-- A generator of the file of a type. -/
def typeGenerator (s : Scaffold) (package : Text) (d : Declaration) : Generator :=
  { id := ⟨package, d.stem⟩, trigger := .forType d.name, vars := s.vars
    contextKey := some ("type" : Text), plurals := s.plurals }

end Scaffold

end RestScaffold
