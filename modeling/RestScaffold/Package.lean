import RestScaffold.Generator.Basic

/-!
# Packages

A package is a directory of generated files with one header. A documented package has a file of its
own for the documentation, in front of the files of its generators.
-/

namespace RestScaffold

/-- What a package is for. -/
inductive PackageKind where
  /-- The options of the controllers and the helpers that reply. -/
  | controllerMeta
  /-- The interface of the service. -/
  | serviceInterface
  | middleware
  /-- The controller of one type. -/
  | typeController
  /-- The service methods of one type. -/
  | typeService
  | server
  deriving DecidableEq

namespace PackageKind

/-- Every kind. -/
def all : List PackageKind :=
  [controllerMeta, serviceInterface, middleware, typeController, typeService, server]

/-- The name of a kind. -/
def name : PackageKind → Text
  | controllerMeta => "controller-meta"
  | serviceInterface => "service-interface"
  | middleware => "middleware"
  | typeController => "type-controller"
  | typeService => "type-service"
  | server => "server"

/-- The kind of a name. -/
def ofName? (name : Text) : Option PackageKind := all.find? (·.name = name)

end PackageKind

/-- A package of generated files. -/
structure Package where
  kind : PackageKind
  name : Text
  path : Text
  header : List UInt8 := []
  documentation : Option Text := none
  generators : List Generator := []
  deriving DecidableEq

namespace Package

/-- The stem of the file that has the documentation. -/
def docStem : Text := "doc"

/-- The stems of the package's files in order. -/
def outputStems (p : Package) : List Text :=
  (if p.documentation.isSome then [docStem] else []) ++ p.generators.map (·.id.stem)

end Package

end RestScaffold
