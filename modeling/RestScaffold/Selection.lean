import RestScaffold.ScaffoldError

/-!
# Selection

Of a source package those types are selected whose directives ask for generation and support every
required verb. One malformed directive stops the selection of the whole package, whatever else the
package holds. The selected types come in the order of declarations.
-/

namespace RestScaffold

/-- What a type needs to be selected. -/
structure Selection where
  requiredVerbs : List Verb := [.list, .get]
  deriving DecidableEq

/-- What the directives of a declaration say: nothing, if it has none. -/
def Declaration.directives (d : Declaration) : Except ScaffoldError (Option DirectiveSet) :=
  match DirectiveSet.ofLines d.annotationLines with
  | .ok s => .ok (some s)
  | .error .absent => .ok none
  | .error e => .error (.directive d.name e)

/-- Whether the directives of a declaration ask for generation. -/
def Declaration.isGenerated (d : Declaration) : Except ScaffoldError Bool :=
  d.directives.map fun s => s.any (·.generate)

namespace Selection

/-- Whether a declaration is selected. -/
def accepts (sel : Selection) (d : Declaration) : Except ScaffoldError Bool :=
  d.directives.map fun s => s.any fun s => s.generate && s.satisfies sel.requiredVerbs

/-- The selected declarations in the order of the list, or the first malformed directive. -/
def filter (sel : Selection) : List Declaration → Except ScaffoldError (List Declaration)
  | [] => .ok []
  | d :: ds =>
    match sel.accepts d with
    | .error e => .error e
    | .ok keep => (filter sel ds).map fun kept => if keep then d :: kept else kept

/-- The selected types of a package, sorted. -/
def select (sel : Selection) (p : SourcePackage) : Except ScaffoldError (List Declaration) :=
  (sel.filter p.types).map Declaration.sort

end Selection

/-- Whether a declaration of the list is generated, reading no further than the first that is. -/
def anyGenerated : List Declaration → Except ScaffoldError Bool
  | [] => .ok false
  | d :: ds =>
    match d.isGenerated with
    | .error e => .error e
    | .ok true => .ok true
    | .ok false => anyGenerated ds

end RestScaffold
