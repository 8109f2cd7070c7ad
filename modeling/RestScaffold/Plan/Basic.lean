import RestScaffold.Plan.Source
import RestScaffold.Scaffold.Bootstrap
import RestScaffold.Scaffold.PerType
import RestScaffold.Scaffold.Shared

/-!
# Plans

A plan lists the packages of a generated tree in an order in which each comes behind those it
imports: what the controllers share, the service interface and the middleware, then for each type
its controller and its service methods, and the server last. The types of all sources are merged in
the order of declarations. A plan in which two files would have the same place is refused.
-/

namespace RestScaffold

/-- The packages of a generated tree. -/
structure Plan where
  outputPackage : Text
  sources : List SourcePlan := []
  types : List Declaration := []
  packages : List Package := []
  deriving DecidableEq

namespace PlanConfig

/-- What all packages of the tree share, with the bindings of a source. -/
def scaffold (c : PlanConfig) (vars : Bindings) : Scaffold :=
  ⟨c.outputPackage, c.header, vars, c.plurals⟩

/-- The scaffold of the packages that belong to no source. -/
def sharedScaffold (c : PlanConfig) : Scaffold := c.scaffold TextMap.empty

/-- The planned sources of a list of packages in order, or the first error. -/
def planSources (c : PlanConfig) : List SourcePackage → Except ScaffoldError (List SourcePlan)
  | [] => .ok []
  | p :: ps =>
    match p.plan c with
    | .error e => .error e
    | .ok source => (c.planSources ps).map (source.toList ++ ·)

/-- The types of all sources in order, each with the scaffold of its source. -/
def selectedTypes (c : PlanConfig) (sources : List SourcePlan) : List (Declaration × Scaffold) :=
  (sources.flatMap fun s => s.types.map fun d => (d, c.scaffold s.vars)).mergeSort
    fun a b => Declaration.notAfter a.1 b.1

/-- The packages of the tree: none, if there are no types. -/
def packagesOf (c : PlanConfig) (selected : List (Declaration × Scaffold)) : List Package :=
  let s := c.sharedScaffold
  let types := selected.map Prod.fst
  if types = [] then []
  else
    [s.controllerMeta, s.serviceInterfaceOf types, s.middleware] ++
      selected.flatMap (fun t => [t.2.typeController t.1, t.2.typeService t.1]) ++
      [s.server types]

end PlanConfig

namespace Plan

/-- Checks the generators of a list, in order. -/
def checkGenerators : List Generator → Except ScaffoldError Unit
  | [] => .ok ()
  | g :: gs =>
    match g.checkOrder with
    | .error e => .error (.template g.id e)
    | .ok () => checkGenerators gs

/-- The places of the plan's files: package paths and file stems. -/
def outputs (p : Plan) : List (Text × Text) :=
  p.packages.flatMap fun package => package.outputStems.map fun stem => (package.path, stem)

/-- The first element of a list that stands in `seen` or earlier in the list. -/
def firstRepeated {α : Type} [DecidableEq α] (seen : List α) : List α → Option α
  | [] => none
  | x :: xs => if x ∈ seen then some x else firstRepeated (x :: seen) xs

/-- Refuses a plan in which a file has the place of an earlier one. -/
def checkCollisions (p : Plan) : Except ScaffoldError Unit :=
  match firstRepeated [] p.outputs with
  | some (path, stem) => .error (.outputCollision path stem)
  | none => .ok ()

/-- The plan for a universe. The output package must not be blank. -/
def ofUniverse (c : PlanConfig) (u : Universe) : Except ScaffoldError Plan :=
  if Text.isBlankText c.outputPackage then .error .blankOutputPackage
  else
    match c.planSources u with
    | .error e => .error e
    | .ok sources =>
      let selected := c.selectedTypes sources
      let plan : Plan :=
        { outputPackage := c.outputPackage, sources, types := selected.map Prod.fst
          packages := c.packagesOf selected }
      match checkGenerators (plan.packages.flatMap (·.generators)) with
      | .error e => .error e
      | .ok () =>
        match plan.checkCollisions with
        | .error e => .error e
        | .ok () => .ok plan

end Plan

end RestScaffold
