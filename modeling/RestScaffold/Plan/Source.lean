import RestScaffold.CommentTag
import RestScaffold.Scaffold.Basic
import RestScaffold.Selection

/-!
# Planned sources

What planning finds out about one source package: its selected types, the type of its object meta
and the group and the version that its routes are under. A package without selected types
contributes nothing, but it must still be in order.
-/

namespace RestScaffold

open Text

/-- What a plan is made from besides the source packages. -/
structure PlanConfig where
  outputPackage : Text
  header : List UInt8 := []
  selection : Selection := {}
  /-- The member that one generated type of each package must have. -/
  objectMetaMember : Option Text := some ("ObjectMeta" : Text)
  plurals : TextMap Text := TextMap.empty
  deriving DecidableEq

/-- A source package with at least one selected type. -/
structure SourcePlan where
  path : Text
  group : Text
  version : Text
  /-- Whether the object meta is without a JSON name. -/
  internal : Bool
  objectMeta : Option TypeName
  types : List Declaration
  deriving DecidableEq

namespace SourcePackage

/-- The declarations of a list that are generated, or the first malformed directive. -/
def generatedTypes : List Declaration → Except ScaffoldError (List Declaration)
  | [] => .ok []
  | d :: ds =>
    match d.isGenerated with
    | .error e => .error e
    | .ok keep => (generatedTypes ds).map fun kept => if keep then d :: kept else kept

/-- The object meta of a package: the first member of this name among its generated types. A package
without generated types has none and needs none. -/
def objectMeta (p : SourcePackage) (member : Text) : Except ScaffoldError (Option Member) :=
  match generatedTypes p.types with
  | .error e => .error e
  | .ok [] => .ok none
  | .ok ds =>
    match ds.findSome? (·.member? member) with
    | some m => .ok (some m)
    | none => .error (.missingObjectMeta p.path member)

/-- The group and the version of a package. They are the last two segments of its path; an internal
package and one of a single segment have only a group, which is the last segment. A comment tag may
name another group, of which the part in front of the first dot counts. -/
def groupVersion (p : SourcePackage) (internal : Bool) : Text × Text :=
  let (group, version) :=
    match (segments p.path).reverse with
    | [] => ([], [])
    | [last] => (last, [])
    | last :: before :: _ => if internal then (last, []) else (before, last)
  match (collectCommentTags [Directive.marker] p.comments).get? "groupName" with
  | some (name :: _) => (name.takeWhile (· ≠ '.'), version)
  | _ => (group, version)

/-- What is planned for a package. -/
def plan (p : SourcePackage) (c : PlanConfig) : Except ScaffoldError (Option SourcePlan) :=
  match c.selection.select p with
  | .error e => .error e
  | .ok types =>
    match c.objectMetaMember.elim (.ok none) p.objectMeta with
    | .error e => .error e
    | .ok meta? =>
      if types = [] then .ok none
      else
        let internal := meta?.any fun m => (cutAt "json" m.tags).isNone
        let (group, version) := p.groupVersion internal
        .ok (some
          { path := p.path, group, version, internal, objectMeta := meta?.map (·.type), types })

end SourcePackage

namespace SourcePlan

/-- What the templates of the source's types see. -/
def vars (s : SourcePlan) : Bindings :=
  let vars : Bindings := TextMap.ofList [("group", .scalar s.group), ("version", .scalar s.version)]
  match s.objectMeta with
  | none => vars
  | some name => vars.insert "objectMeta" (.type { name })

end SourcePlan

end RestScaffold
