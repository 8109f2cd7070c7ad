import RestScaffold.File.Store
import RestScaffold.Manifest.Decode
import RestScaffold.Manifest.Json
import RestScaffold.Manifest.Yaml.Tree
import RestScaffold.ScaffoldError

/-!
# Loading manifests

A manifest is read in the format that the extension of its file names. Its packages must have a path
and its types a name. The packages of all manifests make one universe, in which packages of the same
path are one.
-/

namespace RestScaffold

open Text

/-- How a manifest is written. -/
inductive ManifestFormat where
  | yaml
  | json
  deriving DecidableEq

namespace ManifestFormat

/-- The format that a file's extension names, in letters of any case. -/
def ofPath? (path : Text) : Option ManifestFormat :=
  match (FilePath.extension? path).map lowerAscii with
  | none => none
  | some ext =>
    if ext = "yaml" || ext = "yml" then some yaml
    else if ext = "json" then some json
    else none

/-- Reads a document. -/
def document? (f : ManifestFormat) (s : Text) : Option Document :=
  match f with
  | yaml => Yaml.read? s
  | json => Json.read? s

end ManifestFormat

namespace Manifest

/-- Adds the packages of a list to a universe, with their types named as theirs. -/
def addPackages (u : Universe) : List SourcePackage → Except ManifestFlaw Universe
  | [] => .ok u
  | p :: ps =>
    if isBlankText p.path then .error .blankPackagePath
    else if p.types.any fun d => isBlankText d.name.base then .error (.blankTypeName p.path)
    else addPackages (u.add (.ofTypes p.path p.comments p.types)) ps

/-- The universe of a manifest. -/
def read (f : ManifestFormat) (s : Text) : Except ManifestFlaw Universe :=
  match (f.document? s).bind (·.decode? packages) with
  | none => .error .undecodable
  | some ps => addPackages [] ps

variable {m : Type → Type} [Monad m] [FileStore m]

/-- The universe of a manifest file. -/
def load (path : Text) : m (Except ScaffoldError Universe) := do
  match ManifestFormat.ofPath? path with
  | none => return .error (.manifest path .unsupportedExtension)
  | some f =>
    match ← FileStore.readText path with
    | .error e => return .error (.manifest path (.unreadable e))
    | .ok s =>
      match read f s with
      | .error flaw => return .error (.manifest path flaw)
      | .ok u => return .ok u

/-- Adds the packages of several manifest files to a universe. -/
def loadInto (u : Universe) : List Text → m (Except ScaffoldError Universe)
  | [] => return .ok u
  | path :: paths => do
    match ← load path with
    | .error e => return .error e
    | .ok loaded => loadInto (loaded.foldl Universe.add u) paths

/-- The universe of several manifest files, read in order. -/
def loadAll (paths : List Text) : m (Except ScaffoldError Universe) := loadInto [] paths

end Manifest

end RestScaffold
