import RestScaffold.File.Store
import RestScaffold.RenderedFile
import RestScaffold.ScaffoldError

/-!
# Output directories

Rendered files are written below a base directory, all of them or none. A file that is in the way is
copied to a backup before it is overwritten. When a step fails, the files that were touched are
undone, the latest first: a backup goes back to its place, and a file without one is removed. When
all files are written the backups are discarded.
-/

namespace RestScaffold

/-- Where and how files are written. -/
structure Output where
  base : Text
  /-- The package whose directory is the base. -/
  package : Text
  /-- Whether nothing is written at all. -/
  dryRun : Bool := false
  deriving DecidableEq

/-- What was written. -/
structure WriteReport where
  paths : List Text
  filesWritten : Nat
  dryRun : Bool
  deriving DecidableEq

/-- A target that has been touched, with the backup of the file that was there. -/
structure Touched where
  path : Text
  backup : Option Text
  deriving DecidableEq

namespace Output

/-- The path that a file is written to. -/
def target (o : Output) (f : RenderedFile) : Text :=
  FilePath.join o.base (f.relativePath o.package)

/-- The path of the backup of a file. -/
def backupPath (path : Text) : Text := path ++ ".bak"

section Store

variable {m : Type → Type} [Monad m] [FileStore m]

/-- Undoes what was done to a target, as far as possible. -/
def undo (t : Touched) : m Unit := do
  match t.backup with
  | some backup => let _ ← FileStore.move backup t.path
  | none => if ← FileStore.isPresent t.path then let _ ← FileStore.remove t.path

/-- Undoes the targets of a list in its order. -/
def undoAll : List Touched → m Unit
  | [] => pure ()
  | t :: ts => do
    undo t
    undoAll ts

/-- Removes the backups of the targets of a list, as far as possible. -/
def discardBackups : List Touched → m Unit
  | [] => pure ()
  | t :: ts => do
    match t.backup with
    | some backup => let _ ← FileStore.remove backup
    | none => pure ()
    discardBackups ts

/-- Copies the file at a path to its backup, if there is a file. -/
def protect (path : Text) : m (Except WriteFailure (Option Text)) := do
  if ← FileStore.isFile path then
    match ← FileStore.copy path (backupPath path) with
    | .error e => return .error (.backup path e)
    | .ok () => return .ok (some (backupPath path))
  else return .ok none

/-- Writes a file into a directory that is made when it is missing. -/
def place (path : Text) (bytes : List UInt8) : m (Except WriteFailure Unit) := do
  match FilePath.parent? path with
  | none => writeFile
  | some parent =>
    match ← FileStore.makeDirectories parent with
    | .error e => return .error (.directory parent e)
    | .ok () => writeFile
where
  /-- Writes the file, with the directory in place. -/
  writeFile : m (Except WriteFailure Unit) := do
    match ← FileStore.write path bytes with
    | .error e => return .error (.file path e)
    | .ok () => return .ok ()

/-- Writes the files of a list to their paths. `touched` has the targets so far, the latest first;
they are undone when a step fails. -/
def placeAll (touched : List Touched) :
    List (Text × List UInt8) → m (Except WriteFailure (List Touched))
  | [] => return .ok touched
  | (path, bytes) :: files => do
    match ← protect path with
    | .error e =>
      undoAll touched
      return .error e
    | .ok backup =>
      let touched := ⟨path, backup⟩ :: touched
      match ← place path bytes with
      | .error e =>
        undoAll touched
        return .error e
      | .ok () => placeAll touched files

/-- Writes every file, or none of them. -/
def writeAll (o : Output) (files : List RenderedFile) :
    m (Except ScaffoldError WriteReport) := do
  let paths := files.map o.target
  if o.dryRun then return .ok ⟨paths, 0, true⟩
  match ← placeAll [] (files.map fun f => (o.target f, f.assemble)) with
  | .error e => return .error (.writeFailed e)
  | .ok touched =>
    discardBackups touched.reverse
    return .ok ⟨paths, touched.length, false⟩

end Store

end Output

end RestScaffold
