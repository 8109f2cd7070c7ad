import RestScaffold.File.Error
import RestScaffold.File.Path

/-!
# File stores

The file operations that the program needs, for any monad that has them: the real file system and
the file trees of `File.Tree` are two of them. What is built from these operations alone, such as
the creation of a directory with all its parents, is defined once for every store.
-/

namespace RestScaffold

/-- Operations on files that are named by paths. -/
class FileStore (m : Type → Type) where
  /-- Whether the path leads to a file. -/
  isFile : Text → m Bool
  /-- Whether the path leads to a directory. -/
  isDirectory : Text → m Bool
  /-- Whether the path leads to anything. -/
  isPresent : Text → m Bool
  /-- The bytes of a file. -/
  read : Text → m (Except FileError (List UInt8))
  /-- Makes a file of these bytes, in place of the file that is there. -/
  write : Text → List UInt8 → m (Except FileError Unit)
  /-- Makes the second path a file of the bytes of the first. -/
  copy : Text → Text → m (Except FileError Unit)
  /-- Moves a file to the second path, in place of the file that is there. -/
  move : Text → Text → m (Except FileError Unit)
  /-- Removes a file. -/
  remove : Text → m (Except FileError Unit)
  /-- Makes a directory in a directory that is there. -/
  makeDirectory : Text → m (Except FileError Unit)

namespace FileStore

variable {m : Type → Type} [Monad m] [FileStore m]

/-- The text of a file. -/
def readText (path : Text) : m (Except FileError Text) := do
  match ← read path with
  | .error e => return .error e
  | .ok bytes =>
    match Text.ofUtf8? bytes with
    | some s => return .ok s
    | none => return .error .notText

/-- Makes the first path of a list a directory. The rest of the list has its ancestors, which are
made directories first when one of them is missing. -/
def makeFirst : List Text → m (Except FileError Unit)
  | [] => pure (.ok ())
  | path :: ancestors => do
    if path = [] then return .ok ()
    match ← makeDirectory path with
    | .ok () => return .ok ()
    | .error .notFound =>
      match ← makeFirst ancestors with
      | .error e => return .error e
      | .ok () =>
        match ← makeDirectory path with
        | .ok () => return .ok ()
        | .error e => return if ← isDirectory path then .ok () else .error e
    | .error e => return if ← isDirectory path then .ok () else .error e

/-- Makes a directory and every directory on the way to it. It may be there already. -/
def makeDirectories (path : Text) : m (Except FileError Unit) :=
  makeFirst (FilePath.ancestors path)

end FileStore

end RestScaffold
