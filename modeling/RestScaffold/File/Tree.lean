import RestScaffold.File.Store

/-!
# File trees

A file tree is a store that is held as a value. Its entries are files and directories at locations,
a location being the names on the way from the root. A path is walked name by name from the working
directory or the root, so it can fail for reasons of structure only: a missing name, a file where a
directory is needed, a directory where a file is needed, or a name or path that is too long.
-/

namespace RestScaffold

open Text

/-- Where an entry is: the names on the way from the root. -/
abbrev Location := List Text

/-- What is at a location. -/
inductive Entry where
  | file (bytes : List UInt8)
  | directory
  deriving DecidableEq

/-- Files and directories, and the directory that relative paths start from. -/
structure FileTree where
  entries : List (Location × Entry) := []
  workingDirectory : Location := []
  deriving DecidableEq

namespace FileTree

/-- The longest name, in bytes. -/
def maxNameLength : Nat := 255

/-- The longest path, in bytes. -/
def maxPathLength : Nat := 4095

/-- What is at a location. The root is a directory. -/
def get? (t : FileTree) (l : Location) : Option Entry :=
  if l = [] then some .directory else t.entries.lookup l

/-- The tree with an entry at a location, whatever was there. -/
def put (t : FileTree) (l : Location) (e : Entry) : FileTree :=
  { t with entries := (l, e) :: t.entries.filter (·.1 ≠ l) }

/-- The tree with nothing at a location. -/
def erase (t : FileTree) (l : Location) : FileTree :=
  { t with entries := t.entries.filter (·.1 ≠ l) }

/-- The location that a name leads to from a location, which must be a directory. -/
def enter (t : FileTree) (l : Location) (name : Text) : Except FileError Location :=
  match t.get? l with
  | none => .error .notFound
  | some (.file _) => .error .notDirectory
  | some .directory =>
    if name = "." then .ok l
    else if name = ".." then .ok l.dropLast
    else if maxNameLength < (utf8 name).length then .error .nameTooLong
    else .ok (l ++ [name])

/-- The location that a list of names leads to. -/
def walk (t : FileTree) (l : Location) : List Text → Except FileError Location
  | [] => .ok l
  | name :: names =>
    match t.enter l name with
    | .error e => .error e
    | .ok l => t.walk l names

/-- The location that a path leads to. There may be nothing at it. -/
def locate (t : FileTree) (path : Text) : Except FileError Location :=
  if path.contains '\x00' then .error .nulInPath
  else if path = [] then .error .notFound
  else if maxPathLength < (utf8 path).length then .error .nameTooLong
  else t.walk (if path.head? = some '/' then [] else t.workingDirectory) (segments path)

/-- What a path leads to. A path that ends in a slash leads to directories only. -/
def lookup (t : FileTree) (path : Text) : Except FileError Entry :=
  match t.locate path with
  | .error e => .error e
  | .ok l =>
    match t.get? l with
    | none => .error .notFound
    | some .directory => .ok .directory
    | some (.file bytes) =>
      if path.getLast? = some '/' then .error .notDirectory else .ok (.file bytes)

/-- Whether a path leads to a file. -/
def isFile (t : FileTree) (path : Text) : Bool :=
  match t.lookup path with
  | .ok (.file _) => true
  | _ => false

/-- Whether a path leads to a directory. -/
def isDirectory (t : FileTree) (path : Text) : Bool :=
  match t.lookup path with
  | .ok .directory => true
  | _ => false

/-- Whether a path leads to anything. -/
def isPresent (t : FileTree) (path : Text) : Bool := (t.lookup path).isOk

/-- The bytes of a file. -/
def read (t : FileTree) (path : Text) : Except FileError (List UInt8) :=
  match t.lookup path with
  | .error e => .error e
  | .ok .directory => .error .isDirectory
  | .ok (.file bytes) => .ok bytes

/-- The tree with a file of these bytes. -/
def write (t : FileTree) (path : Text) (bytes : List UInt8) : Except FileError FileTree :=
  match t.locate path with
  | .error e => .error e
  | .ok l =>
    if t.get? l = some .directory || path.getLast? = some '/' then .error .isDirectory
    else .ok (t.put l (.file bytes))

/-- The tree with the bytes of the first file in the second as well. -/
def copy (t : FileTree) (source target : Text) : Except FileError FileTree :=
  match t.read source with
  | .error e => .error e
  | .ok bytes => t.write target bytes

/-- The tree without a file. -/
def remove (t : FileTree) (path : Text) : Except FileError FileTree :=
  match t.read path, t.locate path with
  | .error e, _ => .error e
  | _, .error e => .error e
  | .ok _, .ok l => .ok (t.erase l)

/-- The tree with a file moved to another path. -/
def move (t : FileTree) (source target : Text) : Except FileError FileTree :=
  match t.read source with
  | .error e => .error e
  | .ok bytes =>
    match t.remove source with
    | .error e => .error e
    | .ok t => t.write target bytes

/-- The tree with one more directory. -/
def makeDirectory (t : FileTree) (path : Text) : Except FileError FileTree :=
  match t.locate path with
  | .error e => .error e
  | .ok l => if (t.get? l).isSome then .error .alreadyExists else .ok (t.put l .directory)

/-- Goes on with the tree that an operation gives, and with the old one if it fails. -/
def update (f : FileTree → Except FileError FileTree) : StateM FileTree (Except FileError Unit) :=
  fun t =>
    match f t with
    | .error e => (.error e, t)
    | .ok t => (.ok (), t)

instance : FileStore (StateM FileTree) where
  isFile path := fun t => (t.isFile path, t)
  isDirectory path := fun t => (t.isDirectory path, t)
  isPresent path := fun t => (t.isPresent path, t)
  read path := fun t => (t.read path, t)
  write path bytes := update (·.write path bytes)
  copy source target := update (·.copy source target)
  move source target := update (·.move source target)
  remove path := update (·.remove path)
  makeDirectory path := update (·.makeDirectory path)

end FileTree

end RestScaffold
