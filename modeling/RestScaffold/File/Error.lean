import RestScaffold.Text.Basic

/-!
# File errors

Why an operation on files fails, with the wording that the system has for it.
-/

namespace RestScaffold

/-- The cause of a failed file operation. -/
inductive FileError where
  | notFound
  | alreadyExists
  | notDirectory
  | isDirectory
  | nameTooLong
  /-- A path holds the character that ends a path. -/
  | nulInPath
  /-- The bytes of a file are no text. -/
  | notText
  /-- A cause that only a real file system knows. -/
  | other (reason : Text)
  deriving DecidableEq

/-- The wording of a file error. -/
def FileError.message : FileError → Text
  | notFound => "No such file or directory (os error 2)"
  | alreadyExists => "File exists (os error 17)"
  | notDirectory => "Not a directory (os error 20)"
  | isDirectory => "Is a directory (os error 21)"
  | nameTooLong => "File name too long (os error 36)"
  | nulInPath => "file name contained an unexpected NUL byte"
  | notText => "stream did not contain valid UTF-8"
  | other reason => reason

/-- The error that the system reports by this number and this reason. -/
def FileError.ofSystem (number : Nat) (reason : Text) : FileError :=
  match number with
  | 2 => notFound
  | 17 => alreadyExists
  | 20 => notDirectory
  | 21 => isDirectory
  | 36 => nameTooLong
  | _ => other (reason ++ " (os error " ++ Text.ofNat number ++ ")")

end RestScaffold
