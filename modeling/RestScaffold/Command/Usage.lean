import RestScaffold.Text.Basic

/-!
# Usage

Arguments that are no request to generate: they ask for help or for the version, or they cannot be
read.
-/

namespace RestScaffold

/-- Why the arguments are no request to generate. -/
inductive UsageError where
  | missingRequired
  /-- Two options exclude each other, or one that may stand once is repeated. -/
  | conflict
  | unknownArgument
  /-- A value is missing, or a path is empty. -/
  | invalidValue
  /-- A switch has a value. -/
  | tooManyValues
  /-- Not an error: help is asked for. -/
  | help
  /-- Not an error: the version is asked for. -/
  | version
  deriving DecidableEq

namespace UsageError

/-- Whether the arguments ask for what is shown instead of a run. -/
def isAnswer (e : UsageError) : Bool := e = help || e = version

/-- The exit code of a process with such arguments. -/
def exitCode (e : UsageError) : Nat := if e.isAnswer then 0 else 2

/-- How the command is called. -/
def synopsis : Text := "Usage: restgen [OPTIONS] --output-package <PATH> --input <FILE>..."

/-- What to say about the arguments. -/
def message : UsageError → Text
  | missingRequired => "--output-package and --input are required"
  | conflict => "an option is repeated or excludes another one"
  | unknownArgument => "an argument is not known"
  | invalidValue => "an option has no value"
  | tooManyValues => "a switch takes no value"
  | help => synopsis
  | version => "restgen 0.1.0"

end UsageError

end RestScaffold
