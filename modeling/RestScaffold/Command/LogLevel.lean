import RestScaffold.Command.Error

/-!
# Log levels

A level is chosen by name or number; without a choice the flags decide.
-/

namespace RestScaffold

/-- How much is logged. -/
inductive LogLevel where
  | error
  | warn
  | info
  | debug
  | trace
  deriving DecidableEq

namespace LogLevel

/-- Every level, the one that logs least first. -/
def all : List LogLevel := [error, warn, info, debug, trace]

/-- The name of a level. -/
def name : LogLevel → Text
  | error => "ERROR"
  | warn => "WARN"
  | info => "INFO"
  | debug => "DEBUG"
  | trace => "TRACE"

/-- The level of a number, counted from 1. A plus sign may stand in front. -/
def ofNumber? (s : Text) : Option LogLevel :=
  match Text.ofDigits? ((Text.dropLead? "+" s).getD s) with
  | some (n + 1) => all[n]?
  | _ => none

/-- The level of a name, in letters of any case. -/
def ofName? (s : Text) : Option LogLevel :=
  all.find? fun level => Text.lowerAscii level.name = Text.lowerAscii s

/-- The level of a run: the chosen one, or else what the flags ask for. -/
def resolve (verbose quiet : Bool) (choice : Option Text) : Except CommandError LogLevel :=
  match choice with
  | none => .ok (if quiet then error else if verbose then debug else info)
  | some text =>
    match (ofNumber? (Text.trim text)).or (ofName? (Text.trim text)) with
    | some level => .ok level
    | none => .error (.unknownLogLevel text)

end LogLevel

end RestScaffold
