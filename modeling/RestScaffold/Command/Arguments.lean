import RestScaffold.Command.Options
import RestScaffold.Command.Usage

/-!
# Arguments

Arguments are read from left to right. A setting takes a value, attached with an equals sign or as
the next argument; the setting for manifests takes all values up to the next option. A switch takes
none and may stand in a group of short ones. A setting whose values are still to come is pending; it
is settled when the next option arrives or the arguments end, and only then are its values looked
at. What is missing or in conflict is found out at the very end.
-/

namespace RestScaffold

open Text

/-- An option that takes a value. -/
inductive Setting where
  | outputPackage
  | headerFile
  | input
  | outputBase
  | requiredVerbs
  | objectMeta
  | pluralException
  | logLevel
  deriving DecidableEq

namespace Setting

/-- Every setting. -/
def all : List Setting :=
  [outputPackage, headerFile, input, outputBase, requiredVerbs, objectMeta, pluralException,
    logLevel]

/-- The name behind two dashes. -/
def name : Setting → Text
  | outputPackage => "output-package"
  | headerFile => "go-header-file"
  | input => "input"
  | outputBase => "output-base"
  | requiredVerbs => "required-verbs"
  | objectMeta => "object-meta"
  | pluralException => "plural-exception"
  | logLevel => "log-level"

/-- The setting of a name. -/
def ofName? (name : Text) : Option Setting := all.find? (·.name = name)

/-- Whether the values are paths, which must not be empty. -/
def isPath (s : Setting) : Bool := s ∈ [headerFile, input, outputBase]

/-- Whether the setting may stand more than once. -/
def repeats (s : Setting) : Bool := s ∈ [input, pluralException]

/-- Whether the setting takes all values that follow it. -/
def takesAll (s : Setting) : Bool := s = input

end Setting

/-- An option without a value. -/
inductive Switch where
  | dryRun
  | verbose
  | quiet
  | help
  | version
  deriving DecidableEq

namespace Switch

/-- Every switch. -/
def all : List Switch := [dryRun, verbose, quiet, help, version]

/-- The name behind two dashes. -/
def name : Switch → Text
  | dryRun => "dry-run"
  | verbose => "verbose"
  | quiet => "quiet"
  | help => "help"
  | version => "version"

/-- The letter behind one dash. -/
def letter? : Switch → Option Char
  | dryRun => none
  | verbose => some 'v'
  | quiet => some 'q'
  | help => some 'h'
  | version => some 'V'

/-- The switch of a name. -/
def ofName? (name : Text) : Option Switch := all.find? (·.name = name)

/-- The switch of a letter. -/
def ofLetter? (c : Char) : Option Switch := all.find? (·.letter? = some c)

end Switch

/-- A request to generate, and how to log. -/
structure Invocation where
  options : Options
  verbose : Bool
  quiet : Bool
  logLevel : Option Text
  deriving DecidableEq

/-- What has been read of the arguments. -/
structure ArgumentReading where
  /-- The settings with their values, in order. -/
  settings : List (Setting × List Text) := []
  switches : List Switch := []
  /-- The setting whose values are still to be looked at. -/
  pending : Option (Setting × List Text) := none
  /-- Whether the pending setting takes another value. -/
  takesMore : Bool := false

namespace ArgumentReading

/-- Adds a setting with its values. -/
def give (r : ArgumentReading) (s : Setting) (values : List Text) :
    Except UsageError ArgumentReading :=
  if values = [] then .error .invalidValue
  else if !s.repeats && r.settings.any (·.1 = s) then .error .conflict
  else if s.isPath && values.contains [] then .error .invalidValue
  else .ok { r with settings := r.settings ++ [(s, values)] }

/-- Adds the pending setting. -/
def settle (r : ArgumentReading) : Except UsageError ArgumentReading :=
  match r.pending with
  | none => .ok r
  | some (s, values) => { r with pending := none, takesMore := false }.give s values

/-- Adds a switch. Asking for help or the version ends the reading. -/
def turnOn (r : ArgumentReading) (s : Switch) : Except UsageError ArgumentReading :=
  match r.settle with
  | .error e => .error e
  | .ok r =>
    match s with
    | .help => .error .help
    | .version => .error .version
    | s => if s ∈ r.switches then .error .conflict else .ok { r with switches := s :: r.switches }

/-- Adds the switches of a group of letters. -/
def turnOnLetters (r : ArgumentReading) : Text → Except UsageError ArgumentReading
  | [] => .ok r
  | c :: cs =>
    match Switch.ofLetter? c with
    | none => .error .unknownArgument
    | some s =>
      match r.turnOn s with
      | .error e => .error e
      | .ok r => r.turnOnLetters cs

/-- Reads what stands behind two dashes. -/
def readLong (r : ArgumentReading) (s : Text) : Except UsageError ArgumentReading :=
  let (name, value) :=
    match splitFirst '=' s with
    | some (name, value) => (name, some value)
    | none => (s, none)
  match Setting.ofName? name, Switch.ofName? name, value with
  | some s, _, some value =>
    match r.settle with
    | .error e => .error e
    | .ok r => r.give s [value]
  | some s, _, none =>
    match r.settle with
    | .error e => .error e
    | .ok r => .ok { r with pending := some (s, []), takesMore := true }
  | none, some _, some _ => .error .tooManyValues
  | none, some s, none => r.turnOn s
  | none, none, _ => .error .unknownArgument

/-- Reads an argument that is no option as a value of the pending setting. -/
def readValue (r : ArgumentReading) (value : Text) : Except UsageError ArgumentReading :=
  match r.pending, r.takesMore with
  | some (s, values), true =>
    .ok { r with pending := some (s, values ++ [value]), takesMore := s.takesAll }
  | _, _ => .error .unknownArgument

/-- Reads an argument. -/
def readArgument (r : ArgumentReading) (arg : Text) : Except UsageError ArgumentReading :=
  match arg with
  | '-' :: '-' :: s => r.readLong s
  | '-' :: c :: cs => r.turnOnLetters (c :: cs)
  | value => r.readValue value

/-- Reads the arguments in order. Behind two dashes that stand alone there may be no more. -/
def readAll (r : ArgumentReading) : List Text → Except UsageError ArgumentReading
  | [] => r.settle
  | arg :: args =>
    if arg = "--" then
      if args = [] then r.settle else .error .unknownArgument
    else
      match r.readArgument arg with
      | .error e => .error e
      | .ok r => r.readAll args

/-- The values of a setting in order. -/
def values (r : ArgumentReading) (s : Setting) : List Text :=
  (r.settings.filter (·.1 = s)).flatMap Prod.snd

/-- The value of a setting that stands once. -/
def value? (r : ArgumentReading) (s : Setting) : Option Text := (r.values s).head?

/-- Whether a switch is on. -/
def isOn (r : ArgumentReading) (s : Switch) : Bool := s ∈ r.switches

/-- The request that the arguments make. -/
def invocation (r : ArgumentReading) : Except UsageError Invocation :=
  if r.isOn .quiet && r.isOn .verbose then .error .conflict
  else
    match r.value? .outputPackage, r.values .input with
    | none, _ => .error .missingRequired
    | _, [] => .error .missingRequired
    | some outputPackage, input =>
      let defaults : Options := { outputPackage, input }
      .ok
        { options :=
            { outputPackage, input
              headerFile := r.value? .headerFile
              outputBase := (r.value? .outputBase).getD defaults.outputBase
              requiredVerbs := (r.value? .requiredVerbs).getD defaults.requiredVerbs
              objectMeta := (r.value? .objectMeta).getD defaults.objectMeta
              pluralExceptions := r.values .pluralException
              dryRun := r.isOn .dryRun }
          verbose := r.isOn .verbose
          quiet := r.isOn .quiet
          logLevel := r.value? .logLevel }

end ArgumentReading

/-- Reads the arguments of the command line. -/
def Invocation.ofArguments (args : List Text) : Except UsageError Invocation :=
  match ArgumentReading.readAll {} args with
  | .error e => .error e
  | .ok r => r.invocation

end RestScaffold
