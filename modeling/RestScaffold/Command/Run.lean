import RestScaffold.Command.Arguments
import RestScaffold.Command.Header
import RestScaffold.Command.LogLevel
import RestScaffold.Command.Styling
import RestScaffold.Manifest.Load
import RestScaffold.Output
import RestScaffold.Plan.Render

/-!
# Running the command

A run checks the options, reads the header and the manifests, plans, renders and writes. Nothing is
written before all of the rest has succeeded. `Command.run` wraps a run into what a process shows:
its exit code and its messages.
-/

namespace RestScaffold

variable {m : Type → Type} [Monad m] [FileStore m]

/-- The files for a universe. -/
def renderUniverse (c : PlanConfig) (u : Universe) : Except ScaffoldError (List RenderedFile) :=
  match Plan.ofUniverse c u with
  | .error e => .error e
  | .ok plan => plan.render

namespace Options

/-- Where the files are written. -/
def output (o : Options) : Output := ⟨o.outputBase, Text.trim o.outputPackage, o.dryRun⟩

/-- Generates the files that the options ask for, with this year in the header. -/
def generate (o : Options) (year : Int) : m (Except CommandError WriteReport) := do
  match o.validate with
  | .error e => return .error e
  | .ok _ =>
    match ← Header.load year o.headerFile with
    | .error e => return .error e
    | .ok header =>
      match o.planConfig header with
      | .error e => return .error e
      | .ok config =>
        match ← Manifest.loadAll o.input with
        | .error e => return .error (.generation e)
        | .ok u =>
          match renderUniverse config u with
          | .error e => return .error (.generation e)
          | .ok files =>
            match ← o.output.writeAll files with
            | .error e => return .error (.generation e)
            | .ok report => return .ok report

end Options

/-- What a process shows. -/
structure CommandResult where
  exitCode : Nat
  stdout : Text := []
  stderr : Text := []
  deriving DecidableEq

namespace Command

/-- What is shown when all files are written. -/
def completed : Text := "Completed successfully."

/-- What a process with unusable arguments shows. -/
def refused (e : UsageError) (colours : Colours) : CommandResult :=
  if e.isAnswer then { exitCode := e.exitCode, stdout := e.message }
  else { exitCode := e.exitCode, stderr := Styling.error colours.stderr e.message }

/-- What a process that fails shows. -/
def failed (e : CommandError) (colours : Colours) : CommandResult :=
  { exitCode := 1, stderr := Styling.error colours.stderr e.userMessage }

/-- What a process that succeeds shows. -/
def succeeded (colours : Colours) : CommandResult :=
  { exitCode := 0, stdout := Styling.success colours.stdout completed }

/-- Runs the command for a request. -/
def run (i : Invocation) (year : Int) (colours : Colours) : m CommandResult := do
  match LogLevel.resolve i.verbose i.quiet i.logLevel with
  | .error e => return failed e colours
  | .ok _ =>
    match ← i.options.generate year with
    | .error e => return failed e colours
    | .ok _ => return succeeded colours

end Command

end RestScaffold
