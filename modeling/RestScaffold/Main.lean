import RestScaffold.Command.Run
import Std.Time.Zoned

/-!
# The command

The process around `Command.run`: it lends the real file system as a store, asks for the year and
for the colours of its outputs, and shows the result.
-/

namespace RestScaffold

/-- The cause that the system has for an error. Some calls report the number negated. -/
def causeOfNumber (number : UInt32) (reason : String) : FileError :=
  .ofSystem (min number (0 - number)).toNat reason.toList

/-- The cause of an error of the system. -/
def causeOf : IO.Error → FileError
  | .noFileOrDirectory _ number reason => causeOfNumber number reason
  | .alreadyExists _ number reason => causeOfNumber number reason
  | .inappropriateType _ number reason => causeOfNumber number reason
  | .invalidArgument _ number reason => causeOfNumber number reason
  | .permissionDenied _ number reason => causeOfNumber number reason
  | .resourceExhausted _ number reason => causeOfNumber number reason
  | e => .other e.toString.toList

/-- Does something at a path. -/
def attempt {α : Type} (path : Text) (act : String → IO α) : IO (Except FileError α) := do
  if path.contains '\x00' then return .error .nulInPath
  try
    return .ok (← act (String.ofList path))
  catch e =>
    return .error (causeOf e)

/-- The bytes of a real file. -/
def readBytes (path : Text) : IO (Except FileError (List UInt8)) :=
  attempt path fun p => do return (← IO.FS.readBinFile p).toList

/-- Makes a real file of these bytes. -/
def writeBytes (path : Text) (bytes : List UInt8) : IO (Except FileError Unit) :=
  attempt path fun p => IO.FS.writeBinFile p ⟨bytes.toArray⟩

/-- Whether a path leads to anything that can be opened. -/
def isThere (path : Text) : IO Bool := do
  return (← attempt path fun p => IO.FS.Handle.mk p .read).isOk

instance : FileStore IO where
  isFile path := do return (← readBytes path).isOk
  isDirectory path := do return (← isThere path) && !(← readBytes path).isOk
  isPresent := isThere
  read := readBytes
  write := writeBytes
  copy source target := do
    match ← readBytes source with
    | .error e => return .error e
    | .ok bytes => writeBytes target bytes
  move source target := attempt source fun p => IO.FS.rename p (String.ofList target)
  remove path := do
    match ← readBytes path with
    | .error e => return .error e
    | .ok _ => attempt path fun p => IO.FS.removeFile p
  makeDirectory path := attempt path fun p => IO.FS.createDir p

/-- What the process shows for its arguments. -/
def respond (args : List String) (colours : Colours) : IO CommandResult := do
  match Invocation.ofArguments (args.map String.toList) with
  | .error e => return Command.refused e colours
  | .ok i => Command.run i (← Std.Time.PlainDate.now).year colours

/-- Prints a text on a line of its own, if there is any. -/
def showOn (output : IO.FS.Stream) (s : Text) : IO Unit :=
  if s = [] then pure () else output.putStrLn (String.ofList s)

/-- Runs the command with the outputs of the process: its exit code. -/
def process (args : List String) : IO UInt32 := do
  let stdout ← IO.getStdout
  let stderr ← IO.getStderr
  let result ← respond args ⟨← stdout.isTty, ← stderr.isTty⟩
  showOn stdout result.stdout
  showOn stderr result.stderr
  return result.exitCode.toUInt32

end RestScaffold

def main (args : List String) : IO UInt32 := RestScaffold.process args
