import RestScaffold.Command.Error
import RestScaffold.File.Store

/-!
# File headers

The header of every generated file comes from a file of its own, in which a placeholder stands for
the year.
-/

namespace RestScaffold.Header

/-- The word that stands for the year. -/
def yearWord : Text := "YEAR"

/-- The text with the year in every place of the word. -/
def fill (content : Text) (year : Int) : Text := Text.replace yearWord (Text.ofInt year) content

/-- The header of a file: empty, if there is no file. -/
def load {m : Type → Type} [Monad m] [FileStore m] (year : Int) (path : Option Text) :
    m (Except CommandError (List UInt8)) := do
  match path with
  | none => return .ok []
  | some path =>
    match ← FileStore.readText path with
    | .error e => return .error (.unreadableHeader path e)
    | .ok content => return .ok (Text.utf8 (fill content year))

end RestScaffold.Header
