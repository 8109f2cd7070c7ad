import RestScaffold.Text.Basic

/-!
# Styling

Messages for a terminal, with colours or without. A reset inside a message would end its colour, so
the colour starts again behind it.
-/

namespace RestScaffold

/-- Which outputs of a process show colours. -/
structure Colours where
  stdout : Bool := false
  stderr : Bool := false
  deriving DecidableEq

namespace Styling

/-- The character that starts a terminal command. -/
def escape : Char := '\x1b'

/-- The terminal command that ends a style. -/
def reset : Text := escape :: ("[0m" : Text)

/-- The terminal command for bold letters of a colour. -/
def bold (colour : Text) : Text := escape :: ("[1;" ++ colour ++ "m")

/-- A text in bold letters of a colour. -/
def paint (colour s : Text) : Text :=
  bold colour ++ Text.replace reset (reset ++ bold colour) s ++ reset

/-- A message of success, in green. -/
def success (colours : Bool) (s : Text) : Text := if colours then paint "32" s else s

/-- A message of an error, with its first word in red. -/
def error (colours : Bool) (s : Text) : Text :=
  (if colours then paint "31" "error:" else "error:") ++ " " ++ s

end Styling

end RestScaffold
