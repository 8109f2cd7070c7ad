import RestScaffold.Text.Basic

/-!
# Import paths

Paths of packages are joined with exactly one slash, however many stand at the seam.
-/

namespace RestScaffold.ImportPath

/-- The text without the slashes at its end. -/
def trimEnd (s : Text) : Text := (s.reverse.dropWhile (· = '/')).reverse

/-- The text without the slashes in front. -/
def trimStart (s : Text) : Text := s.dropWhile (· = '/')

/-- The path of `relative` below `base`. -/
def join (base relative : Text) : Text :=
  let base := trimEnd base
  let relative := trimStart relative
  if base = [] then relative
  else if relative = [] then base
  else base ++ '/' :: relative

end RestScaffold.ImportPath
