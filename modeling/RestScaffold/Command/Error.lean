import RestScaffold.ScaffoldError

/-!
# Command errors

What the command line reports, by cause. Every error belongs to a category, and the category decides
how the detail is introduced. A user sees one line, whatever the detail holds.
-/

namespace RestScaffold

open Text

/-- What an error is about. -/
inductive ErrorCategory where
  | argument
  | configuration
  | generation
  deriving DecidableEq

namespace ErrorCategory

/-- The lines of a text, without the blanks around them and without empty ones, on one line. -/
def singleLine (s : Text) : Text :=
  joinWith " " (((splitOn '\n' s).map trim).filter (· ≠ []))

/-- The message for the user. -/
def userMessage (c : ErrorCategory) (detail : Text) : Text :=
  singleLine <| match c with
    | argument => "invalid argument: " ++ detail ++ " (run 'restgen --help' for usage)"
    | configuration => "configuration error: " ++ detail
    | generation => "generation failed: " ++ detail

/-- The message for other programs. -/
def display (c : ErrorCategory) (detail : Text) : Text :=
  match c with
  | argument => "Invalid argument: " ++ detail
  | configuration => "Configuration error: " ++ detail
  | generation => "Generation error: " ++ detail

end ErrorCategory

/-- Why a command fails. -/
inductive CommandError where
  | blankOutputPackage
  | noInput
  | unknownVerb (name : Text)
  | pluralException (entry : Text)
  | unknownLogLevel (name : Text)
  | unreadableHeader (path : Text) (cause : FileError)
  | generation (cause : ScaffoldError)
  deriving DecidableEq

namespace CommandError

/-- What an error is about. -/
def category : CommandError → ErrorCategory
  | unreadableHeader _ _ => .configuration
  | generation _ => .generation
  | _ => .argument

/-- The wording of the cause. -/
def detail : CommandError → Text
  | blankOutputPackage => "--output-package cannot be empty"
  | noInput => "at least one --input manifest is required"
  | unknownVerb name => "--required-verbs: " ++ Verb.unknownMessage name
  | pluralException entry => "--plural-exception expects SINGULAR=PLURAL, got '" ++ entry ++ "'"
  | unknownLogLevel name => "unknown log level '" ++ name ++ "'"
  | unreadableHeader path cause =>
    "cannot read boilerplate file " ++ path ++ ": " ++ cause.message
  | generation cause => cause.message

/-- The message for the user. -/
def userMessage (e : CommandError) : Text := e.category.userMessage e.detail

end CommandError

end RestScaffold
