import RestScaffold.Template.Basic

/-!
# Template tokens

The text of a template is a sequence of plain texts and actions, an action being what stands between
an opening and a closing delimiter. `Token.ofText` reads it from the left: each opening delimiter is
matched with the next closing one. Since delimiters are not empty, what is left gets shorter.

The line of an action counts the line breaks of the texts and actions before it.
-/

namespace RestScaffold

open Text

/-- The marks around an action. -/
structure Delimiters where
  opening : Text
  closing : Text
  opening_ne : opening ≠ []
  closing_ne : closing ≠ []

namespace Delimiters

/-- The marks of every template that comes with the program. -/
def dollar : Delimiters := ⟨"$", "$", by decide, by decide⟩

/-- The marks of two texts, which must not be empty. -/
def ofTexts (opening closing : Text) : Except TemplateError Delimiters :=
  if h : opening ≠ [] ∧ closing ≠ [] then .ok ⟨opening, closing, h.1, h.2⟩
  else .error .emptyDelimiter

end Delimiters

/-- A part of a template's text. -/
inductive Token where
  | text (content : Text)
  | action (content : Text) (line : Nat)
  deriving DecidableEq

namespace Token

/-- The text token of a text that is not empty. -/
def textOf (s : Text) : List Token := if s = [] then [] else [text s]

theorem length_lt_of_action {d : Delimiters} {s before rest action after : Text}
    (h₁ : cutAt d.opening s = some (before, rest))
    (h₂ : cutAt d.closing rest = some (action, after)) : after.length < s.length :=
  Nat.lt_trans (length_lt_of_cutAt d.closing_ne h₂) (length_lt_of_cutAt d.opening_ne h₁)

/-- The tokens of a text that starts on the given line. -/
def ofTextFrom (d : Delimiters) (line : Nat) (s : Text) : Except TemplateError (List Token) :=
  match h₁ : cutAt d.opening s with
  | none => .ok (textOf s)
  | some (before, rest) =>
    match h₂ : cutAt d.closing rest with
    | none => .error (.flaw (line + newlines before) (.unterminated d.closing))
    | some (content, after) =>
      have := length_lt_of_action h₁ h₂
      let line := line + newlines before
      match ofTextFrom d (line + newlines content) after with
      | .error e => .error e
      | .ok tokens => .ok (textOf before ++ action content line :: tokens)
termination_by s.length

/-- The tokens of a template. -/
def ofText (d : Delimiters) (s : Text) : Except TemplateError (List Token) := ofTextFrom d 1 s

end Token

end RestScaffold
