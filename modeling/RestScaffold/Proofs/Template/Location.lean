import Mathlib.Data.List.Basic
import RestScaffold.Proofs.Template.Scan

/-!
# What tokens say about their text

The tokens of a text are the text cut into pieces: written one after the other they give it back,
and no delimiter stands where it would have been taken for one. The line of an action counts the
line breaks in the texts and actions before it. Those in delimiters are passed over, so it is the
line of the action in the template when delimiters have none.

* `Token.writeAll_of_ofTextFrom`: tokens written one after the other;
* `Token.exists_of_ofPieces`: what stands before an action, and its line;
* `Token.line_of_ofTextFrom` and `Token.exists_unclosed`: the lines of actions and of failures;
* `Token.ofText_lossless`: tokens and their text, the texts without tokens, and lines.
-/

namespace RestScaffold

open Text

/-- What stands in front of more text is written in front of it. -/
theorem Delimiters.write_append (d : Delimiters) (pieces : List (Text × Text)) (tail more : Text) :
    d.write pieces (tail ++ more) = d.write pieces tail ++ more := by
  induction pieces with
  | nil => rfl
  | cons piece pieces ih => simp only [write, ih, List.append_assoc]

/-- The line breaks of a text are those of its parts, when delimiters have none. -/
theorem Delimiters.newlines_write {d : Delimiters} (hOpening : '\n' ∉ d.opening)
    (hClosing : '\n' ∉ d.closing) (pieces : List (Text × Text)) (tail : Text) :
    newlines (d.write pieces tail) = Token.lineBreaks pieces + newlines tail := by
  induction pieces with
  | nil => simp [write, Token.lineBreaks]
  | cons piece pieces ih =>
    have hOpen : newlines d.opening = 0 := List.count_eq_zero.2 hOpening
    have hClose : newlines d.closing = 0 := List.count_eq_zero.2 hClosing
    simp only [newlines] at ih hOpen hClose
    simp only [write, newlines, List.count_append, ih, hOpen, hClose, Token.lineBreaks]
    omega

namespace Token

/-- How a token is written. -/
def write (d : Delimiters) : Token → Text
  | text content => content
  | action content _ => d.opening ++ content ++ d.closing

/-- How tokens are written one after the other. -/
def writeAll (d : Delimiters) (tokens : List Token) : Text := tokens.flatMap (write d)

section Pieces

variable {d : Delimiters} {line : Nat} {tail : Text} {pieces : List (Text × Text)}

theorem mem_textOf {s : Text} {token : Token} : token ∈ textOf s ↔ s ≠ [] ∧ token = text s := by
  unfold textOf
  split <;> simp [*]

theorem writeAll_textOf_append (s : Text) (tokens : List Token) :
    writeAll d (textOf s ++ tokens) = s ++ writeAll d tokens := by
  unfold textOf
  split
  · next hNil =>
    rw [hNil]
    rfl
  · rfl

/-- **Tokens are written as their parts are.** -/
theorem writeAll_ofPieces (line : Nat) (pieces : List (Text × Text)) (tail : Text) :
    writeAll d (ofPieces line pieces tail) = d.write pieces tail := by
  induction pieces generalizing line with
  | nil =>
    rw [ofPieces, ← List.append_nil (textOf tail), writeAll_textOf_append]
    exact List.append_nil tail
  | cons piece pieces ih =>
    rw [ofPieces, writeAll_textOf_append]
    show piece.1 ++ (d.opening ++ piece.2 ++ d.closing ++ writeAll d (ofPieces _ pieces tail)) = _
    rw [ih]
    simp only [Delimiters.write, List.append_assoc]

theorem text_mem_ofPieces {content : Text} (h : text content ∈ ofPieces line pieces tail) :
    content ≠ [] ∧ (content = tail ∨ ∃ piece ∈ pieces, content = piece.1) := by
  induction pieces generalizing line with
  | nil =>
    obtain ⟨hNe, hText⟩ := mem_textOf.1 h
    obtain rfl := text.inj hText
    exact ⟨hNe, Or.inl rfl⟩
  | cons piece pieces ih =>
    rcases List.mem_append.1 h with hText | hRest
    · obtain ⟨hNe, hText⟩ := mem_textOf.1 hText
      obtain rfl := text.inj hText
      exact ⟨hNe, Or.inr ⟨piece, List.mem_cons_self, rfl⟩⟩
    · rcases List.mem_cons.1 hRest with hAction | hRest
      · cases hAction
      · obtain ⟨hNe, hLast | ⟨other, hOther, hEq⟩⟩ := ih hRest
        · exact ⟨hNe, Or.inl hLast⟩
        · exact ⟨hNe, Or.inr ⟨other, List.mem_cons_of_mem piece hOther, hEq⟩⟩

/-- A text in front of tokens stands before all actions. -/
theorem exists_of_textOf_append {s content : Text} {l : Nat} {tokens front back : List Token}
    (h : textOf s ++ tokens = front ++ action content l :: back) :
    ∃ middle, front = textOf s ++ middle ∧ tokens = middle ++ action content l :: back := by
  unfold textOf at h ⊢
  split at h
  · next hNil => exact ⟨front, by rw [if_pos hNil, List.nil_append], h⟩
  · next hNe =>
    rw [if_neg hNe]
    cases front with
    | nil => cases (List.cons.inj h).1
    | cons token front =>
      obtain ⟨rfl, hTokens⟩ := List.cons.inj h
      exact ⟨front, rfl, hTokens⟩

/-- **What stands before an action are the parts before it, and its line counts their breaks.** -/
theorem exists_of_ofPieces {content : Text} {l : Nat} {front back : List Token}
    (h : ofPieces line pieces tail = front ++ action content l :: back) :
    ∃ before last after, pieces = before ++ (last, content) :: after ∧
      front = ofPieces line before last ∧ l = line + lineBreaks before + newlines last := by
  induction pieces generalizing line front with
  | nil =>
    rw [ofPieces, ← List.append_nil (textOf tail)] at h
    obtain ⟨middle, -, hNone⟩ := exists_of_textOf_append h
    cases middle <;> cases hNone
  | cons piece pieces ih =>
    obtain ⟨middle, rfl, hTokens⟩ := exists_of_textOf_append h
    cases middle with
    | nil =>
      obtain ⟨hAction, -⟩ := List.cons.inj hTokens
      obtain ⟨rfl, rfl⟩ := action.inj hAction
      exact ⟨[], piece.1, pieces, rfl, List.append_nil _, rfl⟩
    | cons token middle =>
      obtain ⟨rfl, hBehind⟩ := List.cons.inj hTokens
      obtain ⟨before, last, after, rfl, rfl, rfl⟩ := ih hBehind
      refine ⟨piece :: before, last, after, rfl, rfl, ?_⟩
      simp only [lineBreaks, ← Nat.add_assoc]

end Pieces

section Texts

variable {d : Delimiters} {line l : Nat} {s content : Text} {tokens front back : List Token}

/-- **Tokens written one after the other are their text.** -/
theorem writeAll_of_ofTextFrom (h : ofTextFrom d line s = .ok tokens) : writeAll d tokens = s := by
  obtain ⟨pieces, tail, hScans, rfl⟩ := ofTextFrom_eq_ok_iff.1 h
  exact (writeAll_ofPieces line pieces tail).trans hScans.write_eq

/-- What is no action is not empty, and nothing in it would begin one. -/
theorem not_infix_of_text_mem (h : ofTextFrom d line s = .ok tokens)
    (hText : text content ∈ tokens) : content ≠ [] ∧ ¬ d.opening <:+: content := by
  obtain ⟨pieces, tail, hScans, rfl⟩ := ofTextFrom_eq_ok_iff.1 h
  obtain ⟨hNe, rfl | ⟨piece, hPiece, rfl⟩⟩ := text_mem_ofPieces hText
  · exact ⟨hNe, hScans.not_infix_tail⟩
  · exact ⟨hNe, (hScans.not_infix_of_mem hPiece).1⟩

/-- Nothing in an action would end it. -/
theorem not_infix_of_action_mem (h : ofTextFrom d line s = .ok tokens)
    (hAction : action content l ∈ tokens) : ¬ d.closing <:+: content := by
  obtain ⟨pieces, tail, hScans, rfl⟩ := ofTextFrom_eq_ok_iff.1 h
  obtain ⟨front, back, hSplit⟩ := List.append_of_mem hAction
  obtain ⟨before, last, after, rfl, -, -⟩ := exists_of_ofPieces hSplit
  exact (hScans.not_infix_of_mem (List.mem_append_right before List.mem_cons_self)).2

theorem writeAll_action (front back : List Token) (content : Text) (l : Nat) :
    writeAll d (front ++ action content l :: back) =
      writeAll d front ++ d.opening ++ (content ++ d.closing ++ writeAll d back) := by
  rw [writeAll, List.flatMap_append, List.flatMap_cons]
  simp only [writeAll, write, List.append_assoc]

/-- **The line of an action counts the line breaks in front of it.** -/
theorem line_of_ofTextFrom (hOpening : '\n' ∉ d.opening) (hClosing : '\n' ∉ d.closing)
    (h : ofTextFrom d line s = .ok (front ++ action content l :: back)) :
    l = line + newlines (writeAll d front) := by
  obtain ⟨pieces, tail, -, hTokens⟩ := ofTextFrom_eq_ok_iff.1 h
  obtain ⟨before, last, after, -, rfl, rfl⟩ := exists_of_ofPieces hTokens.symm
  rw [writeAll_ofPieces, d.newlines_write hOpening hClosing, Nat.add_assoc]

/-- **The line of a failure counts the line breaks in front of the delimiter that is left open.** -/
theorem exists_unclosed (hOpening : '\n' ∉ d.opening) (hClosing : '\n' ∉ d.closing)
    {e : TemplateError} (h : ofTextFrom d line s = .error e) :
    ∃ pieces left before rest, d.Reaches s pieces left ∧ d.Unclosed left before rest ∧
      s = d.write pieces before ++ d.opening ++ rest ∧
        e = .flaw (line + newlines (d.write pieces before)) (.unterminated d.closing) := by
  obtain ⟨pieces, left, before, rest, hReaches, hUnclosed, rfl⟩ := ofTextFrom_eq_error_iff.1 h
  refine ⟨pieces, left, before, rest, hReaches, hUnclosed, ?_, ?_⟩
  · rw [← hReaches.write_eq, hUnclosed.opens.eq, d.write_append, d.write_append]
  · rw [d.newlines_write hOpening hClosing, Nat.add_assoc]

end Texts

/-- **Tokens and their text.** No scan goes on for ever, and none reads more actions than the text
has room for. The tokens of a text, written one after the other, are the text; no text among them is
empty or has the opening delimiter, and no action has the closing one. There are no tokens exactly
when the scan comes to an opening delimiter without a closing one behind it. When delimiters have no
line breaks, the line of an action and that of a delimiter left open are one more than there are
line breaks in front of them. -/
theorem ofText_lossless (d : Delimiters) (s : Text) :
    WellFounded d.GoesOn ∧
      (∀ pieces left, d.Reaches s pieces left →
        pieces.length * (d.opening.length + d.closing.length) ≤ s.length) ∧
      (∀ tokens, ofText d s = .ok tokens →
        writeAll d tokens = s ∧
          (∀ content, text content ∈ tokens → content ≠ [] ∧ ¬ d.opening <:+: content) ∧
            ∀ content line, action content line ∈ tokens → ¬ d.closing <:+: content) ∧
      ((∃ e, ofText d s = .error e) ↔
        ∃ pieces left before rest, d.Reaches s pieces left ∧ d.Unclosed left before rest) ∧
      ('\n' ∉ d.opening → '\n' ∉ d.closing →
        (∀ front content line back, ofText d s = .ok (front ++ action content line :: back) →
          s = writeAll d front ++ d.opening ++ (content ++ d.closing ++ writeAll d back) ∧
            line = 1 + newlines (writeAll d front)) ∧
          ∀ e, ofText d s = .error e → ∃ pieces left before rest, d.Reaches s pieces left ∧
            d.Unclosed left before rest ∧ s = d.write pieces before ++ d.opening ++ rest ∧
              e = .flaw (1 + newlines (d.write pieces before)) (.unterminated d.closing)) := by
  refine ⟨d.wellFounded_goesOn, fun pieces left h => ?_, fun tokens h => ?_, ?_,
    fun hOpening hClosing => ⟨fun front content line back h => ?_, fun e h => ?_⟩⟩
  · exact Nat.le_trans (Nat.le_add_right _ _) h.length_le
  · exact ⟨writeAll_of_ofTextFrom h, fun content => not_infix_of_text_mem h,
      fun content line => not_infix_of_action_mem h⟩
  · constructor
    · rintro ⟨e, h⟩
      obtain ⟨pieces, left, before, rest, hReaches, hUnclosed, -⟩ := ofTextFrom_eq_error_iff.1 h
      exact ⟨pieces, left, before, rest, hReaches, hUnclosed⟩
    · rintro ⟨pieces, left, before, rest, hReaches, hUnclosed⟩
      exact ⟨_, ofTextFrom_of_reaches hReaches hUnclosed 1⟩
  · rw [← writeAll_action front back content line]
    exact ⟨(writeAll_of_ofTextFrom h).symm, line_of_ofTextFrom hOpening hClosing h⟩
  · exact exists_unclosed hOpening hClosing h

end Token

/-- Delimiters of two characters each. -/
def Delimiters.angled : Delimiters := ⟨"<<", ">>", by decide, by decide⟩

/-- A text with two actions, of which the first has a line break in it, and a text whose last
delimiter is left open. -/
theorem Token.ofText_lossless_angled :
    ofText .angled "one\n<<a\nb>><<<c>>\n" =
        .ok [text "one\n", action "a\nb" 2, action "<c" 3, text "\n"] ∧
      '\n' ∉ Delimiters.angled.opening ∧ '\n' ∉ Delimiters.angled.closing ∧
      writeAll .angled [text "one\n", action "a\nb" 2, action "<c" 3, text "\n"] =
        "one\n<<a\nb>><<<c>>\n" ∧
      3 = 1 + newlines (writeAll .angled [text "one\n", action "a\nb" 2]) ∧
      ofText .angled "one\n<<a>>\n<<b" = .error (.flaw 3 (.unterminated ">>")) ∧
      ∃ pieces left before rest, Delimiters.angled.Reaches "one\n<<a>>\n<<b" pieces left ∧
        Delimiters.angled.Unclosed left before rest := by
  have hTokens : ofText .angled "one\n<<a\nb>><<<c>>\n" =
      .ok ([text "one\n", action "a\nb" 2] ++ action "<c" 3 :: [text "\n"]) := by decide +kernel
  have hOpen : ofText .angled "one\n<<a>>\n<<b" = .error (.flaw 3 (.unterminated ">>")) := by
    decide +kernel
  have hOpening : '\n' ∉ Delimiters.angled.opening := by decide
  have hClosing : '\n' ∉ Delimiters.angled.closing := by decide
  obtain ⟨-, -, hLossless, -, hLines⟩ := ofText_lossless .angled "one\n<<a\nb>><<<c>>\n"
  obtain ⟨-, -, -, hFails, -⟩ := ofText_lossless .angled "one\n<<a>>\n<<b"
  exact ⟨hTokens, hOpening, hClosing, (hLossless _ hTokens).1,
    ((hLines hOpening hClosing).1 _ _ _ _ hTokens).2, hOpen, hFails.1 ⟨_, hOpen⟩⟩

end RestScaffold
