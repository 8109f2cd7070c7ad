import RestScaffold.Proofs.Text.Cut
import RestScaffold.Template.Token

/-!
# How templates are scanned

The text of a template is scanned from the left. Each opening delimiter is matched with the next
closing one; the scan stops when no opening delimiter is left, and it fails when one has no closing
delimiter behind it. `Delimiters.Reaches` says this of the text alone for a scan on its way, and
`Delimiters.Scans` for one that is through. The tokens are made of what the scan meets.

* `Delimiters.wellFounded_goesOn` and `Delimiters.exists_end`: every scan comes to an end;
* `Delimiters.Scans.write_eq`: the parts of a text make it up;
* `Token.ofTextFrom_eq_ok_iff` and `Token.ofTextFrom_eq_error_iff`: the tokens of a text are those
  of its parts, and there are none when a delimiter is left open.
-/

namespace RestScaffold

open Text

namespace Delimiters

/-! ## Scans on their way -/

/-- A scan goes on from a text behind the first action of it. -/
def GoesOn (d : Delimiters) (after s : Text) : Prop :=
  ∃ before rest content, CutFirst d.opening s before rest ∧ CutFirst d.closing rest content after

/-- The next opening delimiter of a text has no closing delimiter behind it. -/
structure Unclosed (d : Delimiters) (s before rest : Text) : Prop where
  opens : CutFirst d.opening s before rest
  neverCloses : ¬ d.closing <:+: rest

/-- The scan of a text has read these parts, each an action with what stands in front of it, and has
still to read what is left. -/
inductive Reaches (d : Delimiters) : Text → List (Text × Text) → Text → Prop
  | start (s : Text) : Reaches d s [] s
  | action {s before rest content after left : Text} {pieces : List (Text × Text)}
      (hOpen : CutFirst d.opening s before rest) (hClose : CutFirst d.closing rest content after)
      (hRest : Reaches d after pieces left) : Reaches d s ((before, content) :: pieces) left

/-- The parts of a text: each action with what stands in front of it, and what stands behind the
last one. -/
inductive Scans (d : Delimiters) : Text → List (Text × Text) → Text → Prop
  | last {s : Text} (hNone : ¬ d.opening <:+: s) : Scans d s [] s
  | action {s before rest content after tail : Text} {pieces : List (Text × Text)}
      (hOpen : CutFirst d.opening s before rest) (hClose : CutFirst d.closing rest content after)
      (hRest : Scans d after pieces tail) : Scans d s ((before, content) :: pieces) tail

/-- What is written in a text with these parts. -/
def write (d : Delimiters) : List (Text × Text) → Text → Text
  | [], tail => tail
  | (before, content) :: pieces, tail =>
    before ++ d.opening ++ content ++ d.closing ++ d.write pieces tail

section Ends

variable {d : Delimiters} {after s before rest left : Text} {pieces : List (Text × Text)}

/-- An action takes at least its delimiters from the text. -/
theorem GoesOn.length_le (h : d.GoesOn after s) :
    d.opening.length + d.closing.length + after.length ≤ s.length := by
  obtain ⟨before, rest, content, hOpen, hClose⟩ := h
  rw [hOpen.eq, hClose.eq]
  simp only [List.length_append]
  omega

/-- **No scan goes on for ever,** since delimiters are not empty. -/
theorem wellFounded_goesOn (d : Delimiters) : WellFounded d.GoesOn := by
  refine Subrelation.wf (fun {after s} (h : d.GoesOn after s) => ?_) (measure List.length).wf
  have hOpening := List.length_pos_iff.2 d.opening_ne
  have hLength := h.length_le
  show after.length < s.length
  omega

/-- From every text a scan goes on, or has no opening delimiter left, or has one left open. -/
theorem scan_cases (d : Delimiters) (s : Text) :
    (∃ before rest content after, CutFirst d.opening s before rest ∧
      CutFirst d.closing rest content after) ∨
        ¬ d.opening <:+: s ∨ ∃ before rest, d.Unclosed s before rest := by
  cases hOpen : cutAt d.opening s with
  | none => exact Or.inr (Or.inl (cutAt_eq_none_iff.1 hOpen))
  | some p =>
    have hFirst := cutAt_eq_some_iff.1 hOpen
    cases hClose : cutAt d.closing p.2 with
    | none => exact Or.inr (Or.inr ⟨p.1, p.2, hFirst, cutAt_eq_none_iff.1 hClose⟩)
    | some q => exact Or.inl ⟨p.1, p.2, q.1, q.2, hFirst, cutAt_eq_some_iff.1 hClose⟩

/-- **Every scan comes to an end,** with no opening delimiter left or with one left open. -/
theorem exists_end (d : Delimiters) (s : Text) : ∃ pieces left, d.Reaches s pieces left ∧
    (¬ d.opening <:+: left ∨ ∃ before rest, d.Unclosed left before rest) := by
  induction s using d.wellFounded_goesOn.induction with
  | h s ih =>
    rcases d.scan_cases s with ⟨before, rest, content, after, hOpen, hClose⟩ | hEnd
    · obtain ⟨pieces, left, hReaches, hEnd⟩ := ih after ⟨before, rest, content, hOpen, hClose⟩
      exact ⟨_, left, .action hOpen hClose hReaches, hEnd⟩
    · exact ⟨[], s, .start s, hEnd⟩

namespace Reaches

/-- What has been read and what is left make up the text. -/
theorem write_eq (h : d.Reaches s pieces left) : d.write pieces left = s := by
  induction h with
  | start => rfl
  | action hOpen hClose _ ih => rw [write, ih, hOpen.eq, hClose.eq]; simp only [List.append_assoc]

/-- A scan reads no more actions than there is room for their delimiters. -/
theorem length_le (h : d.Reaches s pieces left) :
    pieces.length * (d.opening.length + d.closing.length) + left.length ≤ s.length := by
  induction h with
  | start => simp
  | action hOpen hClose _ ih =>
    have hLength := GoesOn.length_le ⟨_, _, _, hOpen, hClose⟩
    rw [List.length_cons, Nat.succ_mul]
    omega

/-- A scan that meets no further opening delimiter is through. -/
theorem scans (h : d.Reaches s pieces left) (hNone : ¬ d.opening <:+: left) :
    d.Scans s pieces left := by
  induction h with
  | start => exact .last hNone
  | action hOpen hClose _ ih => exact .action hOpen hClose (ih hNone)

end Reaches

end Ends

namespace Scans

variable {d : Delimiters} {s tail : Text} {pieces : List (Text × Text)}

theorem reaches (h : d.Scans s pieces tail) : d.Reaches s pieces tail := by
  induction h with
  | last => exact .start _
  | action hOpen hClose _ ih => exact .action hOpen hClose ih

/-- **The parts of a text make it up.** -/
theorem write_eq (h : d.Scans s pieces tail) : d.write pieces tail = s := h.reaches.write_eq

theorem not_infix_tail (h : d.Scans s pieces tail) : ¬ d.opening <:+: tail := by
  induction h with
  | last hNone => exact hNone
  | action _ _ _ ih => exact ih

/-- No text in front of an action has the opening delimiter, and no action the closing one. -/
theorem not_infix_of_mem (h : d.Scans s pieces tail) {piece : Text × Text} (hp : piece ∈ pieces) :
    ¬ d.opening <:+: piece.1 ∧ ¬ d.closing <:+: piece.2 := by
  induction h with
  | last => cases hp
  | action hOpen hClose _ ih =>
    rcases List.mem_cons.1 hp with rfl | hp
    · exact ⟨hOpen.not_infix d.opening_ne, hClose.not_infix d.closing_ne⟩
    · exact ih hp

/-- A text has one scan. -/
theorem unique (h : d.Scans s pieces tail) {pieces' : List (Text × Text)} {tail' : Text}
    (h' : d.Scans s pieces' tail') : pieces = pieces' ∧ tail = tail' := by
  induction h generalizing pieces' tail' with
  | last hNone =>
    cases h' with
    | last => exact ⟨rfl, rfl⟩
    | action hOpen _ _ => exact absurd ⟨_, _, hOpen.eq.symm⟩ hNone
  | action hOpen hClose _ ih =>
    cases h' with
    | last hNone => exact absurd ⟨_, _, hOpen.eq.symm⟩ hNone
    | action hOpen' hClose' hRest' =>
      obtain ⟨rfl, rfl⟩ := hOpen.unique hOpen'
      obtain ⟨rfl, rfl⟩ := hClose.unique hClose'
      obtain ⟨rfl, rfl⟩ := ih hRest'
      exact ⟨rfl, rfl⟩

end Scans

end Delimiters

namespace Token

/-- The tokens of the parts of a text that starts on the given line. -/
def ofPieces (line : Nat) : List (Text × Text) → Text → List Token
  | [], tail => textOf tail
  | (before, content) :: pieces, tail =>
    textOf before ++ action content (line + newlines before) ::
      ofPieces (line + newlines before + newlines content) pieces tail

section Equations

variable {d : Delimiters} {line : Nat} {s before rest content after : Text}

theorem ofTextFrom_of_none (h : cutAt d.opening s = none) :
    ofTextFrom d line s = .ok (textOf s) := by
  rw [ofTextFrom]
  split
  · rfl
  · next hSome => rw [h] at hSome; cases hSome

theorem ofTextFrom_of_unclosed (h : cutAt d.opening s = some (before, rest))
    (hNone : cutAt d.closing rest = none) :
    ofTextFrom d line s = .error (.flaw (line + newlines before) (.unterminated d.closing)) := by
  rw [ofTextFrom]
  split
  · next hNone' => rw [h] at hNone'; cases hNone'
  · next hSome =>
    obtain ⟨rfl, rfl⟩ := Prod.mk.inj (Option.some.inj (h.symm.trans hSome))
    split
    · rfl
    · next hSome' => rw [hNone] at hSome'; cases hSome'

theorem ofTextFrom_of_action (h : cutAt d.opening s = some (before, rest))
    (hClose : cutAt d.closing rest = some (content, after)) :
    ofTextFrom d line s =
      (ofTextFrom d (line + newlines before + newlines content) after).map
        (textOf before ++ action content (line + newlines before) :: ·) := by
  rw [ofTextFrom.eq_def d line s]
  split
  · next hNone => rw [h] at hNone; cases hNone
  · next hSome =>
    obtain ⟨rfl, rfl⟩ := Prod.mk.inj (Option.some.inj (h.symm.trans hSome))
    split
    · next hNone => rw [hClose] at hNone; cases hNone
    · next hSome' =>
      obtain ⟨rfl, rfl⟩ := Prod.mk.inj (Option.some.inj (hClose.symm.trans hSome'))
      dsimp only
      cases ofTextFrom d (line + newlines before + newlines content) after <;> rfl

end Equations

theorem ofTextFrom_of_scans {d : Delimiters} {s tail : Text} {pieces : List (Text × Text)}
    (h : d.Scans s pieces tail) (line : Nat) :
    ofTextFrom d line s = .ok (ofPieces line pieces tail) := by
  induction h generalizing line with
  | last hNone => exact ofTextFrom_of_none (cutAt_eq_none_iff.2 hNone)
  | action hOpen hClose _ ih =>
    rw [ofTextFrom_of_action (cutAt_eq_some_iff.2 hOpen) (cutAt_eq_some_iff.2 hClose), ih]
    rfl

/-- The line breaks of the parts that have been read. -/
def lineBreaks : List (Text × Text) → Nat
  | [] => 0
  | (before, content) :: pieces => newlines before + newlines content + lineBreaks pieces

/-- A text fails where its scan comes to a delimiter that is left open. -/
theorem ofTextFrom_of_reaches {d : Delimiters} {s left before rest : Text}
    {pieces : List (Text × Text)} (h : d.Reaches s pieces left)
    (hUnclosed : d.Unclosed left before rest) (line : Nat) :
    ofTextFrom d line s =
      .error (.flaw (line + lineBreaks pieces + newlines before) (.unterminated d.closing)) := by
  induction h generalizing line with
  | start =>
    exact ofTextFrom_of_unclosed (cutAt_eq_some_iff.2 hUnclosed.opens)
      (cutAt_eq_none_iff.2 hUnclosed.neverCloses)
  | @action s front rest content after left pieces hOpen hClose _ ih =>
    rw [ofTextFrom_of_action (cutAt_eq_some_iff.2 hOpen) (cutAt_eq_some_iff.2 hClose),
      ih hUnclosed]
    simp only [lineBreaks, Except.map, ← Nat.add_assoc]

/-- **A text has no tokens when its scan comes to a delimiter that is left open.** -/
theorem ofTextFrom_eq_error_iff {d : Delimiters} {line : Nat} {s : Text} {e : TemplateError} :
    ofTextFrom d line s = .error e ↔ ∃ pieces left before rest, d.Reaches s pieces left ∧
      d.Unclosed left before rest ∧
        e = .flaw (line + lineBreaks pieces + newlines before) (.unterminated d.closing) := by
  constructor
  · intro h
    obtain ⟨pieces, left, hReaches, hNone | ⟨before, rest, hUnclosed⟩⟩ := d.exists_end s
    · rw [ofTextFrom_of_scans (hReaches.scans hNone)] at h
      cases h
    · rw [ofTextFrom_of_reaches hReaches hUnclosed] at h
      exact ⟨pieces, left, before, rest, hReaches, hUnclosed, (Except.error.inj h).symm⟩
  · rintro ⟨pieces, left, before, rest, hReaches, hUnclosed, rfl⟩
    exact ofTextFrom_of_reaches hReaches hUnclosed line

/-- **The tokens of a text are those of its parts.** -/
theorem ofTextFrom_eq_ok_iff {d : Delimiters} {line : Nat} {s : Text} {tokens : List Token} :
    ofTextFrom d line s = .ok tokens ↔
      ∃ pieces tail, d.Scans s pieces tail ∧ tokens = ofPieces line pieces tail := by
  constructor
  · intro h
    obtain ⟨pieces, tail, hReaches, hNone | ⟨before, rest, hUnclosed⟩⟩ := d.exists_end s
    · have hScans := hReaches.scans hNone
      exact ⟨pieces, tail, hScans, Except.ok.inj (h.symm.trans (ofTextFrom_of_scans hScans line))⟩
    · rw [ofTextFrom_of_reaches hReaches hUnclosed] at h
      cases h
  · rintro ⟨pieces, tail, hScans, rfl⟩
    exact ofTextFrom_of_scans hScans line

end Token

end RestScaffold
