import Mathlib.Data.List.Forall2
import RestScaffold.Proofs.Template.Grammar
import RestScaffold.Proofs.Template.Scan

/-!
# How ranges are nested

The actions of a template begin and end ranges like brackets. The reader of steps checks the brackets
with the list of open ranges, action by action, and the steps that it gives are then put together to
a block. This module says what is accepted by counting brackets, and that blocks and balanced steps
are the same thing.

* `readSteps_eq_ok_iff`: tokens are read as the steps that they say, when these are nested;
* `nested_iff_bracketed`: nesting as a count of the beginnings and the ends of ranges;
* `Block.toSteps_ofSteps`: nested steps are those of a block;
* `Block.ofText_eq_ok_iff`: the block that a text is read as.
-/

namespace RestScaffold

open Text

/-! ## Kinds of actions -/

/-- What an action does to the ranges around it. -/
inductive ActionKind where
  | enter
  | leave
  | emit
  deriving DecidableEq

/-- An action without its blanks is one of this kind. -/
def ActionKind.Spells : ActionKind → Text → Prop
  | enter, action => ∃ key, EntersRange key action
  | leave, action => action = "end"
  | emit, action => ∃ e, Emits e action

/-- The kind of the action of a step. -/
def Step.kind? : Step → Option ActionKind
  | text _ => none
  | emit _ _ => some .emit
  | enter _ _ => some .enter
  | leave => some .leave

/-- The kinds of the actions of some steps. -/
def Step.kinds (steps : List Step) : List ActionKind := steps.filterMap kind?

/-- Behind `depth` open ranges, no range ends that is not open, no more than two are open at once,
and all are ended. -/
def Nested : Nat → List ActionKind → Prop
  | depth, [] => depth = 0
  | depth, .enter :: kinds => depth < maxRangeDepth ∧ Nested (depth + 1) kinds
  | depth, .leave :: kinds => 0 < depth ∧ Nested (depth - 1) kinds
  | depth, .emit :: kinds => Nested depth kinds

/-! ## Reading -/

/-- What a token is read as. -/
def Token.Reads : Token → Step → Prop
  | text content, step => step = .text content
  | action content line, step => step.Spells line content

/-- The ranges that are open behind a step, unless it ends a range where none is open or begins one
where no more may be. -/
def Step.opens? (opened : List Nat) : Step → Option (List Nat)
  | text _ => some opened
  | emit _ _ => some opened
  | enter _ line => if opened.length < maxRangeDepth then some (line :: opened) else none
  | leave => opened.tail?

theorem Step.nested_kinds_cons_iff {opened : List Nat} {step : Step} {steps : List Step} :
    Nested opened.length (kinds (step :: steps)) ↔
      ∃ next, step.opens? opened = some next ∧ Nested next.length (kinds steps) := by
  cases step with
  | text _ | emit _ _ =>
    constructor
    · intro hNested
      exact ⟨opened, rfl, hNested⟩
    · rintro ⟨next, hNext, hNested⟩
      obtain rfl := Option.some.inj hNext
      exact hNested
  | enter key line =>
    by_cases hRoom : opened.length < maxRangeDepth
    · rw [opens?, if_pos hRoom]
      constructor
      · rintro ⟨-, hNested⟩
        exact ⟨line :: opened, rfl, hNested⟩
      · rintro ⟨next, hNext, hNested⟩
        obtain rfl := Option.some.inj hNext
        exact ⟨hRoom, hNested⟩
    · rw [opens?, if_neg hRoom]
      exact iff_of_false (fun hNested => hRoom hNested.1) nofun
  | leave =>
    cases opened with
    | nil => exact iff_of_false (fun hNested => Nat.lt_irrefl 0 hNested.1) nofun
    | cons line outer =>
      constructor
      · rintro ⟨-, hNested⟩
        exact ⟨outer, rfl, hNested⟩
      · rintro ⟨next, hNext, hNested⟩
        obtain rfl := Option.some.inj hNext
        exact ⟨Nat.succ_pos _, hNested⟩

section Read

variable {opened : List Nat} {tokens : List Token} {steps : List Step} {content : Text} {line : Nat}

/-- The end of a range is read when one is open. -/
theorem readSteps_end_eq_ok_iff (h : trim content = "end") :
    readSteps opened (.action content line :: tokens) = .ok steps ↔
      ∃ outer rest, opened.tail? = some outer ∧ readSteps outer tokens = .ok rest ∧
        steps = .leave :: rest := by
  simp only [readSteps, Action.ofText_of_end h]
  cases opened with
  | nil =>
    constructor
    · intro hRead
      cases hRead
    · intro hOuter
      obtain ⟨outer, rest, hTail, -⟩ := hOuter
      cases hTail
  | cons _ outer =>
    simp only [map_eq_ok_iff, List.tail?_cons, Option.some.injEq, exists_and_left, exists_eq_left']
    exact exists_congr fun rest => and_congr_right fun _ => eq_comm

/-- The beginning of a range is read when one more may be open. -/
theorem readSteps_range_eq_ok_iff {target : Text} (h : trim content = "range" ++ target)
    (hBlank : ∀ c ∈ target.head?, isBlank c = true) :
    readSteps opened (.action content line :: tokens) = .ok steps ↔
      opened.length < maxRangeDepth ∧ ∃ key rest, key.Spells target ∧
        readSteps (line :: opened) tokens = .ok rest ∧ steps = .enter key line :: rest := by
  simp only [readSteps, Action.ofText_of_range h hBlank]
  by_cases hRoom : opened.length < maxRangeDepth
  · rw [if_neg (Nat.not_le.2 hRoom), and_iff_right hRoom]
    constructor
    · intro hRead
      split at hRead
      · cases hRead
      · next key hKey =>
        obtain ⟨rest, hRest, rfl⟩ := map_eq_ok_iff.1 hRead
        exact ⟨key, rest, KeyRef.ofText_eq_ok_iff.1 hKey, hRest, rfl⟩
    · rintro ⟨key, rest, hKey, hRest, rfl⟩
      rw [KeyRef.ofText_eq_ok_iff.2 hKey]
      exact map_eq_ok_iff.2 ⟨rest, hRest, rfl⟩
  · rw [if_pos (Nat.not_lt.1 hRoom)]
    constructor
    · intro hRead
      cases hRead
    · intro hBoth
      exact absurd hBoth.1 hRoom

/-- A placeholder is read anywhere. -/
theorem readSteps_emit_eq_ok_iff (h : ¬ IsKeyword (trim content)) :
    readSteps opened (.action content line :: tokens) = .ok steps ↔
      ∃ e rest, e.Spells (trim content) ∧ readSteps opened tokens = .ok rest ∧
        steps = .emit e line :: rest := by
  simp only [readSteps, Action.ofText_of_not_keyword h]
  constructor
  · intro hRead
    split at hRead
    · cases hRead
    · next e hExpression =>
      obtain ⟨rest, hRest, rfl⟩ := map_eq_ok_iff.1 hRead
      exact ⟨e, rest, Expression.ofText_eq_ok_iff.1 hExpression, hRest, rfl⟩
  · rintro ⟨e, rest, hExpression, hRest, rfl⟩
    rw [Expression.ofText_eq_ok_iff.2 hExpression]
    exact map_eq_ok_iff.2 ⟨rest, hRest, rfl⟩

/-- **Reading one token:** it is read as a step, and reading goes on in the ranges that are open
behind this step. -/
theorem readSteps_cons_eq_ok_iff {token : Token} :
    readSteps opened (token :: tokens) = .ok steps ↔
      ∃ step next rest, token.Reads step ∧ step.opens? opened = some next ∧
        readSteps next tokens = .ok rest ∧ steps = step :: rest := by
  cases token with
  | text content =>
    simp only [readSteps, map_eq_ok_iff]
    constructor
    · rintro ⟨rest, hRest, rfl⟩
      exact ⟨.text content, opened, rest, rfl, rfl, hRest, rfl⟩
    · rintro ⟨_, _, rest, rfl, ⟨⟩, hRest, rfl⟩
      exact ⟨rest, hRest, rfl⟩
  | action content line =>
    simp only [Token.Reads]
    rcases isKeyword_cases (trim content) with hEnd | ⟨target, hRange, hBlank⟩ | hOther
    · rw [readSteps_end_eq_ok_iff hEnd]
      simp only [Step.spells_iff_of_end hEnd]
      constructor
      · rintro ⟨outer, rest, hOuter, hRest, rfl⟩
        exact ⟨.leave, outer, rest, rfl, hOuter, hRest, rfl⟩
      · rintro ⟨_, outer, rest, rfl, hOuter, hRest, rfl⟩
        exact ⟨outer, rest, hOuter, hRest, rfl⟩
    · rw [readSteps_range_eq_ok_iff hRange hBlank]
      simp only [Step.spells_iff_of_range hRange hBlank]
      constructor
      · rintro ⟨hRoom, key, rest, hKey, hRest, rfl⟩
        exact ⟨_, _, rest, ⟨key, rfl, hKey⟩, if_pos hRoom, hRest, rfl⟩
      · rintro ⟨_, next, rest, ⟨key, rfl, hKey⟩, hNext, hRest, rfl⟩
        rw [Step.opens?] at hNext
        split at hNext
        · next hRoom =>
          obtain rfl := Option.some.inj hNext
          exact ⟨hRoom, key, rest, hKey, hRest, rfl⟩
        · cases hNext
    · rw [readSteps_emit_eq_ok_iff hOther]
      simp only [Step.spells_iff_of_not_keyword hOther]
      constructor
      · rintro ⟨e, rest, hSpells, hRest, rfl⟩
        exact ⟨_, opened, rest, ⟨e, rfl, hSpells⟩, rfl, hRest, rfl⟩
      · rintro ⟨_, _, rest, ⟨e, rfl, hSpells⟩, ⟨⟩, hRest, rfl⟩
        exact ⟨e, rest, hSpells, hRest, rfl⟩

/-- **Tokens are read as the steps that they say, when these are nested.** -/
theorem readSteps_eq_ok_iff : readSteps opened tokens = .ok steps ↔
    List.Forall₂ Token.Reads tokens steps ∧ Nested opened.length (Step.kinds steps) := by
  induction tokens generalizing opened steps with
  | nil =>
    rw [List.forall₂_nil_left_iff]
    cases opened with
    | nil =>
      constructor
      · intro hDone
        obtain rfl := Except.ok.inj hDone
        exact ⟨rfl, rfl⟩
      · rintro ⟨rfl, -⟩
        rfl
    | cons line outer =>
      refine iff_of_false nofun ?_
      rintro ⟨rfl, hNested⟩
      exact absurd hNested (Nat.succ_ne_zero _)
  | cons token tokens ih =>
    rw [readSteps_cons_eq_ok_iff, List.forall₂_cons_left_iff]
    constructor
    · rintro ⟨step, next, rest, hReads, hNext, hRest, rfl⟩
      obtain ⟨hAll, hNested⟩ := ih.1 hRest
      exact ⟨⟨step, rest, hReads, hAll, rfl⟩, Step.nested_kinds_cons_iff.2 ⟨next, hNext, hNested⟩⟩
    · rintro ⟨⟨step, rest, hReads, hAll, rfl⟩, hNested⟩
      obtain ⟨next, hNext, hRest⟩ := Step.nested_kinds_cons_iff.1 hNested
      exact ⟨step, next, rest, hReads, hNext, ih.2 ⟨hAll, hRest⟩, rfl⟩

end Read

/-- The step of a text that is not empty. -/
def Step.textOf (s : Text) : List Step := if s = [] then [] else [text s]

theorem Token.forall₂_textOf_append_iff {content : Text} {tokens : List Token}
    {steps : List Step} :
    List.Forall₂ Reads (textOf content ++ tokens) steps ↔
      ∃ rest, steps = Step.textOf content ++ rest ∧ List.Forall₂ Reads tokens rest := by
  unfold textOf Step.textOf
  split
  · constructor
    · intro hReads
      exact ⟨steps, rfl, hReads⟩
    · rintro ⟨rest, rfl, hReads⟩
      exact hReads
  · constructor
    · intro hReads
      obtain ⟨step, rest, hStep, hRest, rfl⟩ := List.forall₂_cons_left_iff.1 hReads
      obtain rfl : step = .text content := hStep
      exact ⟨rest, rfl, hRest⟩
    · rintro ⟨rest, rfl, hRest⟩
      exact .cons rfl hRest

/-- What stands behind the last action is read as itself. -/
theorem Token.forall₂_ofPieces_nil_iff {line : Nat} {tail : Text} {steps : List Step} :
    List.Forall₂ Reads (ofPieces line [] tail) steps ↔ steps = Step.textOf tail := by
  rw [ofPieces, ← List.append_nil (textOf tail), forall₂_textOf_append_iff]
  simp

/-- **The parts of a text are read one after the other.** -/
theorem Token.forall₂_ofPieces_cons_iff {line : Nat} {before content tail : Text}
    {pieces : List (Text × Text)} {steps : List Step} :
    List.Forall₂ Reads (ofPieces line ((before, content) :: pieces) tail) steps ↔
      ∃ step rest, steps = Step.textOf before ++ step :: rest ∧
        step.Spells (line + newlines before) content ∧
        List.Forall₂ Reads
          (ofPieces (line + newlines before + newlines content) pieces tail) rest := by
  rw [ofPieces, forall₂_textOf_append_iff]
  constructor
  · rintro ⟨_, rfl, hReads⟩
    obtain ⟨step, rest, hStep, hRest, rfl⟩ := List.forall₂_cons_left_iff.1 hReads
    exact ⟨step, rest, rfl, hStep, hRest⟩
  · rintro ⟨step, rest, rfl, hStep, hRest⟩
    exact ⟨_, rfl, .cons hStep hRest⟩

/-! ## Counting brackets -/

namespace Block

/-- How deep the ranges of a block are nested. -/
def depth : Block → Nat
  | done => 0
  | text _ rest => rest.depth
  | emit _ _ rest => rest.depth
  | range _ _ body rest => max (body.depth + 1) rest.depth

/-- The steps of the blocks around a place, each behind the end of a range. -/
def outerSteps (outer : List Block) : List Step := outer.flatMap fun b => .leave :: b.toSteps

theorem outerSteps_cons (b : Block) (outer : List Block) :
    outerSteps (b :: outer) = .leave :: (b.toSteps ++ outerSteps outer) := rfl

/-- Nothing is lost when nested steps are put together, and there is a block for each open range. -/
theorem steps_eq_of_nested {depth : Nat} {steps : List Step}
    (h : Nested depth (Step.kinds steps)) :
    ∃ b outer, ofStepsStack steps = (b, outer) ∧ outer.length = depth ∧
      steps = b.toSteps ++ outerSteps outer := by
  induction steps generalizing depth with
  | nil => exact ⟨done, [], rfl, (show depth = 0 from h).symm, rfl⟩
  | cons step steps ih =>
    cases step with
    | text content =>
      obtain ⟨b, outer, hStack, hLength, hSteps⟩ := ih h
      exact ⟨text content b, outer, by rw [ofStepsStack, hStack], hLength, by rw [hSteps]; rfl⟩
    | emit e line =>
      obtain ⟨b, outer, hStack, hLength, hSteps⟩ := ih h
      exact ⟨emit e line b, outer, by rw [ofStepsStack, hStack], hLength, by rw [hSteps]; rfl⟩
    | leave =>
      obtain ⟨b, outer, hStack, hLength, hSteps⟩ := ih h.2
      have hPos : 0 < depth := h.1
      exact ⟨done, b :: outer, by rw [ofStepsStack, hStack],
        by rw [List.length_cons, hLength]; omega, by rw [hSteps]; rfl⟩
    | enter key line =>
      -- The innermost block so far is the body; the one around it is what follows the range.
      obtain ⟨body, outer, hStack, hLength, hSteps⟩ := ih h.2
      obtain ⟨rest, outer, rfl⟩ := List.exists_cons_of_length_eq_add_one hLength
      refine ⟨range key line body rest, outer, by rw [ofStepsStack, hStack],
        Nat.succ.inj hLength, ?_⟩
      rw [hSteps, outerSteps_cons, toSteps_range_append]

/-- **Nested steps are those of the block that is put together from them.** -/
theorem toSteps_ofSteps {steps : List Step} (h : Nested 0 (Step.kinds steps)) :
    (ofSteps steps).toSteps = steps := by
  obtain ⟨b, outer, hStack, hLength, hSteps⟩ := steps_eq_of_nested h
  obtain rfl := List.length_eq_zero_iff.1 hLength
  rw [ofSteps, hStack, hSteps]
  exact (List.append_nil _).symm

/-- The steps of a block are nested as deep as its ranges. -/
theorem nested_toSteps_append_iff (b : Block) {depth : Nat} (h : depth ≤ maxRangeDepth)
    (steps : List Step) :
    Nested depth (Step.kinds (b.toSteps ++ steps)) ↔
      depth + b.depth ≤ maxRangeDepth ∧ Nested depth (Step.kinds steps) := by
  induction b generalizing depth steps with
  | done => exact (and_iff_right h).symm
  | text content rest ih => exact ih h steps
  | emit e line rest ih => exact ih h steps
  | range key line body rest ihBody ihRest =>
    rw [toSteps_range_append]
    show depth < maxRangeDepth ∧ Nested (depth + 1) (Step.kinds (body.toSteps ++ _)) ↔ _
    rw [Block.depth]
    by_cases hRoom : depth < maxRangeDepth
    · have hLeave : Nested (depth + 1) (Step.kinds (.leave :: (rest.toSteps ++ steps))) ↔
          Nested depth (Step.kinds (rest.toSteps ++ steps)) := and_iff_right (Nat.succ_pos depth)
      rw [and_iff_right hRoom, ihBody hRoom, hLeave, ihRest h, ← and_assoc]
      refine and_congr_left fun _ => ?_
      omega
    · refine iff_of_false (fun hNested => hRoom hNested.1) fun hDepth => ?_
      omega

theorem nested_toSteps_iff (b : Block) :
    Nested 0 (Step.kinds b.toSteps) ↔ b.depth ≤ maxRangeDepth := by
  have hAppend := b.nested_toSteps_append_iff (Nat.zero_le _) []
  rw [List.append_nil, Nat.zero_add] at hAppend
  exact hAppend.trans (and_iff_left rfl)

/-! ## Reading a text -/

/-- **A text is read as the block whose steps its parts say,** when the ranges of this block are not
nested too deep. -/
theorem ofText_eq_ok_iff {d : Delimiters} {s : Text} {b : Block} :
    ofText d s = .ok b ↔ ∃ pieces tail, d.Scans s pieces tail ∧
      List.Forall₂ Token.Reads (Token.ofPieces 1 pieces tail) b.toSteps ∧
      b.depth ≤ maxRangeDepth := by
  have hRead : ofText d s = .ok b ↔ ∃ tokens, Token.ofTextFrom d 1 s = .ok tokens ∧
      ∃ steps, readSteps [] tokens = .ok steps ∧ ofSteps steps = b := by
    rw [ofText_eq, Token.ofText]
    cases Token.ofTextFrom d 1 s with
    | error e => exact iff_of_false nofun nofun
    | ok tokens =>
      simp only [Except.ok.injEq, exists_eq_left']
      exact map_eq_ok_iff
  rw [hRead]
  constructor
  · rintro ⟨tokens, hTokens, steps, hSteps, rfl⟩
    obtain ⟨pieces, tail, hScans, rfl⟩ := Token.ofTextFrom_eq_ok_iff.1 hTokens
    obtain ⟨hReads, hNested⟩ := readSteps_eq_ok_iff.1 hSteps
    have hSame := toSteps_ofSteps hNested
    rw [← hSame] at hReads hNested
    exact ⟨pieces, tail, hScans, hReads, (nested_toSteps_iff _).1 hNested⟩
  · rintro ⟨pieces, tail, hScans, hReads, hDepth⟩
    exact ⟨_, Token.ofTextFrom_eq_ok_iff.2 ⟨pieces, tail, hScans, rfl⟩, b.toSteps,
      readSteps_eq_ok_iff.2 ⟨hReads, (nested_toSteps_iff b).2 hDepth⟩, b.ofSteps_toSteps⟩

end Block

end RestScaffold
