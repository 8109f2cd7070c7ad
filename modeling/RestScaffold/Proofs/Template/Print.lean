import Mathlib.Data.List.Infix
import RestScaffold.Proofs.Template.Nesting

/-!
# Printed templates

A block is printed as a text with a dollar sign around its actions. Reading the printed text gives
the block back, its lines aside, when the block is well formed: then its texts and forms do not
interfere with the actions, and no two of its texts run together. A key has a dot in front, so that
the names `end` and `range` are printed like all others. Every block that is read off a text is well
formed.

* `KeyRef.WellFormed.entersRange` and `Expression.WellFormed.emits`: printed actions are read as
  they were meant;
* `Step.readsBack_of_regular`: printed steps are read as these steps;
* `Step.regular_of_reads`: steps that are read off a text are well formed;
* `Block.print_roundtrip`: blocks and texts.
-/

namespace RestScaffold

open Text

/-! ## Printing -/

/-- How a key is printed. -/
def KeyRef.print : KeyRef → Text
  | current => "."
  | named name => "." ++ name

/-- How a placeholder is printed. -/
def Expression.print (e : Expression) : Text :=
  match e.form with
  | none => e.key.print
  | some form => e.key.print ++ '|' :: form

/-- How the beginning of a range is printed. -/
def KeyRef.printRange (key : KeyRef) : Text := "range " ++ key.print

/-- How the end of a range is printed. -/
def printedEnd : Text := "end"

/-- An action between its delimiters. -/
def delimited (action : Text) : Text := "$" ++ action ++ "$"

theorem append_delimited (front action s : Text) : front ++ (delimited action ++ s) =
    front ++ Delimiters.dollar.opening ++ (action ++ Delimiters.dollar.closing ++ s) := by
  simp only [delimited, List.append_assoc]
  rfl

section Scans

variable {s tail : Text} {pieces : List (Text × Text)}

/-- A text without a dollar sign has no actions. -/
theorem scans_of_not_mem (h : '$' ∉ s) : Delimiters.dollar.Scans s [] s :=
  .last fun hInfix => h ((List.singleton_infix_iff _ _).1 hInfix)

/-- An action between dollar signs is scanned with the text in front of it. -/
theorem scans_delimited {front action : Text} (hFront : '$' ∉ front) (hAction : '$' ∉ action)
    (h : Delimiters.dollar.Scans s pieces tail) :
    Delimiters.dollar.Scans (front ++ (delimited action ++ s)) ((front, action) :: pieces) tail := by
  rw [append_delimited]
  exact .action (cutFirst_singleton hFront _) (cutFirst_singleton hAction _) h

end Scans

/-- How a block is printed. -/
def Block.print : Block → Text
  | done => []
  | text content rest => content ++ rest.print
  | emit e _ rest => delimited e.print ++ rest.print
  | range key _ body rest =>
    delimited key.printRange ++ body.print ++ delimited printedEnd ++ rest.print

/-- The block with no lines noted. -/
def Block.withoutLines : Block → Block
  | done => done
  | text content rest => text content rest.withoutLines
  | emit e _ rest => emit e 0 rest.withoutLines
  | range key _ body rest => range key 0 body.withoutLines rest.withoutLines

/-! ## Well-formed blocks -/

/-- A named key is an identifier. -/
def KeyRef.WellFormed : KeyRef → Prop
  | current => True
  | named name => isIdentifier name = true

/-- A form has no blanks around it, no dollar sign, and is not empty. -/
def Expression.WellFormed (e : Expression) : Prop :=
  e.key.WellFormed ∧ ∀ form ∈ e.form, form ≠ [] ∧ trim form = form ∧ '$' ∉ form

/-- The block begins with a text. -/
def Block.beginsText : Block → Bool
  | text _ _ => true
  | _ => false

/-- Texts are not empty, have no dollar sign, and do not stand side by side. -/
def Block.Regular : Block → Prop
  | done => True
  | text content rest =>
    content ≠ [] ∧ '$' ∉ content ∧ rest.beginsText = false ∧ rest.Regular
  | emit e _ rest => e.WellFormed ∧ rest.Regular
  | range key _ body rest => key.WellFormed ∧ body.Regular ∧ rest.Regular

/-- A block that can be printed and read. -/
structure Block.WellFormed (b : Block) : Prop where
  regular : b.Regular
  depth_le : b.depth ≤ 2

instance : (key : KeyRef) → Decidable key.WellFormed
  | .current => inferInstanceAs (Decidable True)
  | .named name => inferInstanceAs (Decidable (isIdentifier name = true))

instance (e : Expression) : Decidable e.WellFormed := inferInstanceAs (Decidable (_ ∧ _))

instance Block.decidableRegular : (b : Block) → Decidable b.Regular
  | done => inferInstanceAs (Decidable True)
  | text _ rest =>
    have := rest.decidableRegular
    inferInstanceAs (Decidable (_ ∧ _ ∧ _ ∧ rest.Regular))
  | emit _ _ rest =>
    have := rest.decidableRegular
    inferInstanceAs (Decidable (_ ∧ rest.Regular))
  | range _ _ body rest =>
    have := body.decidableRegular
    have := rest.decidableRegular
    inferInstanceAs (Decidable (_ ∧ body.Regular ∧ rest.Regular))

instance (b : Block) : Decidable b.WellFormed :=
  decidable_of_iff (b.Regular ∧ b.depth ≤ 2) ⟨fun h => ⟨h.1, h.2⟩, fun h => ⟨h.1, h.2⟩⟩

/-! ## Steps -/

namespace Step

/-- How a step is printed. -/
def print : Step → Text
  | text content => content
  | emit e _ => delimited e.print
  | enter key _ => delimited key.printRange
  | leave => delimited printedEnd

def withoutLine : Step → Step
  | emit e _ => emit e 0
  | enter key _ => enter key 0
  | step => step

def beginsText : List Step → Bool
  | text _ :: _ => true
  | _ => false

theorem kinds_map_withoutLine (steps : List Step) :
    kinds (steps.map withoutLine) = kinds steps := by
  have hKind : kind? ∘ withoutLine = kind? := by
    funext step
    cases step <;> rfl
  rw [kinds, kinds, List.filterMap_map, hKind]

/-- The block of the steps is regular. -/
def Regular : List Step → Prop
  | [] => True
  | text content :: steps =>
    content ≠ [] ∧ '$' ∉ content ∧ beginsText steps = false ∧ Regular steps
  | emit e _ :: steps => e.WellFormed ∧ Regular steps
  | enter key _ :: steps => key.WellFormed ∧ Regular steps
  | leave :: steps => Regular steps

end Step

namespace Block

theorem print_eq_flatMap (b : Block) : b.print = b.toSteps.flatMap Step.print := by
  induction b with
  | done => rfl
  | text content rest ih => rw [print, ih, toSteps, List.flatMap_cons, Step.print]
  | emit e line rest ih => rw [print, ih, toSteps, List.flatMap_cons, Step.print]
  | range key line body rest ihBody ihRest =>
    rw [print, ihBody, ihRest, toSteps, List.flatMap_cons, List.flatMap_append, List.flatMap_cons,
      Step.print, Step.print, List.append_assoc, List.append_assoc]

theorem toSteps_withoutLines (b : Block) :
    b.withoutLines.toSteps = b.toSteps.map Step.withoutLine := by
  induction b with
  | done => rfl
  | text content rest ih => rw [withoutLines, toSteps, ih]; rfl
  | emit e line rest ih => rw [withoutLines, toSteps, ih]; rfl
  | range key line body rest ihBody ihRest =>
    rw [withoutLines, toSteps, ihBody, ihRest, toSteps, List.map_cons, List.map_append,
      List.map_cons]
    rfl

theorem withoutLines_eq_iff {a b : Block} : a.withoutLines = b.withoutLines ↔
    a.toSteps.map Step.withoutLine = b.toSteps.map Step.withoutLine := by
  rw [← toSteps_withoutLines, ← toSteps_withoutLines]
  constructor
  · intro hSame
    rw [hSame]
  · intro hSteps
    rw [← ofSteps_toSteps a.withoutLines, hSteps, ofSteps_toSteps]

theorem beginsText_toSteps_append (b : Block) {steps : List Step}
    (h : Step.beginsText steps = false) :
    Step.beginsText (b.toSteps ++ steps) = b.beginsText := by
  cases b <;> first | exact h | rfl

/-- The steps of a block are well formed as the block is. -/
theorem regular_toSteps_append_iff (b : Block) (steps : List Step)
    (h : Step.beginsText steps = false) :
    Step.Regular (b.toSteps ++ steps) ↔ b.Regular ∧ Step.Regular steps := by
  induction b generalizing steps with
  | done => exact (and_iff_right trivial).symm
  | text content rest ih =>
    show _ ∧ _ ∧ Step.beginsText (rest.toSteps ++ steps) = false ∧
      Step.Regular (rest.toSteps ++ steps) ↔ _
    rw [beginsText_toSteps_append rest h, ih steps h]
    simp only [Regular, and_assoc]
  | emit e line rest ih =>
    show _ ∧ Step.Regular (rest.toSteps ++ steps) ↔ _
    rw [ih steps h, Regular, and_assoc]
  | range key line body rest ihBody ihRest =>
    rw [toSteps_range_append]
    show _ ∧ Step.Regular (body.toSteps ++ _) ↔ _
    rw [ihBody _ rfl]
    show _ ∧ _ ∧ Step.Regular (rest.toSteps ++ steps) ↔ _
    rw [ihRest steps h, Regular, and_assoc, and_assoc]

theorem regular_toSteps_iff (b : Block) : Step.Regular b.toSteps ↔ b.Regular := by
  have hAppend := b.regular_toSteps_append_iff [] rfl
  rw [List.append_nil] at hAppend
  exact hAppend.trans (and_iff_left trivial)

end Block

/-! ## Printed actions are read as they were meant -/

namespace KeyRef

variable {key : KeyRef}

theorem WellFormed.isBlank_of_mem_print (h : key.WellFormed) {c : Char} (hc : c ∈ key.print) :
    isBlank c = false := by
  cases key with
  | current =>
    rw [List.mem_singleton.1 hc]
    decide
  | named name =>
    rcases List.mem_cons.1 hc with rfl | hName
    · decide
    · exact isBlank_of_isKeyRest (isKeyRest_of_mem h hName)

theorem WellFormed.solid_print (h : key.WellFormed) : Solid key.print :=
  solid_of_not_blank fun _ hc => h.isBlank_of_mem_print hc

theorem WellFormed.spells_print (h : key.WellFormed) : key.Spells key.print := by
  have hTrim := h.solid_print.trim_eq
  cases key with
  | current => exact hTrim
  | named name => exact ⟨h, Or.inr hTrim⟩

theorem head?_print (key : KeyRef) : key.print.head? = some '.' := by
  cases key <;> rfl

theorem print_ne_nil (key : KeyRef) : key.print ≠ [] := by
  cases key <;> exact List.cons_ne_nil _ _

theorem WellFormed.dollar_not_mem_print (h : key.WellFormed) : '$' ∉ key.print :=
  h.spells_print.not_mem (by decide) (by decide) (by decide)

theorem Spells.wellFormed {s : Text} (h : key.Spells s) : key.WellFormed := by
  cases key with
  | current => trivial
  | named name => exact h.1

/-- A printed key behind the word `range` begins a range for it. -/
theorem WellFormed.entersRange (h : key.WellFormed) : EntersRange key (trim key.printRange) := by
  have hSolid : Solid key.printRange := solid_append rfl h.solid_print key.print_ne_nil
  rw [hSolid.trim_eq]
  exact ⟨' ', key.print, rfl, by decide, h.spells_print⟩

end KeyRef

namespace Expression

variable {e : Expression}

theorem WellFormed.solid_print (h : e.WellFormed) : Solid e.print := by
  obtain ⟨key, form⟩ := e
  cases form with
  | none => exact h.1.solid_print
  | some form =>
    obtain ⟨hNe, hTrim, -⟩ := h.2 form rfl
    have hForm : Solid form := hTrim ▸ solid_trim form
    have hHead : (key.print ++ ['|']).head?.any isBlank = false := by
      cases key <;> rfl
    show Solid (key.print ++ '|' :: form)
    rw [List.append_cons]
    exact solid_append hHead hForm hNe

theorem head?_print (e : Expression) : e.print.head? = some '.' := by
  obtain ⟨key, form⟩ := e
  cases form with
  | none => exact key.head?_print
  | some form =>
    show (key.print ++ '|' :: form).head? = _
    rw [List.head?_append, key.head?_print]
    rfl

theorem WellFormed.emits (h : e.WellFormed) : Emits e (trim e.print) := by
  rw [h.solid_print.trim_eq]
  refine ⟨?_, ?_⟩
  · rintro (hEnd | ⟨rest, hRange, -⟩)
    · have hHead := e.head?_print
      rw [hEnd] at hHead
      exact absurd hHead (by decide)
    · have hHead := e.head?_print
      rw [hRange] at hHead
      exact absurd (Option.some.inj hHead) (by decide)
  · obtain ⟨key, form⟩ := e
    cases form with
    | none => exact h.1.spells_print
    | some form =>
      obtain ⟨hNe, hTrim, -⟩ := h.2 form rfl
      exact ⟨key.print, form, rfl, h.1.spells_print, hTrim.symm, hNe⟩

theorem WellFormed.dollar_not_mem_print (h : e.WellFormed) : '$' ∉ e.print := by
  obtain ⟨key, form⟩ := e
  cases form with
  | none => exact h.1.dollar_not_mem_print
  | some form =>
    obtain ⟨-, -, hDollar⟩ := h.2 form rfl
    intro hMem
    rcases List.mem_append.1 hMem with hKey | hForm
    · exact h.1.dollar_not_mem_print hKey
    · rcases List.mem_cons.1 hForm with hBar | hForm
      · exact absurd hBar (by decide)
      · exact hDollar hForm

/-- The form of a placeholder is trimmed when it is read. -/
theorem Spells.wellFormed {s : Text} (h : e.Spells s) (hDollar : '$' ∉ s) : e.WellFormed := by
  obtain ⟨key, form⟩ := e
  cases form with
  | none => exact ⟨KeyRef.Spells.wellFormed h, nofun⟩
  | some form =>
    obtain ⟨front, raw, rfl, hKey, rfl, hNe⟩ := h
    refine ⟨hKey.wellFormed, fun form hForm => ?_⟩
    obtain rfl := Option.some.inj hForm
    refine ⟨hNe, trim_trim raw, fun hMem => hDollar ?_⟩
    exact List.mem_append_right _ (List.mem_cons_of_mem _ (trim_subset raw hMem))

end Expression

/-! ## Printed steps are read as these steps -/

namespace Step

/-- A step is printed as an action that says this step on every line. -/
structure PrintsAs (step : Step) (action : Text) : Prop where
  print_eq : step.print = delimited action
  dollar_not_mem : '$' ∉ action
  exists_spells : ∀ line, ∃ step' : Step,
    step'.Spells line action ∧ step'.withoutLine = step.withoutLine

theorem printsAs_emit {e : Expression} (h : e.WellFormed) (line : Nat) :
    PrintsAs (.emit e line) e.print :=
  ⟨rfl, h.dollar_not_mem_print, fun l => ⟨.emit e l, ⟨rfl, h.emits⟩, rfl⟩⟩

theorem printsAs_enter {key : KeyRef} (h : key.WellFormed) (line : Nat) :
    PrintsAs (.enter key line) key.printRange := by
  refine ⟨rfl, fun hMem => ?_, fun l => ⟨.enter key l, ⟨rfl, h.entersRange⟩, rfl⟩⟩
  rcases List.mem_append.1 hMem with hWord | hKey
  · exact absurd hWord (by decide)
  · exact h.dollar_not_mem_print hKey

theorem printsAs_leave : PrintsAs .leave printedEnd := by
  have hTrim : trim printedEnd = "end" := by decide
  exact ⟨rfl, by decide, fun _ => ⟨.leave, hTrim, rfl⟩⟩

/-- A text with some steps printed behind it is read as these steps. -/
def ReadsBack (front : Text) (steps : List Step) : Prop :=
  ∀ line, ∃ pieces tail steps',
    Delimiters.dollar.Scans (front ++ steps.flatMap print) pieces tail ∧
      List.Forall₂ Token.Reads (Token.ofPieces line pieces tail) steps' ∧
      steps'.map withoutLine = (textOf front ++ steps).map withoutLine

theorem readsBack_nil {front : Text} (h : '$' ∉ front) : ReadsBack front [] := by
  intro line
  refine ⟨[], front, textOf front, ?_, Token.forall₂_ofPieces_nil_iff.2 rfl, ?_⟩
  · rw [List.flatMap_nil, List.append_nil]
    exact scans_of_not_mem h
  · rw [List.append_nil]

/-- An action is read up to its second dollar sign. -/
theorem PrintsAs.readsBack {step : Step} {action front : Text} {steps : List Step}
    (h : PrintsAs step action) (hFront : '$' ∉ front) (hRest : ReadsBack [] steps) :
    ReadsBack front (step :: steps) := by
  intro line
  obtain ⟨step', hStep, hSame⟩ := h.exists_spells (line + newlines front)
  obtain ⟨pieces, tail, rest, hScans, hReads, hRestSame⟩ :=
    hRest (line + newlines front + newlines action)
  refine ⟨(front, action) :: pieces, tail, textOf front ++ step' :: rest, ?_, ?_, ?_⟩
  · rw [List.flatMap_cons, h.print_eq]
    exact scans_delimited hFront h.dollar_not_mem hScans
  · exact Token.forall₂_ofPieces_cons_iff.2 ⟨step', rest, rfl, hStep, hReads⟩
  · rw [List.map_append, List.map_append, List.map_cons, List.map_cons, hSame, hRestSame]
    rfl

/-- **Printed steps are read as these steps.** A text in front is read with them as long as it does
not stand beside one of them. -/
theorem readsBack_of_regular {steps : List Step} (h : Regular steps) {front : Text}
    (hFront : '$' ∉ front) (hApart : front = [] ∨ beginsText steps = false) :
    ReadsBack front steps := by
  induction steps generalizing front with
  | nil => exact readsBack_nil hFront
  | cons step steps ih =>
    cases step with
    | text content =>
      obtain ⟨hNe, hDollar, hNext, hSteps⟩ := h
      -- A text is no token until the next action is met, so it is the front of the steps behind it.
      obtain rfl : front = [] := hApart.resolve_right Bool.noConfusion
      have hText : textOf content = [.text content] := if_neg hNe
      intro line
      obtain ⟨pieces, tail, steps', hScans, hReads, hSame⟩ := ih hSteps hDollar (Or.inr hNext) line
      rw [hText] at hSame
      exact ⟨pieces, tail, steps', hScans, hReads, hSame⟩
    | emit e line =>
      exact (printsAs_emit h.1 line).readsBack hFront (ih h.2 List.not_mem_nil (Or.inl rfl))
    | enter key line =>
      exact (printsAs_enter h.1 line).readsBack hFront (ih h.2 List.not_mem_nil (Or.inl rfl))
    | leave => exact printsAs_leave.readsBack hFront (ih h List.not_mem_nil (Or.inl rfl))

/-! ## What is read is well formed -/

theorem beginsText_eq_false {step : Step} {line : Nat} {content : Text}
    (h : step.Spells line content) (steps : List Step) : beginsText (step :: steps) = false := by
  cases step with
  | text _ => exact h.elim
  | emit _ _ | enter _ _ | leave => rfl

/-- A step with well-formed parts that is no text. -/
theorem regular_cons_of_spells {step : Step} {line : Nat} {content : Text}
    (h : step.Spells line content) (hDollar : '$' ∉ content) {steps : List Step}
    (hSteps : Regular steps) : Regular (step :: steps) := by
  cases step with
  | text _ => exact h.elim
  | leave => exact hSteps
  | enter key _ =>
    obtain ⟨-, blank, rest, -, -, hKey⟩ := h
    exact ⟨hKey.wellFormed, hSteps⟩
  | emit e _ =>
    obtain ⟨-, -, hSpells⟩ := h
    exact ⟨hSpells.wellFormed fun hMem => hDollar (trim_subset content hMem), hSteps⟩

theorem regular_textOf_append {s : Text} (h : '$' ∉ s) {steps : List Step}
    (hNext : beginsText steps = false) (hSteps : Regular steps) :
    Regular (textOf s ++ steps) := by
  unfold textOf
  split
  · exact hSteps
  · next hNe => exact ⟨hNe, h, hNext, hSteps⟩

/-- **The steps that are read off a text are well formed.** -/
theorem regular_of_reads {line : Nat} {pieces : List (Text × Text)} {tail : Text}
    {steps : List Step} (hTail : '$' ∉ tail)
    (hPieces : ∀ piece ∈ pieces, '$' ∉ piece.1 ∧ '$' ∉ piece.2)
    (h : List.Forall₂ Token.Reads (Token.ofPieces line pieces tail) steps) : Regular steps := by
  induction pieces generalizing line steps with
  | nil =>
    rw [Token.forall₂_ofPieces_nil_iff.1 h, ← List.append_nil (textOf tail)]
    exact regular_textOf_append hTail rfl trivial
  | cons piece pieces ih =>
    obtain ⟨step, rest, rfl, hStep, hRest⟩ := Token.forall₂_ofPieces_cons_iff.1 h
    obtain ⟨hBefore, hContent⟩ := hPieces _ List.mem_cons_self
    refine regular_textOf_append hBefore (beginsText_eq_false hStep rest) ?_
    exact regular_cons_of_spells hStep hContent
      (ih (fun piece hp => hPieces piece (List.mem_cons_of_mem _ hp)) hRest)

end Step

/-! ## Blocks and texts -/

namespace Block

/-- A well-formed block is read off the text that it is printed as. -/
theorem WellFormed.exists_ofText_print {b : Block} (h : b.WellFormed) :
    ∃ b', ofText .dollar b.print = .ok b' ∧ b'.withoutLines = b.withoutLines := by
  have hRegular := b.regular_toSteps_iff.2 h.regular
  obtain ⟨pieces, tail, steps, hScans, hReads, hSame⟩ :=
    Step.readsBack_of_regular hRegular List.not_mem_nil (Or.inl rfl) 1
  -- The steps that are read have other lines, but lines do not count for the nesting.
  have hNested : Nested 0 (Step.kinds steps) := by
    rw [← Step.kinds_map_withoutLine, hSame, Step.kinds_map_withoutLine]
    exact b.nested_toSteps_iff.2 h.depth_le
  have hSteps := toSteps_ofSteps hNested
  rw [← hSteps] at hReads hNested hSame
  rw [List.nil_append, ← print_eq_flatMap] at hScans
  have hDepth := (nested_toSteps_iff _).1 hNested
  exact ⟨ofSteps steps, ofText_eq_ok_iff.2 ⟨pieces, tail, hScans, hReads, hDepth⟩,
    withoutLines_eq_iff.2 hSame⟩

/-- What is read off a text is well formed. -/
theorem wellFormed_of_ofText {s : Text} {b : Block} (h : ofText .dollar s = .ok b) :
    b.WellFormed := by
  obtain ⟨pieces, tail, hScans, hReads, hDepth⟩ := ofText_eq_ok_iff.1 h
  have hTail : '$' ∉ tail := fun hMem =>
    hScans.not_infix_tail ((List.singleton_infix_iff _ _).2 hMem)
  have hPieces : ∀ piece ∈ pieces, '$' ∉ piece.1 ∧ '$' ∉ piece.2 := by
    intro piece hp
    obtain ⟨hFront, hContent⟩ := hScans.not_infix_of_mem hp
    exact ⟨fun hMem => hFront ((List.singleton_infix_iff _ _).2 hMem),
      fun hMem => hContent ((List.singleton_infix_iff _ _).2 hMem)⟩
  exact ⟨b.regular_toSteps_iff.1 (Step.regular_of_reads hTail hPieces hReads), hDepth⟩

/-- **Printing and reading templates are inverse.** A well-formed block is read off the text that it
is printed as, its lines aside; and what is read off any text is well formed, so that it is read
again when it is printed. -/
theorem print_roundtrip :
    (∀ b : Block, b.WellFormed →
      ∃ b', ofText .dollar b.print = .ok b' ∧ b'.withoutLines = b.withoutLines) ∧
    ∀ s b, ofText .dollar s = .ok b → b.WellFormed ∧
      ∃ b', ofText .dollar b.print = .ok b' ∧ b'.withoutLines = b.withoutLines :=
  ⟨fun _ h => h.exists_ofText_print,
    fun _ _ h => ⟨wellFormed_of_ofText h, (wellFormed_of_ofText h).exists_ofText_print⟩⟩

/-- A block with keys that are named like the words of actions. -/
def keywords : Block :=
  .range (.named "end") 7 (.emit ⟨.named "range", some "a | b"⟩ 8 (.text "," .done)) .done

/-- This block is read again when it is printed, and it is also read off a text with the words
themselves and with more blanks. -/
theorem print_roundtrip_keywords : keywords.WellFormed ∧
    keywords.print = "$range .end$$.range|a | b$,$end$".toList ∧
    (∃ b', ofText .dollar keywords.print = .ok b' ∧ b'.withoutLines = keywords.withoutLines) ∧
    ∃ b, ofText .dollar "$ range\tend $$ range|a | b $,$end$" = .ok b ∧ b.WellFormed ∧
      b.withoutLines = keywords.withoutLines := by
  have hKeywords : keywords.WellFormed := by decide
  have hRead : ofText .dollar "$ range\tend $$ range|a | b $,$end$" = .ok (.range (.named "end") 1
      (.emit ⟨.named "range", some "a | b"⟩ 1 (.text "," .done)) .done) := by decide +kernel
  exact ⟨hKeywords, by decide, print_roundtrip.1 keywords hKeywords, _, hRead,
    (print_roundtrip.2 _ _ hRead).1, rfl⟩

end Block

end RestScaffold
