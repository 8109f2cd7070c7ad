import RestScaffold.Proofs.Template.Append
import RestScaffold.Proofs.Template.Print

/-!
# Templates as sequences of atoms

Where the texts of a template begin and end and on which lines its actions stand does not matter for
what it writes. Without this a template is a sequence of atoms, which are characters and actions. The
text of a template with dollar signs is made of its atoms one after the other, so that templates may
be cut and put together between any two of them: the dollar signs of what stands in front are all
used up there.

* `Block.render_of_atoms`: blocks with the same atoms are rendered alike;
* `Written`: how atoms are written, with `Written.append`;
* `Block.written_of_ofText` and `Block.exists_ofText_of_written`: a text is read as a block that has
  the atoms written in it;
* `Block.renderText_of_written`: what is written in atoms is rendered like any block that has them.
-/

namespace RestScaffold

open Text

/-! ## Atoms -/

/-- The atoms of a text. -/
def Text.atoms (s : Text) : List Step := s.map fun c => .text [c]

/-- The atoms of a step: the characters of a text, and an action by itself with no line noted. -/
def Step.atoms : Step → List Step
  | text s => s.atoms
  | emit e _ => [emit e 0]
  | enter key _ => [enter key 0]
  | leave => [leave]

theorem Text.atoms_append (s s' : Text) : (s ++ s').atoms = s.atoms ++ s'.atoms := List.map_append

theorem Step.atoms_textOf (s : Text) : (textOf s).flatMap atoms = s.atoms := by
  unfold textOf
  split
  · next hEmpty => rw [hEmpty]; rfl
  · exact List.append_nil _

theorem Text.kinds_atoms_append (s : Text) (steps : List Step) :
    Step.kinds (s.atoms ++ steps) = Step.kinds steps := by
  induction s with
  | nil => rfl
  | cons c s ih => exact ih

/-- Atoms begin and end ranges as the steps do that they are of. -/
theorem Step.kinds_flatMap_atoms (steps : List Step) : kinds (steps.flatMap atoms) = kinds steps := by
  induction steps with
  | nil => rfl
  | cons step steps ih =>
    rw [List.flatMap_cons]
    cases step with
    | text s => exact (kinds_atoms_append s _).trans ih
    | emit e line => exact congrArg (.emit :: ·) ih
    | enter key line => exact congrArg (.enter :: ·) ih
    | leave => exact congrArg (.leave :: ·) ih

namespace Block

/-- The atoms of a block. -/
def atoms (b : Block) : List Step := b.toSteps.flatMap Step.atoms

theorem atoms_append (a b : Block) : (a.append b).atoms = a.atoms ++ b.atoms := by
  rw [atoms, toSteps_append, List.flatMap_append]
  rfl

theorem atoms_range (key : KeyRef) (line : Nat) (body rest : Block) :
    (range key line body rest).atoms =
      .enter key 0 :: (body.atoms ++ .leave :: rest.atoms) := by
  rw [atoms, toSteps, List.flatMap_cons, List.flatMap_append, List.flatMap_cons]
  rfl

/-- A block behind a text that is cut into characters. -/
def behindChars (s : Text) (b : Block) : Block := s.foldr (fun c => text [c]) b

/-- The block with its texts cut into characters and no lines noted. -/
def atomic : Block → Block
  | done => done
  | text s rest => behindChars s rest.atomic
  | emit e _ rest => emit e 0 rest.atomic
  | range key _ body rest => range key 0 body.atomic rest.atomic

theorem toSteps_behindChars (s : Text) (b : Block) :
    (behindChars s b).toSteps = s.atoms ++ b.toSteps := by
  induction s with
  | nil => rfl
  | cons c s ih => exact congrArg (.text [c] :: ·) ih

theorem toSteps_atomic (b : Block) : b.atomic.toSteps = b.atoms := by
  induction b with
  | done => rfl
  | text s rest ih => rw [atomic, toSteps_behindChars, ih]; rfl
  | emit e line rest ih => rw [atomic, toSteps, ih]; rfl
  | range key line body rest ihBody ihRest =>
    rw [atomic, toSteps, ihBody, ihRest, atoms_range]

section Render

variable (scope : NameScope) (vars : Bindings)

theorem render_behindChars (s : Text) (b : Block) (current : Option Declaration) :
    (behindChars s b).render scope vars current =
      Rendering.append (.text s) (b.render scope vars current) := by
  induction s with
  | nil => exact (Rendering.nothing_append _).symm
  | cons c s ih =>
    show Rendering.append (.text [c]) ((behindChars s b).render scope vars current) = _
    rw [ih, ← Rendering.append_assoc, ← Rendering.text_append]
    rfl

theorem render_atomic (b : Block) (current : Option Declaration) :
    b.atomic.render scope vars current = b.render scope vars current := by
  induction b generalizing current with
  | done => rfl
  | text s rest ih => rw [atomic, render_behindChars, ih, render]
  | emit e line rest ih => rw [atomic, render, render, ih]
  | range key line body rest ihBody ihRest => simp only [atomic, render, ihBody, ihRest]

/-- **Blocks with the same atoms are rendered alike.** -/
theorem render_of_atoms {a b : Block} (h : a.atoms = b.atoms) (current : Option Declaration) :
    a.render scope vars current = b.render scope vars current := by
  have hAtomic : a.atomic = b.atomic := by
    rw [← ofSteps_toSteps a.atomic, ← ofSteps_toSteps b.atomic, toSteps_atomic, toSteps_atomic, h]
  rw [← render_atomic, ← render_atomic scope vars b, hAtomic]

end Render

end Block

/-! ## How atoms are written -/

/-- How atoms are written: a character other than the dollar sign as it is, and an action between
dollar signs. -/
inductive Written : Text → List Step → Prop
  | nothing : Written [] []
  | char {c : Char} {s : Text} {atoms : List Step} (hChar : c ≠ '$') (hRest : Written s atoms) :
      Written (c :: s) (.text [c] :: atoms)
  | action {action s : Text} {step : Step} {atoms : List Step} (hDollar : '$' ∉ action)
      (hStep : step.Spells 0 action) (hRest : Written s atoms) :
      Written (delimited action ++ s) (step :: atoms)

namespace Written

variable {s s' : Text} {atoms atoms' : List Step}

/-- **What is written behind atoms are the atoms behind them.** -/
theorem append (h : Written s atoms) (h' : Written s' atoms') :
    Written (s ++ s') (atoms ++ atoms') := by
  induction h with
  | nothing => exact h'
  | char hChar _ ih => exact .char hChar ih
  | action hDollar hStep _ ih =>
    rw [List.append_assoc]
    exact .action hDollar hStep ih

theorem ofText {text : Text} (h : '$' ∉ text) : Written text text.atoms := by
  induction text with
  | nil => exact .nothing
  | cons c text ih =>
    rw [List.mem_cons, not_or] at h
    exact .char (Ne.symm h.1) (ih h.2)

theorem ofAction {action : Text} {step : Step} (hDollar : '$' ∉ action)
    (hStep : step.Spells 0 action) : Written (delimited action) [step] := by
  rw [← List.append_nil (delimited action)]
  exact .action hDollar hStep .nothing

end Written

/-! ## Reading what is written -/

namespace Step

/-- An action says the same on every line. -/
theorem Spells.on_line {step : Step} {line : Nat} {content : Text} (h : step.Spells line content)
    (line' : Nat) : ∃ step' : Step, step'.Spells line' content ∧ step'.atoms = step.atoms := by
  cases step with
  | text _ => exact h.elim
  | emit e _ => exact ⟨.emit e line', ⟨rfl, h.2⟩, rfl⟩
  | enter key _ => exact ⟨.enter key line', ⟨rfl, h.2⟩, rfl⟩
  | leave => exact ⟨.leave, h, rfl⟩

/-- An action without its line is one atom. -/
theorem Spells.atoms_eq {step : Step} {content : Text} (h : step.Spells 0 content) :
    step.atoms = [step] := by
  cases step with
  | text _ => exact h.elim
  | emit e _ | enter key _ =>
    obtain ⟨rfl, -⟩ := h
    rfl
  | leave => rfl

/-- **The parts of a text have the atoms that are written in it.** -/
theorem written_of_reads {s tail : Text} {pieces : List (Text × Text)}
    (hScans : Delimiters.dollar.Scans s pieces tail) {line : Nat} {steps : List Step}
    (hReads : List.Forall₂ Token.Reads (Token.ofPieces line pieces tail) steps) :
    Written s (steps.flatMap atoms) := by
  induction hScans generalizing line steps with
  | last hNone =>
    rw [Token.forall₂_ofPieces_nil_iff.1 hReads, atoms_textOf]
    exact .ofText fun hMem => hNone ((List.singleton_infix_iff _ _).2 hMem)
  | @action s before rest content after tail pieces hOpen hClose _ ih =>
    obtain ⟨step, steps, rfl, hStep, hAfter⟩ := Token.forall₂_ofPieces_cons_iff.1 hReads
    obtain ⟨atom, hAtom, hSame⟩ := hStep.on_line 0
    rw [hOpen.eq, hClose.eq, ← append_delimited, List.flatMap_append, atoms_textOf, List.flatMap_cons,
      ← hSame, hAtom.atoms_eq]
    exact (Written.ofText hOpen.not_mem).append (.action hClose.not_mem hAtom (ih hAfter))

/-- **Written atoms are read as steps that have them.** A text in front is read with them. -/
theorem exists_reads_of_written {s : Text} {atoms : List Step} (h : Written s atoms) {front : Text}
    (hFront : '$' ∉ front) (line : Nat) :
    ∃ pieces tail steps, Delimiters.dollar.Scans (front ++ s) pieces tail ∧
      List.Forall₂ Token.Reads (Token.ofPieces line pieces tail) steps ∧
      steps.flatMap Step.atoms = front.atoms ++ atoms := by
  induction h generalizing front line with
  | nothing =>
    refine ⟨[], front, textOf front, ?_, Token.forall₂_ofPieces_nil_iff.2 rfl, ?_⟩
    · rw [List.append_nil]
      exact scans_of_not_mem hFront
    · rw [atoms_textOf, List.append_nil]
  | @char c s atoms hChar _ ih =>
    -- The character is no token until the next action is met, so it goes to the text in front.
    have hLonger : '$' ∉ front ++ [c] := by
      rw [List.mem_append, List.mem_singleton, not_or]
      exact ⟨hFront, Ne.symm hChar⟩
    obtain ⟨pieces, tail, steps, hScans, hReads, hAtoms⟩ := ih hLonger line
    rw [List.append_assoc] at hScans
    rw [atoms_append, List.append_assoc] at hAtoms
    exact ⟨pieces, tail, steps, hScans, hReads, hAtoms⟩
  | @action action s step atoms hDollar hStep _ ih =>
    obtain ⟨step', hStep', hSame⟩ := hStep.on_line (line + newlines front)
    obtain ⟨pieces, tail, rest, hScans, hReads, hAtoms⟩ :=
      @ih [] List.not_mem_nil (line + newlines front + newlines action)
    refine ⟨(front, action) :: pieces, tail, textOf front ++ step' :: rest,
      scans_delimited hFront hDollar hScans,
      Token.forall₂_ofPieces_cons_iff.2 ⟨step', rest, rfl, hStep', hReads⟩, ?_⟩
    rw [List.flatMap_append, atoms_textOf, List.flatMap_cons, hSame, hStep.atoms_eq, hAtoms]
    rfl

end Step

namespace Block

/-- A template has the atoms of the block that it is read as written in it. -/
theorem written_of_ofText {s : Text} {b : Block} (h : ofText .dollar s = .ok b) :
    Written s b.atoms := by
  obtain ⟨pieces, tail, hScans, hReads, -⟩ := ofText_eq_ok_iff.1 h
  exact Step.written_of_reads hScans hReads

theorem depth_le_of_ofText {s : Text} {b : Block} (h : ofText .dollar s = .ok b) :
    b.depth ≤ maxRangeDepth := by
  obtain ⟨_, _, -, -, hDepth⟩ := ofText_eq_ok_iff.1 h
  exact hDepth

/-- **What is written in the atoms of a block is read as a block with these atoms.** -/
theorem exists_ofText_of_written {s : Text} {b : Block} (h : Written s b.atoms)
    (hDepth : b.depth ≤ maxRangeDepth) :
    ∃ b', ofText .dollar s = .ok b' ∧ b'.atoms = b.atoms := by
  obtain ⟨pieces, tail, steps, hScans, hReads, hAtoms⟩ :=
    Step.exists_reads_of_written h List.not_mem_nil 1
  have hSame : steps.flatMap Step.atoms = b.toSteps.flatMap Step.atoms := hAtoms
  have hNested : Nested 0 (Step.kinds steps) := by
    rw [← Step.kinds_flatMap_atoms, hSame, Step.kinds_flatMap_atoms]
    exact b.nested_toSteps_iff.2 hDepth
  have hSteps := toSteps_ofSteps hNested
  rw [← hSteps] at hReads hNested hSame
  exact ⟨ofSteps steps,
    ofText_eq_ok_iff.2 ⟨pieces, tail, hScans, hReads, (nested_toSteps_iff _).1 hNested⟩, hSame⟩

/-- **Two templates one behind the other are a template,** which has their atoms. -/
theorem exists_ofText_append {s s' : Text} {a b : Block} (ha : ofText .dollar s = .ok a)
    (hb : ofText .dollar s' = .ok b) :
    ∃ c, ofText .dollar (s ++ s') = .ok c ∧ c.atoms = (a.append b).atoms := by
  have hWritten : Written (s ++ s') (a.append b).atoms := by
    rw [atoms_append]
    exact (written_of_ofText ha).append (written_of_ofText hb)
  refine exists_ofText_of_written hWritten ?_
  rw [depth_append]
  exact Nat.max_le.2 ⟨depth_le_of_ofText ha, depth_le_of_ofText hb⟩

/-- **What is written in the atoms of a block is rendered like this block.** -/
theorem renderText_of_written {s : Text} {b : Block} (h : Written s b.atoms)
    (hDepth : b.depth ≤ maxRangeDepth) (scope : NameScope) (vars : Bindings) :
    renderText .dollar scope vars s = b.render scope vars none := by
  obtain ⟨b', hRead, hAtoms⟩ := exists_ofText_of_written h hDepth
  rw [renderText, hRead]
  exact render_of_atoms scope vars hAtoms none

end Block

end RestScaffold
