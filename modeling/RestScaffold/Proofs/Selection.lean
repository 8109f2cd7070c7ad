import RestScaffold.Selection

/-!
# What selection gives

Each scan of a list of declarations stops at the first declaration with a malformed directive and
otherwise keeps those that pass a test. Both parts are said once here, so that no later proof walks
through such a scan again.

* `stopAt`: what a scan gives that stops at a flaw;
* `Declaration.directives_eq`: the directives of a declaration, or its flaw;
* `Selection.filter_eq` and `Selection.select_eq`: the first flaw of a list, or its selected
  declarations.
-/

namespace RestScaffold

/-- What a check gives when it stops at a flaw, if there is one. -/
def stopAt {α : Type} : Option ScaffoldError → Except ScaffoldError α → Except ScaffoldError α
  | some e, _ => .error e
  | none, result => result

@[simp] theorem stopAt_some {α : Type} (e : ScaffoldError) (result : Except ScaffoldError α) :
    stopAt (some e) result = .error e := rfl

@[simp] theorem stopAt_none {α : Type} (result : Except ScaffoldError α) :
    stopAt none result = result := rfl

theorem map_stopAt {α β : Type} (f : α → β) (flaw? : Option ScaffoldError)
    (result : Except ScaffoldError α) :
    (stopAt flaw? result).map f = stopAt flaw? (result.map f) := by
  cases flaw? with
  | some e => rfl
  | none => rfl

/-! ## Declarations -/

/-- A directive of the declaration cannot be read. -/
def Declaration.IsMalformed (d : Declaration) : Prop :=
  ∃ line flaw, DirectiveSet.ofLines d.annotationLines = .error (.malformed line flaw)

/-- What a scan stops with at a declaration. -/
def Declaration.flaw? (d : Declaration) : Option ScaffoldError :=
  match DirectiveSet.ofLines d.annotationLines with
  | .error (.malformed line flaw) => some (.directive d.name (.malformed line flaw))
  | _ => none

/-- What the directives of a declaration say, if it has any and all can be read. -/
def Declaration.directiveSet? (d : Declaration) : Option DirectiveSet :=
  (DirectiveSet.ofLines d.annotationLines).toOption

/-- Whether the declaration asks for generation. -/
def Declaration.generates (d : Declaration) : Bool := d.directiveSet?.any (·.generate)

/-- Whether the declaration asks for generation and supports the required verbs. -/
def Selection.selects (sel : Selection) (d : Declaration) : Bool :=
  d.directiveSet?.any fun s => s.generate && s.satisfies sel.requiredVerbs

namespace Declaration

theorem flaw?_eq_none_iff {d : Declaration} : d.flaw? = none ↔ ¬ d.IsMalformed := by
  unfold flaw? IsMalformed
  cases h : DirectiveSet.ofLines d.annotationLines with
  | ok s => simp
  | error e => cases e <;> simp

theorem exists_of_flaw? {d : Declaration} {e : ScaffoldError} (h : d.flaw? = some e) :
    ∃ line flaw, DirectiveSet.ofLines d.annotationLines = .error (.malformed line flaw) ∧
      e = .directive d.name (.malformed line flaw) := by
  unfold flaw? at h
  split at h
  · next line flaw hLines => exact ⟨line, flaw, hLines, (Option.some.inj h).symm⟩
  · cases h

/-- **The directives of a declaration, or its flaw.** -/
theorem directives_eq (d : Declaration) : d.directives = stopAt d.flaw? (.ok d.directiveSet?) := by
  unfold directives flaw? directiveSet?
  cases DirectiveSet.ofLines d.annotationLines with
  | ok s => rfl
  | error e => cases e <;> rfl

theorem isGenerated_eq (d : Declaration) : d.isGenerated = stopAt d.flaw? (.ok d.generates) := by
  rw [isGenerated, directives_eq, map_stopAt]
  rfl

end Declaration

/-! ## Lists of declarations -/

/-- The first flaw of a list. -/
def firstFlaw? (ds : List Declaration) : Option ScaffoldError := ds.findSome? Declaration.flaw?

theorem firstFlaw?_cons_of_flawed {d : Declaration} {e : ScaffoldError} (h : d.flaw? = some e)
    (ds : List Declaration) : firstFlaw? (d :: ds) = some e := by
  rw [firstFlaw?, List.findSome?_cons, h]

theorem firstFlaw?_cons_of_sound {d : Declaration} (h : d.flaw? = none)
    (ds : List Declaration) : firstFlaw? (d :: ds) = firstFlaw? ds := by
  rw [firstFlaw?, List.findSome?_cons, h]
  rfl

theorem firstFlaw?_eq_none_iff {ds : List Declaration} :
    firstFlaw? ds = none ↔ ∀ d ∈ ds, ¬ d.IsMalformed := by
  rw [firstFlaw?, List.findSome?_eq_none_iff]
  exact forall₂_congr fun d _ => Declaration.flaw?_eq_none_iff

theorem exists_of_firstFlaw? {ds : List Declaration} {e : ScaffoldError}
    (h : firstFlaw? ds = some e) :
    ∃ d ∈ ds, ∃ line flaw, DirectiveSet.ofLines d.annotationLines = .error (.malformed line flaw) ∧
      e = .directive d.name (.malformed line flaw) := by
  obtain ⟨d, hd, hflaw⟩ := List.exists_of_findSome?_eq_some h
  exact ⟨d, hd, Declaration.exists_of_flaw? hflaw⟩

namespace Selection

theorem accepts_eq (sel : Selection) (d : Declaration) :
    sel.accepts d = stopAt d.flaw? (.ok (sel.selects d)) := by
  rw [accepts, Declaration.directives_eq, map_stopAt]
  rfl

/-- **The selected declarations of a list, or its first flaw.** -/
theorem filter_eq (sel : Selection) (ds : List Declaration) :
    sel.filter ds = stopAt (firstFlaw? ds) (.ok (ds.filter sel.selects)) := by
  induction ds with
  | nil => rfl
  | cons d ds ih =>
    rw [filter, accepts_eq]
    cases h : d.flaw? with
    | some e =>
      rw [firstFlaw?_cons_of_flawed h]
      rfl
    | none =>
      rw [firstFlaw?_cons_of_sound h, List.filter_cons]
      show (sel.filter ds).map _ = _
      rw [ih, map_stopAt]
      rfl

/-- **The selected declarations of a package in order, or its first flaw.** -/
theorem select_eq (sel : Selection) (p : SourcePackage) :
    sel.select p =
      stopAt (firstFlaw? p.types) (.ok (Declaration.sort (p.types.filter sel.selects))) := by
  rw [select, filter_eq, map_stopAt]
  rfl

end Selection

end RestScaffold
