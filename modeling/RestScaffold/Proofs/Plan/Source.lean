import RestScaffold.Plan.Basic
import RestScaffold.Proofs.Selection

/-!
# What planning finds out about the sources

Planning a source package has two checks in a row, and what it finds does not depend on them. So the
result is split in two: `SourcePackage.flaw?` is what a package is refused for, and
`SourcePackage.planned?` is what is planned for it otherwise. A list of packages is refused for the
first flaw, and its plan has what is planned for each.

* `SourcePackage.plan_eq` and `PlanConfig.planSources_eq`: planning is this split;
* `SourcePackage.flaw?_eq_none_iff`: what a package must be like to have no flaw;
* `SourcePackage.routeLength_eq_iff`: when it makes no difference for the routes of a package
  whether it is internal.
-/

namespace RestScaffold

open Text

namespace SourcePackage

/-! ## One source package -/

/-- The selected types of a package whose directives are in order. -/
def selected (p : SourcePackage) (c : PlanConfig) : List Declaration :=
  Declaration.sort (p.types.filter c.selection.selects)

/-- The object meta of a package whose directives are in order. -/
def metaMember? (p : SourcePackage) (c : PlanConfig) : Option Member :=
  c.objectMetaMember.bind fun name =>
    (p.types.filter Declaration.generates).findSome? (·.member? name)

/-- Whether the object meta is without a JSON name. -/
def isInternal (p : SourcePackage) (c : PlanConfig) : Bool :=
  (p.metaMember? c).any fun m => (cutAt "json" m.tags).isNone

/-- What planning stops with because there is no object meta. -/
def metaFlaw? (p : SourcePackage) (c : PlanConfig) : Option ScaffoldError :=
  c.objectMetaMember.bind fun name =>
    if p.types.filter Declaration.generates ≠ [] ∧ p.metaMember? c = none then
      some (.missingObjectMeta p.path name)
    else none

/-- What planning stops with at a package. -/
def flaw? (p : SourcePackage) (c : PlanConfig) : Option ScaffoldError :=
  (firstFlaw? p.types).or (p.metaFlaw? c)

/-- What there is to plan for a package without a flaw. -/
def sourcePlan (p : SourcePackage) (c : PlanConfig) : SourcePlan where
  path := p.path
  group := (p.groupVersion (p.isInternal c)).1
  version := (p.groupVersion (p.isInternal c)).2
  internal := p.isInternal c
  objectMeta := (p.metaMember? c).map (·.type)
  types := p.selected c

/-- What is planned for a package without a flaw: nothing, if it has no selected types. -/
def planned? (p : SourcePackage) (c : PlanConfig) : Option SourcePlan :=
  if p.selected c = [] then none else some (p.sourcePlan c)

theorem generatedTypes_eq (ds : List Declaration) :
    generatedTypes ds = stopAt (firstFlaw? ds) (.ok (ds.filter Declaration.generates)) := by
  induction ds with
  | nil => rfl
  | cons d ds ih =>
    rw [generatedTypes, Declaration.isGenerated_eq]
    cases h : d.flaw? with
    | some e =>
      rw [firstFlaw?_cons_of_flawed h]
      rfl
    | none =>
      rw [firstFlaw?_cons_of_sound h, List.filter_cons]
      show (generatedTypes ds).map _ = _
      rw [ih, map_stopAt]
      rfl

theorem objectMeta_eq {p : SourcePackage} (h : firstFlaw? p.types = none) (c : PlanConfig) :
    c.objectMetaMember.elim (.ok none) p.objectMeta =
      stopAt (p.metaFlaw? c) (.ok (p.metaMember? c)) := by
  cases hName : c.objectMetaMember with
  | none => simp only [metaFlaw?, metaMember?, hName]; rfl
  | some name =>
    simp only [metaFlaw?, metaMember?, hName, Option.elim, Option.bind, objectMeta,
      generatedTypes_eq, h, stopAt_none]
    cases hGen : p.types.filter Declaration.generates with
    | nil => rfl
    | cons d ds =>
      cases hFind : (d :: ds).findSome? (·.member? name) with
      | none => simp [hFind]
      | some m => simp [hFind]

/-- **Planning a package: its flaw, or what is planned for it.** -/
theorem plan_eq (p : SourcePackage) (c : PlanConfig) :
    p.plan c = stopAt (p.flaw? c) (.ok (p.planned? c)) := by
  rw [plan, Selection.select_eq]
  cases h : firstFlaw? p.types with
  | some e => rw [flaw?, h]; rfl
  | none =>
    have hFlaw : p.flaw? c = p.metaFlaw? c := by rw [flaw?, h]; rfl
    rw [hFlaw, stopAt_none, objectMeta_eq h]
    cases p.metaFlaw? c with
    | some e => rfl
    | none =>
      rw [stopAt_none, stopAt_none, planned?]
      by_cases hEmpty : p.selected c = []
      · rw [if_pos hEmpty]
        exact if_pos hEmpty
      · rw [if_neg hEmpty]
        exact if_neg hEmpty

/-- A package has no flaw when all directives can be read and its generated types, if it has any,
have the object meta among them. -/
theorem flaw?_eq_none_iff {p : SourcePackage} {c : PlanConfig} :
    p.flaw? c = none ↔ (∀ d ∈ p.types, ¬ d.IsMalformed) ∧
      ∀ name, c.objectMetaMember = some name → (∃ d ∈ p.types, d.generates = true) →
        ∃ d ∈ p.types, d.generates = true ∧ ∃ m ∈ d.members, m.name = name := by
  rw [flaw?, Option.or_eq_none_iff, firstFlaw?_eq_none_iff]
  refine and_congr_right fun _ => ?_
  cases hName : c.objectMetaMember with
  | none => simp [metaFlaw?, hName]
  | some name =>
    have hGenerated : p.types.filter Declaration.generates ≠ [] ↔
        ∃ d ∈ p.types, d.generates = true := by
      simp [List.filter_eq_nil_iff]
    have hFound : p.metaMember? c = none ↔
        ¬ ∃ d ∈ p.types, d.generates = true ∧ ∃ m ∈ d.members, m.name = name := by
      simp [metaMember?, hName, Declaration.member?, List.findSome?_eq_none_iff]
    simp only [metaFlaw?, hName, Option.bind, hGenerated, hFound]
    by_cases hGen : ∃ d ∈ p.types, d.generates = true
    · by_cases hMember : ∃ d ∈ p.types, d.generates = true ∧ ∃ m ∈ d.members, m.name = name
      · rw [if_neg fun h => h.2 hMember]
        exact ⟨fun _ _ h _ => Option.some.inj h ▸ hMember, fun _ => rfl⟩
      · rw [if_pos ⟨hGen, hMember⟩]
        exact ⟨nofun, fun h => absurd (h name rfl hGen) hMember⟩
    · rw [if_neg fun h => hGen h.1]
      exact ⟨fun _ _ _ h => absurd h hGen, fun _ => rfl⟩

/-- A package is refused for a directive that cannot be read or for the object meta. -/
theorem exists_of_flaw? {p : SourcePackage} {c : PlanConfig} {e : ScaffoldError}
    (h : p.flaw? c = some e) :
    (∃ d ∈ p.types, ∃ line flaw,
      DirectiveSet.ofLines d.annotationLines = .error (.malformed line flaw) ∧
        e = .directive d.name (.malformed line flaw)) ∨
      ∃ name, c.objectMetaMember = some name ∧ e = .missingObjectMeta p.path name := by
  rcases Option.or_eq_some_iff.1 h with h | ⟨-, h⟩
  · exact Or.inl (exists_of_firstFlaw? h)
  · obtain ⟨name, hName, hIf⟩ := Option.bind_eq_some_iff.1 h
    split at hIf
    · exact Or.inr ⟨name, hName, (Option.some.inj hIf).symm⟩
    · cases hIf

theorem mem_selected {p : SourcePackage} {c : PlanConfig} {d : Declaration} :
    d ∈ p.selected c ↔ d ∈ p.types ∧ c.selection.selects d = true := by
  rw [selected, Declaration.sort, List.mem_mergeSort, List.mem_filter]

/-! ### Group and version -/

/-- A path of fewer than two segments has only a group, internal or not. -/
theorem groupVersion_of_short {p : SourcePackage} (h : (segments p.path).length < 2)
    (i j : Bool) : p.groupVersion i = p.groupVersion j := by
  have hReverse : (segments p.path).reverse.length < 2 := by rwa [List.length_reverse]
  unfold groupVersion
  rcases hParts : (segments p.path).reverse with - | ⟨last, - | ⟨before, rest⟩⟩
  · rfl
  · rfl
  · rw [hParts, List.length_cons, List.length_cons] at hReverse
    omega

/-- How many characters the group and twice the version have, a version being written twice in the
routes of a type. -/
def routeLength (gv : Text × Text) : Nat := gv.1.length + 2 * gv.2.length

/-- A path of two segments or more gives a version unless it is internal. -/
theorem routeLength_lt {p : SourcePackage} (h : 2 ≤ (segments p.path).length) :
    routeLength (p.groupVersion true) < routeLength (p.groupVersion false) := by
  have hReverse : 2 ≤ (segments p.path).reverse.length := by rwa [List.length_reverse]
  unfold groupVersion
  rcases hParts : (segments p.path).reverse with - | ⟨last, - | ⟨before, rest⟩⟩
  · rw [hParts] at hReverse
    simp at hReverse
  · rw [hParts] at hReverse
    simp at hReverse
  · have hMem : last ∈ segments p.path := by
      rw [← List.mem_reverse, hParts]
      exact List.mem_cons_self
    have hLast : 0 < last.length :=
      List.length_pos_iff.2 (of_decide_eq_true (List.mem_filter.1 hMem).2)
    -- With a group of its own the package shows the version only, else the group as well.
    simp only [routeLength]
    split <;> simp <;> omega

/-- **When it makes no difference for the routes whether a package is internal.** -/
theorem routeLength_eq_iff {p : SourcePackage} {i j : Bool} :
    routeLength (p.groupVersion i) = routeLength (p.groupVersion j) ↔
      (2 ≤ (segments p.path).length → i = j) := by
  constructor
  · intro h hLong
    have hLt := routeLength_lt hLong
    cases i <;> cases j <;> first | rfl | omega
  · intro h
    by_cases hLong : 2 ≤ (segments p.path).length
    · rw [h hLong]
    · rw [groupVersion_of_short (Nat.lt_of_not_le hLong) i j]

end SourcePackage

/-! ## All source packages -/

/-- **Planning the sources: the first flaw, or what is planned for each.** -/
theorem PlanConfig.planSources_eq (c : PlanConfig) (u : Universe) :
    c.planSources u = stopAt (u.findSome? (·.flaw? c)) (.ok (u.filterMap (·.planned? c))) := by
  induction u with
  | nil => rfl
  | cons p u ih =>
    rw [planSources, SourcePackage.plan_eq, List.findSome?_cons]
    cases p.flaw? c with
    | some e => rfl
    | none =>
      rw [List.filterMap_cons]
      show (c.planSources u).map _ = _
      rw [ih, map_stopAt]
      cases p.planned? c <;> rfl

end RestScaffold
