import Mathlib.Data.List.Perm.Basic
import RestScaffold.Proofs.Plan.Source
import RestScaffold.Proofs.Scaffold.Packages
import RestScaffold.Proofs.Scaffold.Places

/-!
# Which universes have a plan

Planning goes through the sources, then through the snippets of all packages, then through the
places of all files. The snippets are always in order, so it can stop at two points only, and
`PlanConfig.planOf` is the plan that it has otherwise.

* `Plan.ofUniverse_eq`: planning computes the first flaw, the first place taken twice or that plan;
* `PlanConfig.Admits`: what a universe must be like, in terms of its declarations;
* `Plan.ofUniverse_outcome`: planning succeeds for these universes and fails for the others, with
  one of three errors.
-/

namespace RestScaffold

/-! ## The planned types -/

namespace PlanConfig

/-- The types of a universe that are selected, source by source. -/
def selectedIn (c : PlanConfig) (u : Universe) : List Declaration :=
  u.flatMap fun q => q.types.filter c.selection.selects

/-- The types of the plan for a universe in order, each with the scaffold of its source. -/
def plannedTypes (c : PlanConfig) (u : Universe) : List (Declaration × Scaffold) :=
  c.selectedTypes (u.filterMap (·.planned? c))

/-- The plan for a universe, whether or not it is refused. -/
def planOf (c : PlanConfig) (u : Universe) : Plan where
  outputPackage := c.outputPackage
  sources := u.filterMap (·.planned? c)
  types := (c.plannedTypes u).map Prod.fst
  packages := c.packagesOf (c.plannedTypes u)

theorem flatMap_planned {β : Type} (c : PlanConfig) (u : Universe)
    (f : SourcePlan → Declaration → β) :
    (u.filterMap (·.planned? c)).flatMap (fun s => s.types.map (f s)) =
      u.flatMap fun q => (q.selected c).map (f (q.sourcePlan c)) := by
  induction u with
  | nil => rfl
  | cons q u ih =>
    rw [List.filterMap_cons, List.flatMap_cons, ← ih]
    unfold SourcePackage.planned?
    by_cases hEmpty : q.selected c = []
    · rw [if_pos hEmpty, hEmpty]
      rfl
    · rw [if_neg hEmpty]
      rfl

/-- The types of a plan before they are put in order. They come from all packages alike, those
without selected types included. -/
def unsortedTypes (c : PlanConfig) (u : Universe) : List (Declaration × Scaffold) :=
  u.flatMap fun q => (q.selected c).map fun d => (d, c.scaffold (q.sourcePlan c).vars)

theorem plannedTypes_eq (c : PlanConfig) (u : Universe) :
    c.plannedTypes u = (c.unsortedTypes u).mergeSort fun a b => Declaration.notAfter a.1 b.1 := by
  rw [plannedTypes, selectedTypes, flatMap_planned]
  rfl

/-- A plan has the selected types of all packages, put in order. -/
theorem types_perm_flatMap (c : PlanConfig) (u : Universe) :
    (c.planOf u).types.Perm (u.flatMap (·.selected c)) := by
  have hTypes : (c.unsortedTypes u).map Prod.fst = u.flatMap (·.selected c) := by
    rw [unsortedTypes, List.map_flatMap]
    refine List.flatMap_congr fun q _ => ?_
    rw [List.map_map]
    exact List.map_id _
  rw [← hTypes]
  show ((c.plannedTypes u).map Prod.fst).Perm _
  rw [plannedTypes_eq]
  exact (List.mergeSort_perm _ _).map Prod.fst

/-- A plan has the selected types, each as often as it is declared. -/
theorem types_perm (c : PlanConfig) (u : Universe) :
    (c.planOf u).types.Perm (c.selectedIn u) := by
  refine (c.types_perm_flatMap u).trans (List.Perm.flatMap_left u fun q _ => ?_)
  exact List.mergeSort_perm _ _

theorem mem_types_planOf {c : PlanConfig} {u : Universe} {d : Declaration} :
    d ∈ (c.planOf u).types ↔ d ∈ c.selectedIn u := (c.types_perm u).mem_iff

theorem types_planOf_ne_nil {c : PlanConfig} {u : Universe} (h : c.selectedIn u ≠ []) :
    (c.planOf u).types ≠ [] :=
  fun hNil => h (List.nil_perm.1 (hNil ▸ c.types_perm u))

/-- The group and the version are bound, and the object meta takes the place of neither. -/
theorem bindRoutes_vars (s : SourcePlan) : s.vars.BindRoutes (s.group, s.version) := by
  have hBase : ∀ key, (TextMap.ofList [(("group" : Text), Value.scalar s.group),
      ("version", .scalar s.version)]).get? key = if key = "version" then some (.scalar s.version)
        else if key = "group" then some (.scalar s.group) else none := by
    intro key
    show ((TextMap.empty.insert _ _).insert _ _).get? key = _
    rw [TextMap.get?_insert, TextMap.get?_insert]
    rfl
  have hVars : ∀ key : Text, key ≠ "objectMeta" → s.vars.get? key =
      if key = "version" then some (.scalar s.version)
        else if key = "group" then some (.scalar s.group) else none := by
    intro key hKey
    rw [← hBase, SourcePlan.vars]
    cases s.objectMeta with
    | none => rfl
    | some name =>
      show (TextMap.insert _ _ _).get? key = _
      rw [TextMap.get?_insert, if_neg hKey]
  constructor
  · rw [hVars _ (by decide)]
    rfl
  · rw [hVars _ (by decide)]
    rfl

/-- The scaffold of a planned type has the output package and binds what the routes show. -/
theorem of_mem_plannedTypes {c : PlanConfig} {u : Universe} {t : Declaration × Scaffold}
    (h : t ∈ c.plannedTypes u) : t.2.outputPackage = c.outputPackage ∧
      ∃ gv, t.2.vars.BindRoutes gv := by
  rw [plannedTypes_eq, List.mem_mergeSort] at h
  obtain ⟨q, -, hq⟩ := List.mem_flatMap.1 h
  obtain ⟨d, -, rfl⟩ := List.mem_map.1 hq
  exact ⟨rfl, _, bindRoutes_vars _⟩

end PlanConfig

/-! ## The checks of a plan -/

theorem Plan.checkGenerators_of_ordered {gs : List Generator}
    (h : ∀ g ∈ gs, g.checkOrder = .ok ()) : checkGenerators gs = .ok () := by
  induction gs with
  | nil => rfl
  | cons g gs ih =>
    rw [checkGenerators, h g List.mem_cons_self]
    exact ih fun g hg => h g (List.mem_cons_of_mem _ hg)

/-- What planning stops with when a file has the place of an earlier one. -/
def Plan.collision? (p : Plan) : Option ScaffoldError :=
  (firstRepeated [] p.outputs).map fun place => .outputCollision place.1 place.2

theorem Plan.collision?_eq_none_iff {p : Plan} : p.collision? = none ↔ p.outputs.Nodup := by
  rw [collision?, Option.map_eq_none_iff, firstRepeated_eq_none_iff]
  exact and_iff_left fun _ _ => List.not_mem_nil

theorem Plan.checkCollisions_eq (p : Plan) : p.checkCollisions = stopAt p.collision? (.ok ()) := by
  unfold checkCollisions collision?
  cases firstRepeated [] p.outputs <;> rfl

/-- **Planning: the first flaw of a source, the first place taken twice, or the plan.** -/
theorem Plan.ofUniverse_eq {c : PlanConfig} (hc : Text.isBlankText c.outputPackage = false)
    (u : Universe) :
    ofUniverse c u =
      stopAt (u.findSome? (·.flaw? c)) (stopAt (c.planOf u).collision? (.ok (c.planOf u))) := by
  have hOrdered : checkGenerators ((c.planOf u).packages.flatMap (·.generators)) = .ok () := by
    apply checkGenerators_of_ordered
    intro g hg
    obtain ⟨p, hp, hg⟩ := List.mem_flatMap.1 hg
    exact c.checkOrder_packagesOf (c.plannedTypes u) p hp g hg
  have hCollisions := (c.planOf u).checkCollisions_eq
  rw [PlanConfig.planOf, PlanConfig.plannedTypes] at hOrdered hCollisions
  rw [ofUniverse, if_neg (by rw [hc]; decide), PlanConfig.planSources_eq]
  cases u.findSome? (·.flaw? c) with
  | some e => rfl
  | none =>
    simp only [stopAt_none, hOrdered, hCollisions]
    rw [← PlanConfig.plannedTypes, ← PlanConfig.planOf]
    cases (c.planOf u).collision? <;> rfl

/-- When planning succeeds, and with which plan. -/
theorem Plan.ofUniverse_eq_ok_iff {c : PlanConfig} {u : Universe} {p : Plan} :
    ofUniverse c u = .ok p ↔ Text.isBlankText c.outputPackage = false ∧
      (∀ q ∈ u, q.flaw? c = none) ∧ (c.planOf u).outputs.Nodup ∧ p = c.planOf u := by
  rw [← List.findSome?_eq_none_iff (p := fun q : SourcePackage => q.flaw? c),
    ← collision?_eq_none_iff]
  by_cases hc : Text.isBlankText c.outputPackage = true
  · rw [ofUniverse, if_pos hc]
    simp [hc]
  · have hc' : Text.isBlankText c.outputPackage = false := Bool.eq_false_iff.2 hc
    rw [ofUniverse_eq hc']
    cases u.findSome? (·.flaw? c) with
    | some e => simp
    | none => cases (c.planOf u).collision? <;> simp [hc', eq_comm]

/-! ## Universes that have a plan -/

/-- What a universe must be like to have a plan. -/
structure PlanConfig.Admits (c : PlanConfig) (u : Universe) : Prop where
  /-- The directives of all declarations can be read, those that are not selected included. -/
  directives : ∀ q ∈ u, ∀ d ∈ q.types, ¬ d.IsMalformed
  /-- A package that generates types has the object meta in one of them. -/
  objectMeta : ∀ name, c.objectMetaMember = some name → ∀ q ∈ u,
    (∃ d ∈ q.types, d.generates = true) →
      ∃ d ∈ q.types, d.generates = true ∧ ∃ m ∈ d.members, m.name = name
  /-- The stem of a selected type is not made of slashes, and none of the names of shared files. -/
  placeable : ∀ d ∈ c.selectedIn u, Scaffold.Placeable d
  /-- Selected types have different directories. -/
  distinct : ((c.selectedIn u).map Declaration.directory).Nodup

instance (d : Declaration) : Decidable (Scaffold.Placeable d) := inferInstanceAs (Decidable (_ ∧ _))

namespace PlanConfig

variable {c : PlanConfig} {u : Universe}

/-- The places of a plan are those of its types. Without types there are none. -/
theorem outputs_planOf (c : PlanConfig) (u : Universe) :
    (c.planOf u).outputs =
      if (c.planOf u).types = [] then [] else c.sharedScaffold.places (c.planOf u).types := by
  rw [Plan.outputs_eq]
  show (c.packagesOf (c.plannedTypes u)).flatMap Package.places =
    if (c.plannedTypes u).map Prod.fst = [] then [] else _
  by_cases hEmpty : c.plannedTypes u = []
  · rw [hEmpty]
    rfl
  · rw [if_neg (mt List.map_eq_nil_iff.1 hEmpty)]
    exact places_packagesOf hEmpty fun t ht => (of_mem_plannedTypes ht).1

theorem outputs_nodup_iff : (c.planOf u).outputs.Nodup ↔
    (∀ d ∈ c.selectedIn u, Scaffold.Placeable d) ∧
      ((c.selectedIn u).map Declaration.directory).Nodup := by
  have hTypes := c.types_perm u
  have hPlaces : (c.planOf u).outputs.Nodup ↔
      (∀ d ∈ (c.planOf u).types, Scaffold.Placeable d) ∧
        ((c.planOf u).types.map Declaration.directory).Nodup := by
    rw [outputs_planOf]
    by_cases hEmpty : (c.planOf u).types = []
    · rw [if_pos hEmpty, hEmpty]
      simp
    · rw [if_neg hEmpty, Scaffold.nodup_places_iff]
  rw [hPlaces, (hTypes.map Declaration.directory).nodup_iff]
  exact and_congr_left fun _ => forall_congr' fun d => by rw [hTypes.mem_iff]

/-- What is admitted can be decided without planning anything. -/
theorem admits_iff : c.Admits u ↔ (∀ q ∈ u, q.flaw? c = none) ∧
    (∀ d ∈ c.selectedIn u, Scaffold.Placeable d) ∧
      ((c.selectedIn u).map Declaration.directory).Nodup := by
  simp only [SourcePackage.flaw?_eq_none_iff]
  constructor
  · intro h
    exact ⟨fun q hq => ⟨h.directives q hq, fun name hName => h.objectMeta name hName q hq⟩,
      h.placeable, h.distinct⟩
  · rintro ⟨hSound, hPlaceable, hDistinct⟩
    exact ⟨fun q hq => (hSound q hq).1, fun name hName q hq => (hSound q hq).2 name hName,
      hPlaceable, hDistinct⟩

instance (c : PlanConfig) (u : Universe) : Decidable (c.Admits u) := decidable_of_iff' _ admits_iff

/-- Planning succeeds for the universes that the configuration admits. -/
theorem ofUniverse_eq_ok_iff_admits {p : Plan} :
    Plan.ofUniverse c u = .ok p ↔ Text.isBlankText c.outputPackage = false ∧ c.Admits u ∧
      p = c.planOf u := by
  rw [Plan.ofUniverse_eq_ok_iff, outputs_nodup_iff, admits_iff]
  simp only [and_assoc]

theorem exists_ofUniverse_eq_ok_iff : (∃ p, Plan.ofUniverse c u = .ok p) ↔
    Text.isBlankText c.outputPackage = false ∧ c.Admits u := by
  simp only [ofUniverse_eq_ok_iff_admits, exists_and_left, exists_eq, and_true]

theorem Admits.ofUniverse_eq (h : c.Admits u) (hc : Text.isBlankText c.outputPackage = false) :
    Plan.ofUniverse c u = .ok (c.planOf u) := ofUniverse_eq_ok_iff_admits.2 ⟨hc, h, rfl⟩

end PlanConfig

/-- **The outcome of planning.** A universe has a plan when the configuration admits it. Otherwise
planning stops with a malformed directive, a missing object meta or two files at one place. It never
stops at a template, since the snippets of every package are in order whatever the types are. -/
theorem Plan.ofUniverse_outcome {c : PlanConfig} (hc : Text.isBlankText c.outputPackage = false)
    (u : Universe) :
    ((∃ p, ofUniverse c u = .ok p) ↔ c.Admits u) ∧
      (∀ e, ofUniverse c u = .error e →
        (∃ q ∈ u, ∃ d ∈ q.types, ∃ line flaw,
          DirectiveSet.ofLines d.annotationLines = .error (.malformed line flaw) ∧
            e = .directive d.name (.malformed line flaw)) ∨
          (∃ q ∈ u, ∃ name, c.objectMetaMember = some name ∧
            e = .missingObjectMeta q.path name) ∨
          ∃ path stem, e = .outputCollision path stem) ∧
      ∀ selected, ∀ p ∈ c.packagesOf selected, ∀ g ∈ p.generators, g.checkOrder = .ok () := by
  refine ⟨?_, fun e he => ?_, c.checkOrder_packagesOf⟩
  · rw [PlanConfig.exists_ofUniverse_eq_ok_iff]
    exact and_iff_right hc
  · rw [ofUniverse_eq hc] at he
    cases hFlaw : u.findSome? (·.flaw? c) with
    | some flaw =>
      rw [hFlaw, stopAt_some] at he
      obtain rfl : flaw = e := Except.error.inj he
      obtain ⟨q, hq, hEq⟩ := List.exists_of_findSome?_eq_some hFlaw
      rcases SourcePackage.exists_of_flaw? hEq with hDirective | hMeta
      · exact Or.inl ⟨q, hq, hDirective⟩
      · exact Or.inr (Or.inl ⟨q, hq, hMeta⟩)
    | none =>
      rw [hFlaw, stopAt_none] at he
      cases hCollision : (c.planOf u).collision? with
      | some collision =>
        rw [hCollision, stopAt_some] at he
        obtain rfl : collision = e := Except.error.inj he
        obtain ⟨place, -, hEq⟩ := Option.map_eq_some_iff.1 hCollision
        exact Or.inr (Or.inr ⟨place.1, place.2, hEq.symm⟩)
      | none =>
        rw [hCollision, stopAt_none] at he
        cases he

/-- A type that asks for generation and has its object meta. -/
def Declaration.pod : Declaration where
  name := ⟨"a/v1", "Pod"⟩
  members := [{ name := "ObjectMeta", type := ⟨"m", "ObjectMeta"⟩, tags := "json" }]
  comments := ["+genclient"]

/-- The universe of this type. -/
def Universe.pods : Universe := [{ path := "a/v1", types := [.pod] }]

/-- The universe of this type has a plan. -/
theorem Plan.ofUniverse_outcome_pods : Text.isBlankText "out".toList = false ∧
    ∃ p, ofUniverse { outputPackage := "out" } Universe.pods = .ok p :=
  ⟨by decide +kernel, (ofUniverse_outcome (by decide +kernel) _).1.2 (by decide +kernel)⟩

end RestScaffold
