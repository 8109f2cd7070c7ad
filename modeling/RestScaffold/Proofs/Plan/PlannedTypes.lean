import Mathlib.Data.List.Flatten
import RestScaffold.Proofs.Plan.Imports
import RestScaffold.Proofs.Plan.SourceOrder
import RestScaffold.Proofs.Scaffold.Routes
import RestScaffold.Proofs.Universe

/-!
# The types of a plan and their sources

The types of all sources are merged and sorted together, each with the bindings of its source. This
module follows them from the sources to the packages of the plan.

* `PlanConfig.exists_source_of_mem`: a planned type comes with the bindings of the source package
  that it was selected in;
* `PlanConfig.getElem?_packages`: where the two packages of a type stand in the plan;
* `PlanConfig.planOf_erase`: a source without selected types contributes nothing;
* `Plan.types_and_sources`: the same for whole plans.
-/

namespace RestScaffold

open Text

/-- In a list of pairs the two parts stand at even and odd places. -/
theorem getElem?_flatMap_pair {α β : Type} (f g : α → β) (xs : List α) (i : Nat) :
    (xs.flatMap fun x => [f x, g x])[2 * i]? = xs[i]?.map f ∧
      (xs.flatMap fun x => [f x, g x])[2 * i + 1]? = xs[i]?.map g := by
  induction xs generalizing i with
  | nil => simp
  | cons x xs ih =>
    cases i with
    | zero => simp
    | succ i =>
      rw [List.flatMap_cons, List.getElem?_cons_succ, show 2 * (i + 1) = 2 * i + 1 + 1 by omega]
      exact ih i

theorem length_flatMap_pair {α β : Type} (f g : α → β) (xs : List α) :
    (xs.flatMap fun x => [f x, g x]).length = 2 * xs.length := by
  induction xs with
  | nil => rfl
  | cons x xs ih =>
    simp only [List.flatMap_cons, List.length_append, List.length_cons, List.length_nil, ih]
    omega

/-- What a source binds its object meta to. -/
theorem SourcePlan.get?_objectMeta_vars (s : SourcePlan) :
    s.vars.get? ("objectMeta" : Text) = s.objectMeta.map fun name => .type { name } := by
  rw [vars]
  cases s.objectMeta with
  | none => rfl
  | some name => exact (TextMap.get?_insert _ _ _ _).trans (if_pos rfl)

/-- What the generators of a type's packages see of a source. -/
structure Generator.SeesSource (g : Generator) (s : SourcePlan) (d : Declaration) : Prop where
  group : (g.bindings d).get? ("group" : Text) = some (.scalar s.group)
  version : (g.bindings d).get? ("version" : Text) = some (.scalar s.version)
  objectMeta : (g.bindings d).get? ("objectMeta" : Text) =
    s.objectMeta.map fun name => .type { name }

theorem Generator.seesSource_of_vars {g : Generator} {s : SourcePlan}
    (hContext : g.contextKey = some ("type" : Text)) (hVars : g.vars = s.vars) (d : Declaration) :
    g.SeesSource s d := by
  have hBindings : ∀ key : Text, key ≠ "type" → (g.bindings d).get? key = s.vars.get? key := by
    intro key hKey
    rw [Scaffold.get?_bindings hContext, if_neg hKey, hVars]
  have hRoutes := PlanConfig.bindRoutes_vars s
  refine ⟨?_, ?_, ?_⟩
  · rw [hBindings _ (by decide)]
    exact hRoutes.group
  · rw [hBindings _ (by decide)]
    exact hRoutes.version
  · rw [hBindings _ (by decide)]
    exact s.get?_objectMeta_vars

namespace PlanConfig

variable {c : PlanConfig} {u : Universe}

/-- **A planned type has the bindings of the source that it was selected in.** -/
theorem exists_source_of_mem {t : Declaration × Scaffold} (h : t ∈ c.plannedTypes u) :
    ∃ q ∈ u, t.1 ∈ q.selected c ∧ t.2 = c.scaffold (q.sourcePlan c).vars := by
  rw [plannedTypes_eq, List.mem_mergeSort] at h
  obtain ⟨q, hq, hMem⟩ := List.mem_flatMap.1 h
  obtain ⟨d, hd, rfl⟩ := List.mem_map.1 hMem
  exact ⟨q, hq, hd, rfl⟩

/-- The types of a plan are strictly increasing. -/
theorem Admits.pairwise_order_types (h : c.Admits u) :
    (c.planOf u).types.Pairwise fun a b => a.order b = .lt := by
  show ((c.plannedTypes u).map Prod.fst).Pairwise _
  rw [List.pairwise_map, plannedTypes_eq]
  exact Declaration.pairwise_order_mergeSort h.nodup_unsorted

/-- A package without a flaw is selected from. -/
theorem Admits.select_eq (h : c.Admits u) {q : SourcePackage} (hq : q ∈ u) :
    c.selection.select q = .ok (q.selected c) := by
  have hSound : firstFlaw? q.types = none :=
    (Option.or_eq_none_iff.1 ((admits_iff.1 h).1 q hq)).1
  rw [Selection.select_eq, hSound]
  rfl

/-- A package with selected types has a plan of its own. -/
theorem Admits.plan_eq (h : c.Admits u) {q : SourcePackage} (hq : q ∈ u) {d : Declaration}
    (hd : d ∈ q.selected c) : q.plan c = .ok (some (q.sourcePlan c)) := by
  rw [SourcePackage.plan_eq, (admits_iff.1 h).1 q hq, SourcePackage.planned?,
    if_neg (List.ne_nil_of_mem hd)]
  rfl

/-! ## Places in the plan -/

theorem length_packages (c : PlanConfig) (u : Universe) : (c.planOf u).packages.length =
    if (c.planOf u).types = [] then 0 else 2 * (c.planOf u).types.length + 4 := by
  by_cases hEmpty : (c.planOf u).types = []
  · rw [if_pos hEmpty]
    show (c.packagesOf (c.plannedTypes u)).length = 0
    simp only [packagesOf]
    exact congrArg List.length (if_pos hEmpty)
  · have hLength : (c.planOf u).types.length = (c.plannedTypes u).length := List.length_map _
    rw [if_neg hEmpty, packages_eq_of_types hEmpty, hLength, List.length_append,
      List.length_append, length_flatMap_pair]
    simp only [List.length_cons, List.length_nil]
    omega

/-- **Where the packages of a type stand.** -/
theorem getElem?_packages {i : Nat} {t : Declaration × Scaffold}
    (h : (c.plannedTypes u)[i]? = some t) :
    (c.planOf u).packages[3 + 2 * i]? = some (t.2.typeController t.1) ∧
      (c.planOf u).packages[4 + 2 * i]? = some (t.2.typeService t.1) := by
  have hTypes : (c.planOf u).types ≠ [] :=
    List.ne_nil_of_mem (List.mem_map_of_mem (List.mem_of_getElem? h))
  obtain ⟨hController, hService⟩ := getElem?_flatMap_pair
    (fun t : Declaration × Scaffold => t.2.typeController t.1) (fun t => t.2.typeService t.1)
    (c.plannedTypes u) i
  rw [h] at hController hService
  rw [packages_eq_of_types hTypes, List.append_assoc]
  constructor
  · rw [Nat.add_comm, List.getElem?_append_right (Nat.le_add_left 3 (2 * i))]
    exact (List.getElem?_append_left (List.getElem?_eq_some_iff.1 hController).1).trans hController
  · rw [show 4 + 2 * i = 2 * i + 1 + 3 by omega,
      List.getElem?_append_right (Nat.le_add_left 3 (2 * i + 1))]
    exact (List.getElem?_append_left (List.getElem?_eq_some_iff.1 hService).1).trans hService

/-! ## Sources without selected types -/

theorem Admits.of_sublist {v : Universe} (h : c.Admits u) (hSub : v.Sublist u) : c.Admits v where
  directives q hq := h.directives q (hSub.mem hq)
  objectMeta name hName q hq := h.objectMeta name hName q (hSub.mem hq)
  placeable d hd := h.placeable d ((hSub.flatMap _).mem hd)
  distinct := h.distinct.sublist ((hSub.flatMap _).map _)

/-- **A source without selected types contributes nothing to the plan.** -/
theorem planOf_erase {q : SourcePackage} (hEmpty : q.selected c = []) :
    c.planOf (u.erase q) = c.planOf u := by
  have hPlanned : q.planned? c = none := by rw [SourcePackage.planned?, if_pos hEmpty]
  have hSources : (u.erase q).filterMap (·.planned? c) = u.filterMap (·.planned? c) := by
    induction u with
    | nil => rfl
    | cons q' u ih =>
      by_cases hSame : q' = q
      · rw [hSame, List.erase_cons_head, List.filterMap_cons, hPlanned]
      · rw [List.erase_cons_tail (by simpa using hSame), List.filterMap_cons, List.filterMap_cons,
          ih]
  rw [planOf, planOf, plannedTypes, plannedTypes, hSources]

/-! ## Types and sources -/

/-- **The packages of a planned type and its source.** In a well formed universe a planned type has
one source, the package that it is named after, and its own packages see what is planned for that
source. -/
theorem Admits.exists_source (h : c.Admits u) (hu : u.WellFormed) {i : Nat} {d : Declaration}
    (hd : (c.planOf u).types[i]? = some d) :
    ∃ q ∈ u, ∃ source, q.plan c = .ok (some source) ∧
      (∀ r ∈ u, r.path = d.name.package ↔ r = q) ∧
      (c.planOf u).packages[3 + 2 * i]? = some ((c.scaffold source.vars).typeController d) ∧
      (c.planOf u).packages[4 + 2 * i]? = some ((c.scaffold source.vars).typeService d) ∧
      ∀ r ∈ [(c.scaffold source.vars).typeController d, (c.scaffold source.vars).typeService d],
        ∀ g ∈ r.generators, ∀ e, g.SeesSource source e := by
  have hGet : ((c.plannedTypes u).map Prod.fst)[i]? = some d := hd
  rw [List.getElem?_map] at hGet
  obtain ⟨t, ht, rfl⟩ := Option.map_eq_some_iff.1 hGet
  obtain ⟨q, hq, hSelected, hScaffold⟩ := exists_source_of_mem (List.mem_of_getElem? ht)
  have hPath : q.path = t.1.name.package :=
    (hu.namesOwn q hq t.1 (SourcePackage.mem_selected.1 hSelected).1).symm
  obtain ⟨hController, hService⟩ := getElem?_packages ht
  rw [hScaffold] at hController hService
  refine ⟨q, hq, q.sourcePlan c, h.plan_eq hq hSelected, fun r hr => ⟨fun hSame => ?_, fun hEq => ?_⟩,
    hController, hService, fun r hr g hg e => ?_⟩
  · exact hu.eq_of_path hr hq (hSame.trans hPath.symm)
  · rw [hEq, hPath]
  · rcases List.mem_pair.1 hr with rfl | rfl <;> obtain rfl := List.mem_singleton.1 hg <;>
      exact Generator.seesSource_of_vars rfl rfl e

end PlanConfig

/-- **Planned types are those of the sources and keep what their source binds.** In a universe that
was built from packages of types, the types of a plan are strictly increasing and are what selection
gives for all source packages. A plan with types has the two packages of each, in order, behind
three others and one last. The packages of a type see the group, the version and the object meta
that are planned for the source that the type is named after, which is the only one of its path. A
source without selected types can be left out. -/
theorem Plan.types_and_sources {c : PlanConfig} {packages : List SourcePackage} {p : Plan}
    (hBuilt : ∀ q ∈ packages, ∃ path comments types, q = SourcePackage.ofTypes path comments types)
    (h : ofUniverse c (Universe.ofList packages) = .ok p) :
    p.types.Pairwise (fun a b => a.order b = .lt) ∧
      (∃ selected, List.Forall₂ (fun q ds => c.selection.select q = .ok ds)
        (Universe.ofList packages) selected ∧ p.types.Perm selected.flatten) ∧
      p.packages.length = (if p.types = [] then 0 else 2 * p.types.length + 4) ∧
      (∀ i d, p.types[i]? = some d → ∃ q ∈ Universe.ofList packages, ∃ source,
        q.plan c = .ok (some source) ∧
        (∀ r ∈ Universe.ofList packages, r.path = d.name.package ↔ r = q) ∧
        p.packages[3 + 2 * i]? = some ((c.scaffold source.vars).typeController d) ∧
        p.packages[4 + 2 * i]? = some ((c.scaffold source.vars).typeService d) ∧
        ∀ r ∈ [(c.scaffold source.vars).typeController d,
            (c.scaffold source.vars).typeService d],
          ∀ g ∈ r.generators, ∀ e, g.SeesSource source e) ∧
      ∀ q ∈ Universe.ofList packages, c.selection.select q = .ok [] →
        ofUniverse c ((Universe.ofList packages).erase q) = .ok p := by
  obtain ⟨hOutput, hAdmits, rfl⟩ := PlanConfig.ofUniverse_eq_ok_iff_admits.1 h
  have hWellFormed : (Universe.ofList packages).WellFormed := by
    refine Universe.wellFormed_ofList fun q hq => ?_
    obtain ⟨path, comments, types, rfl⟩ := hBuilt q hq
    exact SourcePackage.namesOwn_ofTypes path comments types
  refine ⟨hAdmits.pairwise_order_types, ⟨(Universe.ofList packages).map (·.selected c), ?_, ?_⟩,
    c.length_packages _, fun i d hd => hAdmits.exists_source hWellFormed hd, fun q hq hEmpty => ?_⟩
  · exact List.forall₂_map_right_iff.2 (List.forall₂_same.2 fun q hq => hAdmits.select_eq hq)
  · rw [← List.flatMap_def]
    exact c.types_perm_flatMap _
  · have hNone : q.selected c = [] := Except.ok.inj ((hAdmits.select_eq hq).symm.trans hEmpty)
    rw [← PlanConfig.planOf_erase hNone]
    exact (hAdmits.of_sublist List.erase_sublist).ofUniverse_eq hOutput

/-- The pods and the nodes come from two packages, added one after the other. -/
theorem Plan.types_and_sources_podsAndNodes : ∃ packages p q source,
    (∀ r ∈ packages, ∃ path comments types, r = SourcePackage.ofTypes path comments types) ∧
      ofUniverse { outputPackage := "out" } (Universe.ofList packages) = .ok p ∧
      q ∈ Universe.ofList packages ∧ q.path = ("b/v1" : Text) ∧
      q.plan { outputPackage := "out" } = .ok (some source) ∧
      ∃ i, p.packages[3 + 2 * i]? = some
        ((PlanConfig.scaffold { outputPackage := "out" } source.vars).typeController
          { Declaration.pod with name := ⟨"b/v1", "Node"⟩ }) := by
  let c : PlanConfig := { outputPackage := "out" }
  let node : Declaration := { Declaration.pod with name := ⟨"b/v1", "Node"⟩ }
  let packages := [SourcePackage.ofTypes "a/v1" [] [.pod], .ofTypes "b/v1" [] [node]]
  have hUniverse : Universe.ofList packages = Universe.podsAndNodes := by decide +kernel
  have hBuilt : ∀ r ∈ packages, ∃ path comments types,
      r = SourcePackage.ofTypes path comments types := by
    intro r hr
    rcases List.mem_pair.1 hr with rfl | rfl <;> exact ⟨_, _, _, rfl⟩
  have hPlan : ofUniverse c (Universe.ofList packages) =
      .ok (c.planOf (Universe.ofList packages)) := by
    rw [hUniverse]
    exact PlanConfig.Admits.ofUniverse_eq (by decide +kernel) (by decide +kernel)
  have hNode : node ∈ (c.planOf (Universe.ofList packages)).types :=
    PlanConfig.mem_types_planOf.2 (by decide +kernel)
  obtain ⟨i, hi⟩ := List.mem_iff_getElem?.1 hNode
  obtain ⟨-, -, -, hSources, -⟩ := types_and_sources hBuilt hPlan
  obtain ⟨q, hq, source, hSource, hPath, hController, -⟩ := hSources i node hi
  exact ⟨packages, _, q, source, hBuilt, hPlan, hq, (hPath q hq).2 rfl, hSource, i, hController⟩

end RestScaffold
