import RestScaffold.Proofs.Declaration
import RestScaffold.Proofs.Plan.Files

/-!
# Plans and the order of source packages

Source packages may be listed in any order. Whether a universe is admitted does not depend on it,
and admitted universes have types of different names, which sorting puts in one order only.

`Plan.ofUniverse_perm` says what this means for plans: all but the list of their sources is the
same, and so are the files.
-/

namespace RestScaffold

namespace PlanConfig

variable {c : PlanConfig} {u v : Universe}

theorem selectedIn_perm (h : u.Perm v) : (c.selectedIn u).Perm (c.selectedIn v) :=
  h.flatMap_right _

/-- Nothing that a universe must be like depends on the order of its packages. -/
theorem Admits.of_perm (hu : c.Admits u) (h : u.Perm v) : c.Admits v where
  directives q hq := hu.directives q (h.mem_iff.2 hq)
  objectMeta name hName q hq := hu.objectMeta name hName q (h.mem_iff.2 hq)
  placeable d hd := hu.placeable d ((selectedIn_perm h).mem_iff.2 hd)
  distinct := ((selectedIn_perm h).map Declaration.directory).nodup_iff.1 hu.distinct

/-- The selected types have different names before they are put in order, too. -/
theorem Admits.nodup_unsorted (hu : c.Admits u) : ((c.unsortedTypes u).map (·.1.name)).Nodup := by
  have hSorted : ((c.unsortedTypes u).map (·.1.name)).Perm
      ((c.planOf u).types.map (·.name)) := by
    show ((c.unsortedTypes u).map (·.1.name)).Perm (((c.plannedTypes u).map Prod.fst).map (·.name))
    rw [plannedTypes_eq, List.map_map]
    exact ((List.mergeSort_perm _ _).map _).symm
  exact hSorted.nodup_iff.2 hu.nodup_names

/-- The types of a plan, with their scaffolds, do not depend on the order of the packages. -/
theorem plannedTypes_eq_of_perm (hu : c.Admits u) (h : u.Perm v) :
    c.plannedTypes u = c.plannedTypes v := by
  rw [plannedTypes_eq, plannedTypes_eq]
  exact Declaration.mergeSort_eq_of_perm (h.flatMap_right _) hu.nodup_unsorted

end PlanConfig

/-- **The order of source packages does not matter.** Two universes of the same packages both have a
plan or both have none. Their plans agree in everything but the order of the sources. -/
theorem Plan.ofUniverse_perm {c : PlanConfig} {u v : Universe} (h : u.Perm v) :
    ((∃ p, ofUniverse c u = .ok p) ↔ ∃ q, ofUniverse c v = .ok q) ∧
      ∀ p q, ofUniverse c u = .ok p → ofUniverse c v = .ok q →
        p.outputPackage = q.outputPackage ∧ p.sources.Perm q.sources ∧ p.types = q.types ∧
          p.packages = q.packages ∧ p.render = q.render := by
  constructor
  · have hAdmits : c.Admits u ↔ c.Admits v := ⟨fun hu => hu.of_perm h, fun hv => hv.of_perm h.symm⟩
    rw [PlanConfig.exists_ofUniverse_eq_ok_iff, PlanConfig.exists_ofUniverse_eq_ok_iff, hAdmits]
  · intro p q hp hq
    obtain ⟨-, hu, rfl⟩ := PlanConfig.ofUniverse_eq_ok_iff_admits.1 hp
    obtain ⟨-, -, rfl⟩ := PlanConfig.ofUniverse_eq_ok_iff_admits.1 hq
    have hTypes := PlanConfig.plannedTypes_eq_of_perm hu h
    refine ⟨rfl, h.filterMap _, congrArg (List.map Prod.fst) hTypes, congrArg c.packagesOf hTypes,
      ?_⟩
    show renderPackages ((c.plannedTypes u).map Prod.fst) (c.packagesOf (c.plannedTypes u)) {} =
      renderPackages ((c.plannedTypes v).map Prod.fst) (c.packagesOf (c.plannedTypes v)) {}
    rw [hTypes]

/-- Two packages with one type each. -/
def Universe.podsAndNodes : Universe :=
  [{ path := "a/v1", types := [.pod] },
    { path := "b/v1", types := [{ Declaration.pod with name := ⟨"b/v1", "Node"⟩ }] }]

/-- Two packages in either order have the same plan but for its sources. -/
theorem Plan.ofUniverse_perm_podsAndNodes : ∃ p q,
    ofUniverse { outputPackage := "out" } Universe.podsAndNodes = .ok p ∧
      ofUniverse { outputPackage := "out" } Universe.podsAndNodes.reverse = .ok q ∧
        p.packages = q.packages ∧ p.render = q.render := by
  have hPlan : ofUniverse { outputPackage := "out" } Universe.podsAndNodes =
      .ok (PlanConfig.planOf { outputPackage := "out" } Universe.podsAndNodes) :=
    PlanConfig.Admits.ofUniverse_eq (by decide +kernel) (by decide +kernel)
  obtain ⟨hIff, hSame⟩ := ofUniverse_perm (c := { outputPackage := "out" })
    (List.reverse_perm Universe.podsAndNodes).symm
  obtain ⟨q, hq⟩ := hIff.1 ⟨_, hPlan⟩
  exact ⟨_, q, hPlan, hq, (hSame _ q hPlan hq).2.2.2⟩

end RestScaffold
