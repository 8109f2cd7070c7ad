import RestScaffold.Proofs.Generator.Firing
import RestScaffold.Proofs.Plan.Outcome

/-!
# The files of a plan

A plan that was not refused can be rendered. Its generators are known by the places of their files,
which are all different, and each has one type to write for, since types in different directories
have different names. What is left is the run, which `Plan.renderPackages_eq` describes.

* `PlanConfig.Admits.render_planOf`: the files that a plan renders to;
* `Plan.render_of_ofUniverse`: their places and what is in them.
-/

namespace RestScaffold

/-! ## Places and names -/

/-- Generators that stand in their packages are known by places of files. -/
theorem Package.nodup_ids_of_nodup_places {ps : List Package}
    (hLocated : ∀ p ∈ ps, ∀ g ∈ p.generators, g.id.package = p.path)
    (h : (ps.flatMap Package.places).Nodup) : (ps.flatMap Package.ids).Nodup := by
  have hPlace : ∀ p ∈ ps, ∀ id ∈ p.ids, (id.package, id.stem) ∈ p.places := by
    intro p hp id hId
    obtain ⟨g, hg, rfl⟩ := List.mem_map.1 hId
    rw [hLocated p hp g hg]
    refine List.mem_map.2 ⟨g.id.stem, List.mem_append_right _ ?_, rfl⟩
    exact List.mem_map.2 ⟨g, hg, rfl⟩
  obtain ⟨hEach, hPairs⟩ := List.nodup_flatMap.1 h
  refine List.nodup_flatMap.2 ⟨fun p hp => ?_, hPairs.imp_of_mem fun {p q} hp hq hDisjoint => ?_⟩
  · have hStems : (p.ids.map GeneratorId.stem).Nodup := by
      rw [ids, List.map_map]
      exact (hEach p hp).of_map.of_append_right
    exact hStems.of_map
  · intro id hLeft hRight
    exact hDisjoint (hPlace p hp id hLeft) (hPlace q hq id hRight)

/-- The files of a package stand at its places. -/
theorem Package.map_place_files (p : Package) (types : List Declaration) :
    (p.files types).map (fun f => (f.packagePath, f.stem)) = p.places := by
  rw [files, places, outputStems, List.map_append, List.map_append, List.map_map, List.map_map]
  refine congrArg₂ (· ++ ·) ?_ rfl
  cases p.documentation <;> rfl

theorem Plan.map_place_files (p : Plan) :
    (p.packages.flatMap (·.files p.types)).map (fun f => (f.packagePath, f.stem)) = p.outputs := by
  rw [outputs_eq, List.map_flatMap]
  exact List.flatMap_congr fun q _ => q.map_place_files p.types

namespace PlanConfig

variable {c : PlanConfig} {u : Universe}

theorem Admits.nodup_directories (h : c.Admits u) :
    ((c.planOf u).types.map Declaration.directory).Nodup :=
  ((c.types_perm u).map Declaration.directory).nodup_iff.2 h.distinct

/-- The types of a plan have different names, since their directories are named after them. -/
theorem Admits.nodup_names (h : c.Admits u) : ((c.planOf u).types.map (·.name)).Nodup := by
  have hDirectories := h.nodup_directories
  have hNames : (c.planOf u).types.map Declaration.directory =
      ((c.planOf u).types.map (·.name)).map fun n => ImportPath.trimStart (Text.lower n.base) := by
    rw [List.map_map]
    rfl
  rw [hNames] at hDirectories
  exact hDirectories.of_map

theorem ready_planOf (c : PlanConfig) (u : Universe) :
    ∀ p ∈ (c.planOf u).packages, p.Ready (c.planOf u).types :=
  packagesOf_ready fun _ ht => (of_mem_plannedTypes ht).2

theorem types_ne_nil_of_mem {p : Package} (h : p ∈ (c.planOf u).packages) :
    (c.planOf u).types ≠ [] := by
  intro hEmpty
  have hNone : (c.planOf u).packages = [] := by
    show c.packagesOf (c.plannedTypes u) = []
    simp only [packagesOf]
    exact if_pos hEmpty
  rw [hNone] at h
  cases h

/-- **The plan for an admitted universe renders to the files of its packages.** -/
theorem Admits.render_planOf (h : c.Admits u) :
    (c.planOf u).render =
      .ok ((c.planOf u).packages.flatMap (·.files (c.planOf u).types)) := by
  have hReady := c.ready_planOf u
  have hPlaces : ((c.planOf u).packages.flatMap Package.places).Nodup :=
    outputs_nodup_iff.2 ⟨h.placeable, h.distinct⟩
  have hIds : ((c.planOf u).packages.flatMap Package.ids).Nodup :=
    Package.nodup_ids_of_nodup_places (fun p hp => (hReady p hp).located) hPlaces
  exact Plan.renderPackages_eq h.nodup_names hIds (fun id _ => Ledger.fresh_empty id)
    fun p hp => (hReady p hp).renders

end PlanConfig

/-! ## What a plan promises -/

/-- **A plan can be rendered.** Its files are at the places of the plan, which all differ, and every
file that is not a documentation has what its generator writes for one type: the first type if
the generator fires once, else the type that it is bound to, of which there is only one. -/
theorem Plan.render_of_ofUniverse {c : PlanConfig} {u : Universe} {p : Plan}
    (h : ofUniverse c u = .ok p) :
    p.render = .ok (p.packages.flatMap (·.files p.types)) ∧
      (p.packages.flatMap (·.files p.types)).map (fun f => (f.packagePath, f.stem)) =
        p.packages.flatMap (fun q => q.outputStems.map fun stem => (q.path, stem)) ∧
      (p.packages.flatMap fun q => q.outputStems.map fun stem => (q.path, stem)).Nodup ∧
      (p.types.map (·.name)).Nodup ∧
      ∀ q ∈ p.packages, ∀ g ∈ q.generators, ∃ d ∈ p.types,
        (g.trigger = .once ∧ p.types.head? = some d ∨ g.trigger = .forType d.name) ∧
          g.generate d = .ok (g.written p.types) := by
  obtain ⟨-, hAdmits, rfl⟩ := PlanConfig.ofUniverse_eq_ok_iff_admits.1 h
  refine ⟨hAdmits.render_planOf, Plan.map_place_files _, ?_, hAdmits.nodup_names, ?_⟩
  · exact PlanConfig.outputs_nodup_iff.2 ⟨hAdmits.placeable, hAdmits.distinct⟩
  · intro q hq g hg
    have hReady := c.ready_planOf u q hq
    obtain ⟨d, hd, hSubject, hWhich⟩ :=
      Generator.exists_subject? (PlanConfig.types_ne_nil_of_mem hq) (hReady.triggered g hg)
    obtain ⟨s, hs⟩ := hReady.renders g hg d
    refine ⟨d, hd, hWhich, ?_⟩
    rw [Generator.written_eq hSubject hs]
    exact hs

/-- The plan for one type renders to twelve files. -/
theorem Plan.render_of_ofUniverse_pods : ∃ p files,
    ofUniverse { outputPackage := "out" } Universe.pods = .ok p ∧ p.render = .ok files ∧
      files.map (fun f => (f.packagePath, f.stem)) =
        ([("out/server/controller", "doc"), ("out/server/controller", "controller"),
          ("out/server/controller", "utils"), ("out/server/service", "doc"),
          ("out/server/service", "interface"), ("out/server/middleware", "doc"),
          ("out/server/middleware", "auth"), ("out/server/controller/pod", "doc"),
          ("out/server/controller/pod", "pod"), ("out/server/service", "pod"),
          ("out/server", "doc"), ("out/server", "server")] : List (Text × Text)) := by
  have hPlan : ofUniverse { outputPackage := "out" } Universe.pods =
      .ok (PlanConfig.planOf { outputPackage := "out" } Universe.pods) :=
    PlanConfig.Admits.ofUniverse_eq (by decide +kernel) (by decide +kernel)
  have hTypes : (PlanConfig.planOf { outputPackage := "out" } Universe.pods).types = [.pod] := by
    apply List.perm_singleton.1
    refine (PlanConfig.types_perm _ _).trans (.of_eq ?_)
    decide +kernel
  obtain ⟨hRender, hPlaces, -⟩ := render_of_ofUniverse hPlan
  refine ⟨_, _, hPlan, hRender, hPlaces.trans ?_⟩
  show (PlanConfig.planOf { outputPackage := "out" } Universe.pods).outputs = _
  rw [PlanConfig.outputs_planOf, hTypes, if_neg (List.cons_ne_nil _ _)]
  decide +kernel

end RestScaffold
