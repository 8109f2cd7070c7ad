import RestScaffold.Proofs.Plan.Imports

/-!
# Local names of imports

The import lines of a generated file come from two sides, the entries of its generator and the table
of the packages that its text refers to. The table looks for a free name among its own names only,
so a package of types and an entry may get one name.

* `PlanConfig.Admits.namesApart_iff`: when the lines of a file bind different names;
* `Plan.import_names_apart_iff`: the same for all files of a plan, with the packages that can meet
  an entry;
* `Plan.exists_not_namesApart`: types of a package whose path ends in `http` meet the entry for HTTP
  in their controllers.
-/

namespace RestScaffold

open ImportLine Text

/-- No entry of the generator has the name that the table has for another path. -/
def Generator.MeetsNone (g : Generator) (t : ImportTable) : Prop :=
  ∀ e ∈ g.imports, ∀ name path path', Binds (normalize e) name path →
    t.names.get? path' = some name → path' = path

namespace PlanConfig

variable {c : PlanConfig} {u : Universe}

/-- **When the lines of a file bind different names.** The server's file is the only one whose
entries depend on the types. -/
theorem Admits.namesApart_iff (h : c.Admits u) {q : Package} (hq : q ∈ (c.planOf u).packages)
    {g : Generator} (hg : g ∈ q.generators)
    (hPlain : q.kind = .server → ∀ d ∈ (c.planOf u).types, Plain d.name.base) {d : Declaration}
    (hImports : (g.written (c.planOf u).types).imports =
      merge (g.imports ++ (g.table .dollar d).lines)) :
    NamesApart (q.generatedFile g (g.written (c.planOf u).types)).imports ↔
      g.MeetsNone (g.table .dollar d) := by
  have hSound : (g.table .dollar d).Sound := ImportTable.sound_empty.register _
  show NamesApart (merge (g.written (c.planOf u).types).imports) ↔ _
  rw [hImports, namesApart_merge]
  by_cases hServer : q.kind = .server
  · -- The table of the server is empty.
    have hRegistrable := h.registrable (hPlain hServer)
    rw [eq_server_of_kind q hq hServer] at hg
    have hWrites := c.sharedScaffold.server_writes (c.planOf u).types g hg d
    have hTable : g.table .dollar d = {} := by
      rw [Generator.table, (Generator.generateWith_of_writes hWrites).2]
      rfl
    rw [hTable]
    refine iff_of_true ?_ ?_
    · show NamesApart (merge (g.imports ++ []))
      rw [List.append_nil]
      exact Scaffold.namesApart_server hRegistrable hg
    · intro e _ name path path' _ hName
      cases hName
  · have hOwn := ownImports_planOf q hq hServer g hg
    exact ImportTable.namesApart_merge_iff hSound hOwn.bare hOwn.apart

end PlanConfig

/-- **When the imports of generated files have different names.** A plan can be rendered. Files with
documentation import nothing. Any other file imports, beside the entries of its generator, the
packages of the types that it writes in raw form: all types in the interface of the service, its
type in a file of a type, and none in the other shared files. Its lines bind different names exactly
when no such package got the name of an entry with another path. For the server's file this
presupposes base names without blanks and quotes. -/
theorem Plan.import_names_apart_iff {c : PlanConfig} {u : Universe} {p : Plan}
    (h : ofUniverse c u = .ok p) :
    p.render = .ok (p.packages.flatMap (·.files p.types)) ∧
      ∀ q ∈ p.packages, (∀ text, NamesApart (q.docFile text).imports) ∧
        ∀ g ∈ q.generators, ∃ d ∈ p.types,
          (g.trigger = .once ∧ p.types.head? = some d ∨ g.trigger = .forType d.name) ∧
          (∀ path, (g.table .dollar d).names.contains path = true ↔ path ≠ [] ∧ path ≠ q.path ∧
            ∃ e ∈ q.kind.rawTypes p.types d, e.name.package = path) ∧
          ((q.kind = .server → ∀ e ∈ p.types, Plain e.name.base) →
            (NamesApart (q.generatedFile g (g.written p.types)).imports ↔
              g.MeetsNone (g.table .dollar d))) := by
  obtain ⟨-, hAdmits, rfl⟩ := PlanConfig.ofUniverse_eq_ok_iff_admits.1 h
  refine ⟨hAdmits.render_planOf, fun q hq => ⟨fun text => nofun, fun g hg => ?_⟩⟩
  obtain ⟨d, hd, -, hFires, hImports, -, hTable⟩ := PlanConfig.exists_written hq hg
  exact ⟨d, hd, hFires, hTable, fun hPlain => hAdmits.namesApart_iff hq hg hPlain hImports⟩

/-- The service methods of a type in `a/v1` import three packages and that one, under four names. -/
theorem Plan.import_names_apart_iff_pods : ∃ p,
    ofUniverse { outputPackage := "out" } Universe.pods = .ok p ∧
      ∃ q ∈ p.packages, q.kind = .typeService ∧ q.generators ≠ [] ∧
        ∀ g ∈ q.generators, NamesApart (q.generatedFile g (g.written p.types)).imports := by
  let c : PlanConfig := { outputPackage := "out" }
  have hPlan : ofUniverse c Universe.pods = .ok (c.planOf Universe.pods) :=
    PlanConfig.Admits.ofUniverse_eq (by decide +kernel) (by decide +kernel)
  have hSelected : ∀ d ∈ c.selectedIn Universe.pods, d.name.package = "a/v1".toList := by
    decide +kernel
  have hPod : Declaration.pod ∈ (c.planOf Universe.pods).types :=
    PlanConfig.mem_types_planOf.2 (by decide +kernel)
  obtain ⟨t, -, -, -, hq⟩ := PlanConfig.exists_packages_of_type hPod
  refine ⟨_, hPlan, t.2.typeService .pod, hq, rfl, List.cons_ne_nil _ _, fun g hg => ?_⟩
  obtain ⟨d, hd, -, -, hIff⟩ := ((import_names_apart_iff hPlan).2 _ hq).2 g hg
  refine (hIff nofun).2 fun e he name path path' hBinds hName => ?_
  have hPackage := hSelected d (PlanConfig.mem_types_planOf.1 hd)
  obtain ⟨-, hFresh⟩ := PlanConfig.get?_table_of_single hq hg
    (List.forall_mem_singleton.2 hPackage) hName
  obtain ⟨-, rfl, hLast⟩ := binds_normalize
    ((t.2.ownImports_typeService .pod g hg).bare e he) hBinds
  obtain rfl := List.mem_singleton.1 hg
  have hOther : ∀ e ∈ (["context", "fmt", "k8s.io/klog"] : List Text),
      afterLast '/' (trim e) ≠ ({} : ImportTable).freshName "a/v1" := by decide +kernel
  exact absurd (hLast.symm.trans hFresh) (hOther e he)

/-- A type like the pod in a package called `http`. -/
def Declaration.httpPod : Declaration := { pod with name := ⟨"a/http", "Pod"⟩ }

/-- The universe of this type. -/
def Universe.httpPods : Universe := [{ path := "a/http", types := [.httpPod] }]

/-- **The controller of a type in `a/http` imports two packages called `http`.** -/
theorem Plan.exists_not_namesApart : ∃ p files,
    ofUniverse { outputPackage := "out" } Universe.httpPods = .ok p ∧ p.render = .ok files ∧
      ∃ f ∈ files, ¬ NamesApart f.imports := by
  let c : PlanConfig := { outputPackage := "out" }
  have hAdmits : c.Admits Universe.httpPods := by decide +kernel
  have hSelected : ∀ d ∈ c.selectedIn Universe.httpPods, d = .httpPod := by decide +kernel
  have hPod : Declaration.httpPod ∈ (c.planOf Universe.httpPods).types :=
    PlanConfig.mem_types_planOf.2 (by decide +kernel)
  obtain ⟨t, -, -, hq, -⟩ := PlanConfig.exists_packages_of_type hPod
  obtain ⟨g, hg, hEntry⟩ : ∃ g ∈ (t.2.typeController .httpPod).generators,
      ("net/http" : Text) ∈ g.imports :=
    ⟨_, List.mem_cons_self, List.mem_cons_of_mem _ (List.mem_cons_of_mem _ List.mem_cons_self)⟩
  obtain ⟨d, hd, -, -, hImports, -, hTable⟩ := PlanConfig.exists_written hq hg
  obtain rfl := hSelected d (PlanConfig.mem_types_planOf.1 hd)
  refine ⟨_, _, hAdmits.ofUniverse_eq (by decide +kernel), hAdmits.render_planOf,
    (t.2.typeController .httpPod).generatedFile g (g.written (c.planOf Universe.httpPods).types),
    ?_, ?_⟩
  · refine List.mem_flatMap.2 ⟨_, hq, List.mem_append_right _ ?_⟩
    exact List.mem_map.2 ⟨g, hg, rfl⟩
  · rw [hAdmits.namesApart_iff hq hg nofun hImports]
    intro hMeets
    have hOutside : ¬ c.sharedScaffold.path Scaffold.serverDir <+: "a/http".toList := by
      decide +kernel
    have hContains : (g.table .dollar .httpPod).names.contains "a/http" = true := by
      refine (hTable _).2 ⟨by decide, fun hEq => ?_, .httpPod, List.mem_cons_self, rfl⟩
      exact hOutside (hEq ▸ PlanConfig.prefix_path_planOf _ hq)
    obtain ⟨name, hName⟩ := Option.isSome_iff_exists.1 hContains
    obtain ⟨-, hFresh⟩ := PlanConfig.get?_table_of_single hq hg
      (List.forall_mem_singleton.2 rfl) hName
    have hBinds : Binds (normalize "net/http") name "net/http" := by
      rw [hFresh]
      exact Or.inl (by decide +kernel)
    exact absurd (hMeets _ hEntry _ _ _ hBinds hName) (by decide)

end RestScaffold
