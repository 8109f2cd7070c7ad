import Mathlib.Logic.Relation
import RestScaffold.Proofs.Plan.Imports
import RestScaffold.Proofs.Plan.SourceOrder

/-!
# References between generated packages

The files of a plan refer to each other's packages. The paths that they import, the names under
which the server imports the controllers and the names in its text are all computed apart, and this
module says that they fit together.

* `PlanConfig.Admits.exists_package_of_gives`: the paths of the tree that generators import are
  those of packages, each of a smaller rank than the package with the import;
* `PlanConfig.Admits.exists_serverFile`: the server imports each controller under one name, by which
  its text registers the routes;
* `Plan.references_closed_and_acyclic`: the same for whole plans, in which no package leads back to
  itself.
-/

namespace RestScaffold

open ImportLine Text

/-- Of these files, one of the package `a` imports the package `b`, which has files as well. -/
def RenderedFile.References (files : List RenderedFile) (a b : Text) : Prop :=
  ∃ f ∈ files, f.packagePath = a ∧ (∃ line ∈ f.imports, ∃ name, Binds line name b) ∧
    b ∈ files.map (·.packagePath)

namespace PlanConfig

variable {c : PlanConfig} {u : Universe}

/-- **The paths of the tree that a generator imports are those of packages,** and the rank decreases
on the way to them. -/
theorem Admits.exists_package_of_gives (h : c.Admits u)
    (hPlain : ∀ d ∈ (c.planOf u).types, Plain d.name.base) {q : Package}
    (hq : q ∈ (c.planOf u).packages) {g : Generator} (hg : g ∈ q.generators) {e path : Text}
    (he : e ∈ g.imports) (hGives : Gives e path)
    (hBelow : c.sharedScaffold.path Scaffold.serverDir <+: path) :
    (∃ r ∈ (c.planOf u).packages, r.path = path) ∧ c.sharedScaffold.rank path < q.kind.rank := by
  have hDirectory : (∃ dir ∈ q.kind.directories, path = c.sharedScaffold.path dir) →
      (∃ r ∈ (c.planOf u).packages, r.path = path) ∧
        c.sharedScaffold.rank path < q.kind.rank := by
    rintro ⟨dir, hDir, rfl⟩
    exact ⟨exists_package_at_directory (types_ne_nil_of_mem hq) hDir,
      c.sharedScaffold.rank_directories hDir⟩
  by_cases hServer : q.kind = .server
  · obtain rfl := eq_server_of_kind q hq hServer
    rcases Scaffold.gives_entry_server (h.registrable hPlain) hg he hGives hBelow with
      hDir | ⟨d, hd, rfl⟩
    · exact hDirectory hDir
    · obtain ⟨t, ht, rfl, hController, -⟩ := exists_packages_of_type hd
      refine ⟨⟨_, hController, (path_of_mem_plannedTypes ht).2 t.1⟩, ?_⟩
      rw [c.sharedScaffold.rank_controllerPath (h.placeable t.1 (mem_types_planOf.1 hd)).1]
      exact Nat.lt_succ_self 2
  · exact hDirectory (exists_directory hq hServer hg he hGives hBelow)

/-- Each step along the references goes to a smaller rank. -/
theorem Admits.rank_of_references (h : c.Admits u)
    (hPlain : ∀ d ∈ (c.planOf u).types, Plain d.name.base)
    (hOutside : ∀ d ∈ (c.planOf u).types, d.name.package ∉ (c.planOf u).packages.map (·.path))
    {a b : Text} (hRefers : RenderedFile.References
      ((c.planOf u).packages.flatMap (·.files (c.planOf u).types)) a b) :
    c.sharedScaffold.rank b < c.sharedScaffold.rank a := by
  obtain ⟨f, hf, rfl, ⟨line, hLine, name, hBinds⟩, hPath⟩ := hRefers
  obtain ⟨r, hr, rfl⟩ : ∃ r ∈ (c.planOf u).packages, r.path = b := by
    obtain ⟨f', hf', rfl⟩ := List.mem_map.1 hPath
    obtain ⟨r, hr, hFile⟩ := List.mem_flatMap.1 hf'
    exact ⟨r, hr, (Package.packagePath_of_mem_files hFile).symm⟩
  obtain ⟨q, hq, hPackage, g, hg, hWritten⟩ := exists_generator_of_line hf hLine
  rw [← hPackage, h.rank_path q hq]
  rcases import_cases hq hg hWritten with ⟨e, he, rfl⟩ | ⟨d, hd, hType⟩
  · exact (h.exists_package_of_gives hPlain hq hg he (Or.inr ⟨name, hBinds⟩)
      (prefix_path_planOf r hr)).2
  · refine absurd ?_ (hOutside d hd)
    rw [hType name _ hBinds]
    exact List.mem_map_of_mem hr

/-- **The server's file.** Each type has one line with the name that the routes are registered
under, and this line leads to the package of the type's controller. -/
theorem Admits.exists_serverFile (h : c.Admits u)
    (hPlain : ∀ d ∈ (c.planOf u).types, Plain d.name.base) (hTypes : (c.planOf u).types ≠ []) :
    ∃ f ∈ (c.planOf u).packages.flatMap (·.files (c.planOf u).types),
      f.packagePath = c.sharedScaffold.path Scaffold.serverDir ∧ f.stem = ("server" : Text) ∧
      f.body = Scaffold.serverBody (c.planOf u).types ∧ f.imports.Nodup ∧
      ∀ d ∈ (c.planOf u).types, ∃ q ∈ (c.planOf u).packages, q.kind = .typeController ∧
        q.generators.map (·.trigger) = [.forType d.name] ∧
        ∃ line ∈ f.imports, Binds line (Scaffold.controllerAlias d) q.path ∧
          ∀ line' ∈ f.imports, ∀ path, Binds line' (Scaffold.controllerAlias d) path →
            line' = line := by
  have hRegistrable := h.registrable hPlain
  let server := c.sharedScaffold.server (c.planOf u).types
  have hq : server ∈ (c.planOf u).packages := by
    rw [packages_eq_of_types hTypes]
    exact List.mem_append_right _ List.mem_cons_self
  obtain ⟨g, hg, hStem⟩ : ∃ g ∈ server.generators, g.id.stem = ("server" : Text) :=
    ⟨_, List.mem_cons_self, rfl⟩
  obtain ⟨d, -, hGenerate, -⟩ := exists_written hq hg
  have hWritten : g.written (c.planOf u).types =
      ⟨Scaffold.serverBody (c.planOf u).types, merge g.imports⟩ := by
    have hWrites := c.sharedScaffold.server_writes (c.planOf u).types g hg d
    exact Except.ok.inj (hGenerate.symm.trans (Generator.generateWith_of_writes hWrites).1)
  have hImports : (server.generatedFile g (g.written (c.planOf u).types)).imports =
      merge (merge g.imports) := by
    show merge (g.written (c.planOf u).types).imports = _
    rw [hWritten]
  refine ⟨server.generatedFile g (g.written (c.planOf u).types), ?_, rfl, hStem, ?_,
    nodup_merge _, fun d hd => ?_⟩
  · refine List.mem_flatMap.2 ⟨server, hq, List.mem_append_right _ ?_⟩
    exact List.mem_map_of_mem hg
  · show (g.written (c.planOf u).types).body = _
    rw [hWritten]
  · obtain ⟨t, ht, rfl, hController, -⟩ := exists_packages_of_type hd
    obtain ⟨hMem, hBinds⟩ := Scaffold.controllerImport_mem hRegistrable hg hd
    have hApart := namesApart_merge.2 (Scaffold.namesApart_server hRegistrable hg)
    rw [← mem_merge_merge, ← hImports] at hMem
    rw [← hImports] at hApart
    refine ⟨_, hController, rfl, rfl, _, hMem, ?_, fun line' hLine' path hBinds' =>
      hApart _ hLine' _ hMem _ _ _ hBinds' hBinds⟩
    show Binds _ _ (t.2.controllerPath t.1)
    rw [(path_of_mem_plannedTypes ht).2]
    exact hBinds

end PlanConfig

/-- **References between generated packages are closed and lead nowhere back.** Types with plain
names, from packages that are not generated themselves, give a plan that can be rendered. A path
that begins with that of the server and is given by an entry of a generator is that of a package.
The server's file has one import line for each type with the name of its controller, and this line
binds the package of the controller; its text has the line that registers the routes under this name
for each type, in order. No package imports itself, over however many others. -/
theorem Plan.references_closed_and_acyclic {c : PlanConfig} {u : Universe} {p : Plan}
    (h : ofUniverse c u = .ok p) (hPlain : ∀ d ∈ p.types, Plain d.name.base)
    (hOutside : ∀ d ∈ p.types, d.name.package ∉ p.packages.map (·.path)) :
    ∃ files, p.render = .ok files ∧
      (∀ q ∈ p.packages, ∀ g ∈ q.generators, ∀ e ∈ g.imports, ∀ path, Gives e path →
        c.sharedScaffold.path Scaffold.serverDir <+: path → path ∈ p.packages.map (·.path)) ∧
      (p.types ≠ [] → ∃ f ∈ files,
        f.packagePath = c.sharedScaffold.path Scaffold.serverDir ∧ f.stem = ("server" : Text) ∧
        f.body = Scaffold.serverBody p.types ∧ f.imports.Nodup ∧
        ∀ d ∈ p.types, ∃ q ∈ p.packages, q.kind = .typeController ∧
          q.generators.map (·.trigger) = [.forType d.name] ∧
          ∃ line ∈ f.imports, Binds line (Scaffold.controllerAlias d) q.path ∧
            ∀ line' ∈ f.imports, ∀ path, Binds line' (Scaffold.controllerAlias d) path →
              line' = line) ∧
      ∀ a, ¬ Relation.TransGen (RenderedFile.References files) a a := by
  obtain ⟨-, hAdmits, rfl⟩ := PlanConfig.ofUniverse_eq_ok_iff_admits.1 h
  refine ⟨_, hAdmits.render_planOf, fun q hq g hg e he path hGives hBelow => ?_,
    hAdmits.exists_serverFile hPlain, fun a hCycle => ?_⟩
  · obtain ⟨⟨r, hr, rfl⟩, -⟩ := hAdmits.exists_package_of_gives hPlain hq hg he hGives hBelow
    exact List.mem_map_of_mem hr
  · have hDescends : ∀ b, Relation.TransGen (RenderedFile.References
        ((c.planOf u).packages.flatMap (·.files (c.planOf u).types))) a b →
          c.sharedScaffold.rank b < c.sharedScaffold.rank a := by
      intro b hPath
      induction hPath with
      | single hStep => exact hAdmits.rank_of_references hPlain hOutside hStep
      | tail _ hStep ih => exact (hAdmits.rank_of_references hPlain hOutside hStep).trans ih
    exact Nat.lt_irrefl _ (hDescends a hCycle)

/-- The server for the pods and the nodes registers the routes of both. -/
theorem Plan.references_closed_and_acyclic_podsAndNodes : ∃ p files,
    ofUniverse { outputPackage := "out" } Universe.podsAndNodes = .ok p ∧ p.render = .ok files ∧
      (∃ f ∈ files, f.stem = ("server" : Text) ∧ f.body = Scaffold.serverBody p.types) ∧
      ∀ a, ¬ Relation.TransGen (RenderedFile.References files) a a := by
  let c : PlanConfig := { outputPackage := "out" }
  have hPlan : ofUniverse c Universe.podsAndNodes = .ok (c.planOf Universe.podsAndNodes) :=
    PlanConfig.Admits.ofUniverse_eq (by decide +kernel) (by decide +kernel)
  have hPlain : ∀ d ∈ c.selectedIn Universe.podsAndNodes, Plain d.name.base := by decide +kernel
  have hOutside : ∀ d ∈ c.selectedIn Universe.podsAndNodes,
      ¬ c.sharedScaffold.path Scaffold.serverDir <+: d.name.package := by decide +kernel
  have hTypes := PlanConfig.types_planOf_ne_nil
    (show c.selectedIn Universe.podsAndNodes ≠ [] by decide +kernel)
  obtain ⟨files, hRender, -, hServer, hAcyclic⟩ := references_closed_and_acyclic hPlan
    (fun d hd => hPlain d (PlanConfig.mem_types_planOf.1 hd))
    (PlanConfig.package_not_mem_paths hOutside)
  obtain ⟨f, hf, -, hStem, hBody, -⟩ := hServer hTypes
  exact ⟨_, files, hPlan, hRender, ⟨f, hf, hStem, hBody⟩, hAcyclic⟩

end RestScaffold
