import RestScaffold.Proofs.Plan.Files
import RestScaffold.Proofs.Scaffold.Server

/-!
# What the files of a plan import

The import lines of a generated file come from the entries of its generator and from the packages of
the types that it writes in raw form. For the packages of a plan this module says what both are, by
their kind:

* `PlanConfig.exists_written`: the imports that a file gets, with the packages of its table;
* `PlanConfig.ownImports_planOf` and `PlanConfig.exists_directory`: the paths of the generated tree
  that the entries of a generator give;
* `Scaffold.rank`: a number for each path of the tree that gets smaller along these entries.
-/

namespace RestScaffold

open ImportLine Text

theorem NameScope.isLocal_eq_false_iff {scope : NameScope} {package : Text} :
    scope.isLocal package = false ↔ package ≠ [] ∧ package ≠ scope.localPackage := by
  simp [isLocal]

/-! ## Kinds of packages -/

namespace PackageKind

/-- The types that a file of this kind writes in raw form, `d` being the type at hand, are planned.
-/
theorem mem_of_mem_rawTypes {kind : PackageKind} {types : List Declaration} {d e : Declaration}
    (he : e ∈ kind.rawTypes types d) (hd : d ∈ types) : e ∈ types := by
  cases kind with
  | serviceInterface => exact he
  | typeController | typeService => exact List.mem_singleton.1 he ▸ hd
  | controllerMeta | middleware | server => cases he

/-- How many steps the imports of a package of this kind can go on. -/
def rank : PackageKind → Nat
  | controllerMeta => 1
  | serviceInterface => 0
  | middleware => 2
  | typeController => 2
  | typeService => 0
  | server => 3

end PackageKind

namespace Scaffold

variable (s : Scaffold)

/-- The rank of the packages at a path of the tree. The paths that are none of the four directories
are those of controllers. -/
def rank (path : Text) : Nat :=
  if path = s.path serviceDir then PackageKind.rank .serviceInterface
  else if path = s.path controllerDir then PackageKind.rank .controllerMeta
  else if path = s.path serverDir then PackageKind.rank .server
  else PackageKind.rank .middleware

theorem path_dirs_nodup : [s.path serviceDir, s.path controllerDir, s.path serverDir,
    s.path middlewareDir].Nodup := by
  rw [path_serverDir, path_controllerDir, path_serviceDir, path_middlewareDir]
  simp

theorem rank_path : s.rank (s.path serviceDir) = 0 ∧ s.rank (s.path controllerDir) = 1 ∧
    s.rank (s.path serverDir) = 3 ∧ s.rank (s.path middlewareDir) = 2 := by
  have hNodup := s.path_dirs_nodup
  simp only [List.nodup_cons, List.mem_cons, List.not_mem_nil, or_false, not_or,
    List.nodup_nil, and_true, not_false_eq_true] at hNodup
  obtain ⟨⟨hController, hServer, hMiddleware⟩, ⟨hServer', hMiddleware'⟩, hMiddleware''⟩ := hNodup
  simp only [rank, if_true, Ne.symm hController, Ne.symm hServer, Ne.symm hMiddleware,
    Ne.symm hServer', Ne.symm hMiddleware', Ne.symm hMiddleware'', if_false, PackageKind.rank,
    and_self]

theorem rank_controllerPath {d : Declaration} (h : d.directory ≠ []) :
    s.rank (s.controllerPath d) = 2 := by
  obtain ⟨hServer, hController, hService, -⟩ := s.controllerPath_ne h
  rw [rank, if_neg hService, if_neg hController, if_neg hServer]
  rfl

/-- The entries of a package lead to paths of a smaller rank. -/
theorem rank_directories {kind : PackageKind} {dir : Text} (h : dir ∈ kind.directories) :
    s.rank (s.path dir) < kind.rank := by
  obtain ⟨hService, hController, -, hMiddleware⟩ := s.rank_path
  cases kind with
  | controllerMeta =>
    rw [List.mem_singleton.1 h, hService]
    decide
  | serviceInterface | typeService => cases h
  | middleware | typeController =>
    rw [List.mem_singleton.1 h, hController]
    decide
  | server =>
    simp only [PackageKind.directories, List.mem_cons, List.not_mem_nil, or_false] at h
    rcases h with rfl | rfl | rfl
    · rw [hService]; decide
    · rw [hMiddleware]; decide
    · rw [hController]; decide

theorem prefix_controllerPath (d : Declaration) : s.path serverDir <+: s.controllerPath d := by
  have hController : s.path serverDir <+: s.path controllerDir :=
    ⟨_, isSubdirectory_controllerDir.path_eq.symm⟩
  by_cases hDirectory : d.directory = []
  · rw [controllerPath_of_directory_nil s hDirectory]
    exact hController
  · rw [controllerPath_eq s hDirectory]
    exact hController.trans (List.prefix_append _ _)

end Scaffold

theorem Package.packagePath_of_mem_files {p : Package} {types : List Declaration}
    {f : RenderedFile} (h : f ∈ p.files types) : f.packagePath = p.path := by
  rcases List.mem_append.1 h with hDoc | hGenerated
  · obtain ⟨text, -, rfl⟩ := Option.map_eq_some_iff.1 (Option.mem_toList.1 hDoc)
    rfl
  · obtain ⟨g, -, rfl⟩ := List.mem_map.1 hGenerated
    rfl

theorem Generator.OwnImports.congr {g : Generator} {s s' : Scaffold} {dirs : List Text}
    (h : g.OwnImports s dirs) (hPath : ∀ dir, s.path dir = s'.path dir) : g.OwnImports s' dirs where
  bare := h.bare
  apart := h.apart
  below e he path hGives hBelow := by
    simp only [← hPath] at hBelow ⊢
    exact h.below e he path hGives hBelow

/-! ## The packages of a plan -/

namespace PlanConfig

variable {c : PlanConfig} {u : Universe}

/-- The scaffolds of types have the paths that all packages of a plan share. -/
theorem path_of_mem_plannedTypes {t : Declaration × Scaffold} (h : t ∈ c.plannedTypes u) :
    (∀ dir, t.2.path dir = c.sharedScaffold.path dir) ∧
      ∀ d, t.2.controllerPath d = c.sharedScaffold.controllerPath d := by
  have hPath : ∀ dir, t.2.path dir = c.sharedScaffold.path dir := fun dir => by
    rw [Scaffold.path, Scaffold.path, (of_mem_plannedTypes h).1]
    rfl
  exact ⟨hPath, fun d => by rw [Scaffold.controllerPath, Scaffold.controllerPath, hPath]⟩

/-- **Which packages the table of a file has names for.** -/
theorem rawPackages_planOf : ∀ q ∈ (c.planOf u).packages, ∀ g ∈ q.generators,
    Scaffold.RefersTo g fun d => q.kind.rawTypes (c.planOf u).types d := by
  refine forall_packagesOf c.sharedScaffold.refersTo_controllerMeta
    (c.sharedScaffold.refersTo_serviceInterfaceOf _) c.sharedScaffold.refersTo_middleware
    (fun t ht => ?_) (fun t _ => t.2.refersTo_typeService t.1) fun g hg d path => ?_
  · obtain ⟨gv, hVars⟩ := (of_mem_plannedTypes ht).2
    exact Scaffold.refersTo_typeController hVars t.1
  · rw [(Generator.generateWith_of_writes
      (c.sharedScaffold.server_writes _ g hg d)).2]
    exact ⟨fun hPath => absurd hPath List.not_mem_nil, fun ⟨_, e, he, _⟩ => absurd he
      List.not_mem_nil⟩

/-- The entries of the generators, those of the server aside. -/
theorem ownImports_planOf : ∀ q ∈ (c.planOf u).packages, q.kind ≠ .server →
    ∀ g ∈ q.generators, g.OwnImports c.sharedScaffold q.kind.directories := by
  refine forall_packagesOf (fun _ => c.sharedScaffold.ownImports_controllerMeta)
    (fun _ => c.sharedScaffold.ownImports_serviceInterfaceOf _)
    (fun _ => c.sharedScaffold.ownImports_middleware) (fun t ht _ g hg => ?_)
    (fun t ht _ g hg => ?_) fun hServer => absurd rfl hServer
  · exact (t.2.ownImports_typeController t.1 g hg).congr (path_of_mem_plannedTypes ht).1
  · exact (t.2.ownImports_typeService t.1 g hg).congr (path_of_mem_plannedTypes ht).1

/-- The package of the server is the only one of its kind. -/
theorem eq_server_of_kind : ∀ q ∈ (c.planOf u).packages, q.kind = .server →
    q = c.sharedScaffold.server (c.planOf u).types :=
  forall_packagesOf nofun nofun nofun (fun _ _ => nofun) (fun _ _ => nofun) fun _ => rfl

/-- Every path of a plan begins with that of the server. -/
theorem prefix_path_planOf : ∀ q ∈ (c.planOf u).packages,
    c.sharedScaffold.path Scaffold.serverDir <+: q.path := by
  have hDir : ∀ {dir name}, Scaffold.IsSubdirectory dir name →
      c.sharedScaffold.path Scaffold.serverDir <+: c.sharedScaffold.path dir :=
    fun h => ⟨_, h.path_eq.symm⟩
  refine forall_packagesOf (hDir Scaffold.isSubdirectory_controllerDir)
    (hDir Scaffold.isSubdirectory_serviceDir) (hDir Scaffold.isSubdirectory_middlewareDir)
    (fun t ht => ?_) (fun t ht => ?_) (List.prefix_refl _)
  · show _ <+: t.2.controllerPath t.1
    rw [(path_of_mem_plannedTypes ht).2]
    exact c.sharedScaffold.prefix_controllerPath t.1
  · show _ <+: t.2.path Scaffold.serviceDir
    rw [(path_of_mem_plannedTypes ht).1]
    exact hDir Scaffold.isSubdirectory_serviceDir

/-- The packages of a plan with types, in order. -/
theorem packages_eq_of_types (h : (c.planOf u).types ≠ []) : (c.planOf u).packages =
    [c.sharedScaffold.controllerMeta, c.sharedScaffold.serviceInterfaceOf (c.planOf u).types,
        c.sharedScaffold.middleware] ++
      (c.plannedTypes u).flatMap (fun t => [t.2.typeController t.1, t.2.typeService t.1]) ++
      [c.sharedScaffold.server (c.planOf u).types] := by
  show c.packagesOf (c.plannedTypes u) = _
  simp only [packagesOf]
  exact if_neg h

/-- Each type of a plan has the two packages of its own. -/
theorem exists_packages_of_type {d : Declaration} (hd : d ∈ (c.planOf u).types) :
    ∃ t ∈ c.plannedTypes u, t.1 = d ∧ t.2.typeController d ∈ (c.planOf u).packages ∧
      t.2.typeService d ∈ (c.planOf u).packages := by
  obtain ⟨t, ht, rfl⟩ := List.mem_map.1 hd
  have hPair : ∀ q ∈ [t.2.typeController t.1, t.2.typeService t.1], q ∈ (c.planOf u).packages := by
    intro q hq
    rw [packages_eq_of_types (List.ne_nil_of_mem hd)]
    exact List.mem_append_left _ (List.mem_append_right _ (List.mem_flatMap.2 ⟨t, ht, hq⟩))
  exact ⟨t, ht, rfl, hPair _ List.mem_cons_self,
    hPair _ (List.mem_cons_of_mem _ List.mem_cons_self)⟩

/-- A plan with types has a package at each directory that a kind imports. -/
theorem exists_package_at_directory (hTypes : (c.planOf u).types ≠ []) {kind : PackageKind}
    {dir : Text} (hDir : dir ∈ kind.directories) :
    ∃ q ∈ (c.planOf u).packages, q.path = c.sharedScaffold.path dir := by
  have hDirs : dir ∈ [Scaffold.controllerDir, Scaffold.serviceDir, Scaffold.middlewareDir] := by
    cases kind with
    | controllerMeta | middleware | typeController =>
      rw [List.mem_singleton.1 hDir]
      decide
    | serviceInterface | typeService => cases hDir
    | server =>
      revert dir
      decide
  have hShared : ∀ q ∈ [c.sharedScaffold.controllerMeta,
      c.sharedScaffold.serviceInterfaceOf (c.planOf u).types, c.sharedScaffold.middleware],
      q ∈ (c.planOf u).packages := by
    intro q hq
    rw [packages_eq_of_types hTypes]
    exact List.mem_append_left _ (List.mem_append_left _ hq)
  simp only [List.mem_cons, List.not_mem_nil, or_false] at hDirs
  rcases hDirs with rfl | rfl | rfl
  · exact ⟨_, hShared _ List.mem_cons_self, rfl⟩
  · exact ⟨_, hShared _ (List.mem_cons_of_mem _ List.mem_cons_self), rfl⟩
  · exact ⟨_, hShared _ (List.mem_of_getLast? rfl), rfl⟩

/-- The rank of a package's path is that of its kind. -/
theorem Admits.rank_path (h : c.Admits u) : ∀ q ∈ (c.planOf u).packages,
    c.sharedScaffold.rank q.path = q.kind.rank := by
  obtain ⟨hService, hController, hServer, hMiddleware⟩ := c.sharedScaffold.rank_path
  refine forall_packagesOf hController hService hMiddleware (fun t ht => ?_) (fun t ht => ?_)
    hServer
  · show c.sharedScaffold.rank (t.2.controllerPath t.1) = 2
    rw [(path_of_mem_plannedTypes ht).2]
    refine c.sharedScaffold.rank_controllerPath (h.placeable t.1 ?_).1
    exact mem_types_planOf.1 (List.mem_map_of_mem ht)
  · show c.sharedScaffold.rank (t.2.path Scaffold.serviceDir) = 0
    rw [(path_of_mem_plannedTypes ht).1, hService]

/-- **The imports of a file of a plan.** The generator fires for one type, and the table of the file
has names for the packages of the types that its kind writes in raw form, itself aside. -/
theorem exists_written {q : Package} (hq : q ∈ (c.planOf u).packages)
    {g : Generator} (hg : g ∈ q.generators) :
    ∃ d ∈ (c.planOf u).types, g.generate d = .ok (g.written (c.planOf u).types) ∧
      (g.trigger = .once ∧ (c.planOf u).types.head? = some d ∨ g.trigger = .forType d.name) ∧
      (g.written (c.planOf u).types).imports = merge (g.imports ++ (g.table .dollar d).lines) ∧
      (g.table .dollar d).Sound ∧
      ∀ path, (g.table .dollar d).names.contains path = true ↔ path ≠ [] ∧ path ≠ q.path ∧
        ∃ e ∈ q.kind.rawTypes (c.planOf u).types d, e.name.package = path := by
  have hReady := c.ready_planOf u q hq
  obtain ⟨d, hd, hSubject, hFires⟩ :=
    Generator.exists_subject? (types_ne_nil_of_mem hq) (hReady.triggered g hg)
  obtain ⟨source, hSource⟩ := hReady.renders g hg d
  have hWritten := Generator.written_eq hSubject hSource
  refine ⟨d, hd, hWritten ▸ hSource, hFires, ?_, ImportTable.sound_empty.register _, fun path => ?_⟩
  · rw [hWritten]
    exact (Generator.generateWith_eq_ok_iff.1 hSource).2
  · have hNames := (ImportTable.contains_register {} (g.rawPackages .dollar d) path).trans
      (or_iff_left nofun)
    rw [Generator.table, hNames, rawPackages_planOf q hq g hg d path,
      NameScope.isLocal_eq_false_iff, Generator.scope, hReady.located g hg, and_assoc]

/-- A line of a rendered file is one that a generator of its package wrote. -/
theorem exists_generator_of_line {f : RenderedFile}
    (hf : f ∈ (c.planOf u).packages.flatMap (·.files (c.planOf u).types)) {line : Text}
    (hLine : line ∈ f.imports) : ∃ q ∈ (c.planOf u).packages, q.path = f.packagePath ∧
      ∃ g ∈ q.generators, line ∈ (g.written (c.planOf u).types).imports := by
  obtain ⟨q, hq, hFile⟩ := List.mem_flatMap.1 hf
  rcases List.mem_append.1 hFile with hDoc | hGenerated
  · obtain ⟨text, -, rfl⟩ := Option.map_eq_some_iff.1 (Option.mem_toList.1 hDoc)
    cases hLine
  · obtain ⟨g, hg, rfl⟩ := List.mem_map.1 hGenerated
    obtain ⟨d, -, -, -, hImports, -⟩ := exists_written hq hg
    refine ⟨q, hq, rfl, g, hg, ?_⟩
    rw [hImports, ← mem_merge_merge, ← hImports]
    exact hLine

/-- Types from outside of the tree do not come from a package of the plan. -/
theorem package_not_mem_paths
    (h : ∀ d ∈ c.selectedIn u, ¬ c.sharedScaffold.path Scaffold.serverDir <+: d.name.package) :
    ∀ d ∈ (c.planOf u).types, d.name.package ∉ (c.planOf u).packages.map (·.path) := by
  intro d hd hPath
  obtain ⟨q, hq, hEq⟩ := List.mem_map.1 hPath
  exact h d (mem_types_planOf.1 hd) (hEq ▸ prefix_path_planOf q hq)

/-- When all types that a file writes in raw form come from one package, it goes by the shortest of
its names. -/
theorem get?_table_of_single {q : Package} (hq : q ∈ (c.planOf u).packages) {g : Generator}
    (hg : g ∈ q.generators) {d : Declaration} {package : Text}
    (hSingle : ∀ e ∈ q.kind.rawTypes (c.planOf u).types d, e.name.package = package)
    {path name : Text} (hName : (g.table .dollar d).names.get? path = some name) :
    path = package ∧ name = ({} : ImportTable).freshName package := by
  refine ImportTable.get?_register_of_eq (fun path' hPath' => ?_) hName
  obtain ⟨-, e, he, rfl⟩ := (rawPackages_planOf q hq g hg d path').1 hPath'
  exact hSingle e he

/-- Types of a plan whose base names have no blanks and quotes can stand in the lines of the server.
-/
theorem Admits.registrable (h : c.Admits u) (hPlain : ∀ d ∈ (c.planOf u).types, Plain d.name.base) :
    Scaffold.Registrable (c.planOf u).types where
  plain d hd := (hPlain d hd).lower
  ne_nil d hd hNil := by
    refine (h.placeable d (mem_types_planOf.1 hd)).1 ?_
    rw [Declaration.directory, hNil]
    rfl
  nodup := by
    have hDirectories := h.nodup_directories
    rw [show Declaration.directory = ImportPath.trimStart ∘ Declaration.stem from rfl,
      ← List.map_map] at hDirectories
    exact hDirectories.of_map

/-- **Where an import line of a plan comes from.** It is an entry of its generator, or it is there
for a planned type and binds the package of this type. -/
theorem import_cases {q : Package} (hq : q ∈ (c.planOf u).packages) {g : Generator}
    (hg : g ∈ q.generators) {line : Text} (hLine : line ∈ (g.written (c.planOf u).types).imports) :
    (∃ e ∈ g.imports, normalize e = line) ∨
      ∃ e ∈ (c.planOf u).types, ∀ name path, Binds line name path → e.name.package = path := by
  obtain ⟨d, hd, -, -, hImports, hSound, hTable⟩ := exists_written hq hg
  rw [hImports, ImportTable.mem_merge_lines hSound] at hLine
  rcases hLine with ⟨e, he, -, hEntry⟩ | ⟨path, name, hName, rfl⟩
  · exact Or.inl ⟨e, he, hEntry⟩
  · have hContains : (g.table .dollar d).names.contains path = true := by
      rw [TextMap.contains, hName]
      rfl
    obtain ⟨-, -, e, he, rfl⟩ := (hTable path).1 hContains
    refine Or.inr ⟨e, PackageKind.mem_of_mem_rawTypes he hd, fun name' path' hBinds => ?_⟩
    exact ((hSound.binds_bind hName).unique hBinds).2

/-- **The paths of the tree that an entry leads to.** This holds for all files but the server's. -/
theorem exists_directory {q : Package} (hq : q ∈ (c.planOf u).packages) (hKind : q.kind ≠ .server)
    {g : Generator} (hg : g ∈ q.generators) {e : Text} (he : e ∈ g.imports) {path : Text}
    (hGives : Gives e path) (hBelow : c.sharedScaffold.path Scaffold.serverDir <+: path) :
    ∃ dir ∈ q.kind.directories, path = c.sharedScaffold.path dir :=
  (ownImports_planOf q hq hKind g hg).below e he path hGives hBelow

end PlanConfig

end RestScaffold
