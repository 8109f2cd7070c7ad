import RestScaffold.Proofs.Plan.Imports
import RestScaffold.Proofs.Plan.SourceOrder

/-!
# Packages behind those they import

A plan lists the packages of a tree for a reader who takes them one after the other. Each package
imports packages in front of it only, with one exception: the options of the controllers, which come
first, name the interface of the service, which comes second.

* `Plan.ImportsInOrder`: what a reader in order relies on;
* `PlanConfig.not_importsInOrder`: no plan with types has it, odd output packages aside;
* `Plan.imports_behind_but_service`: what holds instead.

A type may come from a package whose path is that of a generated one. Then files import that path on
behalf of the type, wherever they are.
-/

namespace RestScaffold

open ImportLine Text

/-- Each import of a path of the plan is one of a package further in front. -/
def Plan.ImportsInOrder (p : Plan) : Prop :=
  ∀ i q, p.packages[i]? = some q → ∀ g ∈ q.generators, ∀ line ∈ (g.written p.types).imports,
    ∀ name path, Binds line name path → path ∈ p.packages.map (·.path) → path ≠ q.path →
      path ∈ (p.packages.take i).map (·.path)

namespace Scaffold

variable {s : Scaffold}

theorem not_mem_root (h : quote ∉ s.outputPackage) : quote ∉ s.root := by
  unfold root
  split
  · exact List.not_mem_nil
  · intro hQuote
    rcases List.mem_append.1 hQuote with hBase | hSlash
    · exact h ((List.rdropWhile_prefix _ _).subset hBase)
    · exact absurd (List.mem_singleton.1 hSlash) (by decide)

theorem trimStart_root (h : s.outputPackage.head?.any isBlank = false) :
    trimStart s.root = s.root := by
  refine trimStart_of_head fun c hc => ?_
  have hHead : s.outputPackage.head? = some c := by
    unfold root at hc
    split at hc
    · cases hc
    · next hNe =>
      rw [List.head?_append_of_ne_nil _ hNe] at hc
      exact head?_of_isPrefix (List.rdropWhile_prefix _ _) hc
  rw [hHead] at h
  exact h

/-- Paths of an output package without quotes and without blanks in front are imported as they are.
-/
theorem IsSubdirectory.normalize_path {dir name : Text} (h : IsSubdirectory dir name)
    (hQuote : quote ∉ s.outputPackage) (hHead : s.outputPackage.head?.any isBlank = false) :
    normalize (s.path dir) = quoted (s.path dir) := by
  have hTrim : trim (s.path dir) = s.path dir := by
    rw [h.trim_path, trimStart_root hHead, h.path_eq, path_serverDir_eq]
  rcases normalize_cases (s.path dir) with ⟨hMem, -⟩ | ⟨-, hEq⟩
  · rw [hTrim, h.path_eq, path_serverDir_eq] at hMem
    simp only [List.mem_append, List.mem_cons] at hMem
    rcases hMem with (hRoot | hServer) | hSlash | hName
    · exact absurd hRoot (not_mem_root hQuote)
    · exact absurd hServer (by decide)
    · exact absurd hSlash (by decide)
    · exact absurd rfl (h.plain quote hName).2
  · rw [hEq, hTrim]

end Scaffold

namespace PlanConfig

variable {c : PlanConfig} {u : Universe}

/-- What a plan with types is made of: the packages at both ends are the only ones of their kinds.
-/
theorem packages_planOf (h : (c.planOf u).types ≠ []) : ∃ middle,
    (c.planOf u).packages = c.sharedScaffold.controllerMeta ::
      c.sharedScaffold.serviceInterfaceOf (c.planOf u).types :: middle ++
        [c.sharedScaffold.server (c.planOf u).types] ∧
      ∀ q ∈ middle, q.kind ≠ .controllerMeta ∧ q.kind ≠ .server := by
  refine ⟨c.sharedScaffold.middleware ::
    (c.plannedTypes u).flatMap fun t : Declaration × Scaffold =>
      [t.2.typeController t.1, t.2.typeService t.1], packages_eq_of_types h, ?_⟩
  refine List.forall_mem_cons.2 ⟨⟨nofun, nofun⟩, fun q hq => ?_⟩
  obtain ⟨t, -, ht⟩ := List.mem_flatMap.1 hq
  simp only [List.mem_cons, List.not_mem_nil, or_false] at ht
  rcases ht with rfl | rfl
  · exact ⟨nofun, nofun⟩
  · exact ⟨nofun, nofun⟩

/-- The options of the controllers come first. -/
theorem kind_eq_controllerMeta_iff {i : Nat} {q : Package}
    (hq : (c.planOf u).packages[i]? = some q) : q.kind = .controllerMeta ↔ i = 0 := by
  obtain ⟨middle, hPackages, hMiddle⟩ :=
    packages_planOf (types_ne_nil_of_mem (List.mem_of_getElem? hq))
  rw [hPackages] at hq
  cases i with
  | zero =>
    obtain rfl := Option.some.inj hq
    exact iff_of_true rfl rfl
  | succ i =>
    refine iff_of_false ?_ (Nat.succ_ne_zero i)
    have hMem := List.mem_of_getElem? (l := _ :: middle ++ _) (i := i) hq
    simp only [List.cons_append, List.mem_cons, List.mem_append, List.not_mem_nil, or_false] at hMem
    rcases hMem with rfl | hMem | rfl
    · exact nofun
    · exact (hMiddle q hMem).1
    · exact nofun

/-- The server comes last. -/
theorem packages_eq_of_server {i : Nat} {q : Package} (hq : (c.planOf u).packages[i]? = some q)
    (hKind : q.kind = .server) :
    (c.planOf u).packages = (c.planOf u).packages.take i ++ [q] := by
  obtain ⟨middle, hPackages, hMiddle⟩ :=
    packages_planOf (types_ne_nil_of_mem (List.mem_of_getElem? hq))
  rw [hPackages] at hq ⊢
  rcases Nat.lt_or_ge i (c.sharedScaffold.controllerMeta ::
    c.sharedScaffold.serviceInterfaceOf (c.planOf u).types :: middle).length with hLt | hGe
  · rw [List.getElem?_append_left hLt] at hq
    have hMem := List.mem_of_getElem? hq
    simp only [List.mem_cons] at hMem
    rcases hMem with rfl | rfl | hMem
    · cases hKind
    · cases hKind
    · exact absurd hKind (hMiddle q hMem).2
  · rw [List.getElem?_append_right hGe] at hq
    obtain ⟨hIndex, hServer⟩ := List.getElem?_eq_some_iff.1 hq
    have hLast : i = (c.sharedScaffold.controllerMeta ::
        c.sharedScaffold.serviceInterfaceOf (c.planOf u).types :: middle).length := by
      rw [List.length_singleton] at hIndex
      omega
    rw [List.getElem_singleton] at hServer
    rw [hLast, List.take_left' rfl, hServer]

/-- A directory that files of a kind import belongs to a package further in front, or it is the one
of the service, which the options of the controllers import. -/
theorem front_of_directory {i : Nat} {q : Package} (hq : (c.planOf u).packages[i]? = some q)
    (hServer : q.kind ≠ .server) {dir path : Text} (hDir : dir ∈ q.kind.directories)
    (hPath : path = c.sharedScaffold.path dir) :
    path ∈ ((c.planOf u).packages.take i).map (·.path) ∨ i = 0 ∧ q.kind = .controllerMeta ∧
      (c.planOf u).packages[1]?.map (fun r => (r.kind, r.path)) =
        some (.serviceInterface, path) := by
  have hFirst := kind_eq_controllerMeta_iff hq
  obtain ⟨middle, hPackages, -⟩ :=
    packages_planOf (types_ne_nil_of_mem (List.mem_of_getElem? hq))
  -- Behind the first package, what the controllers share has been listed.
  have hController : q.kind ≠ .controllerMeta → dir = Scaffold.controllerDir →
      path ∈ ((c.planOf u).packages.take i).map (·.path) := by
    intro hKind hDir
    obtain ⟨j, rfl⟩ := Nat.exists_eq_succ_of_ne_zero (mt hFirst.2 hKind)
    rw [hPackages, hPath, hDir]
    exact List.mem_cons_self
  cases hKind : q.kind with
  | controllerMeta =>
    rw [hKind] at hDir
    refine Or.inr ⟨hFirst.1 hKind, rfl, ?_⟩
    rw [hPackages, hPath, List.mem_singleton.1 hDir]
    rfl
  | middleware | typeController =>
    rw [hKind] at hDir
    exact Or.inl (hController (by rw [hKind]; nofun) (List.mem_singleton.1 hDir))
  | serviceInterface | typeService =>
    rw [hKind] at hDir
    cases hDir
  | server => exact absurd hKind hServer

/-- **The options of the controllers are in front of the service that they name.** -/
theorem not_importsInOrder (h : (c.planOf u).types ≠ []) (hQuote : quote ∉ c.outputPackage)
    (hHead : c.outputPackage.head?.any isBlank = false) :
    ¬ (c.planOf u).ImportsInOrder := by
  intro hOrder
  obtain ⟨middle, hPackages, -⟩ := packages_planOf h
  let s := c.sharedScaffold
  have hFirst : (c.planOf u).packages[0]? = some s.controllerMeta := by rw [hPackages]; rfl
  have hMem := List.mem_of_getElem? hFirst
  obtain ⟨g, hg, hEntry⟩ : ∃ g ∈ s.controllerMeta.generators,
      s.path Scaffold.serviceDir ∈ g.imports := ⟨_, List.mem_cons_self, List.mem_cons_self⟩
  obtain ⟨d, -, -, -, hImports, hSound, -⟩ := exists_written hMem hg
  have hLine : quoted (s.path Scaffold.serviceDir) ∈ (g.written (c.planOf u).types).imports := by
    rw [hImports, ImportTable.mem_merge_lines hSound]
    exact Or.inl ⟨_, hEntry, Scaffold.isSubdirectory_serviceDir.isBare.isBlankText_eq,
      Scaffold.isSubdirectory_serviceDir.normalize_path hQuote hHead⟩
  have hPlanned : s.path Scaffold.serviceDir ∈ (c.planOf u).packages.map (·.path) := by
    rw [hPackages]
    exact List.mem_cons_of_mem _ List.mem_cons_self
  have hNe : s.path Scaffold.serviceDir ≠ s.controllerMeta.path := by
    have hNodup := s.path_dirs_nodup
    exact fun hEq => (List.nodup_cons.1 hNodup).1 (hEq ▸ List.mem_cons_self)
  exact absurd (hOrder 0 _ hFirst g hg _ hLine _ _ (Or.inl ⟨rfl, rfl⟩) hPlanned hNe)
    List.not_mem_nil

end PlanConfig

/-- **Packages are listed behind those they import, but for the options of the controllers.** A path
of the plan that a package imports is that of a package further in front; or it is the path of the
service, whose interface comes second, and the options of the controllers, which come first, import
it; or it is imported on behalf of a type whose own package has the path of a generated one. The
exception is there in every plan with types, unless the output package has quotes or begins with a
blank, so that the lines for its paths do not bind these paths. -/
theorem Plan.imports_behind_but_service {c : PlanConfig} {u : Universe} {p : Plan}
    (h : ofUniverse c u = .ok p) :
    (∀ i q, p.packages[i]? = some q → ∀ g ∈ q.generators,
      ∀ line ∈ (g.written p.types).imports, ∀ name path, Binds line name path →
        path ∈ p.packages.map (·.path) → path ≠ q.path →
          path ∈ (p.packages.take i).map (·.path) ∨
          (i = 0 ∧ q.kind = .controllerMeta ∧
            p.packages[1]?.map (fun r => (r.kind, r.path)) = some (.serviceInterface, path)) ∨
          ∃ d ∈ p.types, d.name.package = path) ∧
      (p.types ≠ [] → quote ∉ c.outputPackage → c.outputPackage.head?.any isBlank = false →
        ¬ p.ImportsInOrder) := by
  obtain ⟨-, hAdmits, rfl⟩ := PlanConfig.ofUniverse_eq_ok_iff_admits.1 h
  refine ⟨fun i q hq g hg line hLine name path hBinds hPath hNe => ?_,
    PlanConfig.not_importsInOrder⟩
  have hMem := List.mem_of_getElem? hq
  rcases PlanConfig.import_cases hMem hg hLine with ⟨e, he, rfl⟩ | ⟨d, hd, hPackage⟩
  · by_cases hServer : q.kind = .server
    · rw [PlanConfig.packages_eq_of_server hq hServer, List.map_append, List.mem_append] at hPath
      exact Or.inl (hPath.resolve_right fun hEq => hNe (List.mem_singleton.1 hEq))
    · obtain ⟨r, hr, rfl⟩ := List.mem_map.1 hPath
      obtain ⟨dir, hDir, hEq⟩ := PlanConfig.exists_directory hMem hServer hg he
        (Or.inr ⟨name, hBinds⟩)
        (PlanConfig.prefix_path_planOf r hr)
      exact (PlanConfig.front_of_directory hq hServer hDir hEq).imp_right Or.inl
  · exact Or.inr (Or.inr ⟨d, hd, hPackage name path hBinds⟩)

/-- With types of two packages outside of the tree, only the first package is out of order. -/
theorem Plan.imports_behind_but_service_podsAndNodes : ∃ p,
    ofUniverse { outputPackage := "out" } Universe.podsAndNodes = .ok p ∧ ¬ p.ImportsInOrder ∧
      ∀ i q, p.packages[i + 1]? = some q → ∀ g ∈ q.generators,
        ∀ line ∈ (g.written p.types).imports, ∀ name path, Binds line name path →
          path ∈ p.packages.map (·.path) → path ≠ q.path →
            path ∈ (p.packages.take (i + 1)).map (·.path) := by
  let c : PlanConfig := { outputPackage := "out" }
  have hPlan : ofUniverse c Universe.podsAndNodes = .ok (c.planOf Universe.podsAndNodes) :=
    PlanConfig.Admits.ofUniverse_eq (by decide +kernel) (by decide +kernel)
  have hOutside : ∀ d ∈ c.selectedIn Universe.podsAndNodes,
      ¬ c.sharedScaffold.path Scaffold.serverDir <+: d.name.package := by decide +kernel
  obtain ⟨hBehind, hNot⟩ := imports_behind_but_service hPlan
  have hTypes := PlanConfig.types_planOf_ne_nil
    (show c.selectedIn Universe.podsAndNodes ≠ [] by decide +kernel)
  refine ⟨_, hPlan, hNot hTypes (by decide) (by decide), ?_⟩
  intro i q hq g hg line hLine name path hBinds hPath hNe
  rcases hBehind _ q hq g hg line hLine name path hBinds hPath hNe with
    hFront | ⟨hZero, -⟩ | ⟨d, hd, rfl⟩
  · exact hFront
  · exact absurd hZero (Nat.succ_ne_zero i)
  · exact absurd hPath (PlanConfig.package_not_mem_paths hOutside d hd)

/-- **The plan for one type is not in order.** -/
theorem Plan.not_importsInOrder_pods : ∃ p,
    ofUniverse { outputPackage := "out" } Universe.pods = .ok p ∧ ¬ p.ImportsInOrder := by
  let c : PlanConfig := { outputPackage := "out" }
  have hTypes := PlanConfig.types_planOf_ne_nil
    (show c.selectedIn Universe.pods ≠ [] by decide +kernel)
  exact ⟨c.planOf Universe.pods,
    PlanConfig.Admits.ofUniverse_eq (by decide +kernel) (by decide +kernel),
    PlanConfig.not_importsInOrder hTypes (by decide) (by decide)⟩

end RestScaffold
