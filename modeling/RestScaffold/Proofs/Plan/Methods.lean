import RestScaffold.Proofs.Plan.Imports
import RestScaffold.Proofs.Plan.SourceOrder
import RestScaffold.Proofs.Scaffold.Methods

/-!
# The methods of the service in a plan

The interface of the service, the methods of a type and the handlers that call them stand in three
files of a plan, and each file has its own import lines and so its own name for the package of a
type. This module says that the three agree.

* `PlanConfig.exists_calls`: a generated file calls the types that it writes in raw form by names
  that its import lines bind;
* `PlanConfig.exists_interfaceFile`, `exists_serviceFile` and `exists_controllerFile`: the three
  files;
* `Plan.service_signatures_agree`: the same for whole plans.
-/

namespace RestScaffold

open ImportLine Text

/-! ## What files call types -/

/-- What a file calls a type: its base name when it has no package or that of the file, else the
base name behind a name that an import line of the file binds to its package. -/
def RenderedFile.Calls (f : RenderedFile) (n : TypeName) (raw : Text) : Prop :=
  if n.package = [] ∨ n.package = f.packagePath then raw = n.base
  else ∃ name, (∃ line ∈ f.imports, Binds line name n.package) ∧ raw = name ++ "." ++ n.base

theorem Package.packagePath_generatedFile (q : Package) (g : Generator) (s : Source) :
    (q.generatedFile g s).packagePath = q.path := rfl

namespace Generator

variable {g : Generator} {d : Declaration} {n : TypeName} {raw name : Text}

theorem canCall_of_eq (h : g.scope.fixedName? (g.table .dollar d).names n .raw = some raw) :
    g.CanCall d n ∧ g.rawText d n = raw := by
  have hRaw : g.rawText d n = raw := by
    rw [rawText, h]
    rfl
  exact ⟨h.trans (congrArg some hRaw.symm), hRaw⟩

/-- A type without a package, or of the package of the file, has its base name. -/
theorem canCall_of_isLocal (h : g.scope.isLocal n.package = true) :
    g.CanCall d n ∧ g.rawText d n = n.base := by
  apply canCall_of_eq
  rw [NameScope.fixedName?, if_pos h]

/-- Another type has its base name behind the name that the table has for its package. -/
theorem canCall_of_get? (h : ¬ g.scope.isLocal n.package = true)
    (hGet : (g.table .dollar d).names.get? n.package = some name) :
    g.CanCall d n ∧ g.rawText d n = name ++ "." ++ n.base := by
  apply canCall_of_eq
  rw [NameScope.fixedName?, if_neg h, hGet]
  rfl

end Generator

namespace PlanConfig

variable {c : PlanConfig} {u : Universe}

/-- **A file of a plan has names for the types that it writes in raw form.** -/
theorem exists_calls {q : Package} (hq : q ∈ (c.planOf u).packages) {g : Generator}
    (hg : g ∈ q.generators) :
    ∃ d ∈ (c.planOf u).types, g.generate d = .ok (g.written (c.planOf u).types) ∧
      (g.trigger = .once ∧ (c.planOf u).types.head? = some d ∨ g.trigger = .forType d.name) ∧
      ∀ e ∈ q.kind.rawTypes (c.planOf u).types d, g.CanCall d e.name ∧
        (q.generatedFile g (g.written (c.planOf u).types)).Calls e.name (g.rawText d e.name) := by
  obtain ⟨d, hd, hGenerate, hFires, hImports, hSound, hTable⟩ := exists_written hq hg
  have hLocal : g.scope.localPackage = q.path := (c.ready_planOf u q hq).located g hg
  refine ⟨d, hd, hGenerate, hFires, fun e he => ?_⟩
  by_cases hHere : g.scope.isLocal e.name.package = true
  · obtain ⟨hCall, hRaw⟩ := Generator.canCall_of_isLocal (d := d) hHere
    refine ⟨hCall, ?_⟩
    rw [NameScope.isLocal, hLocal, Bool.or_eq_true, decide_eq_true_eq, decide_eq_true_eq] at hHere
    rw [RenderedFile.Calls, Package.packagePath_generatedFile, if_pos hHere]
    exact hRaw
  · have hAway := NameScope.isLocal_eq_false_iff.1 (Bool.eq_false_iff.2 hHere)
    rw [hLocal] at hAway
    obtain ⟨name, hGet⟩ := Option.isSome_iff_exists.1
      ((hTable e.name.package).2 ⟨hAway.1, hAway.2, e, he, rfl⟩)
    obtain ⟨hCall, hRaw⟩ := Generator.canCall_of_get? hHere hGet
    refine ⟨hCall, ?_⟩
    rw [RenderedFile.Calls, Package.packagePath_generatedFile, if_neg (not_or.2 hAway)]
    refine ⟨name, ⟨bind e.name.package name, ?_, hSound.binds_bind hGet⟩, hRaw⟩
    show _ ∈ merge (g.written (c.planOf u).types).imports
    rw [hImports, mem_merge_merge]
    exact (ImportTable.mem_merge_lines hSound).2 (Or.inr ⟨_, _, hGet, rfl⟩)

/-- What a generator of a package writes is a file of the plan. -/
theorem generatedFile_mem {q : Package} (hq : q ∈ (c.planOf u).packages) {g : Generator}
    (hg : g ∈ q.generators) : q.generatedFile g (g.written (c.planOf u).types) ∈
      (c.planOf u).packages.flatMap (·.files (c.planOf u).types) :=
  List.mem_flatMap.2 ⟨q, hq, List.mem_append_right _ (List.mem_map_of_mem hg)⟩

/-- **The file of the interface** has the signatures of all types. -/
theorem exists_interfaceFile (hTypes : (c.planOf u).types ≠ []) :
    ∃ f ∈ (c.planOf u).packages.flatMap (·.files (c.planOf u).types),
      f.packagePath = c.sharedScaffold.path Scaffold.serviceDir ∧ f.stem = ("interface" : Text) ∧
      ∃ rawOf, f.body = Scaffold.interfaceBody (c.planOf u).types rawOf ∧
        ∀ d ∈ (c.planOf u).types, f.Calls d.name (rawOf d) := by
  let service := c.sharedScaffold.serviceInterfaceOf (c.planOf u).types
  have hq : service ∈ (c.planOf u).packages := by
    rw [packages_eq_of_types hTypes]
    exact List.mem_append_left _ (List.mem_append_left _ (List.mem_cons_of_mem _ List.mem_cons_self))
  obtain ⟨g, hg, hStem⟩ : ∃ g ∈ service.generators, g.id.stem = ("interface" : Text) :=
    ⟨_, List.mem_cons_self, rfl⟩
  obtain ⟨d, -, hGenerate, -, hCalls⟩ := exists_calls hq hg
  exact ⟨_, generatedFile_mem hq hg, rfl, hStem, fun e => g.rawText d e.name,
    c.sharedScaffold.body_serviceInterfaceOf hg hGenerate fun e he => (hCalls e he).1,
    fun e he => (hCalls e he).2⟩

/-- The file of a generator that waits for a type is written for a type of this name. -/
theorem name_eq_of_fires {types : List Declaration} {g : Generator} {d e : Declaration}
    (hTrigger : g.trigger = .forType d.name)
    (hFires : g.trigger = .once ∧ types.head? = some e ∨ g.trigger = .forType e.name) :
    e.name = d.name := by
  rw [hTrigger] at hFires
  rcases hFires with ⟨hOnce, -⟩ | hName
  · cases hOnce
  · exact (Trigger.forType.inj hName).symm

/-- **The file of the methods of a type** has them with the signatures of the interface. -/
theorem exists_serviceFile {d : Declaration} (hd : d ∈ (c.planOf u).types) :
    ∃ f ∈ (c.planOf u).packages.flatMap (·.files (c.planOf u).types),
      f.packagePath = c.sharedScaffold.path Scaffold.serviceDir ∧ f.stem = d.stem ∧
      ∃ raw, f.Calls d.name raw ∧ ∀ m : ServiceMethod,
        ("func (s *service) " ++ m.signature d.name raw ++ " \x7b" : Text) <:+: f.body := by
  obtain ⟨t, ht, rfl, -, hq⟩ := exists_packages_of_type hd
  obtain ⟨g, hg, hStem, hTrigger⟩ : ∃ g ∈ (t.2.typeService t.1).generators,
      g.id.stem = t.1.stem ∧ g.trigger = .forType t.1.name := ⟨_, List.mem_cons_self, rfl, rfl⟩
  obtain ⟨e, -, hGenerate, hFires, hCalls⟩ := exists_calls hq hg
  have hName := name_eq_of_fires hTrigger hFires
  obtain ⟨hCall, hFile⟩ := hCalls e List.mem_cons_self
  refine ⟨_, generatedFile_mem hq hg, (path_of_mem_plannedTypes ht).1 _, hStem,
    g.rawText e e.name, hName ▸ hFile, fun m => ?_⟩
  rw [← hName]
  exact t.2.signature_infix_body hg hGenerate hCall m

/-- **The file of the controller of a type** calls its methods. -/
theorem exists_controllerFile {d : Declaration} (hd : d ∈ (c.planOf u).types) :
    ∃ f ∈ (c.planOf u).packages.flatMap (·.files (c.planOf u).types),
      f.packagePath = c.sharedScaffold.controllerPath d ∧ f.stem = d.stem ∧
      ∀ m : ServiceMethod,
        ("c.opt.Service." ++ m.verb ++ capitalize d.name.base ++ "(" : Text) <:+: f.body := by
  obtain ⟨t, ht, rfl, hq, -⟩ := exists_packages_of_type hd
  obtain ⟨g, hg, hStem, hTrigger⟩ : ∃ g ∈ (t.2.typeController t.1).generators,
      g.id.stem = t.1.stem ∧ g.trigger = .forType t.1.name := ⟨_, List.mem_cons_self, rfl, rfl⟩
  obtain ⟨e, -, hGenerate, hFires, hCalls⟩ := exists_calls hq hg
  have hName := name_eq_of_fires hTrigger hFires
  obtain ⟨hCall, -⟩ := hCalls e List.mem_cons_self
  refine ⟨_, generatedFile_mem hq hg, (path_of_mem_plannedTypes ht).2 _, hStem, fun m => ?_⟩
  rw [← hName]
  exact t.2.call_infix_body hg hGenerate hCall m

end PlanConfig

/-! ## The files agree -/

/-- **The interface of the service, its methods and their callers agree.** A plan renders to files
in different places. The interface lists the signatures of the four methods for each type, in order;
the service file of a type has the methods with these signatures, and the file of its controller
calls them. The interface and the service file each call the type by its base name if it has no
package or that of the service, and else by a name that one of their import lines binds to the
package of the type. -/
theorem Plan.service_signatures_agree {c : PlanConfig} {u : Universe} {p : Plan}
    (h : ofUniverse c u = .ok p) :
    ∃ files, p.render = .ok files ∧ (files.map fun f => (f.packagePath, f.stem)).Nodup ∧
      (p.types ≠ [] → ∃ f ∈ files,
        f.packagePath = c.sharedScaffold.path Scaffold.serviceDir ∧
        f.stem = ("interface" : Text) ∧
        ∃ rawOf, f.body = Scaffold.interfaceBody p.types rawOf ∧
          ∀ d ∈ p.types, f.Calls d.name (rawOf d)) ∧
      ∀ d ∈ p.types,
        (∃ f ∈ files, f.packagePath = c.sharedScaffold.path Scaffold.serviceDir ∧
          f.stem = d.stem ∧ ∃ raw, f.Calls d.name raw ∧ ∀ m : ServiceMethod,
            ("func (s *service) " ++ m.signature d.name raw ++ " \x7b" : Text) <:+: f.body) ∧
        ∃ f ∈ files, f.packagePath = c.sharedScaffold.controllerPath d ∧ f.stem = d.stem ∧
          ∀ m : ServiceMethod,
            ("c.opt.Service." ++ m.verb ++ capitalize d.name.base ++ "(" : Text) <:+: f.body := by
  obtain ⟨-, hAdmits, rfl⟩ := PlanConfig.ofUniverse_eq_ok_iff_admits.1 h
  refine ⟨_, hAdmits.render_planOf, ?_, PlanConfig.exists_interfaceFile,
    fun d hd => ⟨PlanConfig.exists_serviceFile hd, PlanConfig.exists_controllerFile hd⟩⟩
  rw [map_place_files]
  exact PlanConfig.outputs_nodup_iff.2 ⟨hAdmits.placeable, hAdmits.distinct⟩

/-- The interface for the pods and the nodes lists both, the package of the nodes by a name of its
own. -/
theorem Plan.service_signatures_agree_podsAndNodes : ∃ p files,
    ofUniverse { outputPackage := "out" } Universe.podsAndNodes = .ok p ∧ p.render = .ok files ∧
      .pod ∈ p.types ∧ ∃ f ∈ files, ∃ rawOf, f.body = Scaffold.interfaceBody p.types rawOf ∧
        ∃ name, (∃ line ∈ f.imports, Binds line name "a/v1") ∧
          rawOf .pod = (name ++ "." ++ "Pod" : Text) := by
  let c : PlanConfig := { outputPackage := "out" }
  have hPlan : ofUniverse c Universe.podsAndNodes = .ok (c.planOf Universe.podsAndNodes) :=
    PlanConfig.Admits.ofUniverse_eq (by decide +kernel) (by decide +kernel)
  have hPod : Declaration.pod ∈ (c.planOf Universe.podsAndNodes).types :=
    PlanConfig.mem_types_planOf.2 (by decide +kernel)
  obtain ⟨files, hRender, -, hInterface, -⟩ := service_signatures_agree hPlan
  obtain ⟨f, hf, hPath, -, rawOf, hBody, hCalls⟩ := hInterface (List.ne_nil_of_mem hPod)
  have hPodCalls := hCalls .pod hPod
  rw [RenderedFile.Calls, if_neg (hPath ▸ by decide +kernel)] at hPodCalls
  exact ⟨_, files, hPlan, hRender, hPod, f, hf, rawOf, hBody, hPodCalls⟩

/-- A type like the pod that has no package. -/
def Declaration.barePod : Declaration := { pod with name := ⟨[], "Pod"⟩ }

/-- The universe of this type. -/
def Universe.barePods : Universe := [{ path := [], types := [.barePod] }]

/-- Interfaces that list one type differ when they call it by names of different lengths. -/
theorem Scaffold.length_eq_of_interfaceBody {d : Declaration} {rawOf rawOf' : Declaration → Text}
    (h : interfaceBody [d] rawOf = interfaceBody [d] rawOf') :
    (rawOf d).length = (rawOf' d).length := by
  have hLength := congrArg List.length h
  simp only [interfaceBody, interfaceLines, ServiceMethod.all, ServiceMethod.signature,
    ServiceMethod.signatureOf, List.flatMap_cons, List.flatMap_nil, List.length_append,
    List.length_cons, List.length_nil, id] at hLength
  omega

/-- **A type without a package is called by its base name,** though it is not of the package of the
service and no import line is there for it. -/
theorem Plan.exists_bare_name : ∃ p files,
    ofUniverse { outputPackage := "out" } Universe.barePods = .ok p ∧ p.render = .ok files ∧
      ∃ f ∈ files, ∃ d ∈ p.types, f.packagePath = ("out/server/service" : Text) ∧
        f.stem = ("interface" : Text) ∧ d.name.package ≠ f.packagePath ∧
        (∃ rawOf, f.body = Scaffold.interfaceBody p.types rawOf) ∧
        ∀ rawOf, f.body = Scaffold.interfaceBody p.types rawOf →
          ¬ ∃ name, (∃ line ∈ f.imports, Binds line name d.name.package) ∧
            rawOf d = name ++ "." ++ d.name.base := by
  let c : PlanConfig := { outputPackage := "out" }
  have hAdmits : c.Admits Universe.barePods := by decide +kernel
  have hTypes : (c.planOf Universe.barePods).types = [.barePod] := by
    apply List.perm_singleton.1
    refine (c.types_perm _).trans (.of_eq ?_)
    decide +kernel
  have hPod : Declaration.barePod ∈ (c.planOf Universe.barePods).types := by
    rw [hTypes]
    exact List.mem_cons_self
  obtain ⟨f, hf, hPath, hStem, rawOf, hBody, hCalls⟩ :=
    PlanConfig.exists_interfaceFile (List.ne_nil_of_mem hPod)
  have hService : c.sharedScaffold.path Scaffold.serviceDir = "out/server/service".toList := by
    decide +kernel
  refine ⟨_, _, hAdmits.ofUniverse_eq (by decide +kernel), hAdmits.render_planOf, f, hf, .barePod,
    hPod, hPath.trans hService, hStem, ?_, ⟨rawOf, hBody⟩, ?_⟩
  · rw [hPath, hService]
    decide
  · rintro rawOf' hBody' ⟨name, -, hName⟩
    have hNoPackage : Declaration.barePod.name.package = [] := rfl
    have hBare : rawOf .barePod = ("Pod" : Text) := by
      have hPodCalls := hCalls _ hPod
      rwa [RenderedFile.Calls, if_pos (Or.inl hNoPackage)] at hPodCalls
    rw [hTypes] at hBody hBody'
    have hLength := Scaffold.length_eq_of_interfaceBody (hBody.symm.trans hBody')
    rw [hName, hBare] at hLength
    simp [Declaration.barePod] at hLength

end RestScaffold
