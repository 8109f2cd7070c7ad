import RestScaffold.Plan.Basic
import RestScaffold.Proofs.Scaffold.Templates

/-!
# The packages of the scaffold

What a plan relies on in the packages that it is made of, whatever the types are called:

* `PlanConfig.checkOrder_packagesOf`: no snippet uses a symbol too early;
* `PlanConfig.packagesOf_ready`: each generator belongs to the package that it stands in, waits for
  any type or for a planned one, and writes a source for every type that it is offered.

`PlanConfig.forall_packagesOf` is the case analysis behind both: a plan has packages of six kinds.
-/

namespace RestScaffold

/-! ## Symbols in order -/

namespace Generator

/-- Each snippet uses symbols only that are known or introduced up to it. -/
def InOrder (known : List Text) : List Snippet → Prop
  | [] => True
  | s :: rest =>
    (∀ symbol ∈ s.uses, symbol ∈ s.introduces ++ known) ∧ InOrder (s.introduces ++ known) rest

theorem checkOrderFrom_of_inOrder {known : List Text} {snippets : List Snippet}
    (h : InOrder known snippets) : checkOrderFrom known snippets = .ok () := by
  induction snippets generalizing known with
  | nil => rfl
  | cons s rest ih =>
    obtain ⟨hUses, hRest⟩ := h
    have hNone : s.uses.find? (fun symbol => !(s.introduces ++ known).contains symbol) = none := by
      rw [List.find?_eq_none]
      intro symbol hSymbol
      rw [List.contains_iff_mem.2 (hUses symbol hSymbol)]
      decide
    simp only [checkOrderFrom, hNone]
    exact ih hRest

end Generator

namespace Scaffold

variable (s : Scaffold)

theorem checkOrder_controllerMeta : ∀ g ∈ s.controllerMeta.generators, g.checkOrder = .ok () := by
  refine List.forall_mem_cons.2 ⟨?_, List.forall_mem_singleton.2 ?_⟩
  · apply Generator.checkOrderFrom_of_inOrder
    simp [Generator.InOrder]
  · apply Generator.checkOrderFrom_of_inOrder
    simp [Generator.InOrder]

theorem checkOrder_serviceInterfaceOf (types : List Declaration) :
    ∀ g ∈ (s.serviceInterfaceOf types).generators, g.checkOrder = .ok () := by
  refine List.forall_mem_singleton.2 ?_
  apply Generator.checkOrderFrom_of_inOrder
  simp [Generator.InOrder]

theorem checkOrder_middleware : ∀ g ∈ s.middleware.generators, g.checkOrder = .ok () := by
  refine List.forall_mem_singleton.2 ?_
  apply Generator.checkOrderFrom_of_inOrder
  simp [Generator.InOrder]

theorem checkOrder_typeController (d : Declaration) :
    ∀ g ∈ (s.typeController d).generators, g.checkOrder = .ok () := by
  refine List.forall_mem_singleton.2 ?_
  apply Generator.checkOrderFrom_of_inOrder
  simp [Generator.InOrder]

theorem checkOrder_typeService (d : Declaration) :
    ∀ g ∈ (s.typeService d).generators, g.checkOrder = .ok () := by
  refine List.forall_mem_singleton.2 ?_
  apply Generator.checkOrderFrom_of_inOrder
  simp [Generator.InOrder]

/-- The names of the controllers' packages are the only symbols that depend on the types, and the
server declares each of them before it uses it. -/
theorem checkOrder_server (types : List Declaration) :
    ∀ g ∈ (s.server types).generators, g.checkOrder = .ok () := by
  refine List.forall_mem_singleton.2 ?_
  apply Generator.checkOrderFrom_of_inOrder
  refine ⟨by simp, by simp, by simp, ?_, by simp, by simp, trivial⟩
  intro symbol hSymbol
  rcases List.mem_append.1 hSymbol with hFixed | hAlias
  · clear hSymbol
    revert symbol
    simp
  · simp only [List.mem_append, hAlias, or_true]

end Scaffold

/-! ## Generators that can run -/

/-- What a run relies on in a package for the types of its plan. -/
structure Package.Ready (p : Package) (types : List Declaration) : Prop where
  located : ∀ g ∈ p.generators, g.id.package = p.path
  triggered : ∀ g ∈ p.generators, g.trigger = .once ∨ ∃ d ∈ types, g.trigger = .forType d.name
  renders : ∀ g ∈ p.generators, ∀ d, ∃ s, g.generate d = .ok s

theorem Generator.accepted_of_bodies {g : Generator} {kinds : Kinds} (bodies : List Text)
    (h : ∀ s ∈ bodies, kinds.accepts s = true) (hBodies : ∀ s ∈ g.snippets, s.body ∈ bodies) :
    g.Accepted kinds := fun s hs => h s.body (hBodies s hs)

theorem Kinds.accepts_mono {a b : Kinds} (h : a.Within b) {s : Text} (hs : a.accepts s = true) :
    b.accepts s = true := by
  obtain ⟨block, hBlock, hTyped⟩ := exists_of_accepts hs
  unfold accepts
  rw [hBlock]
  exact Block.wellTyped_mono h hTyped

/-- The bindings say what the routes show: a group and a version. -/
structure Bindings.BindRoutes (vars : Bindings) (gv : Text × Text) : Prop where
  group : vars.get? ("group" : Text) = some (.scalar gv.1)
  version : vars.get? ("version" : Text) = some (.scalar gv.2)

namespace Scaffold

/-! ### The keys that generators bind -/

theorem sharedKinds_within (vars : Bindings) : sharedKinds.Within vars.kinds := by
  intro key kind h
  cases h

theorem listingKinds_within {g : Generator} {vars : Bindings} {types : List Declaration}
    (hVars : g.vars = vars.insert "types" (.types types)) (hContext : g.contextKey = none)
    (d : Declaration) : listingKinds.Within (g.bindings d).kinds := by
  intro key kind h
  unfold listingKinds at h
  split at h
  · next hKey =>
    rw [Generator.bindings, hContext, Bindings.kinds, hVars, TextMap.get?_insert, if_pos hKey]
    exact h
  · cases h

theorem typeKinds_within {g : Generator} (hContext : g.contextKey = some ("type" : Text))
    (d : Declaration) : typeKinds.Within (g.bindings d).kinds := by
  intro key kind h
  unfold typeKinds at h
  split at h
  · next hKey =>
    rw [Generator.bindings, hContext, Bindings.kinds, TextMap.get?_insert, if_pos hKey]
    exact h
  · cases h

theorem routeKinds_within {g : Generator} {gv : Text × Text} (hVars : g.vars.BindRoutes gv)
    (hContext : g.contextKey = some ("type" : Text)) (d : Declaration) :
    routeKinds.Within (g.bindings d).kinds := by
  intro key kind h
  rw [Generator.bindings, hContext, Bindings.kinds, TextMap.get?_insert]
  unfold routeKinds at h
  split at h
  · next hKey => rw [if_pos hKey]; exact h
  · next hKey =>
    rw [if_neg hKey]
    split at h
    · next hScalar =>
      rcases hScalar with rfl | rfl
      · rw [hVars.group]; exact h
      · rw [hVars.version]; exact h
    · cases h

variable (s : Scaffold)

/-! ### The packages one by one -/

theorem accepted_controllerMeta : ∀ g ∈ s.controllerMeta.generators, g.Accepted sharedKinds := by
  refine List.forall_mem_cons.2 ⟨?_, List.forall_mem_singleton.2 ?_⟩
  · exact Generator.accepted_of_bodies _ sharedTemplates_accepted (by simp)
  · exact Generator.accepted_of_bodies _ sharedTemplates_accepted (by simp)

theorem accepted_middleware : ∀ g ∈ s.middleware.generators, g.Accepted sharedKinds := by
  refine List.forall_mem_singleton.2 ?_
  exact Generator.accepted_of_bodies _ sharedTemplates_accepted (by simp)

theorem accepted_serviceInterfaceOf (types : List Declaration) :
    ∀ g ∈ (s.serviceInterfaceOf types).generators, g.Accepted listingKinds := by
  refine List.forall_mem_singleton.2 ?_
  exact Generator.accepted_of_bodies _ interfaceTemplates_accepted (by simp)

theorem accepted_server (types : List Declaration) :
    ∀ g ∈ (s.server types).generators, g.Accepted listingKinds := by
  refine List.forall_mem_singleton.2 ?_
  exact Generator.accepted_of_bodies _ serverTemplates_accepted (by simp)

theorem accepted_typeService (d : Declaration) :
    ∀ g ∈ (s.typeService d).generators, g.Accepted typeKinds := by
  refine List.forall_mem_singleton.2 ?_
  exact Generator.accepted_of_bodies _ methodTemplates_accepted (by simp)

theorem accepted_typeController (d : Declaration) :
    ∀ g ∈ (s.typeController d).generators, g.Accepted routeKinds := by
  refine List.forall_mem_singleton.2 ?_
  refine Generator.accepted_of_bodies (registerRoutes :: [controllerStruct, newController,
    createHandler, getHandler, updateHandler, deleteHandler]) ?_ (by simp)
  intro body hBody
  rcases List.mem_cons.1 hBody with rfl | hBody
  · exact registerRoutes_accepted.1
  · exact Kinds.accepts_mono typeKinds_within_routeKinds (controllerTemplates_accepted body hBody)

theorem controllerMeta_ready (types : List Declaration) : s.controllerMeta.Ready types where
  located := by simp [controllerMeta, sharedGenerator]
  triggered := by simp [controllerMeta, sharedGenerator]
  renders g hg _ :=
    Generator.generate_succeeds (s.accepted_controllerMeta g hg) (sharedKinds_within _)

theorem middleware_ready (types : List Declaration) : s.middleware.Ready types where
  located := by simp [middleware, sharedGenerator]
  triggered := by simp [middleware, sharedGenerator]
  renders g hg _ := Generator.generate_succeeds (s.accepted_middleware g hg) (sharedKinds_within _)

theorem serviceInterfaceOf_ready (listed types : List Declaration) :
    (s.serviceInterfaceOf listed).Ready types where
  located := by simp [serviceInterfaceOf, listingGenerator]
  triggered := by simp [serviceInterfaceOf, listingGenerator]
  renders := List.forall_mem_singleton.2 fun d =>
    Generator.generate_succeeds (s.accepted_serviceInterfaceOf listed _ List.mem_cons_self)
      (listingKinds_within rfl rfl d)

theorem server_ready (listed types : List Declaration) : (s.server listed).Ready types where
  located := by simp [server, listingGenerator]
  triggered := by simp [server, listingGenerator]
  renders := List.forall_mem_singleton.2 fun d =>
    Generator.generate_succeeds (s.accepted_server listed _ List.mem_cons_self)
      (listingKinds_within rfl rfl d)

theorem typeService_ready {d : Declaration} {types : List Declaration} (hd : d ∈ types) :
    (s.typeService d).Ready types where
  located := by simp [typeService, typeGenerator]
  triggered := List.forall_mem_singleton.2 (Or.inr ⟨d, hd, rfl⟩)
  renders := List.forall_mem_singleton.2 fun e =>
    Generator.generate_succeeds (s.accepted_typeService d _ List.mem_cons_self)
      (typeKinds_within rfl e)

theorem typeController_ready {s : Scaffold} {gv : Text × Text} (h : s.vars.BindRoutes gv)
    {d : Declaration} {types : List Declaration} (hd : d ∈ types) :
    (s.typeController d).Ready types where
  located := by simp [typeController, typeGenerator]
  triggered := List.forall_mem_singleton.2 (Or.inr ⟨d, hd, rfl⟩)
  renders := List.forall_mem_singleton.2 fun e =>
    Generator.generate_succeeds (s.accepted_typeController d _ List.mem_cons_self)
      (routeKinds_within h rfl e)

end Scaffold

/-! ## All packages of a plan -/

namespace PlanConfig

/-- What holds for the packages of each kind holds for every package of a plan. -/
theorem forall_packagesOf {c : PlanConfig} {selected : List (Declaration × Scaffold)}
    {motive : Package → Prop} (hMeta : motive c.sharedScaffold.controllerMeta)
    (hInterface : motive (c.sharedScaffold.serviceInterfaceOf (selected.map Prod.fst)))
    (hMiddleware : motive c.sharedScaffold.middleware)
    (hController : ∀ t ∈ selected, motive (t.2.typeController t.1))
    (hService : ∀ t ∈ selected, motive (t.2.typeService t.1))
    (hServer : motive (c.sharedScaffold.server (selected.map Prod.fst))) :
    ∀ p ∈ c.packagesOf selected, motive p := by
  intro p hp
  simp only [packagesOf] at hp
  split at hp
  · cases hp
  · simp only [List.mem_append, List.mem_cons, List.not_mem_nil, or_false,
      List.mem_flatMap] at hp
    rcases hp with ((rfl | rfl | rfl) | ⟨t, ht, rfl | rfl⟩) | rfl
    · exact hMeta
    · exact hInterface
    · exact hMiddleware
    · exact hController t ht
    · exact hService t ht
    · exact hServer

/-- **The snippets of a plan use no symbol too early, whatever the types are.** -/
theorem checkOrder_packagesOf (c : PlanConfig) (selected : List (Declaration × Scaffold)) :
    ∀ p ∈ c.packagesOf selected, ∀ g ∈ p.generators, g.checkOrder = .ok () :=
  forall_packagesOf c.sharedScaffold.checkOrder_controllerMeta
    (c.sharedScaffold.checkOrder_serviceInterfaceOf _) c.sharedScaffold.checkOrder_middleware
    (fun t _ => t.2.checkOrder_typeController t.1) (fun t _ => t.2.checkOrder_typeService t.1)
    (c.sharedScaffold.checkOrder_server _)

/-- **The packages of a plan can run when the sources have a group and a version.** -/
theorem packagesOf_ready {c : PlanConfig} {selected : List (Declaration × Scaffold)}
    (h : ∀ t ∈ selected, ∃ gv, t.2.vars.BindRoutes gv) :
    ∀ p ∈ c.packagesOf selected, p.Ready (selected.map Prod.fst) :=
  forall_packagesOf (c.sharedScaffold.controllerMeta_ready _)
    (c.sharedScaffold.serviceInterfaceOf_ready _ _) (c.sharedScaffold.middleware_ready _)
    (fun t ht => by
      obtain ⟨gv, hVars⟩ := h t ht
      exact Scaffold.typeController_ready hVars (List.mem_map_of_mem ht))
    (fun t ht => t.2.typeService_ready (List.mem_map_of_mem ht))
    (c.sharedScaffold.server_ready _ _)

end PlanConfig

end RestScaffold
