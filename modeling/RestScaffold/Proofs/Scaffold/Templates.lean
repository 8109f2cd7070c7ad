import RestScaffold.Proofs.Template.WellTyped
import RestScaffold.Scaffold.Bootstrap
import RestScaffold.Scaffold.PerType
import RestScaffold.Scaffold.Shared

/-!
# The templates of the scaffold

Every template that comes with the program can be read, and is well typed for the few keys that its
package binds: none for the shared files, the sequence of types for the files that list them, the
type alone for the files of a type. Only the routes of a controller see more, the group and the
version of the source package.

* `Generator.generate_succeeds`: a generator of well-typed templates writes a source for every
  declaration;
* `Generator.generate_congr`: bindings that agree on the keys of its templates make it write the
  same source;
* `Scaffold.registerRoutes_accepted`: the routes of a controller show the group once and the version
  twice.

The templates are read by evaluation, so a literal is first replaced by its characters.
-/

namespace RestScaffold

/-! ## Texts of templates -/

/-- Whether a text reads as a template that is well typed for some keys. -/
def Kinds.accepts (kinds : Kinds) (s : Text) : Bool :=
  match Block.ofText .dollar s with
  | .ok block => block.wellTyped kinds false
  | .error _ => false

/-- The keys of the placeholders without a form in the text of a template without ranges. -/
def plainKeysOfText? (s : Text) : Option (List Text) :=
  match Block.ofText .dollar s with
  | .ok block => block.plainKeys?
  | .error _ => none

theorem Kinds.exists_of_accepts {kinds : Kinds} {s : Text} (h : kinds.accepts s = true) :
    ∃ block, Block.ofText .dollar s = .ok block ∧ block.wellTyped kinds false = true := by
  unfold Kinds.accepts at h
  split at h
  · next block hBlock => exact ⟨block, hBlock, h⟩
  · cases h

theorem renderText_succeeds (scope : NameScope) {kinds : Kinds} {vars : Bindings} {s : Text}
    (h : kinds.accepts s = true) (hVars : kinds.Within vars.kinds) :
    (renderText .dollar scope vars s).Succeeds := by
  obtain ⟨block, hBlock, hTyped⟩ := Kinds.exists_of_accepts h
  simp only [renderText, hBlock]
  exact Block.render_succeeds scope none (Block.wellTyped_mono hVars hTyped)

theorem renderText_congr (scope : NameScope) {kinds : Kinds} {a b : Bindings} {s : Text}
    (h : kinds.accepts s = true) (hAgree : a.AgreeOn kinds b) :
    renderText .dollar scope a s = renderText .dollar scope b s := by
  obtain ⟨block, hBlock, hTyped⟩ := Kinds.exists_of_accepts h
  simp only [renderText, hBlock]
  exact Block.render_congr scope hAgree hTyped none

theorem renderText_apart (scope : NameScope) {kinds : Kinds} {a b : Bindings} {s : Text}
    {keys : List Text} (h : kinds.accepts s = true) (hKeys : plainKeysOfText? s = some keys)
    (hAgree : a.AgreeButScalars kinds b) :
    Rendering.Apart (a.scalarLengths keys) (b.scalarLengths keys)
      (renderText .dollar scope a s) (renderText .dollar scope b s) := by
  obtain ⟨block, hBlock, hTyped⟩ := Kinds.exists_of_accepts h
  simp only [plainKeysOfText?, hBlock] at hKeys
  simp only [renderText, hBlock]
  exact Block.render_apart scope hAgree none hTyped hKeys

/-! ## Generators -/

namespace Generator

/-- Every template of the generator reads as one that is well typed for some keys. -/
def Accepted (g : Generator) (kinds : Kinds) : Prop :=
  ∀ s ∈ g.snippets, kinds.accepts s.body = true

/-- **A generator of well-typed templates writes a source.** -/
theorem generate_succeeds {g : Generator} {kinds : Kinds} (h : g.Accepted kinds)
    {d : Declaration} (hVars : kinds.Within (g.bindings d).kinds) : ∃ s, g.generate d = .ok s := by
  have hRendering : (g.renderingWith .dollar d).Succeeds := by
    refine Rendering.succeeds_concat fun r hr => ?_
    obtain ⟨s, hs, rfl⟩ := List.mem_map.1 hr
    exact renderText_succeeds g.scope (h s hs) hVars
  obtain ⟨body, t, hBody⟩ := hRendering {}
  exact ⟨_, by rw [generate, generateWith, hBody]⟩

/-- **What a generator writes depends on the keys of its templates only.** -/
theorem generate_congr {g g' : Generator} {kinds : Kinds} (h : g.Accepted kinds)
    {d : Declaration} (hScope : g.scope = g'.scope) (hImports : g.imports = g'.imports)
    (hSnippets : g.snippets = g'.snippets)
    (hAgree : (g.bindings d).AgreeOn kinds (g'.bindings d)) : g.generate d = g'.generate d := by
  have hRendering : g.renderingWith .dollar d = g'.renderingWith .dollar d := by
    rw [renderingWith, renderingWith, ← hScope, ← hSnippets]
    congr 1
    refine List.map_congr_left fun s hs => ?_
    exact renderText_congr g.scope (h s hs) hAgree
  rw [generate, generate, generateWith, generateWith, hRendering, hImports]

end Generator

/-! ## Keys of the scaffold packages -/

namespace Scaffold

/-- The keys of a file that is the same for all types. -/
def sharedKinds : Kinds := fun _ => none

/-- The keys of a file that lists the types. -/
def listingKinds : Kinds := fun key => if key = ("types" : Text) then some .types else none

/-- The keys of a file of one type. -/
def typeKinds : Kinds := fun key => if key = ("type" : Text) then some .type else none

/-- The keys of the routes of one type. -/
def routeKinds : Kinds := fun key =>
  if key = ("type" : Text) then some .type
  else if key = ("group" : Text) ∨ key = ("version" : Text) then some .scalar
  else none

theorem typeKinds_within_routeKinds : typeKinds.Within routeKinds := by
  intro key kind h
  unfold typeKinds at h
  unfold routeKinds
  split at h
  · next hKey => rw [if_pos hKey]; exact h
  · cases h

/-! ## Reading the templates -/

theorem sharedTemplates_accepted :
    ∀ s ∈ [controllerOptions, controllerInterface, responseStruct, responseHelpers, authenticate],
      sharedKinds.accepts s = true := by
  unfold controllerOptions controllerInterface responseStruct responseHelpers replyHelpers
    messageHelper errorHelper respondFunction authenticate
  repeat rw [String.toList_ofList]
  decide +kernel

theorem interfaceTemplates_accepted :
    ∀ s ∈ [serviceOptions, serviceInterface, serviceStruct, newService],
      listingKinds.accepts s = true := by
  unfold serviceOptions serviceInterface serviceStruct newService
  repeat rw [String.toList_ofList]
  decide +kernel

theorem serverTemplates_accepted :
    ∀ s ∈ [serverInterface, serverOptions, serverStruct, newServer, serveHttp, listenAndServe],
      listingKinds.accepts s = true := by
  unfold serverInterface serverOptions serverStruct newServer serveHttp listenAndServe
  repeat rw [String.toList_ofList]
  decide +kernel

theorem controllerTemplates_accepted :
    ∀ s ∈ [controllerStruct, newController, createHandler, getHandler, updateHandler,
      deleteHandler], typeKinds.accepts s = true := by
  unfold controllerStruct newController createHandler getHandler updateHandler deleteHandler
  repeat rw [String.toList_ofList]
  decide +kernel

theorem methodTemplates_accepted :
    ∀ s ∈ [createMethod, getMethod, updateMethod, deleteMethod], typeKinds.accepts s = true := by
  unfold createMethod getMethod updateMethod deleteMethod
  repeat rw [String.toList_ofList]
  decide +kernel

/-- The routes show the group once and the version twice. -/
theorem registerRoutes_accepted :
    routeKinds.accepts registerRoutes = true ∧
      plainKeysOfText? registerRoutes = some (["group", "version", "version"] : List Text) := by
  unfold registerRoutes
  repeat rw [String.toList_ofList]
  decide +kernel

end Scaffold

end RestScaffold
