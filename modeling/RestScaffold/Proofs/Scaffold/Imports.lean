import RestScaffold.Proofs.Generator.LocalNames
import RestScaffold.Proofs.Import.Line
import RestScaffold.Proofs.Scaffold.Packages
import RestScaffold.Proofs.Scaffold.Places
import RestScaffold.Proofs.Template.RawNames
import RestScaffold.Proofs.Text.Case

/-!
# What the packages of the scaffold import

A generated file imports the entries of its generator and the packages of the types that its
templates write in raw form. This module says what both are for each kind of package.

* `Generator.OwnImports`: the entries of a generator are bare paths with different last segments,
  and of the generated tree they mention some directories only;
* `Scaffold.RefersTo`: the types that files write in raw form are all types for the interface of the
  service, the type itself for the files of a type, and none for the other shared files.
-/

namespace RestScaffold

open ImportLine Text

/-! ## Paths of the tree in import lines -/

/-- What follows the last slash of a text, when there is one. -/
theorem Text.afterLast_append {sep : Char} {s t : Text} (h : sep ∉ t) :
    afterLast sep (s ++ sep :: t) = t := by
  have hKeep : ∀ c ∈ t.reverse, (c ≠ sep : Bool) = true := fun c hc =>
    decide_eq_true fun hEq => h (hEq ▸ List.mem_reverse.1 hc)
  rw [afterLast, List.reverse_append, List.reverse_cons, List.append_assoc,
    List.takeWhile_append_of_pos hKeep, List.singleton_append,
    List.takeWhile_cons_of_neg (by simp), List.append_nil, List.reverse_reverse]

namespace Scaffold

/-- A directory right below that of the server. -/
structure IsSubdirectory (dir name : Text) : Prop where
  eq : dir = serverDir ++ '/' :: name
  ne_nil : name ≠ []
  plain : Plain name
  slash : '/' ∉ name

theorem isSubdirectory_serviceDir : IsSubdirectory serviceDir "service" :=
  ⟨by decide, by decide, by decide, by decide⟩

theorem isSubdirectory_controllerDir : IsSubdirectory controllerDir "controller" :=
  ⟨by decide, by decide, by decide, by decide⟩

theorem isSubdirectory_middlewareDir : IsSubdirectory middlewareDir "middleware" :=
  ⟨by decide, by decide, by decide, by decide⟩

variable {s : Scaffold} {dir name : Text}

theorem serverDir_eq : serverDir = ['s', 'e', 'r', 'v', 'e', 'r'] := by decide

theorem path_serverDir_eq (s : Scaffold) : s.path serverDir = s.root ++ serverDir :=
  s.path_serverDir

theorem IsSubdirectory.path_eq (h : IsSubdirectory dir name) :
    s.path dir = s.path serverDir ++ '/' :: name := by
  rw [path_serverDir_eq, h.eq, serverDir_eq, List.append_assoc]
  exact s.path_eq (by decide)

theorem IsSubdirectory.solid (h : IsSubdirectory dir name) : Solid dir where
  head c hc := by
    rw [h.eq, serverDir_eq] at hc
    rw [← Option.some.inj hc]
    decide
  last c hc := by
    rw [h.eq, List.getLast?_append_of_ne_nil _ (List.cons_ne_nil _ _),
      List.getLast?_cons_of_ne_nil h.ne_nil] at hc
    exact (h.plain c (List.mem_of_getLast? hc)).1

theorem IsSubdirectory.trim_path (h : IsSubdirectory dir name) :
    trim (s.path dir) = trimStart s.root ++ serverDir ++ '/' :: name := by
  have hPath : s.path dir = s.root ++ dir := by
    rw [h.path_eq, path_serverDir_eq, h.eq, List.append_assoc]
  have hNe : dir ≠ [] := h.eq ▸ List.append_ne_nil_of_right_ne_nil _ (List.cons_ne_nil _ _)
  rw [hPath, trim_append hNe h.solid, h.eq, List.append_assoc]

theorem IsSubdirectory.afterLast_trim_path (h : IsSubdirectory dir name) :
    afterLast '/' (trim (s.path dir)) = name := by
  rw [h.trim_path]
  exact afterLast_append h.slash

theorem IsSubdirectory.isBare (h : IsSubdirectory dir name) : IsBare (s.path dir) := by
  rw [IsBare, h.trim_path, List.getLast?_append_of_ne_nil _ (List.cons_ne_nil _ _),
    List.getLast?_cons_of_ne_nil h.ne_nil, List.getLast?_eq_some_getLast h.ne_nil]
  exact decide_eq_true (h.plain _ (List.getLast_mem h.ne_nil)).2

/-- A root that begins with a blank leads out of the tree when an entry is trimmed. -/
theorem IsSubdirectory.trim_path_of_prefix (h : IsSubdirectory dir name)
    (hBelow : s.path serverDir <+: trim (s.path dir)) : trim (s.path dir) = s.path dir := by
  have hStart : trimStart s.root = s.root := by
    refine trimStart_of_head fun c hc => (solid_trim (s.path dir)).head c ?_
    have hRoot : s.root <+: s.path serverDir := s.path_serverDir_eq ▸ List.prefix_append _ _
    exact head?_of_isPrefix (hRoot.trans hBelow) hc
  rw [h.trim_path, hStart, h.path_eq, path_serverDir_eq]

end Scaffold

/-! ## Entries of the generators -/

/-- The directories of the tree that files of this kind import, those of controllers aside. -/
def PackageKind.directories : PackageKind → List Text
  | controllerMeta => [Scaffold.serviceDir]
  | serviceInterface => []
  | middleware => [Scaffold.controllerDir]
  | typeController => [Scaffold.controllerDir]
  | typeService => []
  | server => [Scaffold.serviceDir, Scaffold.middlewareDir, Scaffold.controllerDir]

/-- The imports that a generator has of itself are bare paths with different last segments. Of the
generated tree they mention some directories only. -/
structure Generator.OwnImports (g : Generator) (s : Scaffold) (dirs : List Text) : Prop where
  bare : ∀ e ∈ g.imports, IsBare e
  apart : (g.imports.map fun e => afterLast '/' (trim e)).Nodup
  below : ∀ e ∈ g.imports, ∀ path, Gives e path → s.path Scaffold.serverDir <+: path →
    ∃ dir ∈ dirs, path = s.path dir

namespace Scaffold

variable {s : Scaffold}

/-- The packages from outside of the tree that generated files import. -/
def foreignEntries : List Text :=
  ["context", "encoding/json", "fmt", "github.com/gorilla/mux", "github.com/spf13/viper",
    "k8s.io/client-go/kubernetes", "k8s.io/klog", "net/http", "strings", "time"]

theorem foreignEntries_outside :
    ∀ e ∈ foreignEntries, IsBare e ∧ trim e = e ∧ ¬ serverDir <:+: e := by
  unfold foreignEntries
  decide +kernel

section Entries

variable {dirs : List Text} (hDirs : ∀ dir ∈ dirs, ∃ name, IsSubdirectory dir name)
include hDirs

theorem isBare_of_entry {e : Text} (h : e ∈ foreignEntries ∨ e ∈ dirs.map s.path) : IsBare e := by
  rcases h with hForeign | hDir
  · exact (foreignEntries_outside e hForeign).1
  · obtain ⟨dir, hMem, rfl⟩ := List.mem_map.1 hDir
    obtain ⟨name, hSub⟩ := hDirs dir hMem
    exact hSub.isBare

theorem exists_dir_of_entry {e path : Text} (h : e ∈ foreignEntries ∨ e ∈ dirs.map s.path)
    (hGives : Gives e path) (hBelow : s.path serverDir <+: path) :
    ∃ dir ∈ dirs, path = s.path dir := by
  have hPath := hGives.eq_or (isBare_of_entry hDirs h)
  rcases h with hForeign | hDir
  · obtain ⟨-, hTrim, hOutside⟩ := foreignEntries_outside e hForeign
    rw [hTrim, or_self] at hPath
    subst hPath
    refine absurd (List.IsInfix.trans ?_ hBelow.isInfix) hOutside
    rw [path_serverDir_eq]
    exact (List.suffix_append _ _).isInfix
  · obtain ⟨dir, hMem, rfl⟩ := List.mem_map.1 hDir
    rcases hPath with rfl | rfl
    · exact ⟨dir, hMem, rfl⟩
    · obtain ⟨name, hSub⟩ := hDirs dir hMem
      exact ⟨dir, hMem, hSub.trim_path_of_prefix hBelow⟩

/-- The entries of a generator are paths from outside and paths of subdirectories. -/
theorem ownImports_of_entries {g : Generator}
    (h : ∀ e ∈ g.imports, e ∈ foreignEntries ∨ e ∈ dirs.map s.path)
    (hApart : (g.imports.map fun e => afterLast '/' (trim e)).Nodup) : g.OwnImports s dirs where
  bare e he := isBare_of_entry hDirs (h e he)
  apart := hApart
  below e he _ := exists_dir_of_entry hDirs (h e he)

end Entries

variable (s)

theorem ownImports_controllerMeta :
    ∀ g ∈ s.controllerMeta.generators, g.OwnImports s [serviceDir] := by
  refine List.forall_mem_cons.2 ⟨?_, List.forall_mem_singleton.2 ?_⟩
  · refine ownImports_of_entries
      (List.forall_mem_singleton.2 ⟨_, isSubdirectory_serviceDir⟩) (by simp [foreignEntries]) ?_
    simp only [List.map_cons, List.map_nil, isSubdirectory_serviceDir.afterLast_trim_path]
    decide +kernel
  · refine ownImports_of_entries
      (List.forall_mem_singleton.2 ⟨_, isSubdirectory_serviceDir⟩) (by simp [foreignEntries]) ?_
    simp only [List.map_cons, List.map_nil]
    decide +kernel

theorem ownImports_serviceInterfaceOf (types : List Declaration) :
    ∀ g ∈ (s.serviceInterfaceOf types).generators, g.OwnImports s [] := by
  refine List.forall_mem_singleton.2
    (ownImports_of_entries (List.forall_mem_nil _) (by simp [foreignEntries]) ?_)
  simp only [List.map_cons, List.map_nil]
  decide +kernel

theorem ownImports_middleware : ∀ g ∈ s.middleware.generators, g.OwnImports s [controllerDir] := by
  refine List.forall_mem_singleton.2 (ownImports_of_entries
    (List.forall_mem_singleton.2 ⟨_, isSubdirectory_controllerDir⟩) (by simp [foreignEntries]) ?_)
  simp only [List.map_cons, List.map_nil, isSubdirectory_controllerDir.afterLast_trim_path]
  decide +kernel

theorem ownImports_typeController (d : Declaration) :
    ∀ g ∈ (s.typeController d).generators, g.OwnImports s [controllerDir] := by
  refine List.forall_mem_singleton.2 (ownImports_of_entries
    (List.forall_mem_singleton.2 ⟨_, isSubdirectory_controllerDir⟩) (by simp [foreignEntries]) ?_)
  simp only [List.map_cons, List.map_nil, isSubdirectory_controllerDir.afterLast_trim_path]
  decide +kernel

theorem ownImports_typeService (d : Declaration) :
    ∀ g ∈ (s.typeService d).generators, g.OwnImports s [] := by
  refine List.forall_mem_singleton.2
    (ownImports_of_entries (List.forall_mem_nil _) (by simp [foreignEntries]) ?_)
  simp only [List.map_cons, List.map_nil]
  decide +kernel

end Scaffold

/-! ## Types in raw form -/

/-- The types that a file of this kind writes in raw form, `d` being the type at hand. -/
def PackageKind.rawTypes (kind : PackageKind) (types : List Declaration) (d : Declaration) :
    List Declaration :=
  match kind with
  | .serviceInterface => types
  | .typeController | .typeService => [d]
  | .controllerMeta | .middleware | .server => []

namespace Generator

variable {g : Generator} {d : Declaration}

theorem rawPackages_of_accepted {kinds : Kinds} {P : Text → Prop} (h : g.Accepted kinds)
    (hCover : (g.bindings d).Cover kinds P) :
    ∀ path ∈ g.rawPackages .dollar d, P path ∧ g.scope.isLocal path = false := by
  intro path hPath
  obtain ⟨s, hs, hPath⟩ := List.mem_flatMap.1 hPath
  obtain ⟨block, hBlock, hTyped⟩ := Kinds.exists_of_accepts (h s hs)
  rw [hBlock] at hPath
  have hCurrent : ∀ e ∈ (none : Option Declaration), P e.name.package := fun _ he => nomatch he
  exact block.rawPackages_of_wellTyped g.scope hCover hCurrent hTyped path hPath

theorem mem_rawPackages_of_snippet {s : Snippet} {block : Block} {path : Text}
    (hs : s ∈ g.snippets) (hBlock : Block.ofText .dollar s.body = .ok block)
    (hPath : path ∈ block.rawPackages g.scope (g.bindings d) none) :
    path ∈ g.rawPackages .dollar d := by
  refine List.mem_flatMap.2 ⟨s, hs, ?_⟩
  rw [hBlock]
  exact hPath

end Generator

/-- Whether a text reads as a template with a property. -/
def readsAs (test : Block → Bool) (s : Text) : Bool :=
  match Block.ofText .dollar s with
  | .ok block => test block
  | .error _ => false

theorem exists_of_readsAs {test : Block → Bool} {s : Text} (h : readsAs test s = true) :
    ∃ block, Block.ofText .dollar s = .ok block ∧ test block = true := by
  unfold readsAs at h
  split at h
  · next block hBlock => exact ⟨block, hBlock, h⟩
  · cases h

namespace Scaffold

theorem createHandler_writesRaw : readsAs (·.writesRaw (.named "type")) createHandler = true := by
  unfold createHandler
  repeat rw [String.toList_ofList]
  decide +kernel

theorem createMethod_writesRaw : readsAs (·.writesRaw (.named "type")) createMethod = true := by
  unfold createMethod
  repeat rw [String.toList_ofList]
  decide +kernel

theorem serviceInterface_listsRaw :
    readsAs (·.listsRaw (.named "types")) serviceInterface = true := by
  unfold serviceInterface
  repeat rw [String.toList_ofList]
  decide +kernel

/-- What the files of a generator import beside its entries: the packages of some types. -/
def RefersTo (g : Generator) (types : Declaration → List Declaration) : Prop :=
  ∀ d path, path ∈ g.rawPackages .dollar d ↔
    g.scope.isLocal path = false ∧ ∃ e ∈ types d, e.name.package = path

theorem refersTo_nil_of_accepted {g : Generator} (h : g.Accepted sharedKinds) :
    RefersTo g fun _ => [] := by
  intro d path
  refine ⟨fun hPath => ?_, fun ⟨_, e, he, _⟩ => absurd he List.not_mem_nil⟩
  have hCover : (g.bindings d).Cover sharedKinds fun _ => False := fun _ _ _ hKind => nomatch hKind
  exact (Generator.rawPackages_of_accepted h hCover path hPath).1.elim

/-- A file of one type refers to the package of this type. -/
theorem refersTo_type {g : Generator} {kinds : Kinds} (h : g.Accepted kinds)
    (hContext : g.contextKey = some ("type" : Text))
    (hKinds : ∀ d, (g.bindings d).Cover kinds (· = d.name.package)) {s : Snippet}
    (hs : s ∈ g.snippets) (hRaw : readsAs (·.writesRaw (.named "type")) s.body = true) :
    RefersTo g fun d => [d] := by
  intro d path
  constructor
  · intro hPath
    obtain ⟨rfl, hForeign⟩ := Generator.rawPackages_of_accepted h (hKinds d) path hPath
    exact ⟨hForeign, d, List.mem_cons_self, rfl⟩
  · rintro ⟨hForeign, e, he, rfl⟩
    obtain rfl := List.mem_singleton.1 he
    obtain ⟨block, hBlock, hWrites⟩ := exists_of_readsAs hRaw
    refine Generator.mem_rawPackages_of_snippet hs hBlock
      (Block.mem_rawPackages_of_writesRaw hWrites ?_ hForeign)
    rw [Generator.bindings, hContext, KeyRef.lookup, TextMap.get?_insert, if_pos rfl]

theorem cover_typeKinds {g : Generator} (hContext : g.contextKey = some ("type" : Text))
    (d : Declaration) : (g.bindings d).Cover typeKinds (· = d.name.package) := by
  intro key kind v hKind hBound
  unfold typeKinds at hKind
  split at hKind
  · next hKey =>
    rw [Generator.bindings, hContext, TextMap.get?_insert, if_pos hKey] at hBound
    rw [← Option.some.inj hBound]
    exact List.forall_mem_singleton.2 rfl
  · cases hKind

/-- The group and the version of the routes are no types. -/
theorem cover_routeKinds {g : Generator} {gv : Text × Text} (hVars : g.vars.BindRoutes gv)
    (hContext : g.contextKey = some ("type" : Text)) (d : Declaration) :
    (g.bindings d).Cover routeKinds (· = d.name.package) := by
  intro key kind v hKind hBound
  rw [Generator.bindings, hContext, TextMap.get?_insert] at hBound
  unfold routeKinds at hKind
  split at hKind
  · next hKey =>
    rw [if_pos hKey] at hBound
    rw [← Option.some.inj hBound]
    exact List.forall_mem_singleton.2 rfl
  · next hKey =>
    rw [if_neg hKey] at hBound
    split at hKind
    · next hScalar =>
      rcases hScalar with rfl | rfl
      · rw [hVars.group] at hBound
        rw [← Option.some.inj hBound]
        exact fun _ hNone => absurd hNone List.not_mem_nil
      · rw [hVars.version] at hBound
        rw [← Option.some.inj hBound]
        exact fun _ hNone => absurd hNone List.not_mem_nil
    · cases hKind

variable (s : Scaffold)

theorem refersTo_controllerMeta : ∀ g ∈ s.controllerMeta.generators, RefersTo g fun _ => [] :=
  fun g hg => refersTo_nil_of_accepted (s.accepted_controllerMeta g hg)

theorem refersTo_middleware : ∀ g ∈ s.middleware.generators, RefersTo g fun _ => [] :=
  fun g hg => refersTo_nil_of_accepted (s.accepted_middleware g hg)

theorem refersTo_serviceInterfaceOf (types : List Declaration) :
    ∀ g ∈ (s.serviceInterfaceOf types).generators, RefersTo g fun _ => types := by
  intro g hg d path
  constructor
  · intro hPath
    have hCover : (g.bindings d).Cover listingKinds fun path =>
        ∃ e ∈ types, e.name.package = path := by
      obtain rfl := List.mem_singleton.1 hg
      intro key kind v hKind hBound
      unfold listingKinds at hKind
      split at hKind
      · next hKey =>
        have hTypes : (TextMap.insert s.vars "types" (.types types)).get? key = some v := hBound
        rw [TextMap.get?_insert, if_pos hKey] at hTypes
        rw [← Option.some.inj hTypes]
        exact fun e he => ⟨e, he, rfl⟩
      · cases hKind
    obtain ⟨hPackage, hForeign⟩ :=
      Generator.rawPackages_of_accepted (s.accepted_serviceInterfaceOf types g hg) hCover path hPath
    exact ⟨hForeign, hPackage⟩
  · rintro ⟨hForeign, e, he, rfl⟩
    obtain rfl := List.mem_singleton.1 hg
    obtain ⟨block, hBlock, hLists⟩ := exists_of_readsAs serviceInterface_listsRaw
    have hLookup : KeyRef.lookup (TextMap.insert s.vars "types" (.types types)) none
        (.named "types") = .ok (.types types) := by
      rw [KeyRef.lookup, TextMap.get?_insert, if_pos rfl]
    exact Generator.mem_rawPackages_of_snippet (List.mem_cons_of_mem _ List.mem_cons_self) hBlock
      (Block.mem_rawPackages_of_listsRaw hLists hLookup he hForeign)

theorem refersTo_typeService (d : Declaration) :
    ∀ g ∈ (s.typeService d).generators, RefersTo g fun e => [e] := by
  intro g hg
  have hAccepted := s.accepted_typeService d g hg
  obtain rfl := List.mem_singleton.1 hg
  exact refersTo_type hAccepted rfl (cover_typeKinds rfl) List.mem_cons_self createMethod_writesRaw

theorem refersTo_typeController {s : Scaffold} {gv : Text × Text} (h : s.vars.BindRoutes gv)
    (d : Declaration) : ∀ g ∈ (s.typeController d).generators, RefersTo g fun e => [e] := by
  intro g hg
  have hAccepted := s.accepted_typeController d g hg
  obtain rfl := List.mem_singleton.1 hg
  exact refersTo_type hAccepted rfl (cover_routeKinds h rfl)
    (List.mem_cons_of_mem _ (List.mem_cons_of_mem _ List.mem_cons_self)) createHandler_writesRaw

end Scaffold

end RestScaffold
