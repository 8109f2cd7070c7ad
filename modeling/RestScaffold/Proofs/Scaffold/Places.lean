import Mathlib.Data.List.Nodup
import RestScaffold.Plan.Basic

/-!
# Where the files of a plan are

The files of a plan are at pairs of a package path and a file stem. Nine of them are the same for
all types, and each type adds three. Two files are at one place only when the stem of a type says
so: `Scaffold.nodup_places_iff` computes for which lists of types this does not happen.

Paths are compared behind the root of the tree, where each starts with one of four directories.
-/

namespace RestScaffold

/-! ## Repetitions -/

/-- The search for a repetition finds none in a list without one. -/
theorem Plan.firstRepeated_eq_none_iff {α : Type} [DecidableEq α] {seen xs : List α} :
    firstRepeated seen xs = none ↔ xs.Nodup ∧ ∀ x ∈ xs, x ∉ seen := by
  induction xs generalizing seen with
  | nil => simp [firstRepeated]
  | cons x xs ih =>
    rw [firstRepeated]
    by_cases hx : x ∈ seen
    · rw [if_pos hx]
      simp [hx]
    · rw [if_neg hx, ih, List.nodup_cons]
      constructor
      · rintro ⟨hNodup, hSeen⟩
        refine ⟨⟨fun hMem => hSeen x hMem List.mem_cons_self, hNodup⟩, fun y hy => ?_⟩
        rcases List.mem_cons.1 hy with rfl | hy
        · exact hx
        · exact fun hMem => hSeen y hy (List.mem_cons_of_mem x hMem)
      · rintro ⟨⟨hNotMem, hNodup⟩, hSeen⟩
        refine ⟨hNodup, fun y hy hMem => ?_⟩
        rcases List.mem_cons.1 hMem with rfl | hMem
        · exact hNotMem hy
        · exact hSeen y (List.mem_cons_of_mem x hy) hMem

/-- The places of a package's files. -/
def Package.places (p : Package) : List (Text × Text) :=
  p.outputStems.map fun stem => (p.path, stem)

theorem Plan.outputs_eq (p : Plan) : p.outputs = p.packages.flatMap Package.places := rfl

/-- What a type's directory is called: its stem without slashes in front. -/
def Declaration.directory (d : Declaration) : Text := ImportPath.trimStart d.stem

namespace Scaffold

variable (s : Scaffold)

/-! ## Paths behind the root -/

/-- What all paths of the tree start with. -/
def root : Text :=
  if ImportPath.trimEnd s.outputPackage = [] then []
  else ImportPath.trimEnd s.outputPackage ++ ['/']

theorem path_eq {first : Char} {rest : Text} (h : first ≠ '/') :
    s.path (first :: rest) = s.root ++ first :: rest := by
  have hTrim : ImportPath.trimStart (first :: rest) = first :: rest := by
    rw [ImportPath.trimStart, List.dropWhile_cons_of_neg (by simpa using h)]
  unfold path ImportPath.join root
  simp only [hTrim]
  by_cases hBase : ImportPath.trimEnd s.outputPackage = []
  · rw [if_pos hBase, if_pos hBase, List.nil_append]
  · rw [if_neg hBase, if_neg hBase, if_neg (List.cons_ne_nil _ _), List.append_assoc]
    rfl

theorem path_serverDir : s.path serverDir = s.root ++ "server".toList := by
  unfold serverDir
  rw [String.toList_ofList]
  exact s.path_eq (by decide)

theorem path_controllerDir : s.path controllerDir = s.root ++ "server/controller".toList := by
  unfold controllerDir
  rw [String.toList_ofList]
  exact s.path_eq (by decide)

theorem path_serviceDir : s.path serviceDir = s.root ++ "server/service".toList := by
  unfold serviceDir
  rw [String.toList_ofList]
  exact s.path_eq (by decide)

theorem path_middlewareDir : s.path middlewareDir = s.root ++ "server/middleware".toList := by
  unfold middlewareDir
  rw [String.toList_ofList]
  exact s.path_eq (by decide)

theorem trimEnd_path_controllerDir :
    ImportPath.trimEnd (s.path controllerDir) = s.path controllerDir := by
  rw [path_controllerDir, show "server/controller".toList = "server/controlle".toList ++ ['r'] by
    decide, ← List.append_assoc, ImportPath.trimEnd, List.reverse_append]
  rw [show [('r' : Char)].reverse = ['r'] from rfl, List.singleton_append,
    List.dropWhile_cons_of_neg (by decide), List.reverse_cons, List.reverse_reverse]

theorem path_controllerDir_ne_nil : s.path controllerDir ≠ [] := by
  rw [path_controllerDir]
  exact List.append_ne_nil_of_right_ne_nil _ (by decide)

/-- A type whose stem has nothing but slashes gets no directory of its own. -/
theorem controllerPath_of_directory_nil {d : Declaration} (h : d.directory = []) :
    s.controllerPath d = s.path controllerDir := by
  have hTrim : ImportPath.trimStart d.stem = [] := h
  unfold controllerPath ImportPath.join
  rw [trimEnd_path_controllerDir, hTrim]
  rw [if_neg s.path_controllerDir_ne_nil, if_pos rfl]

theorem controllerPath_eq {d : Declaration} (h : d.directory ≠ []) :
    s.controllerPath d = s.path controllerDir ++ '/' :: d.directory := by
  unfold controllerPath ImportPath.join
  rw [trimEnd_path_controllerDir, ← Declaration.directory]
  rw [if_neg s.path_controllerDir_ne_nil, if_neg h]

/-- The directory of a type is none of the four that all types share. -/
theorem controllerPath_ne {d : Declaration} (h : d.directory ≠ []) :
    s.controllerPath d ≠ s.path serverDir ∧ s.controllerPath d ≠ s.path controllerDir ∧
      s.controllerPath d ≠ s.path serviceDir ∧ s.controllerPath d ≠ s.path middlewareDir := by
  rw [controllerPath_eq s h, path_serverDir, path_controllerDir, path_serviceDir,
    path_middlewareDir, List.append_assoc]
  refine ⟨fun hEq => ?_, fun hEq => ?_, fun hEq => ?_, fun hEq => ?_⟩ <;>
    simpa using List.append_cancel_left hEq

theorem directory_eq_of_controllerPath_eq {a b : Declaration} (ha : a.directory ≠ [])
    (hb : b.directory ≠ []) (h : s.controllerPath a = s.controllerPath b) :
    a.directory = b.directory := by
  rw [controllerPath_eq s ha, controllerPath_eq s hb] at h
  exact (List.cons.inj (List.append_cancel_left h)).2

/-! ## Places -/

/-- The places of the files that all types share, in front of those of the types. -/
def frontPlaces : List (Text × Text) :=
  [(s.path controllerDir, Package.docStem), (s.path controllerDir, "controller"),
    (s.path controllerDir, "utils"), (s.path serviceDir, Package.docStem),
    (s.path serviceDir, "interface"), (s.path middlewareDir, Package.docStem),
    (s.path middlewareDir, "auth")]

/-- The places of the files of a type. -/
def typePlaces (d : Declaration) : List (Text × Text) :=
  [(s.controllerPath d, Package.docStem), (s.controllerPath d, d.stem),
    (s.path serviceDir, d.stem)]

/-- The places of the server's files. -/
def serverPlaces : List (Text × Text) :=
  [(s.path serverDir, Package.docStem), (s.path serverDir, "server")]

/-- The places of all files of some types. -/
def places (types : List Declaration) : List (Text × Text) :=
  s.frontPlaces ++ types.flatMap s.typePlaces ++ s.serverPlaces

theorem nodup_sharedPlaces : (s.frontPlaces ++ s.serverPlaces).Nodup := by
  unfold frontPlaces serverPlaces Package.docStem
  rw [path_serverDir, path_controllerDir, path_serviceDir, path_middlewareDir]
  simp

/-- What the stem of a type must be like for its files to have places of their own. -/
def Placeable (d : Declaration) : Prop :=
  d.directory ≠ [] ∧ d.stem ≠ Package.docStem ∧ d.stem ≠ "interface".toList

theorem nodup_typePlaces {d : Declaration} (h : Placeable d) : (s.typePlaces d).Nodup := by
  obtain ⟨hDirectory, hDoc, -⟩ := h
  have hService := (s.controllerPath_ne hDirectory).2.2.1
  simp [typePlaces, Ne.symm hDoc, hService]

/-- A type takes no place of the shared files. -/
theorem disjoint_typePlaces {d : Declaration} (h : Placeable d) :
    (s.typePlaces d).Disjoint (s.frontPlaces ++ s.serverPlaces) := by
  obtain ⟨hDirectory, hDoc, hInterface⟩ := h
  obtain ⟨hServer, hController, hService, hMiddleware⟩ := s.controllerPath_ne hDirectory
  intro place hType hShared
  simp only [typePlaces, List.mem_cons, List.not_mem_nil, or_false] at hType
  rcases hType with rfl | rfl | rfl
  · simp [frontPlaces, serverPlaces, hServer, hController, hService, hMiddleware] at hShared
  · simp [frontPlaces, serverPlaces, hServer, hController, hService, hMiddleware] at hShared
  · have hInterface' : d.stem ≠ ['i', 'n', 't', 'e', 'r', 'f', 'a', 'c', 'e'] := hInterface
    simp [frontPlaces, serverPlaces, path_serverDir, path_controllerDir, path_serviceDir,
      path_middlewareDir, hDoc, hInterface'] at hShared

/-- Types in different directories take different places. -/
theorem disjoint_typePlaces_of_ne {a b : Declaration} (ha : Placeable a) (hb : Placeable b)
    (h : a.directory ≠ b.directory) : (s.typePlaces a).Disjoint (s.typePlaces b) := by
  have hPath : s.controllerPath a ≠ s.controllerPath b := fun hEq =>
    h (s.directory_eq_of_controllerPath_eq ha.1 hb.1 hEq)
  have hStem : a.stem ≠ b.stem := fun hEq => h (congrArg ImportPath.trimStart hEq)
  have hServiceA := (s.controllerPath_ne ha.1).2.2.1
  have hServiceB := (s.controllerPath_ne hb.1).2.2.1
  intro place hA hB
  simp only [typePlaces, List.mem_cons, List.not_mem_nil, or_false] at hA
  rcases hA with rfl | rfl | rfl
  · simp [typePlaces, hPath, hServiceA] at hB
  · simp [typePlaces, hPath, hServiceA] at hB
  · simp [typePlaces, hServiceB.symm, hStem] at hB

theorem controllerPath_congr {a b : Declaration} (h : a.directory = b.directory) :
    s.controllerPath a = s.controllerPath b := by
  have hTrim : ImportPath.trimStart a.stem = ImportPath.trimStart b.stem := h
  unfold controllerPath ImportPath.join
  rw [hTrim]

/-- **When no two files of some types have the same place.** -/
theorem nodup_places_iff (types : List Declaration) :
    (s.places types).Nodup ↔
      (∀ d ∈ types, Placeable d) ∧ (types.map Declaration.directory).Nodup := by
  constructor
  · intro h
    obtain ⟨-, hTypes, hFront⟩ := List.nodup_append.1 h.of_append_left
    obtain ⟨hEach, hPairs⟩ := List.nodup_flatMap.1 hTypes
    -- A place of a type that a shared file has as well is one place too many.
    have hShared : ∀ d ∈ types, ∀ place ∈ s.typePlaces d, place ∉ s.frontPlaces := by
      intro d hd place hPlace hMem
      exact hFront place hMem place (List.mem_flatMap.2 ⟨d, hd, hPlace⟩) rfl
    refine ⟨fun d hd => ⟨fun hDirectory => ?_, fun hDoc => ?_, fun hInterface => ?_⟩, ?_⟩
    · refine hShared d hd (s.controllerPath d, Package.docStem) List.mem_cons_self ?_
      rw [controllerPath_of_directory_nil s hDirectory]
      exact List.mem_cons_self
    · have hRepeated := hEach d hd
      rw [typePlaces, hDoc] at hRepeated
      exact (List.nodup_cons.1 hRepeated).1 List.mem_cons_self
    · refine hShared d hd (s.path serviceDir, d.stem) (by simp [typePlaces]) ?_
      rw [hInterface]
      simp [frontPlaces]
    · refine List.pairwise_map.2 (hPairs.imp fun {a b} hDisjoint hEq => ?_)
      refine hDisjoint (a := (s.controllerPath a, Package.docStem)) List.mem_cons_self ?_
      rw [s.controllerPath_congr hEq]
      exact List.mem_cons_self
  · rintro ⟨hPlaceable, hNodup⟩
    have hPerm : (s.places types).Perm
        (types.flatMap s.typePlaces ++ (s.frontPlaces ++ s.serverPlaces)) := by
      rw [places, ← List.append_assoc]
      exact List.perm_append_comm.append_right s.serverPlaces
    rw [hPerm.nodup_iff]
    refine List.nodup_append.2 ⟨?_, s.nodup_sharedPlaces, ?_⟩
    · refine List.nodup_flatMap.2 ⟨fun d hd => s.nodup_typePlaces (hPlaceable d hd), ?_⟩
      refine (List.pairwise_map.1 hNodup).imp_of_mem fun {a b} ha hb hNe => ?_
      exact s.disjoint_typePlaces_of_ne (hPlaceable a ha) (hPlaceable b hb) hNe
    · intro place hType other hOther hEq
      obtain ⟨d, hd, hPlace⟩ := List.mem_flatMap.1 hType
      exact s.disjoint_typePlaces (hPlaceable d hd) hPlace (hEq ▸ hOther)

end Scaffold

/-! ## The places of a plan -/

/-- **The files of a plan are at the places of its types.** -/
theorem PlanConfig.places_packagesOf {c : PlanConfig} {selected : List (Declaration × Scaffold)}
    (hNe : selected ≠ []) (hOutput : ∀ t ∈ selected, t.2.outputPackage = c.outputPackage) :
    (c.packagesOf selected).flatMap Package.places =
      c.sharedScaffold.places (selected.map Prod.fst) := by
  have hTypes : selected.flatMap (fun t => [t.2.typeController t.1, t.2.typeService t.1].flatMap
      Package.places) = (selected.map Prod.fst).flatMap c.sharedScaffold.typePlaces := by
    rw [List.flatMap_map]
    refine List.flatMap_congr fun t ht => ?_
    have hPath : ∀ dir, t.2.path dir = c.sharedScaffold.path dir := by
      intro dir
      rw [Scaffold.path, Scaffold.path, hOutput t ht]
      rfl
    show [(t.2.controllerPath t.1, Package.docStem), (t.2.controllerPath t.1, t.1.stem),
      (t.2.path Scaffold.serviceDir, t.1.stem)] = _
    rw [Scaffold.typePlaces, Scaffold.controllerPath, Scaffold.controllerPath, hPath, hPath]
  simp only [packagesOf, List.map_eq_nil_iff, hNe, if_false]
  rw [List.flatMap_append, List.flatMap_append, List.flatMap_assoc, hTypes]
  rfl

end RestScaffold
