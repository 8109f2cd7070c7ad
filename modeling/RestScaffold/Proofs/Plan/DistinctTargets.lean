import Mathlib.Data.List.Nodup
import Mathlib.Data.List.Pairwise
import RestScaffold.Manifest.Load
import RestScaffold.Output
import RestScaffold.Proofs.Plan.Locations

/-!
# Files that overwrite one another

A plan is refused when two of its files have the same place, that is when their package paths and
their stems are the same text. On a disk two different texts can name one file: empty segments and
single dots do not count there, a stem may have slashes of its own, and an absolute one leaves its
directory behind. So which targets are different is a matter of the segments of the stems.

* `Declaration.folders` and `Declaration.fileNames`: what a stem adds to a path;
* `Scaffold.Apart`: the types whose files do not overwrite any file;
* `Scaffold.nodup_tails_iff`: that this is so;
* `Plan.targets_distinct_iff`: the same for the targets of a plan.
-/

namespace RestScaffold

open Text

/-! ## Stems as segments -/

namespace Declaration

/-- The segments that the stem of a type adds to the directory of its controller. -/
def folders (d : Declaration) : List Text := FilePath.names d.stem

/-- The segments of the file of a type, behind its directory. -/
def fileNames (d : Declaration) : List Text := FilePath.names (d.stem ++ ".go")

/-- Both begin alike, and the last segment of the stem becomes the name of the file. As a folder it
does not count if it is empty or a single dot. -/
theorem exists_folders (d : Declaration) : ∃ front last,
    d.folders = front ++ ([last].filter (· ≠ [])).filter (· ≠ ".".toList) ∧
      d.fileNames = front ++ [last ++ ".go".toList] := by
  obtain ⟨front, last, hStem, hFile⟩ := FilePath.exists_names_append d.stem
  exact ⟨front, last, hStem, hFile ".go" (by decide) (by decide)⟩

theorem length_fileNames (d : Declaration) :
    d.folders.length ≤ d.fileNames.length ∧ d.fileNames.length ≤ d.folders.length + 1 ∧
      1 ≤ d.fileNames.length := by
  obtain ⟨front, last, hFolders, hFile⟩ := d.exists_folders
  have hLast := List.length_filter_le (· ≠ ".".toList) ([last].filter (· ≠ []))
  have hLast' := List.length_filter_le (· ≠ []) [last]
  rw [hFolders, hFile]
  simp only [List.length_append, List.length_singleton] at hLast hLast' ⊢
  omega

variable {d e : Declaration}

/-- Types with the same file have the same folders. -/
theorem folders_eq_of_fileNames_eq (h : d.fileNames = e.fileNames) : d.folders = e.folders := by
  obtain ⟨front, last, hFolders, hFile⟩ := d.exists_folders
  obtain ⟨front', last', hFolders', hFile'⟩ := e.exists_folders
  rw [hFile, hFile'] at h
  obtain ⟨rfl, hLast⟩ := List.append_inj' h rfl
  obtain rfl := List.append_cancel_right (List.cons.inj hLast).1
  rw [hFolders, hFolders']

/-- The same holds for a file below its folders, since both parts grow together. -/
theorem folders_eq_of_append_eq (h : d.folders ++ d.fileNames = e.folders ++ e.fileNames) :
    d.folders = e.folders := by
  have hLength := congrArg List.length h
  rw [List.length_append, List.length_append] at hLength
  obtain ⟨hLe, hGe, -⟩ := d.length_fileNames
  obtain ⟨hLe', hGe', -⟩ := e.length_fileNames
  exact List.append_inj_left h (by omega)

/-- A relative stem is the directory of its type. -/
theorem directory_of_relative (h : FilePath.isRooted d.stem = false) : d.directory = d.stem := by
  have hHead : d.stem.head? ≠ some '/' := of_decide_eq_false h
  unfold directory ImportPath.trimStart
  cases hStem : d.stem with
  | nil => rfl
  | cons c rest =>
    rw [hStem] at hHead
    refine List.dropWhile_cons_of_neg fun hSlash => hHead ?_
    rw [of_decide_eq_true hSlash]
    rfl

/-- A stem without slashes is one segment. -/
theorem folders_of_plain (hNe : d.directory ≠ []) (hSlash : '/' ∉ d.stem) (hDot : d.stem ≠ ".") :
    FilePath.isRooted d.stem = false ∧ d.folders = [d.stem] ∧
      d.fileNames = [d.stem ++ ".go".toList] := by
  have hStem : d.stem ≠ [] := by
    intro hEmpty
    refine hNe ?_
    rw [directory, hEmpty]
    rfl
  have hRooted : FilePath.isRooted d.stem = false := by
    refine decide_eq_false fun hHead => hSlash ?_
    exact List.mem_of_head? hHead
  have hSlash' : '/' ∉ d.stem ++ ".go".toList := by
    intro hMem
    rcases List.mem_append.1 hMem with hMem | hMem
    · exact hSlash hMem
    · revert hMem
      decide
  have hName : d.stem ++ ".go".toList ≠ "." := append_ne_of_length_lt (by decide) d.stem
  have hNe' : d.stem ++ ".go".toList ≠ [] := List.append_ne_nil_of_left_ne_nil hStem _
  exact ⟨hRooted, FilePath.names_of_isSegment ⟨hStem, hSlash⟩ hDot,
    FilePath.names_of_isSegment ⟨hNe', hSlash'⟩ hName⟩

end Declaration

/-! ## What differs between targets -/

namespace Scaffold

/-- The segments that a directory and a stem add to a path. -/
def tail (place : Text × Text) : List Text :=
  FilePath.names place.1 ++ FilePath.names (place.2 ++ ".go")

/-- The tails of the files that all types share. -/
def sharedTails : List (List Text) := (frontLayout ++ serverLayout).map tail

/-- The tails of the files of a type. -/
def typeTails (d : Declaration) : List (List Text) :=
  [["server".toList, "controller".toList] ++ (d.folders ++ ["doc.go".toList]),
    ["server".toList, "controller".toList] ++ (d.folders ++ d.fileNames),
    ["server".toList, "service".toList] ++ d.fileNames]

/-- What types must be like for none of their files to overwrite another one. -/
structure Apart (types : List Declaration) : Prop where
  relative : ∀ d ∈ types, FilePath.isRooted d.stem = false
  /-- Else the documentation of the type is that of all controllers. -/
  folders_ne_nil : ∀ d ∈ types, d.folders ≠ []
  /-- Else the service methods of the type are in the file of the interface. -/
  fileNames_ne : ∀ d ∈ types, d.fileNames ≠ ["interface.go".toList]
  /-- Else the controller of a type is the documentation of another one, or of its own. -/
  doc_ne : ∀ d ∈ types, ∀ e ∈ types,
    d.folders ++ ["doc.go".toList] ≠ e.folders ++ e.fileNames
  distinct : (types.map Declaration.folders).Nodup

theorem nodup_sharedTails : sharedTails.Nodup := by decide +kernel

/-- A shared file in the directory of the controllers is in no folder below it. -/
theorem length_of_mem_sharedTails {names : List Text}
    (h : ["server".toList, "controller".toList] ++ names ∈ sharedTails) : names.length = 1 := by
  have hAll : ∀ t ∈ sharedTails, t.take 2 = ["server".toList, "controller".toList] →
      t.length = 3 := by decide +kernel
  have hLength := hAll _ h rfl
  rw [List.length_append] at hLength
  exact Nat.add_left_cancel (n := 2) hLength

theorem service_of_mem_sharedTails {names : List Text}
    (h : ["server".toList, "service".toList] ++ names ∈ sharedTails) :
    names = ["doc.go".toList] ∨ names = ["interface.go".toList] := by
  have hAll : ∀ t ∈ sharedTails, t.take 2 = ["server".toList, "service".toList] →
      t.drop 2 = ["doc.go".toList] ∨ t.drop 2 = ["interface.go".toList] := by decide +kernel
  exact hAll _ h rfl

theorem controllerTail_ne_serviceTail (names more : List Text) :
    ["server".toList, "controller".toList] ++ names ≠
      ["server".toList, "service".toList] ++ more := by
  intro hEq
  exact absurd (List.cons.inj (List.cons.inj hEq).2).1 (by decide)

namespace Apart

variable {types : List Declaration} {d e : Declaration}

theorem nodup_typeTails (h : Apart types) (hd : d ∈ types) : (typeTails d).Nodup := by
  have hDoc := h.doc_ne d hd d hd
  refine List.nodup_cons.2 ⟨fun hMem => ?_, List.nodup_cons.2 ⟨fun hMem => ?_,
    List.nodup_singleton _⟩⟩
  · rcases List.mem_cons.1 hMem with hController | hService
    · exact hDoc (List.append_cancel_left hController)
    · exact controllerTail_ne_serviceTail _ _ (List.mem_singleton.1 hService)
  · exact controllerTail_ne_serviceTail _ _ (List.mem_singleton.1 hMem)

/-- A type overwrites no shared file. -/
theorem disjoint_sharedTails (h : Apart types) (hd : d ∈ types) :
    (typeTails d).Disjoint sharedTails := by
  have hFolders : 1 ≤ d.folders.length := List.length_pos_iff.2 (h.folders_ne_nil d hd)
  have hFile := d.length_fileNames.2.2
  intro t hType hShared
  simp only [typeTails, List.mem_cons, List.not_mem_nil, or_false] at hType
  rcases hType with rfl | rfl | rfl
  · have hLength := length_of_mem_sharedTails hShared
    rw [List.length_append, List.length_singleton] at hLength
    omega
  · have hLength := length_of_mem_sharedTails hShared
    rw [List.length_append] at hLength
    omega
  · rcases service_of_mem_sharedTails hShared with hDoc | hInterface
    · exact h.doc_ne d hd d hd (by rw [hDoc])
    · exact h.fileNames_ne d hd hInterface

/-- Types with different folders do not overwrite each other's files. -/
theorem disjoint_typeTails (h : Apart types) (hd : d ∈ types) (he : e ∈ types)
    (hNe : d.folders ≠ e.folders) : (typeTails d).Disjoint (typeTails e) := by
  intro t hLeft hRight
  simp only [typeTails, List.mem_cons, List.not_mem_nil, or_false] at hLeft hRight
  rcases hLeft with rfl | rfl | rfl
  · rcases hRight with hDoc | hController | hService
    · exact hNe (List.append_cancel_right (List.append_cancel_left hDoc))
    · exact h.doc_ne d hd e he (List.append_cancel_left hController)
    · exact controllerTail_ne_serviceTail _ _ hService
  · rcases hRight with hDoc | hController | hService
    · exact h.doc_ne e he d hd (List.append_cancel_left hDoc).symm
    · exact hNe (Declaration.folders_eq_of_append_eq (List.append_cancel_left hController))
    · exact controllerTail_ne_serviceTail _ _ hService
  · rcases hRight with hDoc | hController | hService
    · exact controllerTail_ne_serviceTail _ _ hDoc.symm
    · exact controllerTail_ne_serviceTail _ _ hController.symm
    · exact hNe (Declaration.folders_eq_of_fileNames_eq (List.append_cancel_left hService))

end Apart

/-- The tails of the layout of types with relative stems. -/
theorem map_tail_layout {types : List Declaration}
    (h : ∀ d ∈ types, FilePath.isRooted d.stem = false) : (layout types).map tail =
      frontLayout.map tail ++ types.flatMap typeTails ++ serverLayout.map tail := by
  have hTypes : (types.flatMap typeLayout).map tail = types.flatMap typeTails := by
    rw [List.map_flatMap]
    refine List.flatMap_congr fun d hd => ?_
    have hDir : FilePath.names (typeDir d) =
        ["server".toList, "controller".toList] ++ d.folders := by
      rw [FilePath.names, typeDir, segments_append_slash, List.filter_append,
        Declaration.directory_of_relative (h d hd)]
      rfl
    show [FilePath.names (typeDir d) ++ ["doc.go".toList], FilePath.names (typeDir d) ++ d.fileNames,
      ["server".toList, "service".toList] ++ d.fileNames] = typeTails d
    rw [hDir, List.append_assoc, List.append_assoc]
    rfl
  rw [layout, List.map_append, List.map_append, hTypes]

/-- **When no file of some types overwrites another one.** -/
theorem nodup_tails_iff {types : List Declaration}
    (hRelative : ∀ d ∈ types, FilePath.isRooted d.stem = false) :
    ((layout types).map tail).Nodup ↔ Apart types := by
  have hPerm : ((layout types).map tail).Perm (types.flatMap typeTails ++ sharedTails) := by
    rw [map_tail_layout hRelative, sharedTails, List.map_append, ← List.append_assoc]
    exact List.perm_append_comm.append_right _
  rw [hPerm.nodup_iff, List.nodup_append', List.nodup_flatMap]
  constructor
  · rintro ⟨⟨hEach, hPairs⟩, -, hShared⟩
    have hMem : ∀ d ∈ types, ∀ t ∈ typeTails d, t ∉ sharedTails := fun d hd t ht =>
      hShared (List.mem_flatMap.2 ⟨d, hd, ht⟩)
    refine ⟨hRelative, fun d hd hFolders => ?_, fun d hd hFile => ?_, fun d hd e he hDoc => ?_, ?_⟩
    · refine hMem d hd _ List.mem_cons_self ?_
      rw [hFolders]
      decide +kernel
    · refine hMem d hd (["server".toList, "service".toList] ++ d.fileNames) (by simp [typeTails]) ?_
      rw [hFile]
      decide +kernel
    · by_cases hSame : d = e
      · have hRepeated := hEach d hd
        rw [typeTails, hDoc, hSame] at hRepeated
        exact (List.nodup_cons.1 hRepeated).1 List.mem_cons_self
      · have hSymm : Std.Symm (Function.onFun List.Disjoint typeTails) :=
          ⟨fun _ _ hDisjoint _ hLeft hRight => hDisjoint hRight hLeft⟩
        have hDisjoint := hPairs.forall hd he hSame
        refine hDisjoint (a := ["server".toList, "controller".toList] ++
          (d.folders ++ ["doc.go".toList])) List.mem_cons_self ?_
        rw [hDoc]
        exact List.mem_cons_of_mem _ List.mem_cons_self
    · refine List.pairwise_map.2 (hPairs.imp fun {d e} hDisjoint hEq => ?_)
      refine hDisjoint (a := ["server".toList, "controller".toList] ++
        (d.folders ++ ["doc.go".toList])) List.mem_cons_self ?_
      rw [hEq]
      exact List.mem_cons_self
  · intro h
    refine ⟨⟨fun d hd => h.nodup_typeTails hd, ?_⟩, nodup_sharedTails, ?_⟩
    · refine (List.pairwise_map.1 h.distinct).imp_of_mem fun {d e} hd he hNe => ?_
      exact h.disjoint_typeTails hd he hNe
    · intro t hTypes hShared
      obtain ⟨d, hd, hType⟩ := List.mem_flatMap.1 hTypes
      exact h.disjoint_sharedTails hd hType hShared

/-- Types with stems of one segment do not overwrite each other's files, as long as they have places
of their own. -/
theorem apart_of_plain {types : List Declaration} (hPlaceable : ∀ d ∈ types, Placeable d)
    (hDistinct : (types.map Declaration.directory).Nodup)
    (hPlain : ∀ d ∈ types, '/' ∉ d.stem ∧ d.stem ≠ ".") : Apart types := by
  have hStem : ∀ d ∈ types, FilePath.isRooted d.stem = false ∧ d.folders = [d.stem] ∧
      d.fileNames = [d.stem ++ ".go".toList] := fun d hd =>
    Declaration.folders_of_plain (hPlaceable d hd).1 (hPlain d hd).1 (hPlain d hd).2
  refine ⟨fun d hd => (hStem d hd).1, fun d hd => ?_, fun d hd hFile => ?_,
    fun d hd e he hDoc => ?_, ?_⟩
  · rw [(hStem d hd).2.1]
    exact List.cons_ne_nil _ _
  · rw [(hStem d hd).2.2] at hFile
    have hName : d.stem ++ ".go".toList = "interface".toList ++ ".go".toList :=
      (List.cons.inj hFile).1
    exact (hPlaceable d hd).2.2 (List.append_cancel_right hName)
  · rw [(hStem d hd).2.1, (hStem e he).2.1, (hStem e he).2.2] at hDoc
    have hName : "doc".toList ++ ".go".toList = e.stem ++ ".go".toList :=
      (List.cons.inj (List.cons.inj hDoc).2).1
    exact (hPlaceable e he).2.1 (List.append_cancel_right hName).symm
  · refine List.pairwise_map.2 ((List.pairwise_map.1 hDistinct).imp_of_mem ?_)
    intro d e hd he hNe hFolders
    rw [(hStem d hd).2.1, (hStem e he).2.1] at hFolders
    exact hNe (congrArg ImportPath.trimStart (List.cons.inj hFolders).1)

/-! ## Targets -/

/-- What counts of a target is the base, what stays of the output package and the tail. -/
theorem normal_join_location {base : Text} {left : List Text} {place : Text × Text}
    (hLeft : ∀ name ∈ left, IsSegment name)
    (hStem : FilePath.isRooted (place.2 ++ ".go".toList) = false) :
    FilePath.normal (FilePath.join base (location left place)) =
      (FilePath.isRooted base,
        FilePath.names base ++ (left.filter (· ≠ ".".toList) ++ tail place)) := by
  rw [FilePath.normal_join (isRooted_location hLeft hStem), FilePath.names.eq_def (location _ _),
    segments_location hLeft hStem, List.filter_append, List.filter_append, List.append_assoc]
  rfl

theorem isRooted_of_mem_layout {types : List Declaration} {place : Text × Text}
    (h : ∀ d ∈ types, FilePath.isRooted d.stem = false) (hPlace : place ∈ layout types) :
    FilePath.isRooted (place.2 ++ ".go".toList) = false := by
  have hShared : ∀ place ∈ frontLayout ++ serverLayout,
      FilePath.isRooted (place.2 ++ ".go".toList) = false := by decide +kernel
  have hTypes : ∀ d ∈ types, FilePath.isRooted (d.stem ++ ".go".toList) = false := by
    intro d hd
    rw [FilePath.isRooted_append _ (by decide), h d hd]
  rcases List.mem_append.1 hPlace with hPlace | hServer
  · rcases List.mem_append.1 hPlace with hFront | hType
    · exact hShared place (List.mem_append_left _ hFront)
    · obtain ⟨d, hd, hType⟩ := List.mem_flatMap.1 hType
      simp only [typeLayout, List.mem_cons, List.not_mem_nil, or_false] at hType
      rcases hType with rfl | rfl | rfl
      · rfl
      · exact hTypes d hd
      · exact hTypes d hd
  · exact hShared place (List.mem_append_right _ hServer)

/-- **When the targets of some types are different.** -/
theorem nodup_targets_iff {types : List Declaration} (base : Text) {left : List Text}
    (hLeft : ∀ name ∈ left, IsSegment name) :
    ((layout types).map fun place =>
      FilePath.normal (FilePath.join base (location left place))).Nodup ↔ Apart types := by
  by_cases hRelative : ∀ d ∈ types, FilePath.isRooted d.stem = false
  · have hTargets : (layout types).map (fun place =>
        FilePath.normal (FilePath.join base (location left place))) =
          ((layout types).map tail).map fun t => (FilePath.isRooted base,
            FilePath.names base ++ (left.filter (· ≠ ".".toList) ++ t)) := by
      rw [List.map_map]
      refine List.map_congr_left fun place hPlace => ?_
      exact normal_join_location hLeft (isRooted_of_mem_layout hRelative hPlace)
    have hInjective : Function.Injective fun t : List Text => (FilePath.isRooted base,
        FilePath.names base ++ (left.filter (· ≠ ".".toList) ++ t)) := fun t t' hEq =>
      List.append_cancel_left (List.append_cancel_left (Prod.mk.inj hEq).2)
    rw [hTargets, List.nodup_map_iff hInjective, nodup_tails_iff hRelative]
  · -- The controller and the service methods of a type with an absolute stem are one file.
    refine iff_of_false (fun hNodup => ?_) fun hApart => hRelative hApart.relative
    obtain ⟨d, hd, hRooted⟩ : ∃ d ∈ types, FilePath.isRooted d.stem = true := by
      simpa using hRelative
    have hLocation : ∀ dir, location left (dir, d.stem) = d.stem ++ ".go".toList := by
      intro dir
      refine FilePath.join_of_rooted ?_
      rw [FilePath.isRooted_append _ (by decide), hRooted]
    rw [layout, List.map_append, List.map_append, List.map_flatMap] at hNodup
    have hType := (List.nodup_flatMap.1 hNodup.of_append_left.of_append_right).1 d hd
    refine (List.nodup_cons.1 (List.nodup_cons.1 hType).2).1 (List.mem_singleton.2 ?_)
    show FilePath.normal (FilePath.join base (location left (typeDir d, d.stem))) =
      FilePath.normal (FilePath.join base (location left (serviceDir, d.stem)))
    rw [hLocation, hLocation]

end Scaffold

/-! ## Plans -/

theorem PlanConfig.Admits.nodup_targets_iff {c : PlanConfig} {u : Universe} (h : c.Admits u)
    {o : Output} {files : List RenderedFile} (hFiles : (c.planOf u).render = .ok files)
    (hPackage : o.package = c.outputPackage) :
    (files.map fun f => FilePath.normal (o.target f)).Nodup ↔
      Scaffold.Apart (c.planOf u).types := by
  have hTargets : (files.map fun f => FilePath.normal (o.target f)) =
      (files.map (·.relativePath c.outputPackage)).map fun path =>
        FilePath.normal (FilePath.join o.base path) := by
    rw [List.map_map, ← hPackage]
    rfl
  rw [hTargets, h.relativePaths hFiles]
  by_cases hEmpty : (c.planOf u).types = []
  · rw [if_pos hEmpty, hEmpty]
    exact iff_of_true List.nodup_nil ⟨nofun, nofun, nofun, nofun, List.nodup_nil⟩
  · rw [if_neg hEmpty, List.map_map]
    exact Scaffold.nodup_targets_iff o.base fun _ => RenderedFile.isSegment_of_mem_leftover

/-- **When no file of a plan overwrites another one.** The targets of a plan, empty segments and
single dots aside, are pairwise different if and only if its types are apart. They are apart when
each stem is one segment and not a dot: then it is enough that files at one place are refused. -/
theorem Plan.targets_distinct_iff {c : PlanConfig} {u : Universe} {p : Plan} {o : Output}
    {files : List RenderedFile} (h : ofUniverse c u = .ok p) (hFiles : p.render = .ok files)
    (hPackage : o.package = c.outputPackage) :
    ((files.map fun f => FilePath.normal (o.target f)).Nodup ↔ Scaffold.Apart p.types) ∧
      ((∀ d ∈ p.types, '/' ∉ d.stem ∧ d.stem ≠ ".") → Scaffold.Apart p.types) := by
  obtain ⟨-, hAdmits, rfl⟩ := PlanConfig.ofUniverse_eq_ok_iff_admits.1 h
  exact ⟨hAdmits.nodup_targets_iff hFiles hPackage,
    Scaffold.apart_of_plain hAdmits.placeable_planOf hAdmits.nodup_directories⟩

/-- The universe of types of these names, each with its object meta. -/
def Universe.named (names : List Text) : Universe :=
  [{ path := "a/v1"
     types := names.map fun base => { Declaration.pod with name := ⟨"a/v1", base⟩ } }]

/-- What a manifest says of such a type. -/
def Manifest.typeText (base : Text) : Text :=
  "\x7b\"name\":\"" ++ base ++ "\",\"comment_lines\":[\"+genclient\"],\"members\":" ++
    "[\x7b\"name\":\"ObjectMeta\",\"type\":\"m.ObjectMeta\",\"tags\":\"json\"\x7d]\x7d"

/-- The manifest of such a universe. -/
def Manifest.text (names : List Text) : Text :=
  "\x7b\"packages\":[\x7b\"path\":\"a/v1\",\"types\":[" ++
    joinWith "," (names.map typeText) ++ "]\x7d]\x7d"

/-- The files of two types of different plain names do not overwrite one another. -/
theorem Plan.targets_distinct_iff_named : ∃ p files,
    ofUniverse { outputPackage := "out" } (Universe.named ["Pod", "Node"]) = .ok p ∧
      p.render = .ok files ∧
      (files.map fun f =>
        FilePath.normal (({ base := "o", package := "out" } : Output).target f)).Nodup := by
  let c : PlanConfig := { outputPackage := "out" }
  let u := Universe.named ["Pod", "Node"]
  let o : Output := { base := "o", package := "out" }
  have hAdmits : c.Admits u := by decide +kernel
  have hPlan := hAdmits.ofUniverse_eq (by decide +kernel)
  have hPlain : ∀ d ∈ c.selectedIn u, '/' ∉ d.stem ∧ d.stem ≠ "." := by decide +kernel
  obtain ⟨hDistinct, hApart⟩ := targets_distinct_iff (o := o) hPlan hAdmits.render_planOf rfl
  refine ⟨_, _, hPlan, hAdmits.render_planOf, hDistinct.2 (hApart fun d hd => ?_)⟩
  exact hPlain d (PlanConfig.mem_types_planOf.1 hd)

/-- **A dot in front of a name makes files overwrite one another.** The manifest is in order and so
is the plan, but the controllers of both types have the same documentation. -/
theorem Plan.exists_repeated_target : ∃ u p files,
    Manifest.read .json (Manifest.text ["Pod", "./Pod"]) = .ok u ∧
      ofUniverse { outputPackage := "out" } u = .ok p ∧ p.render = .ok files ∧
      ¬ (files.map fun f =>
        FilePath.normal (({ base := "o", package := "out" } : Output).target f)).Nodup := by
  let c : PlanConfig := { outputPackage := "out" }
  let u := Universe.named ["Pod", "./Pod"]
  have hRead : Manifest.read .json (Manifest.text ["Pod", "./Pod"]) = .ok u := by decide +kernel
  have hAdmits : c.Admits u := by decide +kernel
  refine ⟨u, _, _, hRead, hAdmits.ofUniverse_eq (by decide +kernel), hAdmits.render_planOf,
    fun hNodup => ?_⟩
  have hApart := (hAdmits.nodup_targets_iff hAdmits.render_planOf rfl).1 hNodup
  have hFolders := (((c.types_perm u).map Declaration.folders).nodup_iff).1 hApart.distinct
  revert hFolders
  decide +kernel

end RestScaffold
