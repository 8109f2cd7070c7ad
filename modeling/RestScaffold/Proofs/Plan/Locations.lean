import RestScaffold.Proofs.Declaration
import RestScaffold.Proofs.File.Resolve
import RestScaffold.Proofs.Plan.Files
import RestScaffold.Proofs.Scaffold.Layout

/-!
# Where the files of a plan are written

The files of a plan are written where the layout of its types says, behind what stays of the output
package. So two spellings of the output package lead to the same files at the same locations as long
as the same stays of both, which is nothing unless one of them has two slashes at its end.

* `PlanConfig.Admits.relativePaths`: where the files of a plan are written;
* `Plan.relativePaths_eq_iff`: when two output packages lead to the same locations.
-/

namespace RestScaffold

open Text RenderedFile Scaffold

/-! ## Locations -/

/-- What stays of an output package and the segments of a directory can be joined. -/
theorem Scaffold.forall_mem_segments {left : List Text} (hLeft : ∀ name ∈ left, IsSegment name)
    {dir : Text} : ∀ name ∈ left ++ segments dir, IsSegment name := by
  intro name hName
  rcases List.mem_append.1 hName with hName | hName
  · exact hLeft name hName
  · exact isSegment_of_mem hName

/-- The segments of a location. -/
theorem Scaffold.segments_location {left : List Text} {place : Text × Text}
    (hLeft : ∀ name ∈ left, IsSegment name)
    (hStem : FilePath.isRooted (place.2 ++ ".go".toList) = false) :
    segments (location left place) =
      left ++ segments place.1 ++ segments (place.2 ++ ".go".toList) := by
  rw [location, FilePath.segments_join hStem, segments_joinWith (forall_mem_segments hLeft)]

theorem Scaffold.isRooted_location {left : List Text} {place : Text × Text}
    (hLeft : ∀ name ∈ left, IsSegment name)
    (hStem : FilePath.isRooted (place.2 ++ ".go".toList) = false) :
    FilePath.isRooted (location left place) = false := by
  rw [location, FilePath.isRooted_join hStem, FilePath.isRooted_joinWith]
  exact forall_mem_segments hLeft

/-- What stays of an output package is some of its segments. -/
theorem RenderedFile.isSegment_of_mem_leftover {outputPackage name : Text}
    (h : name ∈ leftover outputPackage) : IsSegment name := by
  unfold leftover at h
  split at h
  · exact isSegment_of_mem h
  · cases h

/-- The locations say what stays of the output package. -/
theorem Scaffold.layout_location_inj {left right : List Text} (types : List Declaration)
    (hLeft : ∀ name ∈ left, IsSegment name) (hRight : ∀ name ∈ right, IsSegment name)
    (h : (layout types).map (location left) = (layout types).map (location right)) :
    left = right := by
  -- The first file of the layout is a documentation, whose stem is known.
  have hFirst : location left (controllerDir, Package.docStem) =
      location right (controllerDir, Package.docStem) := (List.cons.inj h).1
  have hSegments := congrArg segments hFirst
  rw [segments_location hLeft (by decide), segments_location hRight (by decide), List.append_assoc,
    List.append_assoc] at hSegments
  exact List.append_cancel_right hSegments

namespace PlanConfig

variable {c : PlanConfig} {u : Universe}

/-- The types of a plan do not depend on the output package. -/
theorem types_planOf_outputPackage (c : PlanConfig) (u : Universe) (out : Text) :
    (planOf { c with outputPackage := out } u).types = (c.planOf u).types := by
  have hTypes : ∀ c' : PlanConfig, (c'.planOf u).types =
      ((c'.unsortedTypes u).map Prod.fst).mergeSort Declaration.notAfter := by
    intro c'
    show (c'.plannedTypes u).map Prod.fst = _
    rw [plannedTypes_eq]
    exact List.map_mergeSort fun _ _ _ _ => rfl
  have hUnsorted : (unsortedTypes { c with outputPackage := out } u).map Prod.fst =
      (c.unsortedTypes u).map Prod.fst := by
    rw [unsortedTypes, unsortedTypes, List.map_flatMap, List.map_flatMap]
    refine List.flatMap_congr fun q _ => ?_
    rw [List.map_map, List.map_map]
    rfl
  rw [hTypes, hTypes, hUnsorted]

theorem Admits.placeable_planOf (h : c.Admits u) : ∀ d ∈ (c.planOf u).types, Placeable d :=
  fun d hd => h.placeable d (mem_types_planOf.1 hd)

/-- The files of a plan stand at its places. -/
theorem Admits.map_place_render (h : c.Admits u) {files : List RenderedFile}
    (hFiles : (c.planOf u).render = .ok files) :
    files.map (fun f => (f.packagePath, f.stem)) =
      if (c.planOf u).types = [] then [] else c.sharedScaffold.places (c.planOf u).types := by
  rw [h.render_planOf] at hFiles
  obtain rfl := Except.ok.inj hFiles
  rw [Plan.map_place_files, outputs_planOf]

/-- **Where the files of a plan are written.** -/
theorem Admits.relativePaths (h : c.Admits u) {files : List RenderedFile}
    (hFiles : (c.planOf u).render = .ok files) :
    files.map (·.relativePath c.outputPackage) =
      if (c.planOf u).types = [] then []
      else (layout (c.planOf u).types).map (location (leftover c.outputPackage)) := by
  have hPlaces := h.map_place_render hFiles
  by_cases hEmpty : (c.planOf u).types = []
  · rw [if_pos hEmpty] at hPlaces ⊢
    rw [List.map_eq_nil_iff.1 hPlaces]
    rfl
  · rw [if_neg hEmpty] at hPlaces ⊢
    exact c.sharedScaffold.relativePaths_places (fun d hd => (h.placeable_planOf d hd).1) hPlaces

end PlanConfig

/-! ## Spellings of the output package -/

/-- **When two output packages lead to the same locations.** Each file of a plan is written to its
directory and the stem with `.go`, behind what stays of the output package; this is nothing when the
output package does not have two slashes at its end. The locations for two output packages are the
same if and only if the same stays of both, or if there are no types. -/
theorem Plan.relativePaths_eq_iff {c : PlanConfig} {u : Universe} {out : Text} {p p' : Plan}
    {files files' : List RenderedFile} (h : ofUniverse c u = .ok p)
    (h' : ofUniverse { c with outputPackage := out } u = .ok p') (hFiles : p.render = .ok files)
    (hFiles' : p'.render = .ok files') :
    p'.types = p.types ∧
      (files.map (·.relativePath c.outputPackage) =
        if p.types = [] then [] else (layout p.types).map (location (leftover c.outputPackage))) ∧
      (files.map (·.relativePath c.outputPackage) = files'.map (·.relativePath out) ↔
        p.types = [] ∨ leftover c.outputPackage = leftover out) := by
  obtain ⟨-, hAdmits, rfl⟩ := PlanConfig.ofUniverse_eq_ok_iff_admits.1 h
  obtain ⟨-, hAdmits', rfl⟩ := PlanConfig.ofUniverse_eq_ok_iff_admits.1 h'
  have hTypes := c.types_planOf_outputPackage u out
  have hPaths := hAdmits.relativePaths hFiles
  have hPaths' := hAdmits'.relativePaths hFiles'
  refine ⟨hTypes, hPaths, ?_⟩
  rw [hTypes] at hPaths'
  rw [hPaths, hPaths']
  by_cases hEmpty : (c.planOf u).types = []
  · rw [if_pos hEmpty, if_pos hEmpty]
    exact iff_of_true rfl (Or.inl hEmpty)
  · rw [if_neg hEmpty, if_neg hEmpty, or_iff_right hEmpty]
    constructor
    · exact layout_location_inj _ (fun _ => isSegment_of_mem_leftover)
        fun _ => isSegment_of_mem_leftover
    · intro hLeftover
      rw [hLeftover]

/-- One slash at the end of the output package makes no difference. -/
theorem Plan.relativePaths_eq_iff_pods : ∃ p p' files files',
    ofUniverse { outputPackage := "out" } Universe.pods = .ok p ∧
      ofUniverse { outputPackage := "out/" } Universe.pods = .ok p' ∧
      p.render = .ok files ∧ p'.render = .ok files' ∧
      files.map (·.relativePath "out") = files'.map (·.relativePath "out/") := by
  let c : PlanConfig := { outputPackage := "out" }
  let c' : PlanConfig := { outputPackage := "out/" }
  have hAdmits : c.Admits Universe.pods := by decide +kernel
  have hAdmits' : c'.Admits Universe.pods := by decide +kernel
  have hPlan := hAdmits.ofUniverse_eq (by decide +kernel)
  have hPlan' := hAdmits'.ofUniverse_eq (by decide +kernel)
  have hSame : leftover "out" = leftover "out/" := by decide +kernel
  obtain ⟨-, -, hPaths⟩ :=
    relativePaths_eq_iff hPlan hPlan' hAdmits.render_planOf hAdmits'.render_planOf
  exact ⟨_, _, _, _, hPlan, hPlan', hAdmits.render_planOf, hAdmits'.render_planOf,
    hPaths.2 (Or.inr hSame)⟩

/-- **Two slashes make a difference.** All files are in a directory `out` then. -/
theorem Plan.exists_relativePaths_ne : ∃ p p' files files',
    ofUniverse { outputPackage := "out" } Universe.pods = .ok p ∧
      ofUniverse { outputPackage := "out//" } Universe.pods = .ok p' ∧
      p.render = .ok files ∧ p'.render = .ok files' ∧
      (files.map (·.relativePath "out")).head? = some "server/controller/doc.go".toList ∧
      (files'.map (·.relativePath "out//")).head? = some "out/server/controller/doc.go".toList ∧
      files.map (·.relativePath "out") ≠ files'.map (·.relativePath "out//") := by
  have hFirst : ∀ c : PlanConfig, c.Admits Universe.pods → c.selectedIn Universe.pods ≠ [] →
      ((((c.planOf Universe.pods).packages.flatMap (·.files (c.planOf Universe.pods).types)).map
        (·.relativePath c.outputPackage)).head? =
          some (location (leftover c.outputPackage) (controllerDir, Package.docStem))) := by
    intro c hAdmits hSelected
    rw [hAdmits.relativePaths hAdmits.render_planOf,
      if_neg (PlanConfig.types_planOf_ne_nil hSelected)]
    rfl
  let c : PlanConfig := { outputPackage := "out" }
  let c' : PlanConfig := { outputPackage := "out//" }
  have hAdmits : c.Admits Universe.pods := by decide +kernel
  have hAdmits' : c'.Admits Universe.pods := by decide +kernel
  have hHead := hFirst c hAdmits (by decide +kernel)
  have hHead' := hFirst c' hAdmits' (by decide +kernel)
  have hDoc : location (leftover "out") (controllerDir, Package.docStem) =
      "server/controller/doc.go" := by decide +kernel
  have hDoc' : location (leftover "out//") (controllerDir, Package.docStem) =
      "out/server/controller/doc.go" := by decide +kernel
  rw [hDoc] at hHead
  rw [hDoc'] at hHead'
  refine ⟨_, _, _, _, hAdmits.ofUniverse_eq (by decide +kernel),
    hAdmits'.ofUniverse_eq (by decide +kernel), hAdmits.render_planOf, hAdmits'.render_planOf,
    hHead, hHead', fun hEq => ?_⟩
  have hHeads := hHead.symm.trans ((congrArg List.head? hEq).trans hHead')
  revert hHeads
  decide +kernel

end RestScaffold
