import RestScaffold.Proofs.Plan.DistinctTargets

/-!
# Files outside the output directory

The targets of a plan are joined to the base, and whether they stay below it is a matter of what
stays of the output package, of the directories and of the stems. The directories of a tree go down,
so only a stem can lead out: by being absolute, or by double dots that go up further than the
directories go down.

* `FilePath.level?_append_eq_some_iff` and `FilePath.level?_goFile`: walks in parts;
* `Scaffold.Stays`: the types whose stems do not lead out;
* `Scaffold.descends_layout_iff`: that none of their files is outside;
* `Plan.targets_inside_iff`: the same for the targets of a plan.
-/

namespace RestScaffold

open Text

/-! ## Walks in parts -/

namespace FilePath

variable {walk more : List Text} {n m : Nat}

theorem level?_append_eq_some_iff :
    level? n (walk ++ more) = some m ↔ ∃ k, level? n walk = some k ∧ level? k more = some m := by
  rw [level?_append, Option.bind_eq_some_iff]

theorem exists_level?_of_isPrefix (h : more <+: walk) (hWalk : level? n walk = some m) :
    ∃ k, level? n more = some k := by
  obtain ⟨rest, rfl⟩ := h
  obtain ⟨k, hMore, -⟩ := level?_append_eq_some_iff.1 hWalk
  exact ⟨k, hMore⟩

/-- Names that are not made of dots lead down. -/
theorem level?_of_forall (h : ∀ name ∈ walk, name ≠ "." ∧ name ≠ "..") (n : Nat) :
    level? n walk = some (n + walk.length) := by
  induction walk generalizing n with
  | nil => rfl
  | cons name walk ih =>
    obtain ⟨hName, hRest⟩ := List.forall_mem_cons.1 h
    rw [level?_cons, levelStep?_of_ne hName.1 hName.2]
    show level? (n + 1) walk = _
    rw [ih hRest, List.length_cons, Nat.add_right_comm, Nat.add_assoc]

/-- **The last segment of a file leads down**, and the others are segments of what stands in front of
its ending. -/
theorem exists_level?_goFile (a : Text) : ∃ front, front <+: segments a ∧
    ∀ n, level? n (segments (a ++ ".go")) = (level? n front).map (· + 1) := by
  obtain ⟨front, last, -, hWhole, hFile⟩ := exists_segments_append a
  refine ⟨front, ?_, fun n => ?_⟩
  · rw [hWhole]
    exact List.prefix_append front _
  · have hDot : last ++ ".go" ≠ "." := append_ne_of_length_lt (by decide) last
    have hDots : last ++ ".go" ≠ ".." := append_ne_of_length_lt (by decide) last
    have hLast : ∀ k, level? k [last ++ ".go".toList] = some (k + 1) := level?_singleton hDot hDots
    rw [hFile ".go" (by decide) (by decide), level?_append]
    cases level? n front with
    | none => rfl
    | some k => exact hLast k

end FilePath

/-! ## Types that stay -/

namespace Scaffold

open FilePath

variable {left : List Text} {d : Declaration} {types : List Declaration}

/-- The stem of the type is relative, and the way to its controller stays below the base. -/
def Stays (left : List Text) (d : Declaration) : Prop :=
  isRooted d.stem = false ∧
    (level? 0 (left ++ ["server".toList, "controller".toList] ++ segments d.stem ++
      segments (d.stem ++ ".go"))).isSome = true

instance (left : List Text) (d : Declaration) : Decidable (Stays left d) :=
  inferInstanceAs (Decidable (_ ∧ _))

/-- The levels on the way to the controller of a type. -/
theorem stays_iff : Stays left d ↔ isRooted d.stem = false ∧ ∃ k l m, level? 0 left = some k ∧
    level? (k + 2) (segments d.stem) = some l ∧ level? l (segments (d.stem ++ ".go")) = some m := by
  have hDir : ∀ k l, level? k ["server".toList, "controller".toList] = some l ↔ l = k + 2 := by
    intro k l
    rw [level?_of_forall (by decide)]
    exact Option.some_inj.trans eq_comm
  unfold Stays
  simp only [Option.isSome_iff_exists, level?_append_eq_some_iff, hDir]
  constructor
  · rintro ⟨hRelative, m, l, ⟨_, ⟨k, hLeft, rfl⟩, hStem⟩, hFile⟩
    exact ⟨hRelative, k, l, m, hLeft, hStem, hFile⟩
  · rintro ⟨hRelative, k, l, m, hLeft, hStem, hFile⟩
    exact ⟨hRelative, m, l, ⟨_, ⟨k, hLeft, rfl⟩, hStem⟩, hFile⟩

/-- A location descends when the segments of its parts do. -/
theorem descends_location_iff {place : Text × Text} (hLeft : ∀ name ∈ left, IsSegment name) :
    Descends (location left place) ↔ isRooted (place.2 ++ ".go".toList) = false ∧
      ∃ k l m, level? 0 left = some k ∧ level? k (segments place.1) = some l ∧
        level? l (segments (place.2 ++ ".go")) = some (m + 1) := by
  by_cases hStem : isRooted (place.2 ++ ".go".toList) = false
  · unfold Descends
    rw [isRooted_location hLeft hStem, segments_location hLeft hStem]
    simp only [level?_append_eq_some_iff, hStem, true_and]
    constructor
    · rintro ⟨m, l, ⟨k, hFront, hDir⟩, hFile⟩
      exact ⟨k, l, m, hFront, hDir, hFile⟩
    · rintro ⟨k, l, m, hFront, hDir, hFile⟩
      exact ⟨m, l, ⟨k, hFront, hDir⟩, hFile⟩
  · have hAbsolute : isRooted (place.2 ++ ".go".toList) = true := by simpa using hStem
    refine iff_of_false (fun hDescends => hStem ?_) fun hParts => hStem hParts.1
    have hRelative := hDescends.1
    rwa [location, join_of_rooted hAbsolute] at hRelative

/-- The shared files are below what stays of the output package. -/
theorem descends_shared {k : Nat} {place : Text × Text} (hLeft : ∀ name ∈ left, IsSegment name)
    (hLevel : level? 0 left = some k) (hPlace : place ∈ frontLayout ++ serverLayout) :
    Descends (location left place) := by
  have hDirs : ∀ place ∈ frontLayout ++ serverLayout, ∀ name ∈ segments place.1,
      name ≠ "." ∧ name ≠ ".." := by decide +kernel
  have hFiles : ∀ place ∈ frontLayout ++ serverLayout,
      isRooted (place.2 ++ ".go".toList) = false ∧
        (segments (place.2 ++ ".go".toList)).length = 1 ∧
          ∀ name ∈ segments (place.2 ++ ".go".toList), name ≠ "." ∧ name ≠ ".." := by decide +kernel
  obtain ⟨hRelative, hLength, hNames⟩ := hFiles place hPlace
  have hDir : level? k (segments place.1) = some (k + (segments place.1).length) :=
    level?_of_forall (hDirs place hPlace) k
  refine (descends_location_iff hLeft).2 ⟨hRelative, k, _, k + (segments place.1).length, hLevel,
    hDir, ?_⟩
  rw [level?_of_forall hNames, hLength]

/-- The files of a type that stays. -/
theorem Stays.descends {place : Text × Text} (h : Stays left d)
    (hLeft : ∀ name ∈ left, IsSegment name) (hPlace : place ∈ typeLayout d) :
    Descends (location left place) := by
  obtain ⟨hRelative, k, l, m, hFront, hStem, hFile⟩ := stays_iff.1 h
  obtain ⟨front, hPrefix, hGoFile⟩ := exists_level?_goFile d.stem
  have hRelative' : isRooted (d.stem ++ ".go".toList) = false := by
    rw [isRooted_append _ (by decide), hRelative]
  have hDir : level? k (segments (typeDir d)) = some l := by
    rw [typeDir, segments_append_slash, Declaration.directory_of_relative hRelative]
    refine level?_append_eq_some_iff.2 ⟨k + 2, ?_, hStem⟩
    exact level?_of_forall (by decide +kernel) k
  have hService : level? k (segments serviceDir) = some (k + 2) :=
    level?_of_forall (by decide +kernel) k
  simp only [typeLayout, List.mem_cons, List.not_mem_nil, or_false] at hPlace
  rw [descends_location_iff hLeft]
  rcases hPlace with rfl | rfl | rfl
  · exact ⟨rfl, k, l, l, hFront, hDir, level?_singleton (by decide) (by decide) l⟩
  · rw [hGoFile] at hFile
    obtain ⟨m', hWalk, rfl⟩ := Option.map_eq_some_iff.1 hFile
    refine ⟨hRelative', k, l, m', hFront, hDir, ?_⟩
    rw [hGoFile, hWalk]
    rfl
  · obtain ⟨m', hWalk⟩ := exists_level?_of_isPrefix hPrefix hStem
    refine ⟨hRelative', k, k + 2, m', hFront, hService, ?_⟩
    rw [hGoFile, hWalk]
    rfl

theorem controller_mem_layout (h : d ∈ types) : (typeDir d, d.stem) ∈ layout types := by
  refine List.mem_append_left _ (List.mem_append_right _ (List.mem_flatMap.2 ⟨d, h, ?_⟩))
  exact List.mem_cons_of_mem _ List.mem_cons_self

/-- **When all files of some types are below every base.** -/
theorem descends_layout_iff (hTypes : types ≠ []) (hLeft : ∀ name ∈ left, IsSegment name) :
    (∀ place ∈ layout types, Descends (location left place)) ↔ ∀ d ∈ types, Stays left d := by
  constructor
  · intro hDescends d hd
    obtain ⟨hRelative, k, l, m, hFront, hDir, hFile⟩ :=
      (descends_location_iff hLeft).1 (hDescends _ (controller_mem_layout hd))
    rw [isRooted_append _ (by decide)] at hRelative
    rw [typeDir, segments_append_slash, Declaration.directory_of_relative hRelative] at hDir
    obtain ⟨k', hController, hStem⟩ := level?_append_eq_some_iff.1 hDir
    rw [level?_of_forall (by decide +kernel)] at hController
    obtain rfl := Option.some.inj hController
    exact stays_iff.2 ⟨hRelative, k, l, m + 1, hFront, hStem, hFile⟩
  · intro hStays place hPlace
    obtain ⟨d, hd⟩ := List.exists_mem_of_ne_nil types hTypes
    obtain ⟨-, k, -, -, hLevel, -⟩ := stays_iff.1 (hStays d hd)
    rcases List.mem_append.1 hPlace with hPlace | hServer
    · rcases List.mem_append.1 hPlace with hFront | hType
      · exact descends_shared hLeft hLevel (List.mem_append_left _ hFront)
      · obtain ⟨e, he, hType⟩ := List.mem_flatMap.1 hType
        exact (hStays e he).descends hLeft hType
    · exact descends_shared hLeft hLevel (List.mem_append_right _ hServer)

/-- A relative stem without double dots stays. -/
theorem stays_of_not_mem (hLeft : "..".toList ∉ left) (hRelative : isRooted d.stem = false)
    (hStem : "..".toList ∉ segments d.stem) : Stays left d := by
  obtain ⟨k, hFront⟩ := exists_level?_of_not_mem hLeft 0
  obtain ⟨l, hLevel⟩ := exists_level?_of_not_mem hStem (k + 2)
  obtain ⟨front, hPrefix, hGoFile⟩ := exists_level?_goFile d.stem
  obtain ⟨m, hBelow⟩ := exists_level?_of_not_mem (fun hMem => hStem (hPrefix.subset hMem)) l
  refine stays_iff.2 ⟨hRelative, k, l, m + 1, hFront, hLevel, ?_⟩
  rw [hGoFile, hBelow]
  rfl

end Scaffold

/-! ## Plans -/

/-- Whether all targets are below their bases is a matter of what the types are called. -/
theorem PlanConfig.Admits.inside_iff_stays {c : PlanConfig} {u : Universe} (h : c.Admits u)
    {files : List RenderedFile} (hFiles : (c.planOf u).render = .ok files) :
    (∀ o : Output, o.package = c.outputPackage → ∀ f ∈ files,
      FilePath.Inside o.base (o.target f)) ↔
        ∀ d ∈ (c.planOf u).types, Scaffold.Stays (RenderedFile.leftover c.outputPackage) d := by
  have hPaths := h.relativePaths hFiles
  have hDescends : (∀ o : Output, o.package = c.outputPackage → ∀ f ∈ files,
      FilePath.Inside o.base (o.target f)) ↔
        ∀ path ∈ files.map (·.relativePath c.outputPackage), FilePath.Descends path := by
    simp only [← FilePath.inside_join_iff, List.forall_mem_map]
    constructor
    · intro hInside f hf base
      exact hInside { base, package := c.outputPackage } rfl f hf
    · rintro hInside o hPackage f hf
      rw [Output.target, hPackage]
      exact hInside f hf o.base
  rw [hDescends, hPaths]
  by_cases hEmpty : (c.planOf u).types = []
  · rw [if_pos hEmpty, hEmpty]
    exact iff_of_true nofun nofun
  · rw [if_neg hEmpty, List.forall_mem_map]
    exact Scaffold.descends_layout_iff hEmpty fun _ => RenderedFile.isSegment_of_mem_leftover

/-- **When the files of a plan are below the base.** Whatever the base is, all targets are strictly
below it if and only if no stem leads out, on the way to the controller of its type. No stem does
that when it is relative and has no double dots among its segments, and when none stays of the output
package. -/
theorem Plan.targets_inside_iff {c : PlanConfig} {u : Universe} {p : Plan}
    {files : List RenderedFile} (h : ofUniverse c u = .ok p) (hFiles : p.render = .ok files) :
    ((∀ o : Output, o.package = c.outputPackage → ∀ f ∈ files,
        FilePath.Inside o.base (o.target f)) ↔
      ∀ d ∈ p.types, Scaffold.Stays (RenderedFile.leftover c.outputPackage) d) ∧
      ("..".toList ∉ RenderedFile.leftover c.outputPackage →
        (∀ d ∈ p.types, FilePath.isRooted d.stem = false ∧ "..".toList ∉ segments d.stem) →
          ∀ d ∈ p.types, Scaffold.Stays (RenderedFile.leftover c.outputPackage) d) := by
  obtain ⟨-, hAdmits, rfl⟩ := PlanConfig.ofUniverse_eq_ok_iff_admits.1 h
  refine ⟨hAdmits.inside_iff_stays hFiles, fun hLeft hStems d hd => ?_⟩
  exact Scaffold.stays_of_not_mem hLeft (hStems d hd).1 (hStems d hd).2

/-- The files of types of plain names are below the base. -/
theorem Plan.targets_inside_iff_named : ∃ p files,
    ofUniverse { outputPackage := "out" } (Universe.named ["Pod", "Node"]) = .ok p ∧
      p.render = .ok files ∧
      ∀ f ∈ files, FilePath.Inside "o" (({ base := "o", package := "out" } : Output).target f) := by
  let c : PlanConfig := { outputPackage := "out" }
  let u := Universe.named ["Pod", "Node"]
  have hAdmits : c.Admits u := by decide +kernel
  have hPlan := hAdmits.ofUniverse_eq (by decide +kernel)
  have hPlain : ∀ d ∈ c.selectedIn u,
      FilePath.isRooted d.stem = false ∧ "..".toList ∉ segments d.stem := by decide +kernel
  obtain ⟨hInside, hStays⟩ := targets_inside_iff hPlan hAdmits.render_planOf
  refine ⟨_, _, hPlan, hAdmits.render_planOf, ?_⟩
  have hPlanned : ∀ d ∈ (c.planOf u).types,
      FilePath.isRooted d.stem = false ∧ "..".toList ∉ segments d.stem := fun d hd =>
    hPlain d (PlanConfig.mem_types_planOf.1 hd)
  exact hInside.2 (hStays (by decide +kernel) hPlanned) { base := "o", package := "out" } rfl

/-- **A slash in front of a name leads out.** The manifest is in order and so is the plan, but the
controller of the type is written to the root. -/
theorem Plan.exists_target_outside : ∃ u p files,
    Manifest.read .json (Manifest.text ["/X"]) = .ok u ∧
      ofUniverse { outputPackage := "out" } u = .ok p ∧ p.render = .ok files ∧
      ∃ f ∈ files, ({ base := "o", package := "out" } : Output).target f = "/x.go" ∧
        ¬ FilePath.Inside "o" (({ base := "o", package := "out" } : Output).target f) := by
  let c : PlanConfig := { outputPackage := "out" }
  let u := Universe.named ["/X"]
  have hRead : Manifest.read .json (Manifest.text ["/X"]) = .ok u := by decide +kernel
  have hAdmits : c.Admits u := by decide +kernel
  have hPaths := hAdmits.relativePaths hAdmits.render_planOf
  have hSelected : ∃ d, d ∈ c.selectedIn u ∧ d.stem = "/x" :=
    ⟨_, List.mem_cons_self, by decide +kernel⟩
  obtain ⟨d, hd, hStem⟩ := hSelected
  have hTypes : d ∈ (c.planOf u).types := PlanConfig.mem_types_planOf.2 hd
  have hLocation : ∀ dir, Scaffold.location (RenderedFile.leftover c.outputPackage) (dir, d.stem) =
      "/x.go" := by
    have hRooted : FilePath.isRooted ("/x".toList ++ ".go".toList) = true := by decide
    intro dir
    rw [hStem]
    exact FilePath.join_of_rooted hRooted
  rw [if_neg (List.ne_nil_of_mem hTypes)] at hPaths
  have hMem := List.mem_map_of_mem (f := Scaffold.location (RenderedFile.leftover c.outputPackage))
    (Scaffold.controller_mem_layout hTypes)
  rw [← hPaths, hLocation] at hMem
  obtain ⟨f, hf, hPath⟩ := List.mem_map.1 hMem
  have hTarget : ({ base := "o", package := "out" } : Output).target f = "/x.go" := by
    show FilePath.join "o" (f.relativePath c.outputPackage) = _
    rw [hPath]
    exact FilePath.join_of_rooted (by decide)
  refine ⟨u, _, _, hRead, hAdmits.ofUniverse_eq (by decide +kernel), hAdmits.render_planOf, f, hf,
    hTarget, fun hInside => ?_⟩
  rw [hTarget] at hInside
  exact absurd hInside.1 (by decide)

end RestScaffold
