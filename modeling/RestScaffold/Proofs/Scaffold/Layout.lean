import Mathlib.Data.List.TakeWhile
import RestScaffold.Proofs.Scaffold.Places
import RestScaffold.Proofs.Text.Segments
import RestScaffold.RenderedFile

/-!
# Where the files of a tree are written

A file is written below its directory, which is the path of its package with the output package
taken off. The path was joined to the output package without the slashes at its end, however many
there are, but it is taken off as it is spelled. So with two slashes or more at its end it is not
found, and its segments stay in front of the directory.

* `RenderedFile.leftover`: what stays of an output package;
* `Scaffold.layout`: the directories and stems of the files of some types, behind the root;
* `Scaffold.relativePaths_places`: where the files of some types are written.
-/

namespace RestScaffold

open Text

/-! ## Slashes at the end -/

theorem ImportPath.exists_eq_trimEnd_append (s : Text) :
    ∃ n, s = trimEnd s ++ List.replicate n '/' := by
  refine ⟨(s.reverse.takeWhile (· = '/')).length, ?_⟩
  have hSlashes : ∀ c ∈ s.reverse.takeWhile (· = '/'), c = '/' := by
    intro c hc
    exact of_decide_eq_true (List.mem_takeWhile_imp (p := fun c => decide (c = '/')) hc)
  have hParts := List.takeWhile_append_dropWhile (p := fun c => decide (c = '/')) (l := s.reverse)
  rw [List.eq_replicate_of_mem hSlashes] at hParts
  have hReversed := congrArg List.reverse hParts
  rw [List.reverse_append, List.reverse_replicate, List.reverse_reverse] at hReversed
  exact hReversed.symm

theorem ImportPath.getLast?_trimEnd_ne (s : Text) : (trimEnd s).getLast? ≠ some '/' := by
  rw [trimEnd, List.getLast?_reverse]
  intro hHead
  have hNot := List.head?_dropWhile_not (fun c => decide (c = '/')) s.reverse
  rw [hHead] at hNot
  exact absurd hNot (by decide)

/-! ## Directories -/

/-- The segments that stay of an output package in front of every directory: none, unless two
slashes stand at its end. -/
def RenderedFile.leftover (outputPackage : Text) : List Text :=
  if "//".toList <:+ outputPackage then segments outputPackage else []

theorem RenderedFile.leftover_of_le_one {s : Text} (hs : s.getLast? ≠ some '/') {n : Nat}
    (hn : n ≤ 1) : leftover (s ++ List.replicate n '/') = [] := by
  refine if_neg fun hSuffix => ?_
  obtain rfl | rfl : n = 0 ∨ n = 1 := by omega
  · obtain ⟨front, hFront⟩ := hSuffix
    rw [List.replicate_zero, List.append_nil] at hFront
    rw [← hFront, show "//".toList = ['/'] ++ ['/'] from rfl, ← List.append_assoc] at hs
    exact hs List.getLast?_concat
  · obtain ⟨front, hFront⟩ := hSuffix
    rw [List.replicate_one, show "//".toList = ['/'] ++ ['/'] from rfl, ← List.append_assoc]
      at hFront
    rw [← List.append_cancel_right hFront] at hs
    exact hs List.getLast?_concat

theorem RenderedFile.leftover_of_two_le (s : Text) {n : Nat} (hn : 2 ≤ n) :
    leftover (s ++ List.replicate n '/') = segments s := by
  obtain ⟨m, rfl⟩ : ∃ m, n = m + 2 := ⟨n - 2, by omega⟩
  have hSuffix : "//".toList <:+ s ++ List.replicate (m + 2) '/' := by
    refine ⟨s ++ List.replicate m '/', ?_⟩
    rw [List.append_assoc, show "//".toList = List.replicate 2 '/' from rfl,
      List.replicate_append_replicate]
  rw [leftover, if_pos hSuffix, segments_append_replicate_slash]

namespace Scaffold

open RenderedFile

variable (s : Scaffold)

/-- **What stays of the path of a package.** -/
theorem directory_root_append {first : Char} {rest : Text} (h : first ≠ '/') :
    directory s.outputPackage (s.root ++ first :: rest) =
      joinWith "/" (leftover s.outputPackage ++ segments (first :: rest)) := by
  obtain ⟨n, hOutput⟩ := ImportPath.exists_eq_trimEnd_append s.outputPackage
  have hLast := ImportPath.getLast?_trimEnd_ne s.outputPackage
  unfold directory root
  refine congrArg (joinWith "/") ?_
  revert hOutput hLast
  generalize ImportPath.trimEnd s.outputPackage = base
  generalize s.outputPackage = output
  rintro rfl hLast
  by_cases hBase : base = []
  · have hNone : leftover (base ++ List.replicate n '/') = [] := by
      rcases Nat.lt_or_ge n 2 with hn | hn
      · exact leftover_of_le_one hLast (by omega)
      · rw [leftover_of_two_le base hn, hBase]
        rfl
    rw [if_pos hBase, hNone, hBase]
    cases n with
    | zero => rfl
    | succ n =>
      show segments ((dropLead? ('/' :: List.replicate n '/') (first :: rest)).getD _) = _
      rw [dropLead?_cons_of_ne (Ne.symm h)]
      rfl
  · rw [if_neg hBase, List.append_assoc, dropLead?_append_append]
    match n with
    | 0 =>
      rw [leftover_of_le_one hLast (Nat.zero_le 1)]
      exact segments_cons_slash _
    | 1 =>
      rw [leftover_of_le_one hLast (Nat.le_refl 1)]
      rfl
    | n + 2 =>
      have hNone : dropLead? (List.replicate (n + 2) '/') (['/'] ++ first :: rest) = none :=
        dropLead?_cons_of_ne (Ne.symm h) (List.replicate n '/') rest
      rw [leftover_of_two_le base (Nat.le_add_left 2 n), hNone]
      exact segments_append_slash base _

/-! ## Layouts -/

/-- The directories and stems of the files in front of those of the types. -/
def frontLayout : List (Text × Text) :=
  [(controllerDir, Package.docStem), (controllerDir, "controller"), (controllerDir, "utils"),
    (serviceDir, Package.docStem), (serviceDir, "interface"), (middlewareDir, Package.docStem),
    (middlewareDir, "auth")]

/-- The directory of the controller of a type. -/
def typeDir (d : Declaration) : Text := controllerDir ++ '/' :: d.directory

/-- The directories and stems of the files of a type. -/
def typeLayout (d : Declaration) : List (Text × Text) :=
  [(typeDir d, Package.docStem), (typeDir d, d.stem), (serviceDir, d.stem)]

/-- The directory and the stems of the server's files. -/
def serverLayout : List (Text × Text) := [(serverDir, Package.docStem), (serverDir, "server")]

/-- The directories and stems of all files of some types. -/
def layout (types : List Declaration) : List (Text × Text) :=
  frontLayout ++ types.flatMap typeLayout ++ serverLayout

/-- Where the file of a directory and a stem is written, with segments in front that stay of the
output package. -/
def location (left : List Text) (place : Text × Text) : Text :=
  FilePath.join (joinWith "/" (left ++ segments place.1)) (place.2 ++ ".go")

/-- The directories of the tree are below the server's. -/
theorem exists_of_mem_layout {types : List Declaration} {place : Text × Text}
    (h : place ∈ layout types) : ∃ rest, place.1 = 's' :: rest := by
  rcases List.mem_append.1 h with h | hServer
  · rcases List.mem_append.1 h with hFront | hTypes
    · simp only [frontLayout, List.mem_cons, List.not_mem_nil, or_false] at hFront
      rcases hFront with rfl | rfl | rfl | rfl | rfl | rfl | rfl <;> exact ⟨_, rfl⟩
    · obtain ⟨d, -, hPlace⟩ := List.mem_flatMap.1 hTypes
      simp only [typeLayout, List.mem_cons, List.not_mem_nil, or_false] at hPlace
      rcases hPlace with rfl | rfl | rfl <;> exact ⟨_, rfl⟩
  · simp only [serverLayout, List.mem_cons, List.not_mem_nil, or_false] at hServer
    rcases hServer with rfl | rfl <;> exact ⟨_, rfl⟩

/-- The places of types with directories are those of the layout, behind the root. -/
theorem places_eq_layout {types : List Declaration} (h : ∀ d ∈ types, d.directory ≠ []) :
    s.places types = (layout types).map fun place => (s.root ++ place.1, place.2) := by
  have hFront : s.frontPlaces = frontLayout.map fun place => (s.root ++ place.1, place.2) := by
    unfold frontPlaces
    rw [path_controllerDir, path_serviceDir, path_middlewareDir]
    rfl
  have hServer : s.serverPlaces = serverLayout.map fun place => (s.root ++ place.1, place.2) := by
    unfold serverPlaces
    rw [path_serverDir]
    rfl
  have hTypes : types.flatMap s.typePlaces =
      (types.flatMap typeLayout).map fun place => (s.root ++ place.1, place.2) := by
    rw [List.map_flatMap]
    refine List.flatMap_congr fun d hd => ?_
    unfold typePlaces typeLayout typeDir
    rw [s.controllerPath_eq (h d hd), path_controllerDir, path_serviceDir, List.append_assoc]
    rfl
  rw [places, hFront, hTypes, hServer, layout, List.map_append, List.map_append]

/-- **Where the files of some types are written.** The output package matters only for what stays
of it in front of the directories. -/
theorem relativePaths_places {types : List Declaration} (h : ∀ d ∈ types, d.directory ≠ [])
    {files : List RenderedFile}
    (hPlaces : files.map (fun f => (f.packagePath, f.stem)) = s.places types) :
    files.map (·.relativePath s.outputPackage) =
      (layout types).map (location (leftover s.outputPackage)) := by
  have hPaths : files.map (·.relativePath s.outputPackage) =
      (files.map fun f => (f.packagePath, f.stem)).map fun place =>
        FilePath.join (directory s.outputPackage place.1) (place.2 ++ ".go") := by
    rw [List.map_map]
    rfl
  rw [hPaths, hPlaces, s.places_eq_layout h, List.map_map]
  refine List.map_congr_left fun place hPlace => ?_
  obtain ⟨rest, hDir⟩ := exists_of_mem_layout hPlace
  show FilePath.join (directory s.outputPackage (s.root ++ place.1)) (place.2 ++ ".go") = _
  rw [location, hDir, s.directory_root_append (by decide)]

end Scaffold

end RestScaffold
