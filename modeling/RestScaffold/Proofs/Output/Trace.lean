import RestScaffold.Proofs.Output.Backup
import RestScaffold.Proofs.Output.Run

/-!
# Traces of writing

A run writes its targets, makes directories on the way to them and keeps backups beside them, until
it goes through its record and takes the backups away. This module follows what has become of a
location, step by step.

* `Output.Trace`: what a run has done to a location so far;
* `Output.Underway`: what holds while files are placed, with `Output.Underway.next` for the step from
  one file to the next;
* `Output.Clearing`: what holds while the record is undone or its backups are discarded, with
  `Output.Clearing.undoes` and `Output.Clearing.discards` for the steps;
* `Output.underway_placeAll`: how a run over the files ends.
-/

namespace RestScaffold.Output

open FileTree

/-- What a run that began with the tree `t₀` has done to a location. The record of the run has the
targets that can have a backup. -/
inductive Trace (t₀ : FileTree) (targets : List Text) (touched : List Touched) (t : FileTree)
    (l : Location) : Prop
  | same (h : t.get? l = t₀.get? l)
  | target {p : Text} (hp : p ∈ targets) (hPlace : l = t₀.place p)
  /-- A directory was made on the way to a target. -/
  | directory {p a : Text} (hp : p ∈ targets) (ha : a ∈ FilePath.ancestors p)
    (hPlace : l = t₀.place a) (hNone : t₀.get? l = none) (hNew : t.get? l = some .directory)
  | backup {x : Touched} {bytes : List UInt8} (hx : x ∈ touched)
    (hBackup : x.backup = some (backupPath x.path)) (hPlace : l = t₀.place (backupPath x.path))
    (hOld : t₀.get? l ≠ some .directory) (hNow : t.get? l = some (.file bytes))
  /-- A backup was there. -/
  | cleared {p : Text} (hp : p ∈ targets) (hPlace : l = t₀.place (backupPath p))
    (hOld : t₀.get? l ≠ some .directory) (hNow : t.get? l = none)

section

variable {t₀ t t' : FileTree} {targets : List Text} {touched touched' : List Touched}
  {l : Location} {x : Touched} {p : Text} {bytes : List UInt8} {backup : Option Text}

/-! ## Steps and traces -/

/-- A step that leaves a location alone leaves its trace. -/
theorem Trace.congr (h : Trace t₀ targets touched t l) (hSame : t'.get? l = t.get? l)
    (hSub : touched ⊆ touched') : Trace t₀ targets touched' t' l := by
  cases h with
  | same h => exact .same (hSame.trans h)
  | target hp hPlace => exact .target hp hPlace
  | directory hp ha hPlace hNone hNew => exact .directory hp ha hPlace hNone (hSame.trans hNew)
  | backup hx hBackup hPlace hOld hNow =>
    exact .backup (hSub hx) hBackup hPlace hOld (hSame.trans hNow)
  | cleared hp hPlace hOld hNow => exact .cleared hp hPlace hOld (hSame.trans hNow)

/-- The first target of the record can be left out if there is no backup of it. -/
theorem Trace.drop (h : Trace t₀ targets (x :: touched) t l)
    (hNone : x.backup = some (backupPath x.path) → l = t₀.place (backupPath x.path) →
      ∀ bytes, t.get? l ≠ some (.file bytes)) : Trace t₀ targets touched t l := by
  cases h with
  | same h => exact .same h
  | target hp hPlace => exact .target hp hPlace
  | directory hp ha hPlace hNone hNew => exact .directory hp ha hPlace hNone hNew
  | backup hx hBackup hPlace hOld hNow =>
    rcases List.mem_cons.1 hx with rfl | hx
    · exact absurd hNow (hNone hBackup hPlace _)
    · exact .backup hx hBackup hPlace hOld hNow
  | cleared hp hPlace hOld hNow => exact .cleared hp hPlace hOld hNow

/-- The record says that a target was touched, and with which backup. -/
structure Recorded (targets : List Text) (x : Touched) : Prop where
  mem : x.path ∈ targets
  backup_eq : ∀ b, x.backup = some b → b = backupPath x.path

/-! ## Placing files -/

/-- What holds while the files of a run are placed. -/
structure Underway (t₀ : FileTree) (targets : List Text) (touched : List Touched)
    (t : FileTree) : Prop where
  kept : t₀.EntriesKept t
  recorded : ∀ x ∈ touched, Recorded targets x
  /-- A target with a backup is a file, and so is the backup. -/
  readable : ∀ x ∈ touched, ∀ b, x.backup = some b →
    (∃ bytes, t.read x.path = .ok bytes) ∧ ∃ bytes, t.read b = .ok bytes
  /-- A target without a backup was no file at the start. -/
  absent : ∀ x ∈ touched, x.backup = none → ∀ bytes, t₀.read x.path ≠ .ok bytes
  trace : ∀ l, Trace t₀ targets touched t l

theorem underway_start (t : FileTree) (targets : List Text) : Underway t targets [] t :=
  ⟨.refl t, nofun, nofun, nofun, fun _ => .same rfl⟩

namespace Underway

/-- Files that were readable stay so when entries are kept. -/
theorem readable_of_kept (h : Underway t₀ targets touched t) (hKept : t.EntriesKept t') :
    ∀ x ∈ touched, ∀ b, x.backup = some b →
      (∃ bytes, t'.read x.path = .ok bytes) ∧ ∃ bytes, t'.read b = .ok bytes := by
  intro x hx b hb
  obtain ⟨⟨bytes, hPath⟩, bytes', hBackup⟩ := h.readable x hx b hb
  exact ⟨hKept.exists_read hPath, hKept.exists_read hBackup⟩

theorem protects (h : Underway t₀ targets touched t) (hp : p ∈ targets)
    (hProtects : Protects t p (.ok backup) t') :
    Underway t₀ targets (⟨p, backup⟩ :: touched) t' := by
  cases hProtects with
  | absent hRead =>
    refine ⟨h.kept, List.forall_mem_cons.2 ⟨⟨hp, nofun⟩, h.recorded⟩,
      List.forall_mem_cons.2 ⟨nofun, h.readable⟩,
      List.forall_mem_cons.2 ⟨fun _ bytes hStart => ?_, h.absent⟩, fun l => ?_⟩
    · obtain ⟨bytes', hNow⟩ := h.kept.exists_read hStart
      exact hRead bytes' hNow
    · exact (h.trace l).congr rfl (List.subset_cons_self _ _)
  | @copied bytes _ hRead hWrite =>
    have hKept := entriesKept_of_write hWrite
    have hPlace := h.kept.place_eq (backupPath p)
    obtain ⟨-, hNoDirectory, -⟩ := write_eq_ok_iff.1 hWrite
    refine ⟨h.kept.trans hKept, List.forall_mem_cons.2 ⟨⟨hp, ?_⟩, h.recorded⟩,
      List.forall_mem_cons.2 ⟨?_, h.readable_of_kept hKept⟩,
      List.forall_mem_cons.2 ⟨nofun, h.absent⟩, fun l => ?_⟩
    · rintro b ⟨⟩
      rfl
    · rintro b ⟨⟩
      exact ⟨hKept.exists_read hRead, _, read_of_write hWrite⟩
    · by_cases hBackup : l = t.place (backupPath p)
      · have hFile : t'.get? l = some (.file bytes) := by
          rw [get?_of_write hWrite, if_pos hBackup]
        exact .backup List.mem_cons_self rfl (hBackup.trans hPlace)
          (fun hOld => hNoDirectory (hBackup ▸ h.kept.directory l hOld)) hFile
      · refine (h.trace l).congr ?_ (List.subset_cons_self _ _)
        rw [get?_of_write hWrite, if_neg hBackup]

theorem added (h : Underway t₀ targets touched t) (hp : p ∈ targets)
    (hAdded : DirectoriesAdded (FilePath.ancestors p) t t') : Underway t₀ targets touched t' := by
  refine ⟨h.kept.trans hAdded.entriesKept, h.recorded, h.readable_of_kept hAdded.entriesKept,
    h.absent, fun l => ?_⟩
  rcases hAdded.get? l with hSame | ⟨⟨a, ha, hPlace⟩, hNone, hNew⟩
  · exact (h.trace l).congr hSame (List.Subset.refl _)
  · -- Nothing was there before the directory was made, and nothing was there at the start.
    have hStart : t₀.get? l = none := by
      cases hEntry : t₀.get? l with
      | none => rfl
      | some e =>
        cases e with
        | file bytes =>
          obtain ⟨bytes', hFile⟩ := h.kept.file l bytes hEntry
          rw [hFile] at hNone
          cases hNone
        | directory =>
          rw [h.kept.directory l hEntry] at hNone
          cases hNone
    exact .directory hp ha (hPlace.trans (h.kept.place_eq a)) hStart hNew

theorem written (h : Underway t₀ targets touched t) (hp : p ∈ targets)
    (hWrite : t.write p bytes = .ok t') : Underway t₀ targets touched t' := by
  have hKept := entriesKept_of_write hWrite
  refine ⟨h.kept.trans hKept, h.recorded, h.readable_of_kept hKept, h.absent, fun l => ?_⟩
  by_cases hPlace : l = t.place p
  · exact .target hp (hPlace.trans (h.kept.place_eq p))
  · refine (h.trace l).congr ?_ (List.Subset.refl _)
    rw [get?_of_write hWrite, if_neg hPlace]

/-- **A step to the next file.** -/
theorem next (h : Underway t₀ targets touched t) (hp : p ∈ targets) {t₁ t₂ : FileTree}
    {result : Except WriteFailure Unit} (hProtects : Protects t p (.ok backup) t₁)
    (hPlaces : Places t₁ p bytes result t₂) : Underway t₀ targets (⟨p, backup⟩ :: touched) t₂ := by
  have hProtected := h.protects hp hProtects
  cases hPlaces with
  | written hAdded hWrite => exact (hProtected.added hp hAdded).written hp hWrite
  | failed e hAdded => exact hProtected.added hp hAdded

end Underway

/-! ## Undoing and discarding -/

/-- What holds while the record of a run is undone or its backups are discarded. -/
structure Clearing (t₀ : FileTree) (targets : List Text) (touched : List Touched)
    (t : FileTree) : Prop where
  kept : t₀.DirectoriesKept t
  recorded : ∀ x ∈ touched, Recorded targets x
  /-- The backup of a target can be moved back unless it is gone. -/
  movable : ∀ x ∈ touched, ∀ b, x.backup = some b → t.TakesFile b ∧ t.TakesFile x.path
  trace : ∀ l, Trace t₀ targets touched t l

theorem Underway.clearing (h : Underway t₀ targets touched t) :
    Clearing t₀ targets touched t := by
  refine ⟨h.kept.toDirectoriesKept, h.recorded, fun x hx b hb => ?_, h.trace⟩
  obtain ⟨⟨bytes, hPath⟩, bytes', hBackup⟩ := h.readable x hx b hb
  exact ⟨takesFile_of_read hBackup, takesFile_of_read hPath⟩

namespace Clearing

theorem movable_of_kept (h : Clearing t₀ targets (x :: touched) t)
    (hKept : t.DirectoriesKept t' ∧ t'.DirectoriesKept t) :
    ∀ y ∈ touched, ∀ b, y.backup = some b → t'.TakesFile b ∧ t'.TakesFile y.path := by
  intro y hy b hb
  obtain ⟨hBackup, hPath⟩ := h.movable y (List.mem_cons_of_mem x hy) b hb
  exact ⟨hBackup.of_kept hKept, hPath.of_kept hKept⟩

/-- What can be read was no directory at the start. -/
theorem ne_directory (h : Clearing t₀ targets touched t) (hRead : t.read p = .ok bytes) :
    t₀.get? (t.place p) ≠ some .directory :=
  fun hOld => ne_directory_of_read hRead (h.kept.directory _ hOld)

/-- A step that leaves the tree alone leaves no backup if the first target of the record has none. -/
theorem drop (h : Clearing t₀ targets (x :: touched) t)
    (hNone : ∀ b, x.backup = some b → ∀ bytes, t.read b ≠ .ok bytes) :
    Clearing t₀ targets touched t := by
  refine ⟨h.kept, fun y hy => h.recorded y (List.mem_cons_of_mem x hy),
    fun y hy => h.movable y (List.mem_cons_of_mem x hy), fun l => ?_⟩
  refine (h.trace l).drop fun hBackup hPlace bytes hFile => ?_
  have hGone := (h.movable x List.mem_cons_self _ hBackup).1.get?_eq_none
    (getLast?_backupPath x.path) (hNone _ hBackup)
  rw [h.kept.place_eq, ← hPlace, hFile] at hGone
  cases hGone

/-- A step that removes the backup of the first target, and may write the target. -/
theorem clear {b : Text} (h : Clearing t₀ targets (x :: touched) t) (hBackup : x.backup = some b)
    (hRead : t.read b = .ok bytes) (hKept : t.DirectoriesKept t' ∧ t'.DirectoriesKept t)
    (hEntries : ∀ l, l ≠ t.place x.path → t'.get? l = if l = t.place b then none else t.get? l) :
    Clearing t₀ targets touched t' := by
  obtain ⟨hMem, hEq⟩ := h.recorded x List.mem_cons_self
  obtain rfl := hEq b hBackup
  refine ⟨h.kept.trans hKept.1, fun y hy => h.recorded y (List.mem_cons_of_mem x hy),
    h.movable_of_kept hKept, fun l => ?_⟩
  by_cases hTarget : l = t.place x.path
  · exact .target hMem (hTarget.trans (h.kept.place_eq _))
  · have hEntry := hEntries l hTarget
    by_cases hPlace : l = t.place (backupPath x.path)
    · rw [if_pos hPlace] at hEntry
      exact .cleared hMem (hPlace.trans (h.kept.place_eq _)) (hPlace ▸ h.ne_directory hRead) hEntry
    · rw [if_neg hPlace] at hEntry
      refine ((h.trace l).drop fun _ hEq => ?_).congr hEntry (List.Subset.refl _)
      exact absurd (hEq.trans (h.kept.place_eq _).symm) hPlace

/-- A backup that is there can be moved back. -/
theorem not_stuck {b : Text} (h : Clearing t₀ targets (⟨p, some b⟩ :: touched) t)
    (hTargets : ∀ p ∈ targets, NamesGoFile p) (hRead : t.read b = .ok bytes) :
    ∃ t', t.move b p = .ok t' :=
  exists_move hRead (h.movable _ List.mem_cons_self b rfl).2
    (getLast?_of_namesGoFile (hTargets p (h.recorded _ List.mem_cons_self).mem))

theorem undoes (h : Clearing t₀ targets (x :: touched) t) (hTargets : ∀ p ∈ targets, NamesGoFile p)
    (hUndoes : Undoes t x t') : Clearing t₀ targets touched t' := by
  obtain ⟨hMem, -⟩ := h.recorded x List.mem_cons_self
  cases hUndoes with
  | moved hMove =>
    obtain ⟨bytes, hRead, hEntries⟩ := get?_of_move hMove
    refine h.clear rfl hRead (directoriesKept_of_move hMove) fun l hPlace => ?_
    rw [hEntries, if_neg hPlace]
  | stuck hMove =>
    refine h.drop fun b hb bytes hRead => ?_
    obtain rfl := Option.some.inj hb
    obtain ⟨t', hMoved⟩ := h.not_stuck hTargets hRead
    exact hMove t' hMoved
  | @removed path _ hRemove =>
    have hKept := directoriesKept_of_remove hRemove
    have hDropped := h.drop nofun
    refine ⟨h.kept.trans hKept.1, hDropped.recorded, h.movable_of_kept hKept, fun l => ?_⟩
    by_cases hPlace : l = t.place path
    · exact .target hMem (hPlace.trans (h.kept.place_eq _))
    · refine (hDropped.trace l).congr ?_ (List.Subset.refl _)
      rw [get?_of_remove hRemove, if_neg hPlace]
  | absent hRead => exact h.drop nofun

theorem discards (h : Clearing t₀ targets (x :: touched) t) (hDiscards : Discards t x t') :
    Clearing t₀ targets touched t' := by
  cases hDiscards with
  | removed hRemove =>
    obtain ⟨⟨bytes, hRead⟩, -⟩ := remove_eq_ok_iff.1 hRemove
    exact h.clear rfl hRead (directoriesKept_of_remove hRemove) fun l _ => get?_of_remove hRemove l
  | absent hRead =>
    refine h.drop fun b hb => ?_
    obtain rfl := Option.some.inj hb
    exact hRead
  | new => exact h.drop nofun

end Clearing

/-! ## Whole runs -/

/-- Between two files, those that were touched and those that are left are the targets. -/
def Listed (targets : List Text) (touched : List Touched) (files : List (Text × List UInt8)) :
    Prop :=
  targets = (touched.map (·.path)).reverse ++ files.map (·.1)

theorem Listed.mem {files : List (Text × List UInt8)}
    (h : Listed targets touched ((p, bytes) :: files)) : p ∈ targets := by
  rw [h]
  exact List.mem_append_right _ List.mem_cons_self

theorem Listed.next {files : List (Text × List UInt8)}
    (h : Listed targets touched ((p, bytes) :: files)) (backup : Option Text) :
    Listed targets (⟨p, backup⟩ :: touched) files := by
  rw [Listed, h, List.map_cons, List.map_cons, List.reverse_cons, List.append_assoc]
  rfl

/-- The record of a run over all files has every target. -/
theorem Listed.exists_touched (h : Listed targets touched []) (hp : p ∈ targets) :
    ∃ x ∈ touched, x.path = p := by
  rw [h, List.map_nil, List.append_nil, List.mem_reverse] at hp
  exact List.mem_map.1 hp

/-- A run over the files ends underway with all of them, or it undoes a record. -/
theorem underway_placeAll (t : FileTree) (files : List (Text × List UInt8)) :
    (∃ touched t', (placeAll [] files : StateM FileTree _).run t = (.ok touched, t') ∧
        Underway t (files.map (·.1)) touched t' ∧ Listed (files.map (·.1)) touched []) ∨
      ∃ e touched t', Underway t (files.map (·.1)) touched t' ∧
        (placeAll [] files : StateM FileTree _).run t =
          (.error e, ((undoAll touched : StateM FileTree _).run t').2) := by
  let Inv (touched : List Touched) (left : List (Text × List UInt8)) (t' : FileTree) : Prop :=
    Underway t (files.map (·.1)) touched t' ∧ Listed (files.map (·.1)) touched left
  have hStart : Inv [] files t := ⟨underway_start t _, rfl⟩
  have hNext : ∀ {touched path bytes left t' backup t₁ result t₂},
      Inv touched ((path, bytes) :: left) t' → Protects t' path (.ok backup) t₁ →
        Places t₁ path bytes result t₂ → Inv (⟨path, backup⟩ :: touched) left t₂ := by
    intro touched path bytes left t' backup t₁ result t₂ hInv hProtects hPlaces
    exact ⟨hInv.1.next hInv.2.mem hProtects hPlaces, hInv.2.next backup⟩
  rcases placeAll_cases Inv Inv id hNext hNext hStart with
    ⟨touched, t', hRun, hInv⟩ | ⟨e, touched, left, t', hInv, hRun⟩
  · exact Or.inl ⟨touched, t', hRun, hInv⟩
  · exact Or.inr ⟨e, touched, t', hInv.1, hRun⟩

/-- When all files are placed, the run is underway with all of them. -/
theorem underway_of_placeAll {files : List (Text × List UInt8)}
    (h : (placeAll [] files : StateM FileTree _).run t = (.ok touched, t')) :
    Underway t (files.map (·.1)) touched t' ∧ Listed (files.map (·.1)) touched [] := by
  rcases underway_placeAll t files with ⟨all, t₁, hRun, hUnderway, hListed⟩ | ⟨e, left, t₁, -, hRun⟩
  · rw [hRun] at h
    obtain ⟨hRecord, rfl⟩ := Prod.mk.inj h
    obtain rfl := Except.ok.inj hRecord
    exact ⟨hUnderway, hListed⟩
  · rw [hRun] at h
    cases (Prod.mk.inj h).1

end

end RestScaffold.Output
