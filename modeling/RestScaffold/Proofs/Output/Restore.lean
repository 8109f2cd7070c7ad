import Mathlib.Data.List.Nodup
import RestScaffold.Proofs.File.Closed
import RestScaffold.Proofs.Output.Changes

/-!
# Failed runs restore their targets

A run that fails has copies of the files that it has overwritten, and it goes back through its
record from the latest target to the first. Targets at different places do not get in each other's
way, and neither do their backups. So in the end every target is the file that it was, or none if it
was none, at whichever file and step the run has failed.

* `Output.Saved`: what holds between two files, with `Output.Saved.next` for the step;
* `Output.Restoring`: what holds on the way back, with `Output.Restoring.undoes` for the step;
* `Output.targets_restored`: what a failed run leaves at its targets.
-/

namespace RestScaffold.Output

open FileTree

section

variable {t₀ t t' : FileTree} {targets : List Text} {touched : List Touched}
  {files : List (Text × List UInt8)} {x : Touched} {p : Text} {bytes : List UInt8}
  {backup : Option Text}

/-- The backups of a record hold the files that were there at the start. -/
def Saves (t₀ t : FileTree) (x : Touched) : Prop :=
  ∀ b, x.backup = some b →
    ∃ bytes, t₀.read x.path = .ok bytes ∧ t.get? (t₀.place b) = some (.file bytes)

/-- A step that leaves the places of backups alone leaves what they hold. -/
theorem Saves.congr (h : Saves t₀ t x) (hSame : ∀ b, x.backup = some b → ∀ bytes,
    t.get? (t₀.place b) = some (.file bytes) → t'.get? (t₀.place b) = some (.file bytes)) :
    Saves t₀ t' x := by
  intro b hb
  obtain ⟨bytes, hStart, hNow⟩ := h b hb
  exact ⟨bytes, hStart, hSame b hb bytes hNow⟩

/-- Targets at different places stay so, however the files are split into touched ones and others. -/
theorem Listed.nodup (h : Listed targets touched files) (hDistinct : (targets.map t₀.place).Nodup) :
    (touched.map fun x => t₀.place x.path).Nodup ∧
      (files.map fun f => t₀.place f.1).Nodup ∧
      ∀ x ∈ touched, ∀ f ∈ files, t₀.place x.path ≠ t₀.place f.1 := by
  rw [h, List.map_append, List.map_reverse, List.map_map, List.map_map] at hDistinct
  obtain ⟨hTouched, hFiles, hApart⟩ := List.nodup_append.1 hDistinct
  refine ⟨List.nodup_reverse.1 hTouched, hFiles, fun x hx f hf => ?_⟩
  exact hApart _ (List.mem_reverse.2 (List.mem_map_of_mem hx)) _ (List.mem_map_of_mem hf)

/-! ## On the way -/

/-- What holds between two files of a run, for the targets that were touched and the files that are
left. -/
structure Saved (t₀ : FileTree) (targets : List Text) (touched : List Touched)
    (files : List (Text × List UInt8)) (t : FileTree) : Prop where
  underway : Underway t₀ targets touched t
  listed : Listed targets touched files
  /-- The targets of the files that are left are as they were. -/
  waiting : ∀ f ∈ files, ∀ bytes, t.get? (t₀.place f.1) = some (.file bytes) ↔
    t₀.get? (t₀.place f.1) = some (.file bytes)
  saved : ∀ x ∈ touched, Saves t₀ t x

namespace Saved

theorem protects (h : Saved t₀ targets touched ((p, bytes) :: files) t) (hClosed : t₀.Closed)
    (hDots : ∀ p ∈ targets, DotFree p) (hTargets : ∀ p ∈ targets, NamesGoFile p)
    (hDistinct : (targets.map t₀.place).Nodup) (hProtects : Protects t p (.ok backup) t') :
    Saved t₀ targets (⟨p, backup⟩ :: touched) files t' := by
  have hp := h.listed.mem
  have hListed := h.listed.next backup
  obtain ⟨hHere, hWaiting⟩ := List.forall_mem_cons.1 h.waiting
  have hFrame : ∀ l, l ≠ t₀.place (backupPath p) → t'.get? l = t.get? l := fun l hl =>
    hProtects.frame (by rwa [h.underway.kept.place_eq])
  refine ⟨h.underway.protects hp hProtects, hListed, fun f hf bytes => ?_,
    List.forall_mem_cons.2 ⟨?_, fun x hx => ?_⟩⟩
  · have hTarget : f.1 ∈ targets := by
      rw [hListed]
      exact List.mem_append_right _ (List.mem_map_of_mem hf)
    rw [← hWaiting f hf,
      hFrame _ (Ne.symm (place_backupPath_ne t₀ (hTargets p hp) (hTargets _ hTarget)))]
  · cases hProtects with
    | absent hRead => exact nofun
    | @copied bytes _ hRead hWrite =>
      rintro b ⟨⟩
      refine ⟨bytes, (hClosed.read_iff h.underway.kept.toDirectoriesKept (hDots p hp) hHere).1 hRead,
        ?_⟩
      rw [get?_of_write hWrite, h.underway.kept.place_eq, if_pos rfl]
  · refine (h.saved x hx).congr fun b hb bytes hNow => ?_
    obtain ⟨hMem, hEq⟩ := h.underway.recorded x hx
    obtain rfl := hEq b hb
    rw [hFrame _ fun hPlace => ?_]
    · exact hNow
    · exact (h.listed.nodup hDistinct).2.2 x hx _ List.mem_cons_self
        (place_eq_of_backupPath t₀ (hTargets _ hMem) (hTargets p hp) hPlace)

theorem added (h : Saved t₀ targets touched files t) (hp : p ∈ targets)
    (hAdded : DirectoriesAdded (FilePath.ancestors p) t t') : Saved t₀ targets touched files t' := by
  refine ⟨h.underway.added hp hAdded, h.listed, fun f hf bytes => ?_, fun x hx => ?_⟩
  · exact (hAdded.file_iff _ bytes).trans (h.waiting f hf bytes)
  · exact (h.saved x hx).congr fun b _ bytes => (hAdded.file_iff _ bytes).2

theorem written (h : Saved t₀ targets (⟨p, backup⟩ :: touched) files t)
    (hTargets : ∀ p ∈ targets, NamesGoFile p) (hDistinct : (targets.map t₀.place).Nodup)
    (hWrite : t.write p bytes = .ok t') : Saved t₀ targets (⟨p, backup⟩ :: touched) files t' := by
  have hp := (h.underway.recorded _ List.mem_cons_self).mem
  refine ⟨h.underway.written hp hWrite, h.listed, fun f hf bytes => ?_, fun x hx => ?_⟩
  · rw [get?_of_write hWrite, h.underway.kept.place_eq, if_neg]
    · exact h.waiting f hf bytes
    · exact Ne.symm ((h.listed.nodup hDistinct).2.2 _ List.mem_cons_self f hf)
  · refine (h.saved x hx).congr fun b hb bytes hNow => ?_
    obtain ⟨hMem, hEq⟩ := h.underway.recorded x hx
    rw [get?_of_write hWrite, h.underway.kept.place_eq, if_neg]
    · exact hNow
    · rw [hEq b hb]
      exact place_backupPath_ne t₀ (hTargets _ hMem) (hTargets p hp)

/-- **A step to the next file.** -/
theorem next (h : Saved t₀ targets touched ((p, bytes) :: files) t) (hClosed : t₀.Closed)
    (hDots : ∀ p ∈ targets, DotFree p) (hTargets : ∀ p ∈ targets, NamesGoFile p)
    (hDistinct : (targets.map t₀.place).Nodup) {t₁ t₂ : FileTree} {result : Except WriteFailure Unit}
    (hProtects : Protects t p (.ok backup) t₁) (hPlaces : Places t₁ p bytes result t₂) :
    Saved t₀ targets (⟨p, backup⟩ :: touched) files t₂ := by
  have hProtected := h.protects hClosed hDots hTargets hDistinct hProtects
  cases hPlaces with
  | written hAdded hWrite =>
    exact (hProtected.added h.listed.mem hAdded).written hTargets hDistinct hWrite
  | failed e hAdded => exact hProtected.added h.listed.mem hAdded

end Saved

/-! ## On the way back -/

/-- What holds while the record of a failed run is undone. -/
structure Restoring (t₀ : FileTree) (targets : List Text) (touched : List Touched)
    (t : FileTree) : Prop where
  clearing : Clearing t₀ targets touched t
  absent : ∀ x ∈ touched, x.backup = none → ∀ bytes, t₀.read x.path ≠ .ok bytes
  saved : ∀ x ∈ touched, Saves t₀ t x
  distinct : (touched.map fun x => t₀.place x.path).Nodup
  /-- The targets that are not in the record are as they were. -/
  restored : ∀ p ∈ targets, p ∉ touched.map (·.path) → ∀ bytes,
    t.read p = .ok bytes ↔ t₀.read p = .ok bytes

theorem Saved.restoring (h : Saved t₀ targets touched files t) (hClosed : t₀.Closed)
    (hDots : ∀ p ∈ targets, DotFree p) (hDistinct : (targets.map t₀.place).Nodup) :
    Restoring t₀ targets touched t := by
  refine ⟨h.underway.clearing, h.underway.absent, h.saved, (h.listed.nodup hDistinct).1,
    fun p hp hLeft bytes => ?_⟩
  refine hClosed.read_iff h.underway.kept.toDirectoriesKept (hDots p hp) ?_
  rw [h.listed] at hp
  rcases List.mem_append.1 hp with hTouched | hFile
  · exact absurd (List.mem_reverse.1 hTouched) hLeft
  · obtain ⟨f, hf, rfl⟩ := List.mem_map.1 hFile
    exact h.waiting f hf

namespace Restoring

/-- The backup of the latest target can be read, and it holds what the target held. -/
theorem read_backup {b : Text} (h : Restoring t₀ targets (x :: touched) t)
    (hBackup : x.backup = some b) :
    ∃ bytes, t₀.read x.path = .ok bytes ∧ t.read b = .ok bytes := by
  obtain ⟨bytes, hStart, hNow⟩ := h.saved x List.mem_cons_self b hBackup
  refine ⟨bytes, hStart, read_eq_ok_iff.2
    ⟨(h.clearing.movable x List.mem_cons_self b hBackup).1.reaches, ?_, ?_⟩⟩
  · rw [h.clearing.kept.place_eq]
    exact hNow
  · rw [(h.clearing.recorded x List.mem_cons_self).backup_eq b hBackup]
    exact getLast?_backupPath x.path

/-- The target that is undone is as it was. -/
theorem restores (h : Restoring t₀ targets (x :: touched) t)
    (hTargets : ∀ p ∈ targets, NamesGoFile p) (hUndoes : Undoes t x t') (bytes : List UInt8) :
    t'.read x.path = .ok bytes ↔ t₀.read x.path = .ok bytes := by
  cases hUndoes with
  | moved hMove =>
    obtain ⟨original, hStart, hRead⟩ := h.read_backup rfl
    rw [read_of_move hMove hRead, hStart]
  | stuck hMove =>
    obtain ⟨original, -, hRead⟩ := h.read_backup rfl
    obtain ⟨t', hMoved⟩ := h.clearing.not_stuck hTargets hRead
    exact absurd hMoved (hMove t')
  | removed hRemove =>
    exact iff_of_false (read_of_remove hRemove bytes) (h.absent _ List.mem_cons_self rfl bytes)
  | absent hRead => exact iff_of_false (hRead bytes) (h.absent _ List.mem_cons_self rfl bytes)

/-- **A step back.** -/
theorem undoes (h : Restoring t₀ targets (x :: touched) t)
    (hTargets : ∀ p ∈ targets, NamesGoFile p) (hDistinct : (targets.map t₀.place).Nodup)
    (hUndoes : Undoes t x t') : Restoring t₀ targets touched t' := by
  have hKept := h.clearing.kept
  obtain ⟨hMem, hEq⟩ := h.clearing.recorded x List.mem_cons_self
  obtain ⟨hBoth, hFrame⟩ := hUndoes.frame
  obtain ⟨hFirst, hRest⟩ := List.nodup_cons.1 h.distinct
  refine ⟨h.clearing.undoes hTargets hUndoes, fun y hy => h.absent y (List.mem_cons_of_mem x hy),
    fun y hy => ?_, hRest, fun p hp hLeft bytes => ?_⟩
  · refine (h.saved y (List.mem_cons_of_mem x hy)).congr fun b hb bytes hNow => ?_
    obtain ⟨hMem', hEq'⟩ := h.clearing.recorded y (List.mem_cons_of_mem x hy)
    obtain rfl := hEq' b hb
    rw [← hKept.place_eq] at hNow ⊢
    rw [hFrame, hNow]
    · exact place_backupPath_ne t (hTargets _ hMem') (hTargets _ hMem)
    · intro b hb hPlace
      obtain rfl := hEq b hb
      refine hFirst (List.mem_map.2 ⟨y, hy, ?_⟩)
      have hSame := place_eq_of_backupPath t (hTargets _ hMem') (hTargets _ hMem) hPlace
      rwa [hKept.place_eq, hKept.place_eq] at hSame
  · by_cases hHere : p = x.path
    · rw [hHere]
      exact h.restores hTargets hUndoes bytes
    · refine (read_iff_of_kept hBoth (hFrame _ ?_ fun b hb => ?_)).trans (h.restored p hp ?_ bytes)
      · intro hPlace
        rw [hKept.place_eq, hKept.place_eq] at hPlace
        exact hHere (List.inj_on_of_nodup_map hDistinct hp hMem hPlace)
      · rw [hEq b hb]
        exact Ne.symm (place_backupPath_ne t (hTargets _ hMem) (hTargets p hp))
      · exact fun hIn => (List.mem_cons.1 hIn).elim hHere hLeft

end Restoring

end

/-- **A failed run restores every target.** In a tree in which everything stands in a directory, let
the targets of a run have no dots among their segments and be apart from each other. If the run
fails, then afterwards a file can be read at a target if and only if it could before, with the same
bytes. And everything stands in a directory still. -/
theorem targets_restored {o : Output} {files : List RenderedFile} {t : ClosedTree} {t' : FileTree}
    {e : ScaffoldError} (hDots : ∀ f ∈ files, DotFree (o.target f))
    (hApart : (files.map o.target).Pairwise t.Apart)
    (h : (o.writeAll files : StateM FileTree _).run t.toFileTree = (.error e, t')) :
    t'.Closed ∧
      ∀ f ∈ files, ∀ bytes, t'.read (o.target f) = .ok bytes ↔ t.read (o.target f) = .ok bytes := by
  let targets := files.map o.target
  have hTargets := o.namesGoFile_targets files
  have hDotFree : ∀ p ∈ targets, DotFree p := List.forall_mem_map.2 hDots
  have hPlaces : (targets.map t.place).Nodup := (nodup_place_iff hDotFree).2 hApart
  have hAfter : ((o.writeAll files : StateM FileTree _).run t.toFileTree).2 = t' := by rw [h]
  have hClosed : t'.Closed := hAfter ▸ (evolves_writeAll o files t.toFileTree).closed t.closed
  have hStart : Saved t.toFileTree targets [] (files.map fun f => (o.target f, f.assemble))
      t.toFileTree :=
    ⟨underway_start _ targets, (o.map_fst_files files).symm, fun _ _ _ => Iff.rfl, nofun⟩
  have hOutcome := placeAll_cases (Saved t.toFileTree targets)
    (fun touched _ => Restoring t.toFileTree targets touched)
    (fun hInv => hInv.restoring t.closed hDotFree hPlaces)
    (fun hInv hProtects hFails => (hInv.next t.closed hDotFree hTargets hPlaces hProtects
      hFails).restoring t.closed hDotFree hPlaces)
    (fun hInv hProtects hWritten => hInv.next t.closed hDotFree hTargets hPlaces hProtects hWritten)
    hStart
  refine ⟨hClosed, ?_⟩
  by_cases hDry : o.dryRun = true
  · rw [run_writeAll_of_dryRun hDry] at h
    cases h
  · rw [run_writeAll (Bool.eq_false_iff.2 hDry)] at h
    rcases hOutcome with ⟨touched, t₁, hPlaced, -⟩ | ⟨e', touched, left, t₁, hRestoring, hPlaced⟩
    · rw [hPlaced] at h
      cases h
    · rw [hPlaced] at h
      have hEnd := undoAll_keeps (Restoring t.toFileTree targets)
        (fun hInv hUndoes => hInv.undoes hTargets hPlaces hUndoes) hRestoring
      rw [← (Prod.mk.inj h).2]
      exact fun f hf => hEnd.restored _ (List.mem_map_of_mem hf) List.not_mem_nil

/-- The tree of `blockedTree` with the fact that everything stands in a directory. -/
def blockedClosed : ClosedTree := ⟨blockedTree, closed_of_entries (by decide +kernel)⟩

/-- When the second file of a run cannot be placed, the first target holds what it held. -/
theorem targets_restored_blocked : ∃ e t',
    (({ base := "o", package := "p" } : Output).writeAll blockedFiles : StateM FileTree _).run
        blockedClosed.toFileTree = (.error e, t') ∧
      t'.Closed ∧ t'.read "o/a.go" = .ok [1] ∧
      ∀ bytes, t'.read "o/blocked/inner/x.go" ≠ .ok bytes := by
  let o : Output := { base := "o", package := "p" }
  have hFails : ((o.writeAll blockedFiles : StateM FileTree _).run blockedTree).1 =
      .error (.writeFailed (.directory "o/blocked/inner" .notDirectory)) := by decide +kernel
  have hRun : (o.writeAll blockedFiles : StateM FileTree _).run blockedClosed.toFileTree =
      (.error (.writeFailed (.directory "o/blocked/inner" .notDirectory)),
        ((o.writeAll blockedFiles : StateM FileTree _).run blockedTree).2) := Prod.ext hFails rfl
  obtain ⟨hClosed, hRestored⟩ := targets_restored (by decide +kernel) (by decide +kernel) hRun
  have hFirst : o.target { packagePath := "p", stem := "a" } = "o/a.go" := by decide +kernel
  have hSecond : o.target { packagePath := "p/blocked/inner", stem := "x" } =
      "o/blocked/inner/x.go" := by decide +kernel
  have hPresent : blockedTree.read "o/a.go" = .ok [1] := by decide +kernel
  have hAbsent : ¬ blockedTree.isFile "o/blocked/inner/x.go" = true := by decide +kernel
  refine ⟨_, _, hRun, hClosed, ?_, fun bytes hRead => hAbsent (isFile_eq_true_iff.2 ⟨bytes, ?_⟩)⟩
  · have hBoth := hRestored _ List.mem_cons_self [1]
    rw [hFirst] at hBoth
    exact hBoth.2 hPresent
  · have hBoth := hRestored _ (List.mem_cons_of_mem _ List.mem_cons_self) bytes
    rw [hSecond] at hBoth
    exact hBoth.1 hRead

/-- Two files, the second of which has this stem. -/
def respelledFiles (stem : Text) : List RenderedFile :=
  [{ packagePath := "p", stem := "d/x" }, { packagePath := "p", stem := stem, body := "y" }]

/-- A tree with a file where the first of these files goes, seen from the directory around it, and a
file in the way of a directory. -/
def respelledTree : ClosedTree where
  entries := [(["w"], .directory), (["w", "o"], .directory), (["w", "o", "d"], .directory),
    (["w", "o", "d", "x.go"], .file [1]), (["w", "o", "blocked"], .file [])]
  workingDirectory := ["w"]
  closed := closed_of_entries (by decide +kernel)

/-- **Targets with different texts need not be apart,** and then a failed run loses the file that
was there. The second stem makes another path of the first target: one with a slash more, or the
path from the root. -/
theorem exists_unrestored_target : ∃ (o : Output) (t : ClosedTree),
    ∀ stem ∈ ["d//x".toList, "/w/o/d/x".toList], ∃ files, respelledFiles stem ⊆ files ∧
      (∀ f ∈ files, DotFree (o.target f)) ∧ (files.map o.target).Nodup ∧
      (∃ e, ((o.writeAll files : StateM FileTree _).run t.toFileTree).1 = .error e) ∧
      ∃ f ∈ files, ∃ bytes, t.read (o.target f) = .ok bytes ∧
        ((o.writeAll files : StateM FileTree _).run t.toFileTree).2.read (o.target f) ≠
          .ok bytes := by
  let o : Output := { base := "o", package := "p" }
  have hCases : ∀ stem ∈ ["d//x".toList, "/w/o/d/x".toList],
      let files : List RenderedFile :=
        respelledFiles stem ++ [{ packagePath := "p/blocked/inner", stem := "y" }]
      respelledFiles stem ⊆ files ∧
        (∀ f ∈ files, DotFree (o.target f)) ∧ (files.map o.target).Nodup ∧
        ((o.writeAll files : StateM FileTree _).run respelledTree.toFileTree).1 =
          .error (.writeFailed (.directory "o/blocked/inner" .notDirectory)) ∧
        ∃ f ∈ files, respelledTree.read (o.target f) = .ok [1] ∧
          ((o.writeAll files : StateM FileTree _).run respelledTree.toFileTree).2.read
            (o.target f) ≠ .ok [1] := by
    decide +kernel
  refine ⟨o, respelledTree, fun stem hStem => ?_⟩
  obtain ⟨hFiles, hDots, hDistinct, hFails, f, hf, hHeld, hLost⟩ := hCases stem hStem
  exact ⟨_, hFiles, hDots, hDistinct, ⟨_, hFails⟩, f, hf, [1], hHeld, hLost⟩

end RestScaffold.Output
