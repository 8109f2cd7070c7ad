import RestScaffold.Proofs.File.Store
import RestScaffold.Output

/-!
# Runs of writing

Writing goes through the files one by one and protects, places and records each; when it fails it
goes back through the record. What a single step can do to a tree is said here once, as one case for
each of its outcomes. What a whole run keeps follows by induction from what the steps keep.

* `Output.Protects`, `Output.Places`, `Output.Undoes` and `Output.Discards`: what the steps do;
* `Output.placeAll_cases`: a run over the files ends with all of them placed, or it undoes the
  record of a run that broke;
* `Output.undoAll_keeps` and `Output.discardBackups_keeps`: runs over the record;
* `Output.evolves_writeAll`: whatever a run comes to, it is a sequence of file operations.
-/

namespace RestScaffold.Output

open FileTree

variable {t t₁ : FileTree} {path : Text} {bytes : List UInt8}

/-! ## Single steps -/

/-- What protecting the file at a path comes to. -/
inductive Protects (t : FileTree) (path : Text) :
    Except WriteFailure (Option Text) → FileTree → Prop
  | absent (hRead : ∀ bytes, t.read path ≠ .ok bytes) : Protects t path (.ok none) t
  | copied {bytes : List UInt8} {t' : FileTree} (hRead : t.read path = .ok bytes)
    (hWrite : t.write (backupPath path) bytes = .ok t') :
    Protects t path (.ok (some (backupPath path))) t'
  | failed (e : WriteFailure) : Protects t path (.error e) t

/-- Protecting leaves all but the place of the backup. -/
theorem Protects.frame {result : Except WriteFailure (Option Text)} {t' : FileTree}
    (h : Protects t path result t') {l : Location} (hOther : l ≠ t.place (backupPath path)) :
    t'.get? l = t.get? l := by
  cases h with
  | absent hRead => rfl
  | copied hRead hWrite => rw [get?_of_write hWrite, if_neg hOther]
  | failed e => rfl

theorem protects_run (path : Text) (t : FileTree) :
    Protects t path ((protect path : StateM FileTree _).run t).1
      ((protect path : StateM FileTree _).run t).2 := by
  unfold protect
  rw [run_bind, run_isFile]
  by_cases hFile : t.isFile path = true
  · rw [if_pos hFile, run_bind, run_copy]
    cases hCopy : t.copy path (backupPath path) with
    | error e => exact .failed _
    | ok t' =>
      obtain ⟨bytes, hRead, hWrite⟩ := copy_eq_ok_iff.1 hCopy
      exact .copied hRead hWrite
  · rw [if_neg hFile]
    exact .absent fun bytes hRead => hFile (isFile_eq_true_iff.2 ⟨bytes, hRead⟩)

/-- What placing a file comes to. Directories may have been added when it fails. -/
inductive Places (t : FileTree) (path : Text) (bytes : List UInt8) :
    Except WriteFailure Unit → FileTree → Prop
  | written {t₁ t' : FileTree} (hAdded : DirectoriesAdded (FilePath.ancestors path) t t₁)
    (hWrite : t₁.write path bytes = .ok t') : Places t path bytes (.ok ()) t'
  | failed {t' : FileTree} (e : WriteFailure)
    (hAdded : DirectoriesAdded (FilePath.ancestors path) t t') : Places t path bytes (.error e) t'

theorem places_writeFile (hAdded : DirectoriesAdded (FilePath.ancestors path) t t₁) :
    Places t path bytes ((place.writeFile path bytes : StateM FileTree _).run t₁).1
      ((place.writeFile path bytes : StateM FileTree _).run t₁).2 := by
  unfold place.writeFile
  rw [run_bind, run_write]
  cases hWrite : t₁.write path bytes with
  | error e => exact .failed _ hAdded
  | ok t' => exact .written hAdded hWrite

theorem places_run (path : Text) (bytes : List UInt8) (t : FileTree) :
    Places t path bytes ((place path bytes : StateM FileTree _).run t).1
      ((place path bytes : StateM FileTree _).run t).2 := by
  unfold place
  split
  · exact places_writeFile (.refl _ t)
  · next parent hParent =>
    have hAdded := within_makeDirectories parent t
    have hAncestors := FilePath.ancestors_of_parent? hParent
    have hSub := hAncestors ▸ List.subset_cons_self path (FilePath.ancestors parent)
    rw [run_bind]
    generalize (FileStore.makeDirectories parent : StateM FileTree _).run t = result at hAdded
    obtain ⟨outcome, t₁⟩ := result
    cases outcome with
    | error e => exact .failed _ (hAdded.mono hSub)
    | ok _ => exact places_writeFile (hAdded.mono hSub)

/-- What undoing comes to for a target that was touched. -/
inductive Undoes (t : FileTree) : Touched → FileTree → Prop
  | moved {path backup : Text} {t' : FileTree} (hMove : t.move backup path = .ok t') :
    Undoes t ⟨path, some backup⟩ t'
  | stuck {path backup : Text} (hMove : ∀ t', t.move backup path ≠ .ok t') :
    Undoes t ⟨path, some backup⟩ t
  | removed {path : Text} {t' : FileTree} (hRemove : t.remove path = .ok t') :
    Undoes t ⟨path, none⟩ t'
  | absent {path : Text} (hRead : ∀ bytes, t.read path ≠ .ok bytes) : Undoes t ⟨path, none⟩ t

theorem undoes_run (x : Touched) (t : FileTree) :
    Undoes t x ((undo x : StateM FileTree _).run t).2 := by
  obtain ⟨path, - | backup⟩ := x
  · unfold undo
    rw [run_bind, run_isPresent]
    by_cases hPresent : t.isPresent path = true
    · rw [if_pos hPresent, run_bind, run_remove]
      cases hRemove : t.remove path with
      | error e =>
        refine .absent fun bytes hRead => ?_
        rw [remove_eq_ok_iff.2 ⟨⟨bytes, hRead⟩, rfl⟩] at hRemove
        cases hRemove
      | ok t' => exact .removed hRemove
    · rw [if_neg hPresent]
      exact .absent fun bytes hRead => hPresent (isPresent_of_read hRead)
  · unfold undo
    rw [run_bind, run_move]
    cases hMove : t.move backup path with
    | error e =>
      refine .stuck fun t' hOk => ?_
      rw [hMove] at hOk
      cases hOk
    | ok t' => exact .moved hMove

/-- Undoing leaves the directories, and all but the places of the target and its backup. -/
theorem Undoes.frame {x : Touched} {t' : FileTree} (h : Undoes t x t') :
    (t.DirectoriesKept t' ∧ t'.DirectoriesKept t) ∧ ∀ l, l ≠ t.place x.path →
      (∀ b, x.backup = some b → l ≠ t.place b) → t'.get? l = t.get? l := by
  cases h with
  | moved hMove =>
    obtain ⟨bytes, -, hEntries⟩ := get?_of_move hMove
    refine ⟨directoriesKept_of_move hMove, fun l hPath hBackup => ?_⟩
    rw [hEntries, if_neg hPath, if_neg (hBackup _ rfl)]
  | stuck hMove => exact ⟨⟨.refl t, .refl t⟩, fun _ _ _ => rfl⟩
  | removed hRemove =>
    refine ⟨directoriesKept_of_remove hRemove, fun l hPath _ => ?_⟩
    rw [get?_of_remove hRemove, if_neg hPath]
  | absent hRead => exact ⟨⟨.refl t, .refl t⟩, fun _ _ _ => rfl⟩

/-- What discarding the backup comes to for a target that was touched. -/
inductive Discards (t : FileTree) : Touched → FileTree → Prop
  | removed {path backup : Text} {t' : FileTree} (hRemove : t.remove backup = .ok t') :
    Discards t ⟨path, some backup⟩ t'
  | absent {path backup : Text} (hRead : ∀ bytes, t.read backup ≠ .ok bytes) :
    Discards t ⟨path, some backup⟩ t
  | new {path : Text} : Discards t ⟨path, none⟩ t

/-! ## Whole runs -/

/-- What every step back through a record keeps, undoing the whole record keeps. -/
theorem undoAll_keeps (Inv : List Touched → FileTree → Prop)
    (hStep : ∀ {x touched t t'}, Inv (x :: touched) t → Undoes t x t' → Inv touched t')
    {touched : List Touched} (h : Inv touched t) :
    Inv [] ((undoAll touched : StateM FileTree _).run t).2 := by
  induction touched generalizing t with
  | nil => exact h
  | cons x touched ih =>
    rw [undoAll, run_bind]
    exact ih (hStep h (undoes_run x t))

/-- What discarding each backup of a record keeps, discarding all of them keeps. -/
theorem discardBackups_keeps (Inv : List Touched → FileTree → Prop)
    (hStep : ∀ {x touched t t'}, Inv (x :: touched) t → Discards t x t' → Inv touched t')
    {touched : List Touched} (h : Inv touched t) :
    Inv [] ((discardBackups touched : StateM FileTree _).run t).2 := by
  induction touched generalizing t with
  | nil => exact h
  | cons x touched ih =>
    obtain ⟨path, - | backup⟩ := x
    · exact ih (hStep h .new)
    · rw [discardBackups]
      dsimp only
      rw [run_bind, run_remove]
      cases hRemove : t.remove backup with
      | error e =>
        refine ih (hStep h (.absent fun bytes hRead => ?_))
        rw [remove_eq_ok_iff.2 ⟨⟨bytes, hRead⟩, rfl⟩] at hRemove
        cases hRemove
      | ok t' => exact ih (hStep h (.removed hRemove))

/-- **How writing the files of a list ends.** `Inv` is what holds between two files, for the targets
that were touched and the files that are left, and `Broken` what holds when a step has failed. Then
either all files are placed, or the record of a broken run is undone. -/
theorem placeAll_cases (Inv Broken : List Touched → List (Text × List UInt8) → FileTree → Prop)
    (hStop : ∀ {touched files t}, Inv touched files t → Broken touched files t)
    (hFail : ∀ {touched path bytes files t backup t₁ e t₂}, Inv touched ((path, bytes) :: files) t →
      Protects t path (.ok backup) t₁ → Places t₁ path bytes (.error e) t₂ →
        Broken (⟨path, backup⟩ :: touched) files t₂)
    (hNext : ∀ {touched path bytes files t backup t₁ t₂}, Inv touched ((path, bytes) :: files) t →
      Protects t path (.ok backup) t₁ → Places t₁ path bytes (.ok ()) t₂ →
        Inv (⟨path, backup⟩ :: touched) files t₂)
    {touched : List Touched} {files : List (Text × List UInt8)} (h : Inv touched files t) :
    (∃ touched' t', (placeAll touched files : StateM FileTree _).run t = (.ok touched', t') ∧
        Inv touched' [] t') ∨
      ∃ e touched' files' t', Broken touched' files' t' ∧
        (placeAll touched files : StateM FileTree _).run t =
          (.error e, ((undoAll touched' : StateM FileTree _).run t').2) := by
  induction files generalizing touched t with
  | nil => exact Or.inl ⟨touched, t, rfl, h⟩
  | cons file files ih =>
    obtain ⟨path, bytes⟩ := file
    have hProtects := protects_run path t
    rw [placeAll, run_bind]
    generalize (protect path : StateM FileTree _).run t = protection at hProtects ⊢
    obtain ⟨e | backup, t₁⟩ := protection
    · cases hProtects
      exact Or.inr ⟨e, touched, _, _, hStop h, rfl⟩
    · have hPlaces := places_run path bytes t₁
      dsimp only
      rw [run_bind]
      generalize (place path bytes : StateM FileTree _).run t₁ = placement at hPlaces ⊢
      obtain ⟨e | done, t₂⟩ := placement
      · exact Or.inr ⟨e, _, files, t₂, hFail h hProtects hPlaces, rfl⟩
      · exact ih (hNext h hProtects hPlaces)

theorem map_fst_files (o : Output) (files : List RenderedFile) :
    (files.map fun f => (o.target f, f.assemble)).map (·.1) = files.map o.target :=
  List.map_map

theorem run_writeAll_of_dryRun {o : Output} (h : o.dryRun = true) (files : List RenderedFile)
    (t : FileTree) :
    (o.writeAll files : StateM FileTree _).run t = (.ok ⟨files.map o.target, 0, true⟩, t) := by
  rw [writeAll, if_pos h]
  rfl

/-- How writing ends when it is not a dry run. -/
theorem run_writeAll {o : Output} (hRun : o.dryRun = false) (files : List RenderedFile)
    (t : FileTree) : (o.writeAll files : StateM FileTree _).run t =
      match (placeAll [] (files.map fun f => (o.target f, f.assemble)) :
        StateM FileTree _).run t with
      | (.error e, t') => (.error (.writeFailed e), t')
      | (.ok touched, t') => (.ok ⟨files.map o.target, touched.length, false⟩,
          ((discardBackups touched.reverse : StateM FileTree _).run t').2) := by
  rw [writeAll, if_neg (Bool.eq_false_iff.1 hRun), run_bind]
  generalize (placeAll [] (files.map fun f => (o.target f, f.assemble)) :
    StateM FileTree _).run t = placement
  obtain ⟨- | -, t'⟩ := placement <;> rfl

/-- A run that succeeds has placed all files and discarded the backups. -/
theorem exists_placeAll {o : Output} {files : List RenderedFile} {report : WriteReport}
    {t' : FileTree} (hRun : o.dryRun = false)
    (h : (o.writeAll files : StateM FileTree _).run t = (.ok report, t')) :
    ∃ touched t₁, (placeAll [] (files.map fun f => (o.target f, f.assemble)) :
        StateM FileTree _).run t = (.ok touched, t₁) ∧
      report = ⟨files.map o.target, touched.length, false⟩ ∧
      t' = ((discardBackups touched.reverse : StateM FileTree _).run t₁).2 := by
  rw [run_writeAll hRun] at h
  generalize (placeAll [] (files.map fun f => (o.target f, f.assemble)) :
    StateM FileTree _).run t = placement at h
  obtain ⟨e | touched, t₁⟩ := placement
  · cases (Prod.mk.inj h).1
  · obtain ⟨hReport, hTree⟩ := Prod.mk.inj h
    exact ⟨touched, t₁, rfl, (Except.ok.inj hReport).symm, hTree.symm⟩

/-! ## Sequences of operations -/

theorem evolves_undo (x : Touched) : Within Evolves (undo x : StateM FileTree _) := by
  obtain ⟨path, - | backup⟩ := x
  · intro t
    unfold undo
    rw [run_bind, run_isPresent]
    split
    · exact Evolves.bind (Evolves.remove path) (fun _ => Evolves.pure _) t
    · exact .refl t
  · exact Evolves.bind (Evolves.move backup path) fun _ => Evolves.pure _

theorem evolves_undoAll (touched : List Touched) :
    Within Evolves (undoAll touched : StateM FileTree _) := by
  induction touched with
  | nil => exact Evolves.pure _
  | cons x touched ih => exact Evolves.bind (evolves_undo x) fun _ => ih

theorem evolves_discardBackups (touched : List Touched) :
    Within Evolves (discardBackups touched : StateM FileTree _) := by
  induction touched with
  | nil => exact Evolves.pure _
  | cons x touched ih =>
    obtain ⟨path, - | backup⟩ := x
    · exact ih
    · exact Evolves.bind (Evolves.remove backup) fun _ => ih

theorem evolves_protect (path : Text) : Within Evolves (protect path : StateM FileTree _) := by
  intro t
  unfold protect
  rw [run_bind, run_isFile]
  split
  · refine Evolves.bind (Evolves.copy path (backupPath path)) (fun r => ?_) t
    cases r <;> exact Evolves.pure _
  · exact .refl t

theorem evolves_place (path : Text) (bytes : List UInt8) :
    Within Evolves (place path bytes : StateM FileTree _) := by
  have hFile : Within Evolves (place.writeFile path bytes : StateM FileTree _) := by
    refine Evolves.bind (Evolves.write path bytes) fun r => ?_
    cases r <;> exact Evolves.pure _
  unfold place
  split
  · exact hFile
  · next parent _ =>
    refine Evolves.bind (Evolves.makeDirectories parent) fun r => ?_
    cases r with
    | error e => exact Evolves.pure _
    | ok _ => exact hFile

theorem evolves_placeAll (touched : List Touched) (files : List (Text × List UInt8)) :
    Within Evolves (placeAll touched files : StateM FileTree _) := by
  have hFail : ∀ (touched : List Touched) (e : WriteFailure), Within Evolves
      (do undoAll touched; return .error e : StateM FileTree (Except WriteFailure (List Touched))) :=
    fun touched _ => Evolves.bind (evolves_undoAll touched) fun _ => Evolves.pure _
  induction files generalizing touched with
  | nil => exact Evolves.pure _
  | cons file files ih =>
    obtain ⟨path, bytes⟩ := file
    refine Evolves.bind (evolves_protect path) fun r => ?_
    cases r with
    | error e => exact hFail touched e
    | ok backup =>
      refine Evolves.bind (evolves_place path bytes) fun r' => ?_
      cases r' with
      | error e => exact hFail _ e
      | ok _ => exact ih _

/-- **Whatever a run of writing comes to, it is a sequence of operations that succeed.** -/
theorem evolves_writeAll (o : Output) (files : List RenderedFile) :
    Within Evolves (o.writeAll files : StateM FileTree _) := by
  unfold writeAll
  dsimp only
  split
  · exact Evolves.pure _
  · refine Evolves.bind (evolves_placeAll [] _) fun r => ?_
    cases r with
    | error e => exact Evolves.pure _
    | ok touched => exact Evolves.bind (evolves_discardBackups _) fun _ => Evolves.pure _

/-- A run keeps the directory that relative paths start from. -/
theorem workingDirectory_writeAll (o : Output) (files : List RenderedFile) (t : FileTree) :
    ((o.writeAll files : StateM FileTree _).run t).2.workingDirectory = t.workingDirectory :=
  (evolves_writeAll o files t).workingDirectory

end RestScaffold.Output
