import RestScaffold.Proofs.Output.Changes

/-!
# Successful runs are complete

A file that has been written is not touched again: the files that follow have other places, their
backups do, and so has everything that is removed in the end. So when a run succeeds every target
holds the bytes of its file. And where neither a file nor a way to a target is, no backup is left.

* `Output.Holds`: the files that hold their bytes, with a lemma for each step of a run;
* `Output.holds_writeAll`: what the targets hold after a run that succeeds;
* `Output.get?_backup_of_free`: places of backups that were free are free again;
* `Output.report_eq`: what such a run reports.
-/

namespace RestScaffold.Output

open FileTree

variable {t t₀ t' : FileTree} {targets : List Text} {touched : List Touched}
  {files : List (Text × List UInt8)} {x : Touched} {p q : Text} {bytes stored : List UInt8}

/-! ## Files that were written -/

/-- Every file of the list can be read at its path. -/
def Holds (t : FileTree) (files : List (Text × List UInt8)) : Prop :=
  ∀ f ∈ files, t.read f.1 = .ok f.2

theorem Protects.read_target {result : Except WriteFailure (Option Text)}
    (h : Protects t p result t') (hp : NamesGoFile p) (hq : NamesGoFile q)
    (hRead : t.read q = .ok bytes) : t'.read q = .ok bytes := by
  cases h with
  | absent => exact hRead
  | copied _ hWrite =>
    refine (directoriesKept_of_write hWrite).1.read ?_ hRead
    rw [get?_of_write hWrite, if_neg (Ne.symm (place_backupPath_ne t hp hq))]
  | failed e => exact hRead

theorem Places.read_other {result : Except WriteFailure Unit} (h : Places t p bytes result t')
    (hOther : t.place q ≠ t.place p) (hRead : t.read q = .ok stored) : t'.read q = .ok stored := by
  have hAfter : ∀ s, DirectoriesAdded (FilePath.ancestors p) t s → s.read q = .ok stored := by
    intro s hAdded
    refine hAdded.kept.read ?_ hRead
    obtain ⟨-, hFile, -⟩ := read_eq_ok_iff.1 hRead
    rw [hFile, (hAdded.file_iff _ stored).2 hFile]
  cases h with
  | @written s _ hAdded hWrite =>
    refine (directoriesKept_of_write hWrite).1.read ?_ (hAfter s hAdded)
    rw [get?_of_write hWrite, if_neg]
    rw [hAdded.kept.place_eq, hAdded.kept.place_eq]
    exact hOther
  | failed e hAdded => exact hAfter t' hAdded

theorem Places.read_self (h : Places t p bytes (.ok ()) t') : t'.read p = .ok bytes := by
  cases h with
  | written _ hWrite => exact read_of_write hWrite

theorem Discards.read_target (h : Discards t x t') (hx : Recorded targets x)
    (hTargets : ∀ p ∈ targets, NamesGoFile p) (hq : NamesGoFile q)
    (hRead : t.read q = .ok bytes) : t'.read q = .ok bytes := by
  cases h with
  | @removed path backup _ hRemove =>
    obtain rfl : backup = backupPath path := hx.backup_eq backup rfl
    refine (directoriesKept_of_remove hRemove).1.read ?_ hRead
    rw [get?_of_remove hRemove, if_neg (Ne.symm (place_backupPath_ne t (hTargets path hx.mem) hq))]
  | absent => exact hRead
  | new => exact hRead

/-! ## Whole runs -/

/-- What holds between two files of a run, for the files that were written and those that are left. -/
structure Writing (t₀ : FileTree) (files : List (Text × List UInt8)) (touched : List Touched)
    (left : List (Text × List UInt8)) (t : FileTree) : Prop where
  underway : Underway t₀ (files.map (·.1)) touched t
  listed : Listed (files.map (·.1)) touched left
  written : ∃ done, files = done ++ left ∧ Holds t done

/-- **A step to the next file.** -/
theorem Writing.next {left : List (Text × List UInt8)} {backup : Option Text} {t₁ t₂ : FileTree}
    (h : Writing t₀ files touched ((p, bytes) :: left) t)
    (hTargets : ∀ f ∈ files, NamesGoFile f.1)
    (hDistinct : (files.map fun f => t₀.place f.1).Nodup) (hProtects : Protects t p (.ok backup) t₁)
    (hPlaces : Places t₁ p bytes (.ok ()) t₂) :
    Writing t₀ files (⟨p, backup⟩ :: touched) left t₂ := by
  obtain ⟨done, hFiles, hHolds⟩ := h.written
  refine ⟨h.underway.next h.listed.mem hProtects hPlaces, h.listed.next backup,
    done ++ [(p, bytes)], by rw [hFiles, List.append_assoc]; rfl, ?_⟩
  have hKept := (h.underway.protects h.listed.mem hProtects).kept
  have hHere : (p, bytes) ∈ files := hFiles ▸ List.mem_append_right done List.mem_cons_self
  intro f hf
  rcases List.mem_append.1 hf with hDone | hNew
  · have hFile : f ∈ files := hFiles ▸ List.mem_append_left _ hDone
    have hOther : t₀.place f.1 ≠ t₀.place p := by
      rw [hFiles, List.map_append] at hDistinct
      obtain ⟨-, -, hApart⟩ := List.nodup_append.1 hDistinct
      exact hApart _ (List.mem_map_of_mem hDone) _ List.mem_cons_self
    have hProtected := hProtects.read_target (hTargets _ hHere) (hTargets f hFile) (hHolds f hDone)
    refine hPlaces.read_other ?_ hProtected
    rw [hKept.place_eq, hKept.place_eq]
    exact hOther
  · rw [List.mem_singleton.1 hNew]
    exact hPlaces.read_self

/-- When all files are placed, all of them hold their bytes. -/
theorem writing_placeAll (hTargets : ∀ f ∈ files, NamesGoFile f.1)
    (hDistinct : (files.map fun f => t.place f.1).Nodup)
    (h : (placeAll [] files : StateM FileTree _).run t = (.ok touched, t')) :
    Writing t files touched [] t' := by
  have hStart : Writing t files [] files t :=
    ⟨underway_start t _, rfl, [], rfl, fun f hf => absurd hf List.not_mem_nil⟩
  have hOutcome := placeAll_cases (Writing t files) (fun _ _ _ => True) (fun _ => trivial)
    (fun _ _ _ => trivial)
    (fun hInv hProtects hPlaces => hInv.next hTargets hDistinct hProtects hPlaces) hStart
  rcases hOutcome with ⟨all, t₁, hRun, hEnd⟩ | ⟨e, touched', left, t₁, -, hRun⟩
  · rw [hRun] at h
    obtain ⟨hRecord, rfl⟩ := Prod.mk.inj h
    rw [← Except.ok.inj hRecord]
    exact hEnd
  · rw [hRun] at h
    cases (Prod.mk.inj h).1

/-- Discarding backups leaves what the targets hold. -/
theorem Writing.holds_discardBackups (h : Writing t₀ files touched [] t)
    (hTargets : ∀ f ∈ files, NamesGoFile f.1) :
    Holds ((discardBackups touched.reverse : StateM FileTree _).run t).2 files := by
  obtain ⟨done, hFiles, hHolds⟩ := h.written
  rw [List.append_nil] at hFiles
  subst hFiles
  have hNames : ∀ p ∈ files.map (·.1), NamesGoFile p := List.forall_mem_map.2 hTargets
  let Inv (left : List Touched) (s : FileTree) : Prop :=
    (∀ x ∈ left, Recorded (files.map (·.1)) x) ∧ Holds s files
  have hStart : Inv touched.reverse t :=
    ⟨fun x hx => h.underway.recorded x (List.mem_reverse.1 hx), hHolds⟩
  have hStep : ∀ {x left s s'}, Inv (x :: left) s → Discards s x s' → Inv left s' := by
    intro x left s s' hInv hDiscards
    obtain ⟨hHere, hLeft⟩ := List.forall_mem_cons.1 hInv.1
    exact ⟨hLeft, fun f hf => hDiscards.read_target hHere hNames (hTargets f hf) (hInv.2 f hf)⟩
  exact (discardBackups_keeps Inv hStep hStart).2

section

variable {o : Output} {files : List RenderedFile} {report : WriteReport}

theorem namesGoFile_files (o : Output) (files : List RenderedFile) :
    ∀ f ∈ files.map fun f => (o.target f, f.assemble), NamesGoFile f.1 :=
  List.forall_mem_map.2 fun f _ => o.namesGoFile_target f

/-- **When a run succeeds every target holds the bytes of its file,** if the targets lead to
different places. -/
theorem holds_writeAll (hRun : o.dryRun = false)
    (hDistinct : (files.map fun f => t.place (o.target f)).Nodup)
    (h : (o.writeAll files : StateM FileTree _).run t = (.ok report, t')) :
    Holds t' (files.map fun f => (o.target f, f.assemble)) := by
  obtain ⟨touched, t₁, hPlaced, -, rfl⟩ := exists_placeAll hRun h
  have hPlaces : ((files.map fun f => (o.target f, f.assemble)).map fun f => t.place f.1).Nodup := by
    rwa [List.map_map]
  have hTargets := namesGoFile_files o files
  exact (writing_placeAll hTargets hPlaces hPlaced).holds_discardBackups hTargets

/-- A run that succeeds reports its targets and how many there are. -/
theorem report_eq (hRun : o.dryRun = false)
    (h : (o.writeAll files : StateM FileTree _).run t = (.ok report, t')) :
    report = ⟨files.map o.target, files.length, false⟩ := by
  obtain ⟨touched, t₁, hPlaced, rfl, -⟩ := exists_placeAll hRun h
  have hLength := congrArg List.length (underway_of_placeAll hPlaced).2
  rw [List.length_append, List.length_reverse, List.length_map, List.length_map,
    List.length_map] at hLength
  rw [hLength]
  rfl

/-- **No backup is left where nothing was,** when no target lies below the place of a backup. -/
theorem get?_backup_of_free (hDots : ∀ f ∈ files, DotFree (o.target f)) {f : RenderedFile}
    (hFree : t.get? (t.place (backupPath (o.target f))) = none)
    (hApart : ∀ g ∈ files, ¬ t.place (backupPath (o.target f)) <+: t.place (o.target g)) :
    ((o.writeAll files : StateM FileTree _).run t).2.get?
      (t.place (backupPath (o.target f))) = none := by
  have hTrace := o.trace_writeAll files t (t.place (backupPath (o.target f)))
  cases hTrace with
  | same h => exact h.trans hFree
  | target hp hPlace =>
    exact absurd hPlace (place_backupPath_ne t (o.namesGoFile_target f)
      (o.namesGoFile_targets files _ hp))
  | directory hp ha hPlace _ _ =>
    obtain ⟨g, hg, rfl⟩ := List.mem_map.1 hp
    refine absurd ?_ (hApart g hg)
    rw [hPlace]
    exact t.place_ancestor_prefix (hDots g hg) ha
  | backup hx => cases hx
  | cleared _ _ _ hNow => exact hNow

end

end RestScaffold.Output
