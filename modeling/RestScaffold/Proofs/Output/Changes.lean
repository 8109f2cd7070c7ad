import RestScaffold.Proofs.Output.Trace

/-!
# What writing leaves behind

When a run has ended its backups are gone, whether it succeeded or not. So a file that stood at the
place of a backup is lost, and nothing else outside of the targets changes but for directories on
the way to them.

* `Output.trace_writeAll`: what a whole run has done to a location;
* `Output.get?_backup_of_ok`: where a successful run has had backups there is nothing;
* `Output.changes_of_writeAll`: both in terms of the two trees.
-/

namespace RestScaffold.Output

open FileTree

section

variable {t₀ t t' : FileTree} {targets : List Text} {touched : List Touched} {x : Touched}

/-- The order of the record makes no difference. -/
theorem Clearing.reverse (h : Clearing t₀ targets touched t) :
    Clearing t₀ targets touched.reverse t :=
  ⟨h.kept, fun x hx => h.recorded x (List.mem_reverse.1 hx),
    fun x hx => h.movable x (List.mem_reverse.1 hx),
    fun l => (h.trace l).congr rfl fun _ hx => List.mem_reverse.2 hx⟩

/-- **What a run has done to a location when it has ended.** -/
theorem trace_writeAll (o : Output) (files : List RenderedFile) (t : FileTree) (l : Location) :
    Trace t (files.map o.target) [] ((o.writeAll files : StateM FileTree _).run t).2 l := by
  have hTargets := o.namesGoFile_targets files
  by_cases hDry : o.dryRun = true
  · rw [run_writeAll_of_dryRun hDry]
    exact .same rfl
  · rw [run_writeAll (Bool.eq_false_iff.2 hDry)]
    rcases underway_placeAll t (files.map fun f => (o.target f, f.assemble)) with
      ⟨touched, t', hRun, hUnderway, -⟩ | ⟨e, touched, t', hUnderway, hRun⟩
    · rw [hRun]
      rw [map_fst_files] at hUnderway
      exact (discardBackups_keeps _ Clearing.discards hUnderway.clearing.reverse).trace l
    · rw [hRun]
      rw [map_fst_files] at hUnderway
      exact (undoAll_keeps (Clearing t (files.map o.target))
        (fun h hUndoes => h.undoes hTargets hUndoes) hUnderway.clearing).trace l

/-- What holds while backups are discarded: those of the targets that are not left are gone. -/
def Discarding (t₀ : FileTree) (targets : List Text) (all touched : List Touched)
    (t : FileTree) : Prop :=
  Clearing t₀ targets touched t ∧
    ∀ x ∈ all, x ∉ touched → ∀ b, x.backup = some b → t.get? (t₀.place b) = none

theorem Discarding.discards {all : List Touched} (h : Discarding t₀ targets all (x :: touched) t)
    (hDiscards : Discards t x t') : Discarding t₀ targets all touched t' := by
  refine ⟨h.1.discards hDiscards, fun y hy hLeft b hb => ?_⟩
  have hOld : y ≠ x → t.get? (t₀.place b) = none := fun hNe =>
    h.2 y hy (fun hMem => (List.mem_cons.1 hMem).elim hNe hLeft) b hb
  cases hDiscards with
  | @removed path backup _ hRemove =>
    rw [get?_of_remove hRemove]
    split
    · rfl
    · next hOther =>
      refine hOld ?_
      rintro rfl
      obtain rfl := Option.some.inj hb
      exact hOther (h.1.kept.place_eq _).symm
  | @absent path backup hRead =>
    by_cases hSame : y = ⟨path, some backup⟩
    · subst hSame
      obtain rfl := Option.some.inj hb
      rw [← h.1.kept.place_eq]
      refine (h.1.movable _ List.mem_cons_self backup rfl).1.get?_eq_none ?_ hRead
      rw [(h.1.recorded _ List.mem_cons_self).backup_eq backup rfl]
      exact getLast?_backupPath _
    · exact hOld hSame
  | new =>
    refine hOld ?_
    rintro rfl
    cases hb

/-- A target that was there has a backup when all files are placed. -/
theorem Underway.exists_backup {p : Text} {bytes : List UInt8} (h : Underway t₀ targets touched t)
    (hListed : Listed targets touched []) (hp : p ∈ targets) (hRead : t₀.read p = .ok bytes) :
    ∃ x ∈ touched, x.path = p ∧ x.backup = some (backupPath p) := by
  obtain ⟨x, hx, rfl⟩ := hListed.exists_touched hp
  obtain ⟨b, hb⟩ := Option.ne_none_iff_exists'.1 fun hNone => h.absent x hx hNone bytes hRead
  exact ⟨x, hx, rfl, (h.recorded x hx).backup_eq b hb ▸ hb⟩

/-- **No backup is left of a target that was there,** when a run has succeeded. -/
theorem get?_backup_of_ok {o : Output} {files : List RenderedFile} {report : WriteReport}
    (hRun : o.dryRun = false)
    (hOk : ((o.writeAll files : StateM FileTree _).run t).1 = .ok report) {f : RenderedFile}
    (hf : f ∈ files) (hFile : t.isFile (o.target f) = true) :
    ((o.writeAll files : StateM FileTree _).run t).2.get?
      (t.place (backupPath (o.target f))) = none := by
  have hEnds : (o.writeAll files : StateM FileTree _).run t =
      (.ok report, ((o.writeAll files : StateM FileTree _).run t).2) := Prod.ext hOk rfl
  obtain ⟨touched, t', hPlaced, -, hTree⟩ := exists_placeAll hRun hEnds
  obtain ⟨hUnderway, hListed⟩ := underway_of_placeAll hPlaced
  rw [map_fst_files] at hUnderway hListed
  obtain ⟨bytes, hRead⟩ := isFile_eq_true_iff.1 hFile
  obtain ⟨x, hx, -, hb⟩ := hUnderway.exists_backup hListed (List.mem_map_of_mem hf) hRead
  have hStart : Discarding t (files.map o.target) touched.reverse touched.reverse t' :=
    ⟨hUnderway.clearing.reverse, fun x hx hNot => absurd hx hNot⟩
  rw [hTree]
  exact (discardBackups_keeps _ Discarding.discards hStart).2 x (List.mem_reverse.2 hx)
    List.not_mem_nil _ hb

end

/-- **What writing does to a tree.** Whether a run succeeds or fails, a location is as before unless
it is that of a target, or of a directory on the way to a target that was made where nothing was, or
a file that stood at the place of the backup of a target and is gone. And when a run succeeds,
nothing is left at the place of the backup of a target that was there. -/
theorem changes_of_writeAll (o : Output) (files : List RenderedFile) (t : FileTree) :
    (∀ l, ((o.writeAll files : StateM FileTree _).run t).2.get? l = t.get? l ∨
      (∃ f ∈ files, l = t.place (o.target f)) ∨
      (∃ f ∈ files, ∃ a ∈ FilePath.ancestors (o.target f), l = t.place a ∧ t.get? l = none ∧
        ((o.writeAll files : StateM FileTree _).run t).2.get? l = some .directory) ∨
      (∃ f ∈ files, l = t.place (backupPath (o.target f)) ∧
        (∃ bytes, t.get? l = some (.file bytes)) ∧
        ((o.writeAll files : StateM FileTree _).run t).2.get? l = none)) ∧
      (o.dryRun = false →
        (∃ report, ((o.writeAll files : StateM FileTree _).run t).1 = .ok report) →
        ∀ f ∈ files, t.isFile (o.target f) = true →
          ((o.writeAll files : StateM FileTree _).run t).2.get?
            (t.place (backupPath (o.target f))) = none) := by
  refine ⟨fun l => ?_, fun hRun ⟨report, hOk⟩ f hf hFile => get?_backup_of_ok hRun hOk hf hFile⟩
  have hTrace := o.trace_writeAll files t l
  generalize ((o.writeAll files : StateM FileTree _).run t).2 = t' at hTrace
  cases hTrace with
  | same h => exact Or.inl h
  | target hp hPlace =>
    obtain ⟨f, hf, rfl⟩ := List.mem_map.1 hp
    exact Or.inr (Or.inl ⟨f, hf, hPlace⟩)
  | directory hp ha hPlace hNone hNew =>
    obtain ⟨f, hf, rfl⟩ := List.mem_map.1 hp
    exact Or.inr (Or.inr (Or.inl ⟨f, hf, _, ha, hPlace, hNone, hNew⟩))
  | backup hx => cases hx
  | cleared hp hPlace hOld hNow =>
    obtain ⟨f, hf, rfl⟩ := List.mem_map.1 hp
    rcases hEntry : t.get? l with - | ⟨bytes⟩ | -
    · exact Or.inl hNow
    · exact Or.inr (Or.inr (Or.inr ⟨f, hf, hPlace, ⟨bytes, rfl⟩, hNow⟩))
    · exact absurd hEntry hOld

/-- A tree with a file that a run would replace, a file beside it that has the name of its backup,
and a file in the way of a directory. -/
def blockedTree : FileTree where
  entries := [(["o"], .directory), (["o", "a.go"], .file [1]), (["o", "a.go.bak"], .file [2]),
    (["o", "blocked"], .file [])]

/-- A file that replaces the first one, and one below the file that is in the way. -/
def blockedFiles : List RenderedFile :=
  [{ packagePath := "p", stem := "a" }, { packagePath := "p/blocked/inner", stem := "x" }]

/-- **A failed run removes a file that is no target.** It has the name of a backup, and it lies on
the way to no target either. -/
theorem exists_lost_file : ∃ (o : Output) (files : List RenderedFile) (t : FileTree) (l : Location),
    (∃ e, ((o.writeAll files : StateM FileTree _).run t).1 = .error e) ∧
      (∀ f ∈ files, ∀ a ∈ FilePath.ancestors (o.target f), l ≠ t.place a) ∧
      (∃ bytes, t.get? l = some (.file bytes)) ∧
      ((o.writeAll files : StateM FileTree _).run t).2.get? l = none := by
  refine ⟨{ base := "o", package := "p" }, blockedFiles, blockedTree, ["o", "a.go.bak"],
    ⟨.writeFailed (.directory "o/blocked/inner" .notDirectory), ?_⟩, ?_, ⟨[2], ?_⟩, ?_⟩
  all_goals decide +kernel

end RestScaffold.Output
