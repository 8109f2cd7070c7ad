import RestScaffold.Output
import RestScaffold.Proofs.File.Tree
import RestScaffold.Proofs.Text.Segments

/-!
# Places of targets and backups

All targets of a run have the ending of generated files, and backups have another one behind it. So
a backup never stands at the place of a target, and backups of different targets stand at different
places, whatever the paths look like otherwise.

* `FileTree.exists_place_append`: where a path leads with one or the other ending;
* `Output.namesGoFile_target`: the ending of targets;
* `Output.place_backupPath_ne` and `Output.place_eq_of_backupPath`: the places of backups.
-/

namespace RestScaffold

open Text

/-! ## Paths with an ending -/

/-- A path with an ending leads to a name with this ending, in a directory that does not depend on
the ending. -/
theorem FileTree.exists_place_append (t : FileTree) (a : Text) :
    ∃ dir last, ∀ b, '/' ∉ b → 3 ≤ b.length → t.place (a ++ b) = dir ++ [last ++ b] := by
  obtain ⟨front, last, -, -, hSegments⟩ := exists_segments_append a
  refine ⟨front.foldl step (if a.head? = some '/' then [] else t.workingDirectory), last,
    fun b hb hLength => ?_⟩
  have hNe : b ≠ [] := List.ne_nil_of_length_pos (by omega)
  have hHead : (a ++ b).head? = some '/' ↔ a.head? = some '/' := by
    cases a with
    | nil => exact iff_of_false (fun h => hb (List.mem_of_head? h)) nofun
    | cons c a => exact Iff.rfl
  have hName : ∀ dots : Text, dots.length < 3 → last ++ b ≠ dots := fun dots hDots =>
    append_ne_of_length_lt (Nat.lt_of_lt_of_le hDots hLength) last
  rw [place, hSegments b hb hNe, List.foldl_append, List.foldl_cons, List.foldl_nil, step,
    if_neg (hName _ (by decide)), if_neg (hName _ (by decide))]
  simp only [hHead]

/-! ## Targets -/

/-- The path has the ending of generated files. -/
def NamesGoFile (path : Text) : Prop := ∃ s, path = s ++ ".go"

namespace Output

variable {p q : Text}

/-- Every target has the ending of generated files. -/
theorem namesGoFile_target (o : Output) (f : RenderedFile) : NamesGoFile (o.target f) := by
  have hJoin : ∀ base relative, ∃ front, FilePath.join base relative = front ++ relative := by
    intro base relative
    unfold FilePath.join
    split
    · exact ⟨_, rfl⟩
    · exact ⟨base ++ ['/'], by rw [List.append_assoc]; rfl⟩
  obtain ⟨front, hTarget⟩ := hJoin o.base (f.relativePath o.package)
  obtain ⟨directory, hRelative⟩ :=
    hJoin (RenderedFile.directory o.package f.packagePath) f.fileName
  refine ⟨front ++ directory ++ f.stem, ?_⟩
  rw [target, hTarget, RenderedFile.relativePath, hRelative, RenderedFile.fileName]
  simp only [List.append_assoc]

theorem namesGoFile_targets (o : Output) (files : List RenderedFile) :
    ∀ p ∈ files.map o.target, NamesGoFile p :=
  List.forall_mem_map.2 fun f _ => o.namesGoFile_target f

theorem getLast?_of_namesGoFile (h : NamesGoFile p) : p.getLast? ≠ some '/' := by
  obtain ⟨s, rfl⟩ := h
  rw [List.getLast?_append_of_ne_nil _ (by decide)]
  decide

theorem getLast?_backupPath (p : Text) : (backupPath p).getLast? ≠ some '/' := by
  rw [backupPath, List.getLast?_append_of_ne_nil _ (by decide)]
  decide

/-- **Where a target and its backup stand.** -/
theorem exists_place (t : FileTree) (h : NamesGoFile p) : ∃ (dir : Location) (last : Text),
    t.place p = dir ++ [last ++ ".go"] ∧ t.place (backupPath p) = dir ++ [last ++ ".go.bak"] := by
  obtain ⟨s, rfl⟩ := h
  obtain ⟨dir, last, hPlace⟩ := t.exists_place_append s
  refine ⟨dir, last, hPlace _ (by decide) (by decide), ?_⟩
  rw [backupPath, List.append_assoc]
  exact hPlace ".go.bak" (by decide) (by decide)

/-- **A backup does not stand at the place of a target.** -/
theorem place_backupPath_ne (t : FileTree) (hp : NamesGoFile p) (hq : NamesGoFile q) :
    t.place (backupPath p) ≠ t.place q := by
  obtain ⟨dir, last, -, hBackup⟩ := exists_place t hp
  obtain ⟨dir', last', hTarget, -⟩ := exists_place t hq
  rw [hBackup, hTarget]
  intro hEq
  have hName := (List.append_inj' hEq rfl).2
  have hLast := congrArg List.getLast? (List.singleton_inj.1 hName)
  rw [List.getLast?_append_of_ne_nil _ (by decide), List.getLast?_append_of_ne_nil _ (by decide)]
    at hLast
  revert hLast
  decide

/-- **Backups of different targets stand at different places.** -/
theorem place_eq_of_backupPath (t : FileTree) (hp : NamesGoFile p) (hq : NamesGoFile q)
    (h : t.place (backupPath p) = t.place (backupPath q)) : t.place p = t.place q := by
  obtain ⟨dir, last, hTarget, hBackup⟩ := exists_place t hp
  obtain ⟨dir', last', hTarget', hBackup'⟩ := exists_place t hq
  rw [hBackup, hBackup'] at h
  obtain ⟨hDir, hName⟩ := List.append_inj' h rfl
  have hLast : last = last' := List.append_cancel_right (List.singleton_inj.1 hName)
  rw [hTarget, hTarget', hDir, hLast]

end Output

end RestScaffold
