import Mathlib.Data.List.Nodup
import RestScaffold.Proofs.Output.Complete

/-!
# Runs over files that are there already

A run over files that hold their bytes already goes another way than the first one, since every
target is there now: each is copied to its backup, overwritten with the bytes that it has, and in the
end the backups are removed. So on the way the tree is the one that the run began with and some
backups, and at the end it is that tree again.

* `FileTree.FitsLimits`: the paths that are not refused for their length;
* `Output.BackedUp`: the trees on the way, with `Output.BackedUp.protect`, `Output.BackedUp.place`
  and `Output.BackedUp.discards` for the steps;
* `Output.Settled.exists_writeAll`: the whole run.
-/

namespace RestScaffold

open Text

namespace FileTree

/-- The name that the path ends with is not too long. -/
def NameFits (path : Text) : Prop :=
  ∀ name ∈ (segments path).getLast?, (utf8 name).length ≤ maxNameLength

instance (path : Text) : Decidable (NameFits path) :=
  inferInstanceAs (Decidable (∀ name ∈ (segments path).getLast?, (utf8 name).length ≤ maxNameLength))

/-- The path is not too long, neither for the name that it ends with nor as a whole. -/
structure FitsLimits (path : Text) : Prop where
  name_fits : NameFits path
  length_le : (utf8 path).length ≤ maxPathLength

end FileTree

namespace Output

open FileTree

variable {t s s' : FileTree} {p q : Text} {paths : List Text} {bytes : List UInt8}

/-! ## Single steps -/

/-- The way to the backup of a target is the way to the target. -/
theorem reaches_backupPath (h : t.Reaches p) (hp : NamesGoFile p)
    (hFits : FitsLimits (backupPath p)) : t.Reaches (backupPath p) := by
  obtain ⟨a, rfl⟩ := hp
  obtain ⟨front, last, -, -, hSegments⟩ := exists_segments_append a
  obtain ⟨hIsPath, hWalk⟩ := locate_eq_ok_iff.1 h
  have hBackup : backupPath (a ++ ".go") = a ++ ".go.bak".toList := List.append_assoc _ _ _
  have hTarget : segments (a ++ ".go") = front ++ [last ++ ".go"] :=
    hSegments ".go" (by decide) (by decide)
  have hNames : segments (backupPath (a ++ ".go")) = front ++ [last ++ ".go.bak".toList] := by
    rw [hBackup]
    exact hSegments _ (by decide) (by decide)
  have hHead : (backupPath (a ++ ".go")).head? = (a ++ ".go".toList).head? := by
    rw [hBackup]
    cases a <;> rfl
  rw [hTarget, walk_append_eq_ok_iff] at hWalk
  obtain ⟨m, hFront, hLast⟩ := hWalk
  obtain ⟨hDirectory, -⟩ := walk_cons_eq_ok_iff.1 hLast
  have hNul : (backupPath (a ++ ".go")).contains '\x00' = false := by
    have hTargetNul := hIsPath.no_nul
    rw [← Bool.not_eq_true, List.contains_iff_mem] at hTargetNul ⊢
    intro hMem
    rcases List.mem_append.1 hMem with hMem | hMem
    · exact hTargetNul hMem
    · revert hMem
      decide
  have hName : IsName (last ++ ".go.bak".toList) := by
    refine Or.inr (Or.inr (hFits.name_fits _ ?_))
    rw [hNames, List.getLast?_concat]
    rfl
  have hNe : backupPath (a ++ ".go") ≠ [] := List.append_ne_nil_of_right_ne_nil _ (by decide)
  have hLocate : t.locate (backupPath (a ++ ".go")) = .ok (step m (last ++ ".go.bak".toList)) := by
    rw [locate_eq_ok_iff, hHead, hNames, walk_append_eq_ok_iff]
    exact ⟨⟨hNul, hNe, hFits.length_le⟩, m, hFront, walk_cons_eq_ok_iff.2 ⟨hDirectory, hName, rfl⟩⟩
  exact reaches_of_locate hLocate

theorem run_protect (hRead : s.read p = .ok bytes) (hWrite : s.write (backupPath p) bytes = .ok s') :
    (protect p : StateM FileTree _).run s = (.ok (some (backupPath p)), s') := by
  have hFile : s.isFile p = true := isFile_eq_true_iff.2 ⟨bytes, hRead⟩
  have hCopy : s.copy p (backupPath p) = .ok s' := copy_eq_ok_iff.2 ⟨bytes, hRead, hWrite⟩
  unfold protect
  rw [run_bind, run_isFile, if_pos hFile, run_bind, run_copy, hCopy]
  rfl

theorem run_place (hParent : ∀ parent, FilePath.parent? p = some parent →
      parent = [] ∨ s.isDirectory parent = true) (hWrite : s.write p bytes = .ok s') :
    (place p bytes : StateM FileTree _).run s = (.ok (), s') := by
  have hFile : (place.writeFile p bytes : StateM FileTree _).run s = (.ok (), s') := by
    unfold place.writeFile
    rw [run_bind, run_write, hWrite]
    rfl
  unfold place
  split
  · exact hFile
  · next parent hSome =>
    rw [run_bind, run_makeDirectories_of_present (hParent parent hSome)]
    exact hFile

/-! ## On the way -/

/-- The tree `s` is the tree `t` with backups of some targets. -/
structure BackedUp (t : FileTree) (paths : List Text) (s : FileTree) : Prop where
  workingDirectory : s.workingDirectory = t.workingDirectory
  /-- All is as it was but for the places of the backups. -/
  same : ∀ l, (∀ p ∈ paths, l ≠ t.place (backupPath p)) → s.get? l = t.get? l
  backup : ∀ p ∈ paths, ∃ bytes, s.read (backupPath p) = .ok bytes

/-- There is nothing at the places of the backups of these targets. -/
def Free (t : FileTree) (paths : List Text) : Prop :=
  ∀ p ∈ paths, t.get? (t.place (backupPath p)) = none

namespace BackedUp

theorem start (t : FileTree) : BackedUp t [] t := ⟨rfl, fun _ _ => rfl, nofun⟩

theorem place_eq (h : BackedUp t paths s) (path : Text) : s.place path = t.place path := by
  rw [FileTree.place, FileTree.place, h.workingDirectory]

/-- Backups are files where nothing was, so the directories are the same. -/
theorem kept (h : BackedUp t paths s) (hFree : Free t paths) :
    t.DirectoriesKept s ∧ s.DirectoriesKept t := by
  refine ⟨⟨h.workingDirectory, fun l hl => ?_⟩, h.workingDirectory.symm, fun l hl => ?_⟩
  · rw [h.same l, hl]
    rintro p hp rfl
    rw [hFree p hp] at hl
    cases hl
  · rw [← h.same l, hl]
    rintro p hp rfl
    obtain ⟨bytes, hRead⟩ := h.backup p hp
    rw [← h.place_eq] at hl
    exact ne_directory_of_read hRead hl

/-- The targets hold what they held. -/
theorem read (h : BackedUp t paths s) (hFree : Free t paths)
    (hTargets : ∀ p ∈ paths, NamesGoFile p) (hq : NamesGoFile q) (hRead : t.read q = .ok bytes) :
    s.read q = .ok bytes := by
  refine (h.kept hFree).1.read (h.same _ fun p hp => ?_) hRead
  exact Ne.symm (place_backupPath_ne t (hTargets p hp) hq)

/-- **One more target is backed up.** -/
theorem protect (h : BackedUp t paths s) (hFree : Free t (p :: paths))
    (hTargets : ∀ q ∈ p :: paths, NamesGoFile q) (hRead : t.read p = .ok bytes)
    (hFits : FitsLimits (backupPath p))
    (hApart : ∀ q ∈ paths, t.place (backupPath p) ≠ t.place (backupPath q)) :
    ∃ s', (Output.protect p : StateM FileTree _).run s = (.ok (some (backupPath p)), s') ∧
      BackedUp t (p :: paths) s' := by
  obtain ⟨hp, hRest⟩ := List.forall_mem_cons.1 hTargets
  obtain ⟨hFreeHere, hFreeRest⟩ := List.forall_mem_cons.1 hFree
  have hKept := (h.kept hFreeRest).1
  have hNow : s.read p = .ok bytes := h.read hFreeRest hRest hp hRead
  have hReaches : s.Reaches (backupPath p) :=
    reaches_backupPath (read_eq_ok_iff.1 hNow).1 hp hFits
  have hNothing : s.get? (s.place (backupPath p)) = none := by
    rw [h.place_eq, h.same _ hApart]
    exact hFreeHere
  have hWrite : s.write (backupPath p) bytes =
      .ok (s.put (s.place (backupPath p)) (.file bytes)) := by
    refine write_eq_ok_iff.2 ⟨hReaches, ?_, getLast?_backupPath p, rfl⟩
    rw [hNothing]
    nofun
  have hEntries := get?_of_write hWrite
  rw [h.place_eq] at hEntries
  refine ⟨_, run_protect hNow hWrite, h.workingDirectory, fun l hl => ?_,
    List.forall_mem_cons.2 ⟨⟨bytes, read_of_write hWrite⟩, fun q hq => ?_⟩⟩
  · obtain ⟨hHere, hOthers⟩ := List.forall_mem_cons.1 hl
    rw [h.place_eq, hEntries, if_neg hHere]
    exact h.same l hOthers
  · obtain ⟨stored, hStored⟩ := h.backup q hq
    refine ⟨stored, (directoriesKept_of_write hWrite).1.read ?_ hStored⟩
    rw [h.place_eq, h.place_eq, hEntries, if_neg (Ne.symm (hApart q hq))]

/-- **A target is overwritten with what it holds.** -/
theorem place (h : BackedUp t paths s) (hFree : Free t paths)
    (hTargets : ∀ p ∈ paths, NamesGoFile p) (hq : NamesGoFile q) (hDots : DotFree q)
    (hRead : t.read q = .ok bytes) :
    ∃ s', (Output.place q bytes : StateM FileTree _).run s = (.ok (), s') ∧
      BackedUp t paths s' := by
  have hNow : s.read q = .ok bytes := h.read hFree hTargets hq hRead
  obtain ⟨hReaches, hFile, hSlash⟩ := read_eq_ok_iff.1 hNow
  have hWrite : s.write q bytes = .ok (s.put (s.place q) (.file bytes)) :=
    write_eq_ok_iff.2 ⟨hReaches, ne_directory_of_read hNow, hSlash, rfl⟩
  have hEntries : ∀ l, (s.put (s.place q) (.file bytes)).get? l = s.get? l := by
    intro l
    rw [get?_of_write hWrite]
    split
    · next hHere => rw [hHere, hFile]
    · rfl
  refine ⟨_, run_place (fun parent hParent => parent_of_reaches hReaches hDots hParent) hWrite,
    h.workingDirectory, fun l hl => (hEntries l).trans (h.same l hl), fun p hp => ?_⟩
  obtain ⟨stored, hStored⟩ := h.backup p hp
  exact ⟨stored, (directoriesKept_of_write hWrite).1.read (hEntries _) hStored⟩

/-- **One backup is discarded.** -/
theorem discards (h : BackedUp t (p :: paths) s) (hFree : Free t (p :: paths))
    (hApart : ∀ q ∈ paths, t.place (backupPath p) ≠ t.place (backupPath q))
    (hDiscards : Discards s ⟨p, some (backupPath p)⟩ s') : BackedUp t paths s' := by
  obtain ⟨hFreeHere, -⟩ := List.forall_mem_cons.1 hFree
  obtain ⟨⟨bytes, hRead⟩, hOthers⟩ := List.forall_mem_cons.1 h.backup
  cases hDiscards with
  | removed hRemove =>
    have hEntries := get?_of_remove hRemove
    have hKept := (directoriesKept_of_remove hRemove).1
    rw [h.place_eq] at hEntries
    refine ⟨hKept.workingDirectory.trans h.workingDirectory, fun l hl => ?_, fun q hq => ?_⟩
    · rw [hEntries]
      split
      · next hHere => rw [hHere, hFreeHere]
      · next hHere => exact h.same l (List.forall_mem_cons.2 ⟨hHere, hl⟩)
    · obtain ⟨stored, hStored⟩ := hOthers q hq
      refine ⟨stored, hKept.read ?_ hStored⟩
      rw [hEntries, h.place_eq, if_neg (Ne.symm (hApart q hq))]
  | absent hNone => exact absurd hRead (hNone bytes)

end BackedUp

/-! ## Whole runs -/

/-- The files are there already, their backups can be made and no two get in each other's way. -/
structure Settled (t : FileTree) (files : List (Text × List UInt8)) : Prop where
  names : ∀ f ∈ files, NamesGoFile f.1
  dots : ∀ f ∈ files, DotFree f.1
  holds : Holds t files
  free : Free t (files.map (·.1))
  fits : ∀ f ∈ files, FitsLimits (backupPath f.1)
  distinct : (files.map fun f => t.place f.1).Nodup

namespace Settled

variable {files : List (Text × List UInt8)}

/-- The record of a run over such files. -/
def record (files : List (Text × List UInt8)) : List Touched :=
  files.map fun f => ⟨f.1, some (backupPath f.1)⟩

theorem apart (h : Settled t files) :
    (files.map fun f => t.place (backupPath f.1)).Nodup := by
  refine List.pairwise_map.2 ((List.pairwise_map.1 h.distinct).imp_of_mem ?_)
  intro f g hf hg hPlaces hBackups
  exact hPlaces (place_eq_of_backupPath t (h.names f hf) (h.names g hg) hBackups)

theorem tail {f : Text × List UInt8} (h : Settled t (f :: files)) : Settled t files where
  names g hg := h.names g (List.mem_cons_of_mem f hg)
  dots g hg := h.dots g (List.mem_cons_of_mem f hg)
  holds g hg := h.holds g (List.mem_cons_of_mem f hg)
  free p hp := h.free p (List.mem_cons_of_mem f.1 hp)
  fits g hg := h.fits g (List.mem_cons_of_mem f hg)
  distinct := (List.nodup_cons.1 h.distinct).2

/-- **Placing files that are there adds their backups.** The first list has the targets so far. -/
theorem exists_placeAll (touched : List Touched) (h : Settled t files) (hs : BackedUp t paths s)
    (hTargets : ∀ p ∈ paths, NamesGoFile p) (hFree : Free t paths)
    (hApart : ∀ f ∈ files, ∀ p ∈ paths,
      t.place (backupPath f.1) ≠ t.place (backupPath p)) :
    ∃ s', (placeAll touched files : StateM FileTree _).run s =
        (.ok ((record files).reverse ++ touched), s') ∧
      BackedUp t ((files.map (·.1)).reverse ++ paths) s' := by
  induction files generalizing s paths touched with
  | nil => exact ⟨s, rfl, hs⟩
  | cons f files ih =>
    obtain ⟨p, bytes⟩ := f
    have hp : NamesGoFile p := h.names _ List.mem_cons_self
    have hRead : t.read p = .ok bytes := h.holds _ List.mem_cons_self
    have hTargets' : ∀ q ∈ p :: paths, NamesGoFile q := List.forall_mem_cons.2 ⟨hp, hTargets⟩
    have hFree' : Free t (p :: paths) :=
      List.forall_mem_cons.2 ⟨h.free p List.mem_cons_self, hFree⟩
    obtain ⟨s₁, hProtect, hBacked₁⟩ := hs.protect hFree' hTargets' hRead
      (h.fits _ List.mem_cons_self) (hApart _ List.mem_cons_self)
    obtain ⟨s₂, hPlace, hBacked₂⟩ := hBacked₁.place hFree' hTargets' hp
      (h.dots _ List.mem_cons_self) hRead
    have hApart' : ∀ g ∈ files, ∀ q ∈ p :: paths,
        t.place (backupPath g.1) ≠ t.place (backupPath q) := by
      intro g hg
      refine List.forall_mem_cons.2 ⟨fun hEq => ?_, hApart g (List.mem_cons_of_mem _ hg)⟩
      have hNotMem := (List.nodup_cons.1 h.apart).1
      exact hNotMem (List.mem_map.2 ⟨g, hg, hEq⟩)
    obtain ⟨s₃, hRest, hBacked₃⟩ := ih (⟨p, some (backupPath p)⟩ :: touched) h.tail
      hBacked₂ hTargets' hFree' hApart'
    refine ⟨s₃, ?_, ?_⟩
    · rw [placeAll, run_bind, hProtect]
      dsimp only
      rw [run_bind, hPlace]
      dsimp only
      rw [hRest, record, record, List.map_cons, List.reverse_cons, List.append_assoc]
      rfl
    · rw [List.map_cons, List.reverse_cons, List.append_assoc]
      exact hBacked₃

/-- **Discarding the backups gives the tree back.** -/
theorem discardBackups (h : Settled t files) (hs : BackedUp t (files.map (·.1)) s) :
    BackedUp t [] ((discardBackups (record files) : StateM FileTree _).run s).2 := by
  let Inv (left : List Touched) (s : FileTree) : Prop :=
    ∃ rest, left = record rest ∧ Settled t rest ∧ BackedUp t (rest.map (·.1)) s
  have hStep : ∀ {x left s s'}, Inv (x :: left) s → Discards s x s' → Inv left s' := by
    rintro x left s s' ⟨rest, hLeft, hSettled, hBacked⟩ hDiscards
    cases rest with
    | nil => cases hLeft
    | cons f rest =>
      obtain ⟨rfl, rfl⟩ := List.cons.inj hLeft
      refine ⟨rest, rfl, hSettled.tail, hBacked.discards hSettled.free ?_ hDiscards⟩
      intro q hq hEq
      obtain ⟨g, hg, rfl⟩ := List.mem_map.1 hq
      have hNotMem := (List.nodup_cons.1 hSettled.apart).1
      exact hNotMem (List.mem_map.2 ⟨g, hg, hEq.symm⟩)
  obtain ⟨rest, hLeft, -, hBacked⟩ := discardBackups_keeps Inv hStep ⟨files, rfl, h, hs⟩
  obtain rfl : rest = [] := List.map_eq_nil_iff.1 hLeft.symm
  exact hBacked

end Settled

/-- **A run over files that are there already** succeeds and leaves the tree as it is. -/
theorem Settled.exists_writeAll {o : Output} {files : List RenderedFile} (hRun : o.dryRun = false)
    (h : Settled t (files.map fun f => (o.target f, f.assemble))) :
    ∃ s, (o.writeAll files : StateM FileTree _).run t =
        (.ok ⟨files.map o.target, files.length, false⟩, s) ∧ BackedUp t [] s := by
  obtain ⟨s, hPlaced, hBacked⟩ := h.exists_placeAll [] (BackedUp.start t) nofun nofun
    (fun _ _ _ hp => absurd hp List.not_mem_nil)
  rw [List.append_nil] at hPlaced hBacked
  have hAll : BackedUp t ((files.map fun f => (o.target f, f.assemble)).map (·.1)) s :=
    ⟨hBacked.workingDirectory, fun l hl => hBacked.same l fun p hp => hl p (List.mem_reverse.1 hp),
      fun p hp => hBacked.backup p (List.mem_reverse.2 hp)⟩
  refine ⟨_, ?_, h.discardBackups hAll⟩
  rw [run_writeAll hRun, hPlaced]
  dsimp only
  rw [List.reverse_reverse, List.length_reverse, record, List.length_map, List.length_map]

end Output

end RestScaffold
