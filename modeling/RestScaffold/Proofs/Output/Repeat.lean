import RestScaffold.Proofs.Output.Restore
import RestScaffold.Proofs.Output.Settled

/-!
# Runs that are repeated

When a run succeeds every target is a file with its bytes, so a second run with the same files is one
over files that are there already. It needs backups where the first one may have needed none, and
their paths are longer than those of the targets. Whether they are too long decides about the second
run, and nothing else does.

* `Output.length_backupPath_le`: a target that is there needs a backup;
* `Output.Unhindered`: the runs that nothing is in the way of;
* `Output.slashedPath`: paths that are as long as one likes, with short names in them;
* `Output.writeAll_repeatable`: what a run that succeeds leaves, and what a second one does.
-/

namespace RestScaffold.Output

open FileTree Text

variable {t : FileTree} {bytes : List UInt8}

/-! ## Targets that are there, and new ones -/

/-- **A target that is there is replaced only if the path of its backup is not too long.** -/
theorem length_backupPath_le {o : Output} {files : List RenderedFile} {report : WriteReport}
    {t' : FileTree} (hRun : o.dryRun = false)
    (h : (o.writeAll files : StateM FileTree _).run t = (.ok report, t')) {f : RenderedFile}
    (hf : f ∈ files) (hRead : t.read (o.target f) = .ok bytes) :
    (utf8 (backupPath (o.target f))).length ≤ maxPathLength := by
  obtain ⟨touched, t₁, hPlaced, -, -⟩ := exists_placeAll hRun h
  obtain ⟨hUnderway, hListed⟩ := underway_of_placeAll hPlaced
  rw [map_fst_files] at hUnderway hListed
  obtain ⟨x, hx, -, hBackup⟩ := hUnderway.exists_backup hListed (List.mem_map_of_mem hf) hRead
  obtain ⟨-, stored, hStored⟩ := hUnderway.readable x hx _ hBackup
  exact (locate_eq_ok_iff.1 (read_eq_ok_iff.1 hStored).1).1.length_le

/-- **A new file is written into a directory that is there.** -/
theorem exists_writeAll_new {o : Output} {f : RenderedFile} (hRun : o.dryRun = false)
    (hDots : DotFree (o.target f)) (hReaches : t.Reaches (o.target f))
    (hNew : t.get? (t.place (o.target f)) = none) :
    ∃ t', (o.writeAll [f] : StateM FileTree _).run t = (.ok ⟨[o.target f], 1, false⟩, t') ∧
      t'.read (o.target f) = .ok f.assemble := by
  have hAbsent : ¬ t.isFile (o.target f) = true := by
    intro hFile
    obtain ⟨bytes, hRead⟩ := isFile_eq_true_iff.1 hFile
    rw [(read_eq_ok_iff.1 hRead).2.1] at hNew
    cases hNew
  have hProtect : (protect (o.target f) : StateM FileTree _).run t = (.ok none, t) := by
    unfold protect
    rw [run_bind, run_isFile, if_neg hAbsent]
    rfl
  have hWrite : t.write (o.target f) f.assemble =
      .ok (t.put (t.place (o.target f)) (.file f.assemble)) := by
    refine write_eq_ok_iff.2 ⟨hReaches, ?_, getLast?_of_namesGoFile (o.namesGoFile_target f), rfl⟩
    rw [hNew]
    nofun
  have hPlace := run_place (fun parent hParent => parent_of_reaches hReaches hDots hParent) hWrite
  refine ⟨_, ?_, read_of_write hWrite⟩
  rw [run_writeAll hRun, List.map_singleton, placeAll, run_bind, hProtect]
  dsimp only
  rw [run_bind, hPlace]
  rfl

/-- Nothing is in the way of a run and of its backups: the targets have no dots among their segments,
nothing is at the place of a backup, no target lies below one, and the names of backups are not too
long. -/
structure Unhindered (o : Output) (files : List RenderedFile) (t : FileTree) : Prop where
  dots : ∀ f ∈ files, DotFree (o.target f)
  free : ∀ f ∈ files, t.get? (t.place (backupPath (o.target f))) = none
  below : ∀ f ∈ files, ∀ g ∈ files, ¬ t.place (backupPath (o.target f)) <+: t.place (o.target g)
  names : ∀ f ∈ files, NameFits (backupPath (o.target f))

instance (o : Output) (files : List RenderedFile) (t : FileTree) : Decidable (Unhindered o files t) :=
  decidable_of_iff
    ((∀ f ∈ files, DotFree (o.target f)) ∧
      (∀ f ∈ files, t.get? (t.place (backupPath (o.target f))) = none) ∧
      (∀ f ∈ files, ∀ g ∈ files,
        ¬ t.place (backupPath (o.target f)) <+: t.place (o.target g)) ∧
      ∀ f ∈ files, NameFits (backupPath (o.target f)))
    ⟨fun ⟨hDots, hFree, hBelow, hNames⟩ => ⟨hDots, hFree, hBelow, hNames⟩,
      fun h => ⟨h.dots, h.free, h.below, h.names⟩⟩

/-! ## Long paths with short names -/

/-- A path of two names with some slashes between them. -/
def slashedPath (n : Nat) (name : Text) : Text :=
  "o".toList ++ List.replicate n '/' ++ '/' :: name

section

variable {name : Text} (n : Nat)

theorem segments_slashedPath (hName : IsSegment name) :
    segments (slashedPath n name) = ["o".toList, name] := by
  rw [slashedPath, segments_append_slash, segments_append_replicate_slash,
    segments_of_isSegment hName]
  rfl

theorem dotFree_slashedPath (hName : IsSegment name) (hDots : name ≠ "." ∧ name ≠ "..") :
    DotFree (slashedPath n name) := by
  rw [DotFree, segments_slashedPath n hName]
  exact List.forall_mem_cons.2 ⟨by decide, List.forall_mem_singleton.2 hDots⟩

theorem place_slashedPath (hName : IsSegment name) (hDots : name ≠ "." ∧ name ≠ "..") :
    t.place (slashedPath n name) = t.workingDirectory ++ ["o".toList, name] := by
  rw [FileTree.place, foldl_step_of_dotFree (dotFree_slashedPath n hName hDots),
    segments_slashedPath n hName]
  rfl

theorem length_slashedPath (name : Text) :
    (utf8 (slashedPath n name)).length = n + 2 + (utf8 name).length := by
  have hSlashes : (utf8 (List.replicate n '/')).length = n := by
    induction n with
    | zero => rfl
    | succ n ih =>
      rw [List.replicate_succ, utf8, List.flatMap_cons, List.length_append]
      exact (Nat.add_comm _ _).trans (congrArg (· + 1) ih)
  have hAppend : ∀ a b : Text, (utf8 (a ++ b)).length = (utf8 a).length + (utf8 b).length := by
    intro a b
    rw [utf8, List.flatMap_append, List.length_append]
    rfl
  have hEnds : (utf8 "o".toList).length = 1 ∧ (utf8 ['/']).length = 1 := by decide
  rw [slashedPath, ← List.singleton_append, hAppend, hAppend, hAppend, hSlashes, hEnds.1, hEnds.2]
  omega

/-- An output directory whose path ends in slashes. -/
def slashedOutput : Output := { base := "o".toList ++ List.replicate (n + 1) '/', package := "p" }

/-- A file in the directory itself. -/
def slashedFile : RenderedFile := { packagePath := "p", stem := "x" }

theorem target_slashed : (slashedOutput n).target slashedFile = slashedPath n "x.go" := by
  have hRelative : slashedFile.relativePath "p" = "x.go" := by decide
  have hLast : ("o".toList ++ List.replicate (n + 1) '/').getLast? = some '/' := by
    rw [List.replicate_succ', ← List.append_assoc, List.getLast?_concat]
  show FilePath.join ("o".toList ++ List.replicate (n + 1) '/') (slashedFile.relativePath "p") = _
  rw [hRelative, FilePath.join, hLast, List.replicate_succ']
  simp [slashedPath]

theorem backupPath_slashed :
    backupPath ((slashedOutput n).target slashedFile) = slashedPath n "x.go.bak" := by
  rw [target_slashed, backupPath, slashedPath, slashedPath, List.append_assoc]
  rfl

/-- The tree of a directory. -/
def slashedTree : FileTree where
  entries := [(["o"], .directory)]

theorem unhindered_slashed : Unhindered (slashedOutput n) [slashedFile] slashedTree where
  dots := by
    rw [List.forall_mem_singleton, target_slashed]
    exact dotFree_slashedPath n (by decide) (by decide)
  free := by
    rw [List.forall_mem_singleton, backupPath_slashed, place_slashedPath n (by decide) (by decide)]
    decide
  below := by
    rw [List.forall_mem_singleton, List.forall_mem_singleton, backupPath_slashed, target_slashed,
      place_slashedPath n (by decide) (by decide), place_slashedPath n (by decide) (by decide)]
    decide
  names := by
    rw [List.forall_mem_singleton, backupPath_slashed, NameFits,
      segments_slashedPath n (by decide)]
    decide

theorem reaches_slashed (h : n + 6 ≤ maxPathLength) :
    slashedTree.Reaches ((slashedOutput n).target slashedFile) := by
  rw [target_slashed]
  refine reaches_of_locate (l := ["o".toList, "x.go".toList])
    (locate_eq_ok_iff.2 ⟨⟨?_, List.cons_ne_nil _ _, ?_⟩, ?_⟩)
  · rw [← Bool.not_eq_true, List.contains_iff_mem, slashedPath]
    simp [List.mem_replicate]
  · rw [length_slashedPath]
    exact h
  · rw [segments_slashedPath n (by decide)]
    rfl

end

/-! ## Repeated runs -/

/-- **A run that succeeds is complete and can be repeated.** Let nothing be in the way of a run and
its backups, and let the targets be apart from each other. If the run succeeds, then every target is
a file with the bytes of its file, and no backup is left. And a second run succeeds with the same
report and leaves everything as the first one has left it, if and only if no path of a backup is too
long. -/
theorem writeAll_repeatable {o : Output} {files : List RenderedFile} {t t' : FileTree}
    {report : WriteReport} (hRun : o.dryRun = false) (hWay : Unhindered o files t)
    (hApart : (files.map o.target).Pairwise t.Apart)
    (h : (o.writeAll files : StateM FileTree _).run t = (.ok report, t')) :
    (∀ f ∈ files, t'.read (o.target f) = .ok f.assemble) ∧
      (∀ f ∈ files, t'.get? (t'.place (backupPath (o.target f))) = none) ∧
      ((∀ f ∈ files, (utf8 (backupPath (o.target f))).length ≤ maxPathLength) ↔
        ∃ t'', (o.writeAll files : StateM FileTree _).run t' = (.ok report, t'') ∧
          t''.workingDirectory = t'.workingDirectory ∧ ∀ l, t''.get? l = t'.get? l) := by
  have hDistinct : (files.map fun f => t.place (o.target f)).Nodup := by
    have hPlaces := (nodup_place_iff (List.forall_mem_map.2 hWay.dots)).2 hApart
    rwa [List.map_map] at hPlaces
  have hHolds := List.forall_mem_map.1 (holds_writeAll hRun hDistinct h)
  have hTree : ((o.writeAll files : StateM FileTree _).run t).2 = t' := by rw [h]
  have hPlace : ∀ path, t'.place path = t.place path := by
    intro path
    rw [FileTree.place, FileTree.place, ← hTree, workingDirectory_writeAll]
  have hGone : ∀ f ∈ files, t'.get? (t'.place (backupPath (o.target f))) = none := by
    intro f hf
    rw [hPlace, ← hTree]
    exact get?_backup_of_free hWay.dots (hWay.free f hf) (hWay.below f hf)
  refine ⟨hHolds, hGone, ?_⟩
  constructor
  · intro hLength
    have hFits : ∀ f ∈ files, FitsLimits (backupPath (o.target f)) := fun f hf =>
      ⟨hWay.names f hf, hLength f hf⟩
    have hSettled : Settled t' (files.map fun f => (o.target f, f.assemble)) := by
      refine ⟨namesGoFile_files o files, List.forall_mem_map.2 hWay.dots,
        List.forall_mem_map.2 hHolds, ?_, List.forall_mem_map.2 hFits, ?_⟩
      · rw [Free, map_fst_files]
        exact List.forall_mem_map.2 hGone
      · rw [List.map_map]
        simpa only [Function.comp_def, hPlace] using hDistinct
    obtain ⟨t'', hAgain, hSame⟩ := hSettled.exists_writeAll hRun
    refine ⟨t'', ?_, hSame.workingDirectory, fun l => ?_⟩
    · rw [hAgain, report_eq hRun h]
    · exact hSame.same l fun _ hp => absurd hp List.not_mem_nil
  · intro hSecond f hf
    obtain ⟨t'', hAgain, -⟩ := hSecond
    exact length_backupPath_le hRun hAgain hf (hHolds f hf)

/-- The tree of `blockedTree` without the two files that are in the way. -/
def heldTree : FileTree where
  entries := [(["o"], .directory), (["o", "a.go"], .file [1])]

/-- A run that replaces one file and makes another, and the same run once more. -/
theorem writeAll_repeatable_held : ∃ t' t'' report,
    (({ base := "o", package := "p" } : Output).writeAll blockedFiles : StateM FileTree _).run
        heldTree = (.ok report, t') ∧
      heldTree.read "o/a.go" = .ok [1] ∧
      t'.read "o/a.go" = .ok ({ packagePath := "p", stem := "a" } : RenderedFile).assemble ∧
      (({ base := "o", package := "p" } : Output).writeAll blockedFiles : StateM FileTree _).run t' =
        (.ok report, t'') ∧
      ∀ l, t''.get? l = t'.get? l := by
  let o : Output := { base := "o", package := "p" }
  let report : WriteReport :=
    { paths := ["o/a.go", "o/blocked/inner/x.go"], filesWritten := 2, dryRun := false }
  have hSucceeds : ((o.writeAll blockedFiles : StateM FileTree _).run heldTree).1 = .ok report := by
    decide +kernel
  have hRun : (o.writeAll blockedFiles : StateM FileTree _).run heldTree =
      (.ok report, ((o.writeAll blockedFiles : StateM FileTree _).run heldTree).2) :=
    Prod.ext hSucceeds rfl
  obtain ⟨hHolds, -, hSecond⟩ := writeAll_repeatable (o := o) rfl (by decide +kernel)
    (by decide +kernel) hRun
  obtain ⟨t'', hAgain, -, hSame⟩ := hSecond.1 (by decide +kernel)
  have hFirst : o.target { packagePath := "p", stem := "a" } = "o/a.go" := by decide +kernel
  have hHeld : heldTree.read "o/a.go" = .ok [1] := by decide +kernel
  have hWritten := hHolds _ List.mem_cons_self
  rw [hFirst] at hWritten
  exact ⟨_, t'', report, hRun, hHeld, hWritten, hAgain, hSame⟩

/-- **What the texts of targets and the names of backups do not tell.** Two targets with different
texts need not be apart, and then the first one does not hold its file after a run that succeeds. And
the path of a backup can be too long with short names in it, and then a second run fails. -/
theorem exists_unrepeatable_run :
    (∀ stem ∈ ["d//x".toList, "/w/o/d/x".toList], ∃ (o : Output) (t : FileTree),
      o.dryRun = false ∧ Unhindered o (respelledFiles stem) t ∧
        ((respelledFiles stem).map o.target).Nodup ∧
        (∃ report,
          ((o.writeAll (respelledFiles stem) : StateM FileTree _).run t).1 = .ok report) ∧
        ∃ f ∈ respelledFiles stem,
          ((o.writeAll (respelledFiles stem) : StateM FileTree _).run t).2.read (o.target f) ≠
            .ok f.assemble) ∧
      ∃ (o : Output) (f : RenderedFile) (t : FileTree), o.dryRun = false ∧ Unhindered o [f] t ∧
        ∃ report t', (o.writeAll [f] : StateM FileTree _).run t = (.ok report, t') ∧
          ∀ report, ((o.writeAll [f] : StateM FileTree _).run t').1 ≠ .ok report := by
  constructor
  · let o : Output := { base := "o", package := "p" }
    have hRespelled : ∀ stem ∈ ["d//x".toList, "/w/o/d/x".toList],
        Unhindered o (respelledFiles stem) respelledTree.toFileTree ∧
          ((respelledFiles stem).map o.target).Nodup ∧
          ((o.writeAll (respelledFiles stem) : StateM FileTree _).run respelledTree.toFileTree).1 =
            .ok ⟨(respelledFiles stem).map o.target, 2, false⟩ ∧
          ∃ f ∈ respelledFiles stem,
            ((o.writeAll (respelledFiles stem) : StateM FileTree _).run
              respelledTree.toFileTree).2.read (o.target f) ≠ .ok f.assemble := by
      decide +kernel
    intro stem hStem
    obtain ⟨hWay, hDistinct, hOk, hLost⟩ := hRespelled stem hStem
    exact ⟨o, _, rfl, hWay, hDistinct, ⟨_, hOk⟩, hLost⟩
  · -- The path of the target has 4093 bytes, and that of its backup has 4097.
    obtain ⟨n, hn⟩ : ∃ n, n = 4087 := ⟨_, rfl⟩
    obtain ⟨t', hOk, hRead⟩ := exists_writeAll_new (o := slashedOutput n) rfl
      ((unhindered_slashed n).dots _ List.mem_cons_self) (reaches_slashed n (by rw [hn]; decide))
      (by rw [target_slashed, place_slashedPath n (by decide) (by decide)]; decide)
    refine ⟨slashedOutput n, slashedFile, slashedTree, rfl, unhindered_slashed n, _, t', hOk,
      fun report hAgain => ?_⟩
    have hLength := length_backupPath_le rfl (Prod.ext hAgain rfl) List.mem_cons_self hRead
    rw [backupPath_slashed, length_slashedPath, hn] at hLength
    revert hLength
    decide

end RestScaffold.Output
