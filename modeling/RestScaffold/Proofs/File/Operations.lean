import RestScaffold.Proofs.File.Tree

/-!
# What file operations do

Each operation of a file tree succeeds under conditions on the entries at the places of its paths,
and then changes the entries at these places only. An operation that fails changes nothing.

* `FileTree.read_eq_ok_iff`, `write_eq_ok_iff`, `remove_eq_ok_iff` and `move_eq_ok_iff`: when the
  operations succeed and with which tree;
* `FileTree.get?_of_write`, `get?_of_remove` and `get?_of_move`: the entries after an operation;
* `FileTree.EntriesKept` and `FileTree.DirectoriesAdded`: how a tree grows.
-/

namespace RestScaffold

open Text

namespace FileTree

variable {t t' t'' : FileTree} {path source target : Text} {bytes : List UInt8}

/-! ## Single operations -/

theorem read_eq_ok_iff : t.read path = .ok bytes ↔
    t.Reaches path ∧ t.get? (t.place path) = some (.file bytes) ∧ path.getLast? ≠ some '/' := by
  unfold read lookup
  cases hLocate : t.locate path with
  | error e =>
    refine iff_of_false nofun fun h => ?_
    rw [h.1] at hLocate
    cases hLocate
  | ok l =>
    obtain rfl := eq_place_of_locate hLocate
    rw [and_iff_right (show t.Reaches path from hLocate)]
    dsimp only
    rcases t.get? (t.place path) with - | ⟨stored⟩ | -
    · simp
    · by_cases hSlash : path.getLast? = some '/' <;> simp [hSlash]
    · simp

theorem isFile_eq_true_iff : t.isFile path = true ↔ ∃ bytes, t.read path = .ok bytes := by
  unfold isFile read
  rcases t.lookup path with e | ⟨bytes⟩ | - <;> simp

/-- What can be read is there. -/
theorem isPresent_of_read (h : t.read path = .ok bytes) : t.isPresent path = true := by
  unfold isPresent
  unfold read at h
  cases hLookup : t.lookup path with
  | error e =>
    rw [hLookup] at h
    cases h
  | ok e => rfl

theorem write_eq_ok_iff : t.write path bytes = .ok t' ↔ t.Reaches path ∧
    t.get? (t.place path) ≠ some .directory ∧ path.getLast? ≠ some '/' ∧
      t' = t.put (t.place path) (.file bytes) := by
  unfold write
  cases hLocate : t.locate path with
  | error e =>
    refine iff_of_false nofun fun h => ?_
    rw [h.1] at hLocate
    cases hLocate
  | ok l =>
    obtain rfl := eq_place_of_locate hLocate
    rw [and_iff_right (show t.Reaches path from hLocate)]
    by_cases hDirectory : t.get? (t.place path) = some .directory
    · simp [hDirectory]
    · by_cases hSlash : path.getLast? = some '/' <;> simp [hDirectory, hSlash, eq_comm]

theorem copy_eq_ok_iff : t.copy source target = .ok t' ↔
    ∃ bytes, t.read source = .ok bytes ∧ t.write target bytes = .ok t' := by
  unfold copy
  cases t.read source <;> simp

theorem remove_eq_ok_iff : t.remove path = .ok t' ↔
    (∃ bytes, t.read path = .ok bytes) ∧ t' = t.erase (t.place path) := by
  unfold remove
  cases hRead : t.read path with
  | error e => simp
  | ok bytes =>
    rw [(read_eq_ok_iff.1 hRead).1]
    simp [eq_comm]

theorem move_eq_ok_iff : t.move source target = .ok t' ↔
    ∃ bytes, t.read source = .ok bytes ∧
      (t.erase (t.place source)).write target bytes = .ok t' := by
  unfold move
  cases hRead : t.read source with
  | error e => simp
  | ok bytes =>
    rw [remove_eq_ok_iff.2 ⟨⟨bytes, hRead⟩, rfl⟩]
    simp

theorem makeDirectory_eq_ok_iff : t.makeDirectory path = .ok t' ↔
    t.Reaches path ∧ t.get? (t.place path) = none ∧ t' = t.put (t.place path) .directory := by
  unfold makeDirectory
  cases hLocate : t.locate path with
  | error e =>
    refine iff_of_false nofun fun h => ?_
    rw [h.1] at hLocate
    cases hLocate
  | ok l =>
    obtain rfl := eq_place_of_locate hLocate
    rw [and_iff_right (show t.Reaches path from hLocate)]
    dsimp only
    cases t.get? (t.place path) with
    | none =>
      rw [Option.isSome_none, if_neg Bool.false_ne_true, and_iff_right rfl]
      exact ⟨fun h => (Except.ok.inj h).symm, fun h => congrArg _ h.symm⟩
    | some e => simp

/-! ## Entries after an operation -/

/-- A file that was written holds its bytes, and all else is as before. -/
theorem get?_of_write (h : t.write path bytes = .ok t') (l : Location) :
    t'.get? l = if l = t.place path then some (.file bytes) else t.get? l := by
  obtain ⟨-, hDirectory, -, rfl⟩ := write_eq_ok_iff.1 h
  exact get?_put (ne_nil_of_get? hDirectory) _ l

theorem directoriesKept_of_write (h : t.write path bytes = .ok t') :
    t.DirectoriesKept t' ∧ t'.DirectoriesKept t := by
  obtain ⟨-, hDirectory, -, rfl⟩ := write_eq_ok_iff.1 h
  exact directoriesKept_put_file hDirectory bytes

/-- A file that was written is read back. -/
theorem read_of_write (h : t.write path bytes = .ok t') : t'.read path = .ok bytes := by
  obtain ⟨hReaches, -, hSlash, -⟩ := write_eq_ok_iff.1 h
  have hKept := (directoriesKept_of_write h).1
  refine read_eq_ok_iff.2 ⟨hKept.reaches hReaches, ?_, hSlash⟩
  rw [hKept.place_eq, get?_of_write h, if_pos rfl]

theorem ne_directory_of_read (h : t.read path = .ok bytes) :
    t.get? (t.place path) ≠ some .directory := by
  rw [(read_eq_ok_iff.1 h).2.1]
  nofun

theorem get?_of_remove (h : t.remove path = .ok t') (l : Location) :
    t'.get? l = if l = t.place path then none else t.get? l := by
  obtain ⟨⟨bytes, hRead⟩, rfl⟩ := remove_eq_ok_iff.1 h
  exact get?_erase (ne_nil_of_get? (ne_directory_of_read hRead)) l

theorem directoriesKept_of_remove (h : t.remove path = .ok t') :
    t.DirectoriesKept t' ∧ t'.DirectoriesKept t := by
  obtain ⟨⟨bytes, hRead⟩, rfl⟩ := remove_eq_ok_iff.1 h
  exact directoriesKept_erase (ne_directory_of_read hRead)

/-- A file that was removed cannot be read. -/
theorem read_of_remove (h : t.remove path = .ok t') (bytes : List UInt8) :
    t'.read path ≠ .ok bytes := by
  intro hRead
  have hNow := (read_eq_ok_iff.1 hRead).2.1
  rw [(directoriesKept_of_remove h).1.place_eq, get?_of_remove h, if_pos rfl] at hNow
  cases hNow

/-- A file that was moved is gone from its place and holds its bytes at the other. -/
theorem get?_of_move (h : t.move source target = .ok t') :
    ∃ bytes, t.read source = .ok bytes ∧ ∀ l, t'.get? l =
      if l = t.place target then some (.file bytes)
      else if l = t.place source then none else t.get? l := by
  obtain ⟨bytes, hRead, hWrite⟩ := move_eq_ok_iff.1 h
  refine ⟨bytes, hRead, fun l => ?_⟩
  rw [get?_of_write hWrite, get?_erase (ne_nil_of_get? (ne_directory_of_read hRead)), place_erase]

theorem directoriesKept_of_move (h : t.move source target = .ok t') :
    t.DirectoriesKept t' ∧ t'.DirectoriesKept t := by
  obtain ⟨bytes, hRead, hWrite⟩ := move_eq_ok_iff.1 h
  have hErase := directoriesKept_erase (ne_directory_of_read hRead)
  have hPut := directoriesKept_of_write hWrite
  exact ⟨hErase.1.trans hPut.1, hPut.2.trans hErase.2⟩

/-- A file that was moved is read back at its new path. -/
theorem read_of_move (h : t.move source target = .ok t') (hRead : t.read source = .ok bytes) :
    t'.read target = .ok bytes := by
  obtain ⟨stored, hStored, hWrite⟩ := move_eq_ok_iff.1 h
  rw [hRead] at hStored
  obtain rfl := Except.ok.inj hStored
  exact read_of_write hWrite

/-- The path leads to a place where a file is or can be. -/
structure TakesFile (t : FileTree) (path : Text) : Prop where
  reaches : t.Reaches path
  ne_directory : t.get? (t.place path) ≠ some .directory

theorem takesFile_of_read (h : t.read path = .ok bytes) : t.TakesFile path :=
  ⟨(read_eq_ok_iff.1 h).1, ne_directory_of_read h⟩

/-- Files may come and go when no directory does. -/
theorem TakesFile.of_kept (h : t.TakesFile path)
    (hKept : t.DirectoriesKept t' ∧ t'.DirectoriesKept t) : t'.TakesFile path := by
  refine ⟨hKept.1.reaches h.reaches, fun hNow => ?_⟩
  rw [hKept.1.place_eq] at hNow
  exact h.ne_directory (hKept.2.directory _ hNow)

/-- Where a file can be there is nothing if there is no file. -/
theorem TakesFile.get?_eq_none (h : t.TakesFile path) (hSlash : path.getLast? ≠ some '/')
    (hRead : ∀ bytes, t.read path ≠ .ok bytes) : t.get? (t.place path) = none := by
  rcases hEntry : t.get? (t.place path) with - | ⟨bytes⟩ | -
  · rfl
  · exact absurd (read_eq_ok_iff.2 ⟨h.reaches, hEntry, hSlash⟩) (hRead bytes)
  · exact absurd hEntry h.ne_directory

/-- What can be read stays so when its place and the directories do. -/
theorem DirectoriesKept.read (h : t.DirectoriesKept t')
    (hSame : t'.get? (t.place path) = t.get? (t.place path)) (hRead : t.read path = .ok bytes) :
    t'.read path = .ok bytes := by
  obtain ⟨hReaches, hFile, hSlash⟩ := read_eq_ok_iff.1 hRead
  refine read_eq_ok_iff.2 ⟨h.reaches hReaches, ?_, hSlash⟩
  rw [h.place_eq, hSame]
  exact hFile

/-- What can be read at a path depends on the directories and on its place. -/
theorem read_iff_of_kept (hKept : t.DirectoriesKept t' ∧ t'.DirectoriesKept t)
    (hSame : t'.get? (t.place path) = t.get? (t.place path)) :
    t'.read path = .ok bytes ↔ t.read path = .ok bytes := by
  rw [read_eq_ok_iff, read_eq_ok_iff, hKept.1.place_eq, hSame]
  exact and_congr_left fun _ => ⟨hKept.2.reaches, hKept.1.reaches⟩

/-- **The same files are read at a path without dots** when a tree only has more directories. -/
theorem Closed.read_iff (h : t.Closed) (hKept : t.DirectoriesKept t') (hDots : DotFree path)
    (hFile : ∀ bytes, t'.get? (t.place path) = some (.file bytes) ↔
      t.get? (t.place path) = some (.file bytes)) :
    t'.read path = .ok bytes ↔ t.read path = .ok bytes := by
  rw [read_eq_ok_iff, read_eq_ok_iff, hKept.place_eq, hFile]
  refine and_congr_left fun hRest => ⟨fun hReaches => ?_, hKept.reaches⟩
  refine h.reaches hKept hDots hReaches ?_
  rw [hRest.1]
  nofun

/-- A file can be moved over anything but a directory. -/
theorem exists_move (hSource : t.read source = .ok bytes) (hTarget : t.TakesFile target)
    (hSlash : target.getLast? ≠ some '/') : ∃ t', t.move source target = .ok t' := by
  have hErased := hTarget.of_kept (directoriesKept_erase (ne_directory_of_read hSource))
  exact ⟨_, move_eq_ok_iff.2 ⟨bytes, hSource, write_eq_ok_iff.2
    ⟨hErased.reaches, hErased.ne_directory, hSlash, rfl⟩⟩⟩

/-! ## Trees that only grow -/

/-- What is a directory in a tree is one in another tree, and so with files, whatever they hold. -/
structure EntriesKept (t t' : FileTree) : Prop extends t.DirectoriesKept t' where
  file : ∀ l bytes, t.get? l = some (.file bytes) → ∃ bytes', t'.get? l = some (.file bytes')

namespace EntriesKept

theorem refl (t : FileTree) : t.EntriesKept t := ⟨.refl t, fun _ bytes h => ⟨bytes, h⟩⟩

theorem trans (h : t.EntriesKept t') (h' : t'.EntriesKept t'') : t.EntriesKept t'' := by
  refine ⟨h.toDirectoriesKept.trans h'.toDirectoriesKept, fun l bytes hFile => ?_⟩
  obtain ⟨bytes', hFile'⟩ := h.file l bytes hFile
  exact h'.file l bytes' hFile'

/-- What can be read can still be read, whatever it holds now. -/
theorem exists_read (h : t.EntriesKept t') (hRead : t.read path = .ok bytes) :
    ∃ bytes', t'.read path = .ok bytes' := by
  obtain ⟨hReaches, hFile, hSlash⟩ := read_eq_ok_iff.1 hRead
  obtain ⟨bytes', hFile'⟩ := h.file _ bytes hFile
  refine ⟨bytes', read_eq_ok_iff.2 ⟨h.reaches hReaches, ?_, hSlash⟩⟩
  rw [h.place_eq]
  exact hFile'

end EntriesKept

theorem entriesKept_of_write (h : t.write path bytes = .ok t') : t.EntriesKept t' := by
  refine ⟨(directoriesKept_of_write h).1, fun l stored hFile => ?_⟩
  rw [get?_of_write h]
  split
  · exact ⟨bytes, rfl⟩
  · exact ⟨stored, hFile⟩

/-! ## New directories -/

/-- The second tree has some more directories, at places of these paths where there was nothing. -/
structure DirectoriesAdded (paths : List Text) (t t' : FileTree) : Prop where
  workingDirectory : t'.workingDirectory = t.workingDirectory
  get? : ∀ l, t'.get? l = t.get? l ∨ (∃ path ∈ paths, l = t.place path) ∧
    t.get? l = none ∧ t'.get? l = some .directory

namespace DirectoriesAdded

variable {paths : List Text}

theorem refl (paths : List Text) (t : FileTree) : DirectoriesAdded paths t t :=
  ⟨rfl, fun _ => Or.inl rfl⟩

theorem kept (h : DirectoriesAdded paths t t') : t.DirectoriesKept t' := by
  refine ⟨h.workingDirectory, fun l hl => ?_⟩
  rcases h.get? l with hSame | ⟨-, hNone, -⟩
  · rw [hSame, hl]
  · rw [hl] at hNone
    cases hNone

theorem trans (h : DirectoriesAdded paths t t') (h' : DirectoriesAdded paths t' t'') :
    DirectoriesAdded paths t t'' := by
  refine ⟨h'.workingDirectory.trans h.workingDirectory, fun l => ?_⟩
  rcases h'.get? l with hSame' | ⟨⟨path, hPath, rfl⟩, hNone', hNew'⟩
  · rw [hSame']
    exact h.get? l
  · rcases h.get? (t'.place path) with hSame | ⟨-, -, hNew⟩
    · exact Or.inr ⟨⟨path, hPath, h.kept.place_eq path⟩, hSame ▸ hNone', hNew'⟩
    · rw [hNew] at hNone'
      cases hNone'

theorem mono {paths' : List Text} (h : DirectoriesAdded paths t t') (hSub : paths ⊆ paths') :
    DirectoriesAdded paths' t t' := by
  refine ⟨h.workingDirectory, fun l => (h.get? l).imp_right ?_⟩
  rintro ⟨⟨path, hPath, rfl⟩, hRest⟩
  exact ⟨⟨path, hSub hPath, rfl⟩, hRest⟩

/-- The files are the same. -/
theorem file_iff (h : DirectoriesAdded paths t t') (l : Location) (bytes : List UInt8) :
    t'.get? l = some (.file bytes) ↔ t.get? l = some (.file bytes) := by
  rcases h.get? l with hSame | ⟨-, hNone, hNew⟩
  · rw [hSame]
  · rw [hNone, hNew]
    simp

theorem entriesKept (h : DirectoriesAdded paths t t') : t.EntriesKept t' :=
  ⟨h.kept, fun l bytes hFile => ⟨bytes, (h.file_iff l bytes).2 hFile⟩⟩

end DirectoriesAdded

end FileTree

end RestScaffold
