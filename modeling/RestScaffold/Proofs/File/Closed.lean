import RestScaffold.Proofs.File.Store

/-!
# Closed file trees

In a closed tree everything stands in a directory. Operations keep it so: an entry is made under the
name that a walk ends with, in the directory that the walk has entered, and what is removed is a
file, in which nothing stands. So a closed tree stays closed through any number of operations, and a
tree can carry the fact that it is closed.

* `FileTree.Closed.exists_parent`: a path leads to a directory or to a name in one;
* `FileTree.Operates.closed` and `FileTree.Evolves.closed`: one operation, and a sequence of them;
* `ClosedTree`: the trees that are closed.
-/

namespace RestScaffold

open Text

namespace FileTree

variable {t t' : FileTree} {l : Location} {name path : Text}

/-! ## Where walks end -/

/-- From a directory a name leads to a directory, or it names an entry of it. -/
theorem Closed.step_cases (h : t.Closed) (hDirectory : t.get? l = some .directory) (name : Text) :
    t.get? (step l name) = some .directory ∨ step l name = l ++ [name] := by
  unfold step
  split
  · exact Or.inl hDirectory
  · split
    · refine Or.inl ?_
      rcases List.eq_nil_or_concat' l with rfl | ⟨parent, last, rfl⟩
      · exact hDirectory
      · rw [List.dropLast_concat]
        refine h parent last ?_
        rw [hDirectory]
        nofun
    · exact Or.inr rfl

/-- A path without segments starts at the root and stays there. -/
theorem place_of_segments_eq_nil (hNe : path ≠ []) (h : segments path = []) : t.place path = [] := by
  obtain ⟨c, rest, rfl⟩ := List.exists_cons_of_ne_nil hNe
  obtain rfl : c = '/' := segments_eq_nil_iff.1 h c List.mem_cons_self
  rw [place, h]
  rfl

/-- **Where a path leads is a directory, or a name in a directory.** -/
theorem Closed.exists_parent (h : t.Closed) (hPath : t.Reaches path)
    (hPlace : t.get? (t.place path) ≠ some .directory) :
    ∃ l name, t.place path = l ++ [name] ∧ t.get? l = some .directory := by
  obtain ⟨hIsPath, hWalk⟩ := locate_eq_ok_iff.1 hPath
  rcases List.eq_nil_or_concat' (segments path) with hNil | ⟨front, last, hSegments⟩
  · rw [place_of_segments_eq_nil hIsPath.ne_nil hNil] at hPlace
    exact absurd rfl hPlace
  · rw [hSegments, walk_append_eq_ok_iff] at hWalk
    obtain ⟨l, -, hLast⟩ := hWalk
    obtain ⟨hDirectory, -, hEnd⟩ := walk_cons_eq_ok_iff.1 hLast
    have hStep : step l last = t.place path := Except.ok.inj hEnd
    rcases h.step_cases hDirectory last with hThere | hName
    · rw [hStep] at hThere
      exact absurd hThere hPlace
    · exact ⟨l, last, hStep ▸ hName, hDirectory⟩

/-! ## Operations -/

/-- An entry is put under a name of a directory, but not in place of a directory. -/
theorem Closed.put (h : t.Closed) (hParent : t.get? l = some .directory)
    (hHere : t.get? (l ++ [name]) ≠ some .directory) (e : Entry) :
    (t.put (l ++ [name]) e).Closed := by
  have hEntries := get?_put (t := t) (ne_nil_of_get? hHere) e
  intro k next hSome
  have hDirectory : t.get? k = some .directory := by
    rw [hEntries] at hSome
    split at hSome
    · next hSame => rwa [(List.append_inj' hSame rfl).1]
    · exact h k next hSome
  rw [hEntries, if_neg]
  · exact hDirectory
  · intro hSame
    exact hHere (hSame ▸ hDirectory)

/-- What is no directory can be removed. -/
theorem Closed.erase (h : t.Closed) (hHere : t.get? l ≠ some .directory) : (t.erase l).Closed := by
  have hEntries := get?_erase (t := t) (ne_nil_of_get? hHere)
  intro k next hSome
  rw [hEntries] at hSome
  split at hSome
  · exact absurd rfl hSome
  · have hDirectory := h k next hSome
    rw [hEntries, if_neg]
    · exact hDirectory
    · intro hSame
      exact hHere (hSame ▸ hDirectory)

/-- **An operation keeps a tree closed.** -/
theorem Operates.closed (h : t.Operates t') (hClosed : t.Closed) : t'.Closed := by
  cases h with
  | write hWrite =>
    obtain ⟨hReaches, hHere, -, rfl⟩ := write_eq_ok_iff.1 hWrite
    obtain ⟨l, name, hPlace, hParent⟩ := hClosed.exists_parent hReaches hHere
    rw [hPlace] at hHere ⊢
    exact hClosed.put hParent hHere _
  | remove hRemove =>
    obtain ⟨⟨bytes, hRead⟩, rfl⟩ := remove_eq_ok_iff.1 hRemove
    exact hClosed.erase (ne_directory_of_read hRead)
  | @makeDirectory path hMake =>
    obtain ⟨hReaches, hNone, rfl⟩ := makeDirectory_eq_ok_iff.1 hMake
    have hHere : t.get? (t.place path) ≠ some .directory := by
      rw [hNone]
      nofun
    obtain ⟨l, name, hPlace, hParent⟩ := hClosed.exists_parent hReaches hHere
    rw [hPlace] at hHere ⊢
    exact hClosed.put hParent hHere _

/-- **Any number of operations keeps a tree closed.** -/
theorem Evolves.closed (h : t.Evolves t') (hClosed : t.Closed) : t'.Closed := by
  induction h with
  | refl => exact hClosed
  | tail _ hStep ih => exact hStep.closed ih

end FileTree

/-- A file tree in which everything stands in a directory. -/
structure ClosedTree extends FileTree where
  closed : toFileTree.Closed

end RestScaffold
