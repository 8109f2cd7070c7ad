import RestScaffold.Proofs.FirstAppearances
import RestScaffold.Proofs.Universe

/-!
# What packages make together

Packages of the same path are one in a universe, wherever they stand in the list that it is built
from: it has each path once, in the order of first appearance, with everything that stands under it
in the list, in the order of the list.

* `Universe.ofList_eq`: a universe is what is gathered for each path;
* `Universe.ofList_append_ofList`: packages may be put together in parts first, and the parts then.

The second is by the first: what is gathered for a path from a universe is what is gathered for it
from the list that the universe is built from.
-/

namespace RestScaffold

/-! ## Packages of types -/

/-- A package of types is these types, each named as one of it. -/
theorem SourcePackage.ofTypes_eq (path : Text) (comments : List Text) (types : List Declaration) :
    ofTypes path comments types =
      { path, comments, types := types.map fun d => { d with name := ⟨path, d.name.base⟩ } } := by
  induction types using List.reverseRecOn with
  | nil => rfl
  | append_singleton types d ih =>
    have hLast : ofTypes path comments (types ++ [d]) = (ofTypes path comments types).addType d :=
      List.foldl_append
    rw [hLast, ih, List.map_append]
    rfl

namespace Universe

variable {path : Text}

/-! ## What stands under one path -/

/-- The comments and the types of all packages of a path, in the order of the list. -/
def gather (ps : List SourcePackage) (path : Text) : SourcePackage where
  path := path
  comments := (ps.filter (·.path = path)).flatMap (·.comments)
  types := (ps.filter (·.path = path)).flatMap (·.types)

theorem gather_append (ps qs : List SourcePackage) (path : Text) :
    gather (ps ++ qs) path = (gather ps path).absorb (gather qs path) := by
  simp only [gather, SourcePackage.absorb, List.filter_append, List.flatMap_append]

/-- A package alone is all that stands under its path. -/
theorem gather_singleton_self (p : SourcePackage) : gather [p] p.path = p := by
  simp [gather]

/-- Packages of other paths add nothing. -/
theorem gather_of_not_mem {ps : List SourcePackage} (h : path ∉ ps.map (·.path)) :
    gather ps path = { path } := by
  have hNone : ps.filter (·.path = path) = [] := by
    refine List.filter_eq_nil_iff.2 fun p hp hEq => h ?_
    exact List.mem_map.2 ⟨p, hp, of_decide_eq_true hEq⟩
  rw [gather, hNone]
  rfl

theorem gather_concat_of_ne {p : SourcePackage} (ps : List SourcePackage) (h : path ≠ p.path) :
    gather (ps ++ [p]) path = gather ps path := by
  have hNone : gather [p] path = { path } :=
    gather_of_not_mem fun hMem => h (List.mem_singleton.1 hMem)
  rw [gather_append, hNone, SourcePackage.absorb, List.append_nil, List.append_nil]

/-- The first package of a path is all that stands under it. -/
theorem gather_concat_of_not_mem {ps : List SourcePackage} {p : SourcePackage}
    (h : p.path ∉ ps.map (·.path)) : gather (ps ++ [p]) p.path = p := by
  rw [gather_append, gather_of_not_mem h, gather_singleton_self]
  rfl

/-! ## The universe of a list -/

/-- Adding a package to a universe of different paths: it goes to the package of its path. -/
theorem add_map_gather (ps : List SourcePackage) (p : SourcePackage) {paths : List Text}
    (hPaths : paths.Nodup) :
    add (paths.map (gather ps)) p =
      if p.path ∈ paths then paths.map (gather (ps ++ [p])) else paths.map (gather ps) ++ [p] := by
  induction paths with
  | nil => rfl
  | cons path paths ih =>
    obtain ⟨hNew, hRest⟩ := List.nodup_cons.1 hPaths
    rw [List.map_cons, add]
    show (if path = p.path then _ else _) = _
    by_cases hSame : path = p.path
    · have hTail : paths.map (gather (ps ++ [p])) = paths.map (gather ps) := by
        refine List.map_congr_left fun other hOther => gather_concat_of_ne ps ?_
        rintro rfl
        exact hNew (hSame ▸ hOther)
      rw [if_pos hSame, if_pos (hSame ▸ List.mem_cons_self), List.map_cons, hTail, hSame,
        gather_append, gather_singleton_self]
    · have hMem : p.path ∈ path :: paths ↔ p.path ∈ paths :=
        List.mem_cons.trans (or_iff_right (Ne.symm hSame))
      rw [if_neg hSame, ih hRest]
      by_cases hKnown : p.path ∈ paths
      · rw [if_pos hKnown, if_pos (hMem.2 hKnown), List.map_cons, gather_concat_of_ne ps hSame]
      · rw [if_neg hKnown, if_neg (mt hMem.1 hKnown), List.cons_append]

/-- **A universe is what is gathered for each path, in the order in which the paths appear
first.** -/
theorem ofList_eq (ps : List SourcePackage) :
    ofList ps = (ps.map (·.path)).eraseDups.map (gather ps) := by
  induction ps using List.reverseRecOn with
  | nil => rfl
  | append_singleton ps p ih =>
    have hLast : ofList (ps ++ [p]) = (ofList ps).add p := List.foldl_append
    rw [hLast, ih, add_map_gather ps p (nodup_eraseDups _), List.map_append, List.map_singleton,
      eraseDups_concat]
    by_cases hKnown : p.path ∈ ps.map (·.path)
    · rw [if_pos (List.mem_eraseDups.2 hKnown), if_pos hKnown]
    · have hOld : ∀ path ∈ (ps.map (·.path)).eraseDups, gather (ps ++ [p]) path = gather ps path :=
        fun path hPath => gather_concat_of_ne ps fun hEq =>
          hKnown (hEq ▸ List.mem_eraseDups.1 hPath)
      rw [if_neg (mt List.mem_eraseDups.1 hKnown), if_neg hKnown, List.map_append,
        List.map_singleton, List.map_congr_left hOld, gather_concat_of_not_mem hKnown]

theorem map_path_ofList (ps : List SourcePackage) :
    (ofList ps).map (·.path) = (ps.map (·.path)).eraseDups := by
  rw [ofList_eq, List.map_map]
  exact List.map_id _

/-! ## Parts -/

/-- What a universe has under a path is what the list has that it is built from. -/
theorem gather_ofList (ps : List SourcePackage) (path : Text) :
    gather (ofList ps) path = gather ps path := by
  by_cases hPath : path ∈ ps.map (·.path)
  · have hOnce : (ps.map (·.path)).eraseDups.count path = 1 :=
      List.count_eq_one_of_mem (nodup_eraseDups _) (List.mem_eraseDups.2 hPath)
    have hOnly : (ofList ps).filter (·.path = path) = [gather ps path] := by
      rw [ofList_eq, List.filter_map]
      show ((ps.map (·.path)).eraseDups.filter fun other => decide (other = path)).map _ = _
      rw [List.filter_eq, hOnce]
      rfl
    simp only [gather, hOnly, List.flatMap_singleton]
  · have hNone : path ∉ (ofList ps).map (·.path) := by
      rwa [map_path_ofList, List.mem_eraseDups]
    rw [gather_of_not_mem hPath, gather_of_not_mem hNone]

/-- **Parts of a list may be put together first.** The packages of such a part are added to a
universe as those of the list are. -/
theorem ofList_append_ofList (ps qs : List SourcePackage) :
    ofList (ps ++ ofList qs) = ofList (ps ++ qs) := by
  have hGather : gather (ps ++ ofList qs) = gather (ps ++ qs) := by
    funext path
    rw [gather_append, gather_ofList, gather_append]
  rw [ofList_eq, ofList_eq (ps ++ qs), hGather, List.map_append, map_path_ofList,
    eraseDups_append_eraseDups, ← List.map_append]

end Universe

end RestScaffold
