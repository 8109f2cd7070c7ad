import Mathlib.Data.List.Nodup
import RestScaffold.Declaration

/-!
# Universes that are built by adding packages

Adding a package to a universe either extends the package of its path or puts it behind the others,
so each path stands for one package. Packages that are made of types name them as their own, and
this stays so when they are put together.

`Universe.wellFormed_ofList` says both of a universe that is built from such packages.
-/

namespace RestScaffold

namespace SourcePackage

variable {p q : SourcePackage}

/-- The types of a package are named as types of this package. -/
def NamesOwn (p : SourcePackage) : Prop := ∀ d ∈ p.types, d.name.package = p.path

theorem NamesOwn.addType (h : p.NamesOwn) (d : Declaration) : (p.addType d).NamesOwn := by
  intro e he
  rcases List.mem_append.1 he with hOld | hNew
  · exact h e hOld
  · rw [List.mem_singleton.1 hNew]
    rfl

/-- A package that is made of types names them as its own. -/
theorem namesOwn_ofTypes (path : Text) (comments : List Text) (types : List Declaration) :
    (ofTypes path comments types).NamesOwn := by
  have hFold : ∀ p : SourcePackage, p.NamesOwn → (types.foldl SourcePackage.addType p).NamesOwn := by
    induction types with
    | nil => exact fun p h => h
    | cons d types ih => exact fun p h => ih _ (h.addType d)
  exact hFold _ fun d hd => absurd hd List.not_mem_nil

/-- Two packages of one path name the types of both as their own. -/
theorem NamesOwn.absorb (hp : p.NamesOwn) (hq : q.NamesOwn) (hPath : p.path = q.path) :
    (p.absorb q).NamesOwn := by
  intro d hd
  rcases List.mem_append.1 hd with hOwn | hOther
  · exact hp d hOwn
  · exact (hq d hOther).trans hPath.symm

end SourcePackage

namespace Universe

variable {u : Universe} {p q : SourcePackage}

/-- Each path stands for one package, and the packages name their types as their own. -/
structure WellFormed (u : Universe) : Prop where
  paths_nodup : (u.map (·.path)).Nodup
  namesOwn : ∀ q ∈ u, q.NamesOwn

/-- The paths of a universe after a package is added. -/
theorem map_path_add (u : Universe) (p : SourcePackage) : (u.add p).map (·.path) =
    if p.path ∈ u.map (·.path) then u.map (·.path) else u.map (·.path) ++ [p.path] := by
  induction u with
  | nil => rfl
  | cons q u ih =>
    rw [add, List.map_cons]
    by_cases hSame : q.path = p.path
    · rw [if_pos hSame, if_pos (hSame ▸ List.mem_cons_self)]
      rfl
    · rw [if_neg hSame, List.map_cons, ih]
      have hMem : p.path ∈ q.path :: u.map (·.path) ↔ p.path ∈ u.map (·.path) :=
        List.mem_cons.trans (or_iff_right (Ne.symm hSame))
      by_cases hKnown : p.path ∈ u.map (·.path)
      · rw [if_pos hKnown, if_pos (hMem.2 hKnown)]
      · rw [if_neg hKnown, if_neg (mt hMem.1 hKnown), List.cons_append]

theorem namesOwn_add (hu : ∀ q ∈ u, q.NamesOwn) (hp : p.NamesOwn) :
    ∀ q ∈ u.add p, q.NamesOwn := by
  induction u with
  | nil => exact List.forall_mem_singleton.2 hp
  | cons q u ih =>
    obtain ⟨hq, hRest⟩ := List.forall_mem_cons.1 hu
    rw [add]
    by_cases hSame : q.path = p.path
    · rw [if_pos hSame]
      exact List.forall_mem_cons.2 ⟨hq.absorb hp hSame, hRest⟩
    · rw [if_neg hSame]
      exact List.forall_mem_cons.2 ⟨hq, ih hRest⟩

theorem WellFormed.add (h : u.WellFormed) (hp : p.NamesOwn) : (u.add p).WellFormed := by
  refine ⟨?_, namesOwn_add h.namesOwn hp⟩
  rw [map_path_add]
  split
  · exact h.paths_nodup
  · next hNew =>
    refine List.nodup_append.2 ⟨h.paths_nodup, List.nodup_singleton _, fun a ha b hb => ?_⟩
    rw [List.mem_singleton.1 hb]
    exact fun hEq => hNew (hEq ▸ ha)

/-- **A universe of packages that name their types as their own is well formed.** -/
theorem wellFormed_ofList {packages : List SourcePackage} (h : ∀ q ∈ packages, q.NamesOwn) :
    (ofList packages).WellFormed := by
  have hFold : ∀ u : Universe, u.WellFormed → (packages.foldl Universe.add u).WellFormed := by
    induction packages with
    | nil => exact fun u hu => hu
    | cons p packages ih =>
      obtain ⟨hp, hRest⟩ := List.forall_mem_cons.1 h
      exact fun u hu => ih hRest _ (hu.add hp)
  exact hFold [] ⟨List.nodup_nil, fun q hq => absurd hq List.not_mem_nil⟩

theorem WellFormed.eq_of_path (h : u.WellFormed) (hp : p ∈ u) (hq : q ∈ u)
    (hPath : p.path = q.path) : p = q :=
  List.inj_on_of_nodup_map h.paths_nodup hp hq hPath

end Universe

end RestScaffold
