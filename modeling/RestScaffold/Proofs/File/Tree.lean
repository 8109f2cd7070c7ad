import Mathlib.Data.List.Basic
import RestScaffold.File.Tree

/-!
# Entries of file trees

Where a path leads depends on its names alone, and whether it leads there depends on the directories
on the way. So operations that leave directories in place keep every path open, and what such an
operation does to a tree is said by the entries at one location.

* `FileTree.get?_put` and `FileTree.get?_erase`: the entries after a change;
* `FileTree.place`: the location that a path leads to when it leads anywhere;
* `FileTree.DirectoriesKept`: directories stay, so paths that led somewhere still lead there;
* `FileTree.Apart`: which paths without dots lead to different places;
* `FileTree.Closed`: a tree in which everything stands in a directory, so that paths without dots
  lead to all that there is.
-/

namespace RestScaffold

open Text

namespace FileTree

variable {t t' t'' : FileTree} {l k : Location} {names : List Text} {path : Text}

/-! ## Entries after a change -/

theorem lookup_filter_ne (entries : List (Location × Entry)) (l k : Location) :
    (entries.filter (·.1 ≠ l)).lookup k = if k = l then none else entries.lookup k := by
  induction entries with
  | nil => simp
  | cons e entries ih =>
    by_cases hDrop : e.1 = l
    · rw [List.filter_cons_of_neg (by simpa using hDrop), ih]
      by_cases hKey : k = l
      · rw [if_pos hKey, if_pos hKey]
      · rw [if_neg hKey, if_neg hKey, List.lookup_cons, beq_eq_false_iff_ne.2 (hDrop ▸ hKey)]
    · rw [List.filter_cons_of_pos (by simpa using hDrop), List.lookup_cons, List.lookup_cons, ih]
      by_cases hKey : k = l
      · rw [if_pos hKey, if_pos hKey, beq_eq_false_iff_ne.2 (hKey ▸ Ne.symm hDrop)]
      · rw [if_neg hKey, if_neg hKey]

theorem mem_of_lookup {entries : List (Location × Entry)} {e : Entry}
    (h : entries.lookup l = some e) : (l, e) ∈ entries := by
  induction entries with
  | nil => cases h
  | cons first entries ih =>
    rw [List.lookup_cons] at h
    split at h
    · next hKey =>
      obtain rfl := Option.some.inj h
      rw [beq_iff_eq.1 hKey]
      exact List.mem_cons_self
    · exact List.mem_cons_of_mem first (ih h)

/-- The root is a directory. -/
theorem ne_nil_of_get? (h : t.get? l ≠ some .directory) : l ≠ [] := by
  rintro rfl
  exact h rfl

theorem get?_put (h : l ≠ []) (e : Entry) (k : Location) :
    (t.put l e).get? k = if k = l then some e else t.get? k := by
  by_cases hRoot : k = []
  · rw [get?, if_pos hRoot, if_neg (hRoot ▸ Ne.symm h), get?, if_pos hRoot]
  · rw [get?, if_neg hRoot, get?, if_neg hRoot, put, List.lookup_cons, lookup_filter_ne]
    by_cases hKey : k = l
    · rw [if_pos hKey, if_pos hKey, beq_iff_eq.2 hKey]
    · rw [beq_eq_false_iff_ne.2 hKey, if_neg hKey, if_neg hKey]

theorem get?_erase (h : l ≠ []) (k : Location) :
    (t.erase l).get? k = if k = l then none else t.get? k := by
  by_cases hRoot : k = []
  · rw [get?, if_pos hRoot, if_neg (hRoot ▸ Ne.symm h), get?, if_pos hRoot]
  · rw [get?, if_neg hRoot, get?, if_neg hRoot]
    exact lookup_filter_ne t.entries l k

/-! ## Where paths lead -/

/-- The location that a name leads to from another one. -/
def step (l : Location) (name : Text) : Location :=
  if name = "." then l else if name = ".." then l.dropLast else l ++ [name]

/-- The location that a path leads to if it leads anywhere. -/
def place (t : FileTree) (path : Text) : Location :=
  (segments path).foldl step (if path.head? = some '/' then [] else t.workingDirectory)

/-- The path leads to its place, where there may be nothing. -/
def Reaches (t : FileTree) (path : Text) : Prop := t.locate path = .ok (t.place path)

@[simp] theorem place_erase (l : Location) (path : Text) :
    (t.erase l).place path = t.place path := rfl

/-- The names that a directory can have an entry for. -/
def IsName (name : Text) : Prop :=
  name = "." ∨ name = ".." ∨ (utf8 name).length ≤ maxNameLength

theorem enter_eq_ok_iff {name : Text} : t.enter l name = .ok k ↔
    t.get? l = some .directory ∧ IsName name ∧ k = step l name := by
  unfold enter
  cases t.get? l with
  | none => simp
  | some e =>
    cases e with
    | file bytes => simp
    | directory =>
      simp only [true_and, IsName, step]
      split_ifs with hDot hDots hLong
      · exact ⟨fun h => ⟨Or.inl hDot, (Except.ok.inj h).symm⟩, fun h => congrArg _ h.2.symm⟩
      · exact ⟨fun h => ⟨Or.inr (Or.inl hDots), (Except.ok.inj h).symm⟩,
          fun h => congrArg _ h.2.symm⟩
      · exact ⟨nofun, fun h => absurd ((h.1.resolve_left hDot).resolve_left hDots)
          (Nat.not_le.2 hLong)⟩
      · exact ⟨fun h => ⟨Or.inr (Or.inr (Nat.not_lt.1 hLong)), (Except.ok.inj h).symm⟩,
          fun h => congrArg _ h.2.symm⟩

theorem walk_cons_eq_ok_iff {name : Text} : t.walk l (name :: names) = .ok k ↔
    t.get? l = some .directory ∧ IsName name ∧ t.walk (step l name) names = .ok k := by
  rw [walk]
  cases hEnter : t.enter l name with
  | error e =>
    refine iff_of_false nofun fun h => ?_
    have hOk := enter_eq_ok_iff.2 ⟨h.1, h.2.1, rfl⟩
    rw [hEnter] at hOk
    cases hOk
  | ok next =>
    obtain ⟨hDirectory, hName, rfl⟩ := enter_eq_ok_iff.1 hEnter
    exact ⟨fun h => ⟨hDirectory, hName, h⟩, fun h => h.2.2⟩

theorem eq_foldl_of_walk (h : t.walk l names = .ok k) : k = names.foldl step l := by
  induction names generalizing l with
  | nil => exact (Except.ok.inj h).symm
  | cons name names ih => exact ih (walk_cons_eq_ok_iff.1 h).2.2

/-- What a path must be like to be walked at all. -/
structure IsPath (path : Text) : Prop where
  no_nul : path.contains '\x00' = false
  ne_nil : path ≠ []
  length_le : (utf8 path).length ≤ maxPathLength

theorem locate_eq_ok_iff : t.locate path = .ok l ↔ IsPath path ∧
    t.walk (if path.head? = some '/' then [] else t.workingDirectory) (segments path) = .ok l := by
  unfold locate
  constructor
  · intro h
    split at h
    · cases h
    · split at h
      · cases h
      · split at h
        · cases h
        · next hNul hNil hLong =>
          exact ⟨⟨Bool.eq_false_iff.2 hNul, hNil, Nat.not_lt.1 hLong⟩, h⟩
  · rintro ⟨⟨hNul, hNil, hLength⟩, hWalk⟩
    rw [if_neg (Bool.eq_false_iff.1 hNul), if_neg hNil, if_neg (Nat.not_lt.2 hLength)]
    exact hWalk

theorem eq_place_of_locate (h : t.locate path = .ok l) : l = t.place path :=
  eq_foldl_of_walk (locate_eq_ok_iff.1 h).2

theorem reaches_of_locate (h : t.locate path = .ok l) : t.Reaches path :=
  h.trans (congrArg Except.ok (eq_place_of_locate h))

/-! ## Trees with the same directories -/

/-- The directories of a tree are directories of another one, too. -/
structure DirectoriesKept (t t' : FileTree) : Prop where
  workingDirectory : t'.workingDirectory = t.workingDirectory
  directory : ∀ l, t.get? l = some .directory → t'.get? l = some .directory

namespace DirectoriesKept

theorem refl (t : FileTree) : t.DirectoriesKept t := ⟨rfl, fun _ h => h⟩

theorem trans (h : t.DirectoriesKept t') (h' : t'.DirectoriesKept t'') : t.DirectoriesKept t'' :=
  ⟨h'.workingDirectory.trans h.workingDirectory, fun l hl => h'.directory l (h.directory l hl)⟩

theorem place_eq (h : t.DirectoriesKept t') (path : Text) : t'.place path = t.place path := by
  rw [place, place, h.workingDirectory]

theorem walk_eq (h : t.DirectoriesKept t') (hWalk : t.walk l names = .ok k) :
    t'.walk l names = .ok k := by
  induction names generalizing l with
  | nil => exact hWalk
  | cons name names ih =>
    obtain ⟨hDirectory, hName, hRest⟩ := walk_cons_eq_ok_iff.1 hWalk
    exact walk_cons_eq_ok_iff.2 ⟨h.directory l hDirectory, hName, ih hRest⟩

/-- **A path that leads somewhere leads there as long as the directories stay.** -/
theorem reaches (h : t.DirectoriesKept t') (hPath : t.Reaches path) : t'.Reaches path := by
  obtain ⟨hIsPath, hWalk⟩ := locate_eq_ok_iff.1 hPath
  refine reaches_of_locate (l := t.place path) (locate_eq_ok_iff.2 ⟨hIsPath, ?_⟩)
  rw [h.workingDirectory]
  exact h.walk_eq hWalk

end DirectoriesKept

theorem directoriesKept_put_file (h : t.get? l ≠ some .directory) (bytes : List UInt8) :
    t.DirectoriesKept (t.put l (.file bytes)) ∧ (t.put l (.file bytes)).DirectoriesKept t := by
  refine ⟨⟨rfl, fun k hk => ?_⟩, rfl, fun k hk => ?_⟩
  · rw [get?_put (ne_nil_of_get? h), if_neg (by rintro rfl; exact h hk)]
    exact hk
  · rw [get?_put (ne_nil_of_get? h)] at hk
    split at hk
    · cases hk
    · exact hk

theorem directoriesKept_erase (h : t.get? l ≠ some .directory) :
    t.DirectoriesKept (t.erase l) ∧ (t.erase l).DirectoriesKept t := by
  refine ⟨⟨rfl, fun k hk => ?_⟩, rfl, fun k hk => ?_⟩
  · rw [get?_erase (ne_nil_of_get? h), if_neg (by rintro rfl; exact h hk)]
    exact hk
  · rw [get?_erase (ne_nil_of_get? h)] at hk
    split at hk
    · cases hk
    · exact hk

/-! ## Paths without dots -/

/-- A path without steps to itself or up. -/
def DotFree (path : Text) : Prop := ∀ name ∈ segments path, name ≠ "." ∧ name ≠ ".."

instance (path : Text) : Decidable (DotFree path) :=
  inferInstanceAs (Decidable (∀ name ∈ segments path, name ≠ "." ∧ name ≠ ".."))

theorem foldl_step_of_dotFree (hDots : ∀ name ∈ names, name ≠ "." ∧ name ≠ "..") :
    names.foldl step l = l ++ names := by
  induction names generalizing l with
  | nil => exact (List.append_nil l).symm
  | cons name names ih =>
    obtain ⟨⟨hDot, hDotDot⟩, hRest⟩ := List.forall_mem_cons.1 hDots
    rw [List.foldl_cons, ih hRest, step, if_neg hDot, if_neg hDotDot, List.append_assoc]
    rfl

/-- Both paths start at the root, or both at the working directory. -/
def SameStart (path other : Text) : Prop := path.head? = some '/' ↔ other.head? = some '/'

instance (path other : Text) : Decidable (SameStart path other) :=
  inferInstanceAs (Decidable (_ ↔ _))

/-- **Paths without dots lead to the same place only if they have the same segments,** provided that
they start at the same directory. -/
theorem place_eq_iff {other : Text} (hDots : DotFree path) (hDots' : DotFree other)
    (hStart : SameStart path other) :
    t.place path = t.place other ↔ segments path = segments other := by
  rw [place, place, foldl_step_of_dotFree hDots, foldl_step_of_dotFree hDots']
  simp only [show path.head? = some '/' ↔ other.head? = some '/' from hStart]
  exact List.append_right_inj _

/-- The paths differ in more than their texts: if they start at the same directory they have different
segments, and if not they lead to different places. -/
structure Apart (t : FileTree) (path other : Text) : Prop where
  segments_ne : SameStart path other → segments path ≠ segments other
  place_ne : ¬ SameStart path other → t.place path ≠ t.place other

instance (t : FileTree) (path other : Text) : Decidable (t.Apart path other) :=
  decidable_of_iff ((SameStart path other → segments path ≠ segments other) ∧
    (¬ SameStart path other → t.place path ≠ t.place other)) ⟨fun h => ⟨h.1, h.2⟩, fun h => ⟨h.1, h.2⟩⟩

theorem apart_iff {other : Text} (hDots : DotFree path) (hDots' : DotFree other) :
    t.Apart path other ↔ t.place path ≠ t.place other := by
  by_cases hStart : SameStart path other
  · rw [Ne, place_eq_iff hDots hDots' hStart]
    exact ⟨fun h => h.segments_ne hStart, fun h => ⟨fun _ => h, fun hNot => absurd hStart hNot⟩⟩
  · exact ⟨fun h => h.place_ne hStart, fun h => ⟨fun hSame => absurd hSame hStart, fun _ => h⟩⟩

/-- **Paths without dots lead to different places if and only if they are apart.** -/
theorem nodup_place_iff {paths : List Text} (hDots : ∀ p ∈ paths, DotFree p) :
    (paths.map t.place).Nodup ↔ paths.Pairwise t.Apart := by
  rw [List.Nodup, List.pairwise_map]
  exact List.Pairwise.iff_of_mem fun hp hq => (apart_iff (hDots _ hp) (hDots _ hq)).symm

/-! ## Trees in which everything stands in a directory -/

/-- Everything in the tree stands in a directory. -/
def Closed (t : FileTree) : Prop :=
  ∀ l name, t.get? (l ++ [name]) ≠ none → t.get? l = some .directory

/-- It is enough to look at the entries of the tree. -/
theorem closed_of_entries
    (h : ∀ e ∈ t.entries, t.get? e.1.dropLast = some .directory) : t.Closed := by
  intro l name hSome
  have hNe : l ++ [name] ≠ [] := List.append_ne_nil_of_right_ne_nil l (List.cons_ne_nil name [])
  rw [get?, if_neg hNe] at hSome
  obtain ⟨e, he⟩ := Option.ne_none_iff_exists'.1 hSome
  have hDirectory := h _ (mem_of_lookup he)
  rwa [List.dropLast_concat] at hDirectory

theorem Closed.directory (h : t.Closed) (hNames : names ≠ [])
    (hSome : t.get? (l ++ names) ≠ none) : t.get? l = some .directory := by
  induction names generalizing l with
  | nil => exact absurd rfl hNames
  | cons name names ih =>
    refine h l name ?_
    cases names with
    | nil => exact hSome
    | cons next names =>
      rw [ih (List.cons_ne_nil next names) (by rwa [List.append_assoc])]
      nofun

/-- When a walk without dots ends in one tree where there is something in another, it gets there in
the other one as well. -/
theorem Closed.walk_eq (h : t.Closed) (hDots : ∀ name ∈ names, name ≠ "." ∧ name ≠ "..")
    (hWalk : t'.walk l names = .ok k) (hSome : t.get? k ≠ none) : t.walk l names = .ok k := by
  induction names generalizing l with
  | nil => exact hWalk
  | cons name names ih =>
    obtain ⟨-, hName, hRest⟩ := walk_cons_eq_ok_iff.1 hWalk
    obtain ⟨⟨hDot, hDotDot⟩, hDots⟩ := List.forall_mem_cons.1 hDots
    refine walk_cons_eq_ok_iff.2 ⟨?_, hName, ih hDots hRest⟩
    refine h.directory (List.cons_ne_nil name names) ?_
    rw [← foldl_step_of_dotFree (List.forall_mem_cons.2 ⟨⟨hDot, hDotDot⟩, hDots⟩),
      ← eq_foldl_of_walk hWalk]
    exact hSome

/-- **A path without dots leads to what there is,** if it can be walked in another tree. -/
theorem Closed.reaches (h : t.Closed) (hSame : t.DirectoriesKept t') (hDots : DotFree path)
    (hPath : t'.Reaches path) (hSome : t.get? (t.place path) ≠ none) : t.Reaches path := by
  obtain ⟨hIsPath, hWalk⟩ := locate_eq_ok_iff.1 hPath
  rw [hSame.workingDirectory, hSame.place_eq] at hWalk
  exact locate_eq_ok_iff.2 ⟨hIsPath, h.walk_eq hDots hWalk hSome⟩

end FileTree

end RestScaffold
