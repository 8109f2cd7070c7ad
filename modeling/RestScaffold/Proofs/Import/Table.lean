import Mathlib.Data.List.Nodup
import RestScaffold.Import.Table
import RestScaffold.Proofs.Text.Ascii

/-!
# How import tables grow

A path keeps the local name that it got, and a new path gets a name that no other path has. So a
table only grows, and what was written with an early table is still right with the last one.

* `ImportTable.exists_numberFrom`: where the numbering of names stops;
* `ImportTable.freshName_cases`: a new name is free, since one of the numbered names is when no run
  of segments makes a free one;
* `ImportTable.Sound`: what holds for every table that was filled path by path: it reads the same
  from paths to names and from names to paths, and names are made of small letters, digits and
  underscores;
* `ImportTable.register`: the table after the paths of a list, in which exactly these have names.
-/

namespace RestScaffold

open Text

/-- Every binding on the left is one on the right. -/
def TextMap.Within {α : Type} (a b : TextMap α) : Prop :=
  ∀ key value, a.get? key = some value → b.get? key = some value

namespace ImportTable

variable {t : ImportTable} {path : Text}

/-! ## Free names -/

/-- **Where the numbering stops.** The name that it finds is free, the smaller numbers are taken, and
no more of them were tried than the table has names. -/
theorem exists_numberFrom (t : ImportTable) (base : Text) (i : Nat) (h : t.TakenBelow base i) :
    ∃ n, i ≤ n ∧ n ≤ t.paths.size + 2 ∧ t.numberFrom base i h = base ++ Text.ofNat n ∧
      t.taken (base ++ Text.ofNat n) = false ∧ t.TakenBelow base n := by
  fun_induction numberFrom t base i h with
  | case1 i h hTaken hNext ih =>
    obtain ⟨n, hLe, hRest⟩ := ih
    exact ⟨n, Nat.le_of_succ_le hLe, hRest⟩
  | case2 i h hFree => exact ⟨i, Nat.le_refl i, h.le_size, rfl, Bool.eq_false_iff.2 hFree, h⟩

theorem firstFree_eq (t : ImportTable) (name : Text) (names : List Text) :
    t.firstFree name names = (names.find? fun name => !t.taken name).getD (names.getLastD name) := by
  induction names generalizing name with
  | nil => rfl
  | cons next names ih =>
    by_cases hTaken : t.taken next = true
    · rw [firstFree, if_pos hTaken, ih, List.find?_cons_of_neg (by simp [hTaken]),
        List.getLastD_cons]
    · rw [firstFree, if_neg hTaken, List.find?_cons_of_pos (by simp [hTaken])]
      rfl

/-- The last of the names that a path may take, which is what a number is put behind. -/
def longestName (path : Text) : Text := (suffixNames path).getLastD []

/-- The first run of segments that makes a free name makes the new name. -/
theorem freshName_of_find? {name : Text}
    (h : (suffixNames path).find? (fun name => !t.taken name) = some name) :
    t.freshName path = name := by
  have hFree : t.taken name = false := by simpa using List.find?_some h
  rw [freshName, firstFree_eq, h]
  exact if_neg (Bool.eq_false_iff.1 hFree)

/-- When no run of segments makes a free name the longest does, with a number if it is taken. -/
theorem freshName_of_find?_eq_none
    (h : (suffixNames path).find? (fun name => !t.taken name) = none) :
    t.freshName path = if t.taken (longestName path) then
      t.numberFrom (longestName path) 2 (t.takenBelow_two _) else longestName path := by
  rw [freshName, firstFree_eq, h]
  rfl

/-- A new name is one of a run of segments, or the longest of these with or without a number, and
it is free. -/
theorem freshName_cases (t : ImportTable) (path : Text) :
    (t.freshName path ∈ suffixNames path ∨ t.freshName path = longestName path ∨
        ∃ i, t.freshName path = longestName path ++ Text.ofNat i) ∧
      t.taken (t.freshName path) = false := by
  cases hFind : (suffixNames path).find? fun name => !t.taken name with
  | some name =>
    rw [freshName_of_find? hFind]
    exact ⟨Or.inl (List.mem_of_find?_eq_some hFind), by simpa using List.find?_some hFind⟩
  | none =>
    rw [freshName_of_find?_eq_none hFind]
    by_cases hLongest : t.taken (longestName path) = true
    · obtain ⟨i, -, -, hNumber, hFree, -⟩ := t.exists_numberFrom (longestName path) 2
        (t.takenBelow_two _)
      rw [if_pos hLongest, hNumber]
      exact ⟨Or.inr (Or.inr ⟨i, rfl⟩), hFree⟩
    · rw [if_neg hLongest]
      exact ⟨Or.inr (Or.inl rfl), Bool.eq_false_iff.2 hLongest⟩

/-! ## One path -/

/-- What the names are after a path got one. -/
theorem get?_localName (t : ImportTable) (path key : Text) :
    (t.localName path).2.names.get? key =
      if key = path then some (t.localName path).1 else t.names.get? key := by
  unfold localName
  cases hPath : t.names.get? path with
  | some name =>
    show t.names.get? key = if key = path then some name else t.names.get? key
    by_cases hKey : key = path
    · rw [if_pos hKey, hKey, hPath]
    · rw [if_neg hKey]
  | none => exact TextMap.get?_insert _ _ _ _

/-- A path that has a name keeps it. -/
theorem localName_of_get? {name : Text} (h : t.names.get? path = some name) :
    t.localName path = (name, t) := by
  rw [localName, h]

theorem localName_of_get?_none (h : t.names.get? path = none) :
    (t.localName path).1 = t.freshName path := by
  rw [localName, h]

/-- A new path is put into the table on both sides. -/
theorem names_localName (hNew : t.names.get? path = none) :
    (t.localName path).2.names = t.names.insert path (t.localName path).1 := by
  rw [localName, hNew]

theorem paths_localName (hNew : t.names.get? path = none) :
    (t.localName path).2.paths = t.paths.insert (t.localName path).1 path := by
  rw [localName, hNew]

theorem within_localName (t : ImportTable) (path : Text) :
    t.names.Within (t.localName path).2.names := by
  intro key name hKey
  rw [get?_localName]
  by_cases hEq : key = path
  · rw [if_pos hEq, localName_of_get? (hEq ▸ hKey)]
  · rw [if_neg hEq, hKey]

/-! ## Characters of names -/

/-- The characters of local names. -/
def isLocalNameChar (c : Char) : Bool := c.isLower || c.isDigit || c = '_'

theorem isLocalNameChar_toLower {c : Char} (h : isNameChar c = true) :
    isLocalNameChar c.toLower = true := by
  simp only [isNameChar, isLocalNameChar, Bool.or_eq_true, decide_eq_true_eq, isAlphanum_iff,
    isLower_iff] at h ⊢
  by_cases hUpper : c.isUpper = true
  · have hBounds := isUpper_iff.1 hUpper
    refine Or.inl (Or.inl ?_)
    rw [toNat_toLower, if_pos hUpper]
    omega
  · have hSame : c.toLower = c := by
      rw [← Char.toNat_inj, toNat_toLower, if_neg hUpper]
    rw [hSame]
    simpa [hUpper] using h

/-- A text that can be a local name: not empty, and of such characters only. -/
structure IsLocalName (name : Text) : Prop where
  ne_nil : name ≠ []
  chars : ∀ c ∈ name, isLocalNameChar c = true

theorem isLocalName_identifier (s : Text) : IsLocalName (identifier s) := by
  have hChars : ∀ c ∈ (s.filter isNameChar).map Char.toLower, isLocalNameChar c = true := by
    intro c hc
    obtain ⟨c', hc', rfl⟩ := List.mem_map.1 hc
    exact isLocalNameChar_toLower (List.mem_filter.1 hc').2
  have hWord : ∀ c ∈ ("pkg" : Text), isLocalNameChar c = true := List.all_eq_true.1 (by decide)
  unfold identifier
  generalize (s.filter isNameChar).map Char.toLower = name at hChars ⊢
  show IsLocalName (if name.head?.all Char.isDigit then "pkg".toList ++ name else name)
  by_cases hDigit : name.head?.all Char.isDigit = true
  · rw [if_pos hDigit]
    exact ⟨List.append_ne_nil_of_left_ne_nil (by decide) name,
      fun c hc => (List.mem_append.1 hc).elim (hWord c) (hChars c)⟩
  · rw [if_neg hDigit]
    refine ⟨?_, hChars⟩
    rintro rfl
    exact hDigit rfl

theorem isLocalName_of_mem_suffixNames {name : Text} (h : name ∈ suffixNames path) :
    IsLocalName name := by
  obtain ⟨n, -, rfl⟩ := List.mem_map.1 h
  exact isLocalName_identifier _

theorem IsLocalName.append_ofNat {name : Text} (h : ∀ c ∈ name, isLocalNameChar c = true)
    (i : Nat) : IsLocalName (name ++ Text.ofNat i) where
  ne_nil := List.append_ne_nil_of_right_ne_nil _ Nat.toDigits_ne_nil
  chars c hc := by
    rcases List.mem_append.1 hc with hName | hDigit
    · exact h c hName
    · have hDigit := Nat.isDigit_of_mem_toDigits (by decide) (by decide) hDigit
      simp [isLocalNameChar, hDigit]

/-- A path without segments is the only one that may get an empty name. -/
theorem longestName_eq (path : Text) :
    segments path = [] ∧ longestName path = [] ∨ IsLocalName (longestName path) := by
  rcases List.eq_nil_or_concat (suffixNames path) with hNil | ⟨front, last, hNames⟩
  · refine Or.inl ⟨?_, by rw [longestName, hNil]; rfl⟩
    simpa [suffixNames] using hNil
  · have hLast : longestName path = last := by
      rw [longestName, hNames]
      simp
    rw [hLast]
    exact Or.inr (isLocalName_of_mem_suffixNames (by rw [hNames]; simp))

theorem freshName_eq_nil_or (t : ImportTable) (path : Text) :
    segments path = [] ∧ t.freshName path = [] ∨ IsLocalName (t.freshName path) := by
  rcases (t.freshName_cases path).1 with hSuffix | hLongest | ⟨i, hNumber⟩
  · exact Or.inr (isLocalName_of_mem_suffixNames hSuffix)
  · rw [hLongest]
    exact longestName_eq path
  · rw [hNumber]
    refine Or.inr (IsLocalName.append_ofNat ?_ i)
    rcases longestName_eq path with ⟨-, hNil⟩ | hName
    · rw [hNil]
      exact fun c hc => absurd hc List.not_mem_nil
    · exact hName.chars

/-! ## Tables that were filled path by path -/

/-- What holds for every table that was filled path by path. -/
structure Sound (t : ImportTable) : Prop where
  /-- A path goes by a name when the name is that of the path. -/
  inverse : ∀ path name, t.names.get? path = some name ↔ t.paths.get? name = some path
  /-- Names are made of small letters, digits and underscores, but for the path of no segments. -/
  named : ∀ path name, t.names.get? path = some name →
    segments path = [] ∧ name = [] ∨ IsLocalName name

/-- No two paths go by one name. -/
theorem Sound.injective (h : t.Sound) (path path' name : Text)
    (hName : t.names.get? path = some name) (hName' : t.names.get? path' = some name) :
    path = path' := by
  rw [h.inverse] at hName hName'
  exact Option.some.inj (hName.symm.trans hName')

/-- A name is taken when a path goes by it. -/
theorem Sound.taken_iff (h : t.Sound) {name : Text} :
    t.taken name = true ↔ ∃ path, t.names.get? path = some name := by
  rw [taken, TextMap.contains, Option.isSome_iff_exists]
  exact exists_congr fun path => (h.inverse path name).symm

theorem sound_empty : ({} : ImportTable).Sound := ⟨fun _ _ => iff_of_false nofun nofun, nofun⟩

/-- **A table stays sound when a path gets a name.** -/
theorem Sound.localName (h : t.Sound) (path : Text) : (t.localName path).2.Sound := by
  cases hPath : t.names.get? path with
  | some name =>
    rw [localName_of_get? hPath]
    exact h
  | none =>
    have hFresh := localName_of_get?_none hPath
    have hFree : t.paths.get? (t.freshName path) = none := by
      simpa [taken, TextMap.contains] using (t.freshName_cases path).2
    constructor
    · intro a name
      rw [names_localName hPath, paths_localName hPath, hFresh, TextMap.get?_insert,
        TextMap.get?_insert]
      by_cases hA : a = path <;> by_cases hName : name = t.freshName path
      · rw [if_pos hA, if_pos hName, hA, hName]
        exact iff_of_true rfl rfl
      · rw [if_pos hA, if_neg hName, hA, ← h.inverse, hPath]
        refine iff_of_false (fun hEq => hName (Option.some.inj hEq).symm) fun hNone => ?_
        cases hNone
      · rw [if_neg hA, if_pos hName, hName, h.inverse, hFree]
        refine iff_of_false (fun hNone => ?_) fun hEq => hA (Option.some.inj hEq).symm
        cases hNone
      · rw [if_neg hA, if_neg hName, h.inverse]
    · intro a name ha
      rw [get?_localName, hFresh] at ha
      by_cases hA : a = path
      · rw [if_pos hA] at ha
        rw [hA, ← Option.some.inj ha]
        exact t.freshName_eq_nil_or path
      · rw [if_neg hA] at ha
        exact h.named a name ha

/-- The table after the paths of a list got names in order. -/
def register (t : ImportTable) (paths : List Text) : ImportTable :=
  paths.foldl (fun t path => (t.localName path).2) t

@[simp] theorem register_nil (t : ImportTable) : t.register [] = t := rfl

@[simp] theorem register_cons (t : ImportTable) (path : Text) (paths : List Text) :
    t.register (path :: paths) = (t.localName path).2.register paths := rfl

theorem register_append (t : ImportTable) (paths paths' : List Text) :
    t.register (paths ++ paths') = (t.register paths).register paths' := List.foldl_append

/-- **Names last.** -/
theorem within_register (t : ImportTable) (paths : List Text) :
    t.names.Within (t.register paths).names := by
  induction paths generalizing t with
  | nil => exact fun _ _ h => h
  | cons path paths ih => exact fun key name h => ih _ key name (within_localName t path key name h)

/-- **A table has names for the paths that it had and those of the list.** -/
theorem contains_register (t : ImportTable) (paths : List Text) (key : Text) :
    (t.register paths).names.contains key = true ↔ key ∈ paths ∨ t.names.contains key = true := by
  induction paths generalizing t with
  | nil => simp
  | cons path paths ih =>
    rw [register_cons, ih, TextMap.contains, get?_localName, List.mem_cons]
    by_cases hKey : key = path
    · simp [hKey]
    · rw [if_neg hKey, ← TextMap.contains]
      simp [hKey]

/-- Paths that have names already change nothing. -/
theorem register_of_contains {paths : List Text}
    (h : ∀ path ∈ paths, t.names.contains path = true) : t.register paths = t := by
  induction paths with
  | nil => rfl
  | cons path paths ih =>
    obtain ⟨name, hName⟩ := Option.isSome_iff_exists.1 (h path List.mem_cons_self)
    rw [register_cons, localName_of_get? hName]
    exact ih fun path' hPath' => h path' (List.mem_cons_of_mem path hPath')

/-- A path that is alone in its table has the shortest of its names. -/
theorem get?_register_of_eq {paths : List Text} (h : ∀ path' ∈ paths, path' = path)
    {key name : Text} (hName : (({} : ImportTable).register paths).names.get? key = some name) :
    key = path ∧ name = ({} : ImportTable).freshName path := by
  cases paths with
  | nil => cases hName
  | cons first rest =>
    obtain rfl := h first List.mem_cons_self
    let t := (({} : ImportTable).localName first).2
    have hFirst : ∀ key, t.names.get? key =
        if key = first then some (({} : ImportTable).freshName first) else none :=
      fun key => get?_localName {} first key
    have hRest : t.register rest = t := by
      refine register_of_contains fun path' hPath' => ?_
      rw [h path' (List.mem_cons_of_mem first hPath'), TextMap.contains, hFirst, if_pos rfl]
      rfl
    rw [register_cons, hRest, hFirst] at hName
    by_cases hKey : key = first
    · rw [if_pos hKey] at hName
      exact ⟨hKey, (Option.some.inj hName).symm⟩
    · rw [if_neg hKey] at hName
      cases hName

theorem Sound.register (h : t.Sound) (paths : List Text) : (t.register paths).Sound := by
  induction paths generalizing t with
  | nil => exact h
  | cons path paths ih => exact ih (h.localName path)

end ImportTable

end RestScaffold
