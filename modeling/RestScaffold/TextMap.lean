import RestScaffold.Text.Sorted

/-!
# Maps keyed by text

A map is its list of entries in strictly increasing order of keys, so two maps with the same
bindings are equal and listing a map needs no sorting. `get?_insert` describes insertion by what a
lookup finds afterwards.
-/

namespace RestScaffold

/-- Bindings of texts to values, each key bound once. -/
structure TextMap (α : Type) where
  entries : List (Text × α)
  sorted : entries.Pairwise fun a b => a.1 < b.1
  deriving DecidableEq

namespace TextMap

variable {α : Type}

/-- Binds `key` in a list of entries sorted by key. -/
def insertEntry (key : Text) (value : α) : List (Text × α) → List (Text × α)
  | [] => [(key, value)]
  | e :: es =>
    if key < e.1 then (key, value) :: e :: es
    else if key = e.1 then (key, value) :: es
    else e :: insertEntry key value es

theorem fst_of_mem_insertEntry {key : Text} {value : α} {es : List (Text × α)} {x : Text × α}
    (h : x ∈ insertEntry key value es) : x.1 = key ∨ x ∈ es := by
  induction es with
  | nil =>
    rw [insertEntry, List.mem_singleton] at h
    exact Or.inl (h ▸ rfl)
  | cons e es ih =>
    simp only [insertEntry] at h
    split at h
    · rcases List.mem_cons.1 h with rfl | h
      · exact Or.inl rfl
      · exact Or.inr h
    · split at h
      · rcases List.mem_cons.1 h with rfl | h
        · exact Or.inl rfl
        · exact Or.inr (List.mem_cons_of_mem _ h)
      · rcases List.mem_cons.1 h with rfl | h
        · exact Or.inr List.mem_cons_self
        · exact (ih h).imp_right (List.mem_cons_of_mem _)

theorem sorted_insertEntry {key : Text} {value : α} {es : List (Text × α)}
    (h : es.Pairwise fun a b => a.1 < b.1) :
    (insertEntry key value es).Pairwise fun a b => a.1 < b.1 := by
  induction es with
  | nil => exact List.pairwise_singleton _ _
  | cons e es ih =>
    obtain ⟨he, hes⟩ := List.pairwise_cons.1 h
    simp only [insertEntry]
    split
    · next hk =>
      refine List.pairwise_cons.2 ⟨fun x hx => ?_, h⟩
      rcases List.mem_cons.1 hx with rfl | hx
      · exact hk
      · exact List.lt_trans hk (he x hx)
    · split
      · next hk => exact List.pairwise_cons.2 ⟨fun x hx => hk ▸ he x hx, hes⟩
      · next hk hne =>
        refine List.pairwise_cons.2 ⟨fun x hx => ?_, ih hes⟩
        rcases fst_of_mem_insertEntry hx with hx | hx
        · exact hx ▸ Text.lt_of_not_lt_of_ne hk hne
        · exact he x hx

/-- The map without bindings. -/
def empty : TextMap α := ⟨[], List.Pairwise.nil⟩

/-- The map with `key` bound to `value`, whatever it was bound to. -/
def insert (m : TextMap α) (key : Text) (value : α) : TextMap α :=
  ⟨insertEntry key value m.entries, sorted_insertEntry m.sorted⟩

/-- The value that `key` is bound to. -/
def get? (m : TextMap α) (key : Text) : Option α := m.entries.lookup key

/-- Whether `key` is bound. -/
def contains (m : TextMap α) (key : Text) : Bool := (m.get? key).isSome

/-- The bound keys, in increasing order. -/
def keys (m : TextMap α) : List Text := m.entries.map Prod.fst

/-- How many keys are bound. -/
def size (m : TextMap α) : Nat := m.entries.length

/-- Binds the pairs of a list in its order, so that the last binding of a key holds. -/
def ofList (pairs : List (Text × α)) : TextMap α :=
  pairs.foldl (fun m p => m.insert p.1 p.2) empty

/-- The map with every binding of `other` as well, which wins where both bind a key. -/
def extend (m other : TextMap α) : TextMap α :=
  other.entries.foldl (fun m p => m.insert p.1 p.2) m

theorem lookup_cons_eq_ite (k : Text) (e : Text × α) (es : List (Text × α)) :
    (e :: es).lookup k = if k = e.1 then some e.2 else es.lookup k := by
  obtain ⟨a, b⟩ := e
  rw [List.lookup_cons]
  by_cases h : k = a
  · rw [if_pos h, beq_iff_eq.2 h]
  · rw [if_neg h, beq_eq_false_iff_ne.2 h]

theorem lookup_insertEntry (key k : Text) (value : α) (es : List (Text × α)) :
    (insertEntry key value es).lookup k = if k = key then some value else es.lookup k := by
  induction es with
  | nil => rw [insertEntry, lookup_cons_eq_ite]
  | cons e es ih =>
    simp only [insertEntry]
    split
    · rw [lookup_cons_eq_ite]
    · split
      · next hk =>
        simp only [lookup_cons_eq_ite, ← hk]
        split <;> rfl
      · next hne =>
        simp only [lookup_cons_eq_ite, ih]
        by_cases h : k = key
        · rw [if_pos h, if_pos h, if_neg (h ▸ hne)]
        · rw [if_neg h, if_neg h]

/-- After an insertion the key is bound to the value and every other key to what it was. -/
theorem get?_insert (m : TextMap α) (key k : Text) (value : α) :
    (m.insert key value).get? k = if k = key then some value else m.get? k :=
  lookup_insertEntry key k value m.entries

theorem mem_iff_lookup {es : List (Text × α)} (h : es.Pairwise fun a b => a.1 < b.1) {k : Text}
    {v : α} : (k, v) ∈ es ↔ es.lookup k = some v := by
  induction es with
  | nil => simp
  | cons e es ih =>
    obtain ⟨he, hes⟩ := List.pairwise_cons.1 h
    rw [List.mem_cons, lookup_cons_eq_ite, ih hes]
    by_cases hk : k = e.1
    · -- A key stands once, so no later entry has it.
      have hLater : es.lookup k ≠ some v := fun hv =>
        List.lt_irrefl e.1 (hk ▸ he (k, v) ((ih hes).2 hv))
      rw [if_pos hk, hk]
      constructor
      · rintro (heq | hv)
        · rw [← heq]
        · exact absurd hv (hk ▸ hLater)
      · intro hv
        exact Or.inl (Prod.ext rfl (Option.some.inj hv).symm)
    · rw [if_neg hk]
      exact or_iff_right fun heq => hk (congrArg Prod.fst heq)

/-- The entries of a map are its bindings. -/
theorem mem_entries_iff {m : TextMap α} {k : Text} {v : α} :
    (k, v) ∈ m.entries ↔ m.get? k = some v := mem_iff_lookup m.sorted

theorem mem_keys_iff {m : TextMap α} {key : Text} : key ∈ m.keys ↔ m.contains key = true := by
  rw [keys, List.mem_map, contains, Option.isSome_iff_exists]
  constructor
  · rintro ⟨⟨key, value⟩, he, rfl⟩
    exact ⟨value, mem_entries_iff.1 he⟩
  · rintro ⟨value, hValue⟩
    exact ⟨(key, value), mem_entries_iff.2 hValue, rfl⟩

end TextMap

end RestScaffold
