import RestScaffold.Proofs.Import.Table
import RestScaffold.Proofs.Text.Blanks

/-!
# What import lines bind

An import line makes a package known under a local name: the name in front of the quoted path, or
the last segment of the path when there is none. The lines of a file come from two sides, entries
that the generator has of itself and lines of its table, so two of them may bind one name.

* `ImportLine.Binds`: what a line binds, of which there is at most one name and one path;
* `ImportLine.binds_normalize`: an entry that gives a bare path binds its last segment;
* `ImportTable.namesApart_merge_iff`: the lines of entries with different last segments and of a
  table bind different names unless a path of the table got the name of an entry.
-/

namespace RestScaffold

open Text

/-! ## Lines -/

namespace ImportLine

/-- The line makes the path known under the name: the name stands in front of the quoted path, or it
is the last segment of the path that stands there alone. -/
def Binds (line name path : Text) : Prop :=
  line = quoted path ∧ name = afterLast '/' path ∨
    quote ∉ name ∧ line = name ++ " " ++ quoted path

/-- Different lines bind different names. -/
def NamesApart (lines : List Text) : Prop :=
  ∀ a ∈ lines, ∀ b ∈ lines, ∀ name path path', Binds a name path → Binds b name path' → a = b

theorem quoted_injective : Function.Injective quoted := by
  intro path path' h
  exact List.append_cancel_right (List.cons.inj h).2

theorem quoted_ne_nil (path : Text) : quoted path ≠ [] := List.cons_ne_nil _ _

theorem getLast?_quoted (path : Text) : (quoted path).getLast? = some quote := List.getLast?_concat

theorem solid_quoted (path : Text) : Solid (quoted path) where
  head c hc := by
    rw [← Option.some.inj hc]
    decide
  last c hc := by
    rw [getLast?_quoted] at hc
    rw [← Option.some.inj hc]
    decide

/-- What stands in front of the first quote of a line, and what follows. -/
theorem Binds.cut {line name path : Text} (h : Binds line name path) :
    line.dropWhile (· ≠ quote) = quoted path ∧
      (line.takeWhile (· ≠ quote) = [] ∧ name = afterLast '/' path ∨
        line.takeWhile (· ≠ quote) = name ++ " ") := by
  rcases h with ⟨rfl, hName⟩ | ⟨hQuote, rfl⟩
  · exact ⟨List.dropWhile_cons_of_neg (by simp),
      Or.inl ⟨List.takeWhile_cons_of_neg (by simp), hName⟩⟩
  · have hFront : ∀ c ∈ name ++ " ".toList, (c ≠ quote : Bool) = true := by
      intro c hc
      rcases List.mem_append.1 hc with hName | hBlank
      · exact decide_eq_true fun hEq => hQuote (hEq ▸ hName)
      · rw [List.mem_singleton.1 hBlank]
        decide
    rw [List.dropWhile_append_of_pos hFront, List.takeWhile_append_of_pos hFront]
    have hPath : (quoted path).dropWhile (· ≠ quote) = quoted path :=
      List.dropWhile_cons_of_neg (by simp)
    have hNone : (quoted path).takeWhile (· ≠ quote) = [] := List.takeWhile_cons_of_neg (by simp)
    exact ⟨hPath, Or.inr (by rw [hNone, List.append_nil])⟩

/-- **A line binds one name to one path.** -/
theorem Binds.unique {line name name' path path' : Text} (h : Binds line name path)
    (h' : Binds line name' path') : name = name' ∧ path = path' := by
  obtain ⟨hPath, hFront⟩ := h.cut
  obtain ⟨hPath', hFront'⟩ := h'.cut
  obtain rfl : path = path' := quoted_injective (hPath.symm.trans hPath')
  refine ⟨?_, rfl⟩
  rcases hFront with ⟨hNil, hName⟩ | hAlias <;> rcases hFront' with ⟨hNil', hName'⟩ | hAlias'
  · rw [hName, hName']
  · exact absurd (hNil.symm.trans hAlias') (by simp)
  · exact absurd (hNil'.symm.trans hAlias) (by simp)
  · exact List.append_cancel_right (hAlias.symm.trans hAlias')

theorem binds_bind {name : Text} (h : quote ∉ name) (path : Text) :
    Binds (bind path name) name path := by
  unfold bind
  by_cases hLast : afterLast '/' path = name
  · rw [if_pos hLast]
    exact Or.inl ⟨rfl, hLast.symm⟩
  · rw [if_neg hLast]
    exact Or.inr ⟨h, rfl⟩

theorem quote_mem_bind (path name : Text) : quote ∈ bind path name := by
  unfold bind
  split <;> simp [quoted]

/-! ## Entries -/

theorem normalize_eq {e : Text} (hSolid : Solid e) (hQuote : quote ∈ e) : normalize e = e := by
  rw [normalize, hSolid.trim_eq, if_pos (List.contains_iff_mem.2 hQuote)]

theorem normalize_cases (e : Text) : quote ∈ trim e ∧ normalize e = trim e ∨
    quote ∉ trim e ∧ normalize e = quoted (trim e) := by
  unfold normalize
  by_cases hQuote : quote ∈ trim e
  · exact Or.inl ⟨hQuote, if_pos (List.contains_iff_mem.2 hQuote)⟩
  · exact Or.inr ⟨hQuote, if_neg fun hMem => hQuote (List.contains_iff_mem.1 hMem)⟩

theorem solid_normalize (e : Text) : Solid (normalize e) := by
  rcases normalize_cases e with ⟨-, hEq⟩ | ⟨-, hEq⟩ <;> rw [hEq]
  · exact solid_trim e
  · exact solid_quoted _

theorem quote_mem_normalize (e : Text) : quote ∈ normalize e := by
  rcases normalize_cases e with ⟨hQuote, hEq⟩ | ⟨-, hEq⟩ <;> rw [hEq]
  · exact hQuote
  · exact List.mem_cons_self

/-- Lines are their own normal forms. -/
theorem normalize_normalize (e : Text) : normalize (normalize e) = normalize e :=
  normalize_eq (solid_normalize e) (quote_mem_normalize e)

theorem isBlankText_eq_false_iff {s : Text} : isBlankText s = false ↔ trim s ≠ [] := by
  rw [isBlankText, beq_eq_false_iff_ne]

theorem isBlankText_of_quote {e : Text} (hSolid : Solid e) (hQuote : quote ∈ e) :
    isBlankText e = false := by
  rw [isBlankText_eq_false_iff, hSolid.trim_eq]
  exact List.ne_nil_of_mem hQuote

theorem mem_merge {entries : List Text} {line : Text} :
    line ∈ merge entries ↔ ∃ e ∈ entries, isBlankText e = false ∧ normalize e = line := by
  simp only [merge, mem_sortDistinct, List.mem_map, List.mem_filter, Bool.not_eq_true', and_assoc]

theorem nodup_merge (entries : List Text) : (merge entries).Nodup := by
  refine (pairwise_sortDistinct _).imp fun {a b} hLt => ?_
  rintro rfl
  exact List.lt_irrefl a hLt

/-- Merging lines once more changes none of them. -/
theorem mem_merge_merge {entries : List Text} {line : Text} :
    line ∈ merge (merge entries) ↔ line ∈ merge entries := by
  rw [mem_merge]
  constructor
  · rintro ⟨e, he, -, rfl⟩
    obtain ⟨e', he', hBlank, rfl⟩ := mem_merge.1 he
    rw [normalize_normalize]
    exact mem_merge.2 ⟨e', he', hBlank, rfl⟩
  · intro hLine
    obtain ⟨e, -, -, rfl⟩ := mem_merge.1 hLine
    exact ⟨normalize e, hLine, isBlankText_of_quote (solid_normalize e) (quote_mem_normalize e),
      normalize_normalize e⟩

theorem namesApart_merge {entries : List Text} :
    NamesApart (merge (merge entries)) ↔ NamesApart (merge entries) := by
  simp only [NamesApart, mem_merge_merge]

/-- An entry that gives a path and no name: blanks aside, it is not empty and does not end in a
quote. -/
def IsBare (entry : Text) : Prop := (trim entry).getLast?.any (· ≠ quote) = true

instance (entry : Text) : Decidable (IsBare entry) := inferInstanceAs (Decidable (_ = true))

theorem IsBare.isBlankText_eq {entry : Text} (h : IsBare entry) : isBlankText entry = false := by
  rw [isBlankText_eq_false_iff]
  intro hNil
  rw [IsBare, hNil] at h
  cases h

/-- **A bare path is bound under its last segment.** One with a quote in it is not bound at all. -/
theorem binds_normalize {entry name path : Text} (hBare : IsBare entry)
    (h : Binds (normalize entry) name path) :
    normalize entry = quoted path ∧ path = trim entry ∧ name = afterLast '/' path := by
  rcases normalize_cases entry with ⟨-, hEq⟩ | ⟨-, hEq⟩
  · obtain ⟨c, hLast, hNe⟩ := (Option.any_eq_true _ _).1 hBare
    have hQuoted : (normalize entry).getLast? = some quote := by
      rcases h with ⟨hLine, -⟩ | ⟨-, hLine⟩ <;> rw [hLine]
      · exact getLast?_quoted path
      · rw [List.getLast?_append_of_ne_nil _ (quoted_ne_nil path)]
        exact getLast?_quoted path
    rw [hEq, hLast] at hQuoted
    exact absurd (Option.some.inj hQuoted) (of_decide_eq_true hNe)
  · rw [hEq] at h ⊢
    obtain ⟨hName, hPath⟩ := h.unique (Or.inl ⟨rfl, rfl⟩)
    exact ⟨by rw [hPath], hPath, by rw [hName, hPath]⟩

/-- An entry gives the path that its line binds, and a bare one also itself. -/
def Gives (entry path : Text) : Prop :=
  IsBare entry ∧ path = entry ∨ ∃ name, Binds (normalize entry) name path

theorem Gives.eq_or {entry path : Text} (h : Gives entry path) (hBare : IsBare entry) :
    path = entry ∨ path = trim entry := by
  rcases h with ⟨-, hPath⟩ | ⟨name, hBinds⟩
  · exact Or.inl hPath
  · exact Or.inr (binds_normalize hBare hBinds).2.1

end ImportLine

/-! ## Lines of tables -/

namespace ImportTable

open ImportLine

variable {t : ImportTable}

/-- The characters of local names are neither blank nor quotes. -/
theorem IsLocalName.chars_ne {name : Text} (h : IsLocalName name) {c : Char} (hc : c ∈ name) :
    isBlank c = false ∧ c ≠ quote := by
  have hChar := h.chars c hc
  simp only [isLocalNameChar, Bool.or_eq_true, decide_eq_true_eq, isLower_iff, isDigit_iff] at hChar
  have hCodes : 48 ≤ c.toNat ∧ c.toNat ≤ 122 := by
    rcases hChar with (hLower | hDigit) | rfl
    · omega
    · omega
    · decide
  constructor
  · simp only [isBlank, Bool.or_eq_false_iff, Bool.and_eq_false_iff, decide_eq_false_iff_not,
      beq_eq_false_iff_ne]
    omega
  · rintro rfl
    exact absurd hCodes (by decide)

/-- A path without segments has nothing behind its last slash. -/
theorem afterLast_of_segments {path : Text} (h : segments path = []) : afterLast '/' path = [] := by
  refine List.rtakeWhile_eq_nil_iff.2 fun hNe => ?_
  simp [segments_eq_nil_iff.1 h _ (List.getLast_mem hNe)]

variable {path name : Text}

/-- What holds for the line of a path in a table that was filled path by path. -/
theorem Sound.binds_bind (h : t.Sound) (hName : t.names.get? path = some name) :
    Binds (ImportLine.bind path name) name path := by
  refine ImportLine.binds_bind (fun hQuote => ?_) path
  rcases h.named path name hName with ⟨-, rfl⟩ | hLocal
  · cases hQuote
  · exact (hLocal.chars_ne hQuote).2 rfl

theorem Sound.solid_bind (h : t.Sound) (hName : t.names.get? path = some name) :
    Solid (bind path name) := by
  unfold ImportLine.bind
  by_cases hLast : afterLast '/' path = name
  · rw [if_pos hLast]
    exact solid_quoted path
  · rw [if_neg hLast]
    rcases h.named path name hName with ⟨hSegments, rfl⟩ | hLocal
    · exact absurd (afterLast_of_segments hSegments) hLast
    · obtain ⟨first, rest, rfl⟩ := List.exists_cons_of_ne_nil hLocal.ne_nil
      refine ⟨fun c hc => ?_, fun c hc => ?_⟩
      · rw [← Option.some.inj hc]
        exact (hLocal.chars_ne List.mem_cons_self).1
      · rw [List.getLast?_append_of_ne_nil _ (quoted_ne_nil path)] at hc
        exact (solid_quoted path).last c hc

theorem mem_lines {line : Text} :
    line ∈ t.lines ↔ ∃ path name, t.names.get? path = some name ∧ bind path name = line := by
  rw [lines, List.mem_map]
  constructor
  · rintro ⟨⟨path, name⟩, he, rfl⟩
    exact ⟨path, name, TextMap.mem_entries_iff.1 he, rfl⟩
  · rintro ⟨path, name, hName, rfl⟩
    exact ⟨(path, name), TextMap.mem_entries_iff.2 hName, rfl⟩

/-- **The lines of a file come from its entries or from its table.** -/
theorem mem_merge_lines (h : t.Sound) {entries : List Text} {line : Text} :
    line ∈ merge (entries ++ t.lines) ↔
      (∃ e ∈ entries, isBlankText e = false ∧ normalize e = line) ∨
        ∃ path name, t.names.get? path = some name ∧ bind path name = line := by
  rw [mem_merge]
  constructor
  · rintro ⟨e, he, hBlank, rfl⟩
    rcases List.mem_append.1 he with hEntry | hLine
    · exact Or.inl ⟨e, hEntry, hBlank, rfl⟩
    · obtain ⟨path, name, hName, rfl⟩ := mem_lines.1 hLine
      refine Or.inr ⟨path, name, hName, ?_⟩
      exact (normalize_eq (h.solid_bind hName) (quote_mem_bind path name)).symm
  · rintro (⟨e, he, hBlank, rfl⟩ | ⟨path, name, hName, rfl⟩)
    · exact ⟨e, List.mem_append_left _ he, hBlank, rfl⟩
    · have hQuote := quote_mem_bind path name
      exact ⟨_, List.mem_append_right _ (mem_lines.2 ⟨path, name, hName, rfl⟩),
        isBlankText_of_quote (h.solid_bind hName) hQuote,
        normalize_eq (h.solid_bind hName) hQuote⟩

/-- **When the lines of a file bind different names.** Its entries give bare paths with different
last segments, so only an entry and a path of the table can meet. -/
theorem namesApart_merge_iff (h : t.Sound) {entries : List Text} (hBare : ∀ e ∈ entries, IsBare e)
    (hApart : (entries.map fun e => afterLast '/' (trim e)).Nodup) :
    NamesApart (merge (entries ++ t.lines)) ↔ ∀ e ∈ entries, ∀ name path path',
      Binds (normalize e) name path → t.names.get? path' = some name → path' = path := by
  constructor
  · intro hNames e he name path path' hBinds hName
    have hEntry : normalize e ∈ merge (entries ++ t.lines) :=
      (mem_merge_lines h).2 (Or.inl ⟨e, he, (hBare e he).isBlankText_eq, rfl⟩)
    have hLine : ImportLine.bind path' name ∈ merge (entries ++ t.lines) :=
      (mem_merge_lines h).2 (Or.inr ⟨path', name, hName, rfl⟩)
    have hEq := hNames _ hEntry _ hLine name path path' hBinds (h.binds_bind hName)
    rw [hEq] at hBinds
    exact ((h.binds_bind hName).unique hBinds).2
  · intro hMeet
    -- An entry and a line of the table that bind one name are the same line.
    have hMixed : ∀ e ∈ entries, ∀ path' name' name path, t.names.get? path' = some name' →
        Binds (normalize e) name path → Binds (bind path' name') name path' →
          normalize e = bind path' name' := by
      intro e he path' name' name path hName hEntry hLine
      obtain rfl : name' = name := ((h.binds_bind hName).unique hLine).1
      obtain rfl : path' = path := hMeet e he name' path path' hEntry hName
      obtain ⟨hEq, -, hLast⟩ := binds_normalize (hBare e he) hEntry
      rw [hEq, ImportLine.bind, if_pos hLast.symm]
    intro a ha b hb name path path' hA hB
    rcases (mem_merge_lines h).1 ha with ⟨e, he, -, rfl⟩ | ⟨p, n, hName, rfl⟩ <;>
      rcases (mem_merge_lines h).1 hb with ⟨e', he', -, rfl⟩ | ⟨p', n', hName', rfl⟩
    · obtain ⟨-, rfl, hLast⟩ := binds_normalize (hBare e he) hA
      obtain ⟨-, rfl, hLast'⟩ := binds_normalize (hBare e' he') hB
      rw [List.inj_on_of_nodup_map hApart he he' (hLast.symm.trans hLast')]
    · obtain rfl : p' = path' := ((h.binds_bind hName').unique hB).2
      exact hMixed e he p' n' name path hName' hA hB
    · obtain rfl : p = path := ((h.binds_bind hName).unique hA).2
      exact (hMixed e' he' p n name path' hName hB hA).symm
    · obtain ⟨rfl, rfl⟩ := (h.binds_bind hName).unique hA
      obtain ⟨rfl, rfl⟩ := (h.binds_bind hName').unique hB
      rw [h.injective p p' _ hName hName']

end ImportTable

end RestScaffold
