import RestScaffold.Text.Basic

/-!
# Segments of paths

The segments of a path are what stands between its slashes, empty parts left out. So they are put
together like the texts, as long as a slash stands at the seam, and what is written behind a text
without a slash belongs to its last segment.

* `Text.segments_append_slash`: the segments on both sides of a slash;
* `Text.segments_eq_nil_iff`: the paths without segments;
* `Text.segments_joinWith`: segments that were joined come apart again;
* `Text.exists_segments_append`: the segments of a path with an ending.
-/

namespace RestScaffold.Text

theorem head?_of_isPrefix {s t : Text} (h : s <+: t) {c : Char} (hc : s.head? = some c) :
    t.head? = some c := by
  obtain ⟨rest, rfl⟩ := h
  rw [List.head?_append, hc]
  rfl

/-- A common beginning does not matter to what follows a text. -/
theorem dropLead?_append_append (a lead s : Text) :
    dropLead? (a ++ lead) (a ++ s) = dropLead? lead s := by
  induction a with
  | nil => rfl
  | cons c a ih => exact (if_pos rfl).trans ih

theorem dropLead?_cons_of_ne {c d : Char} (h : c ≠ d) (lead s : Text) :
    dropLead? (c :: lead) (d :: s) = none := if_neg h

/-- A text with an ending is none that is shorter than the ending. -/
theorem append_ne_of_length_lt {b c : Text} (h : c.length < b.length) (a : Text) : a ++ b ≠ c := by
  rintro rfl
  rw [List.length_append] at h
  omega

/-! ## Parts -/

theorem splitOn_of_not_mem {sep : Char} {s : Text} (h : sep ∉ s) : splitOn sep s = [s] := by
  induction s with
  | nil => rfl
  | cons c s ih =>
    rw [List.mem_cons, not_or] at h
    rw [splitOn, ih h.2]
    exact if_neg (Ne.symm h.1)

theorem splitOn_ne_nil (sep : Char) (s : Text) : splitOn sep s ≠ [] := by
  cases s with
  | nil => exact List.cons_ne_nil [] []
  | cons c s =>
    rw [splitOn]
    split
    · exact List.cons_ne_nil _ _
    · split <;> exact List.cons_ne_nil _ _

/-- A separator ends one part and begins another one. -/
theorem splitOn_append_sep (sep : Char) (a b : Text) :
    splitOn sep (a ++ sep :: b) = splitOn sep a ++ splitOn sep b := by
  induction a with
  | nil =>
    show splitOn sep (sep :: b) = [[]] ++ splitOn sep b
    rw [splitOn]
    cases hParts : splitOn sep b with
    | nil => exact absurd hParts (splitOn_ne_nil sep b)
    | cons part parts => exact if_pos rfl
  | cons c a ih =>
    show splitOn sep (c :: (a ++ sep :: b)) = splitOn sep (c :: a) ++ splitOn sep b
    rw [splitOn, splitOn, ih]
    cases hParts : splitOn sep a with
    | nil => exact absurd hParts (splitOn_ne_nil sep a)
    | cons part parts =>
      show (if c = sep then _ else _) = (if c = sep then _ else _) ++ splitOn sep b
      split <;> rfl

/-- What is written behind a text without a separator belongs to its last part. -/
theorem exists_splitOn_append (sep : Char) (a : Text) :
    ∃ front last, ∀ b, sep ∉ b → splitOn sep (a ++ b) = front ++ [last ++ b] := by
  induction a with
  | nil => exact ⟨[], [], fun b hb => splitOn_of_not_mem hb⟩
  | cons c a ih =>
    obtain ⟨front, last, hParts⟩ := ih
    by_cases hSep : c = sep
    · refine ⟨[] :: front, last, fun b hb => ?_⟩
      rw [List.cons_append, splitOn, hParts b hb]
      cases front <;> exact if_pos hSep
    · cases front with
      | nil =>
        refine ⟨[], c :: last, fun b hb => ?_⟩
        rw [List.cons_append, splitOn, hParts b hb]
        exact if_neg hSep
      | cons part front =>
        refine ⟨(c :: part) :: front, last, fun b hb => ?_⟩
        rw [List.cons_append, splitOn, hParts b hb]
        exact if_neg hSep

theorem not_mem_of_mem_splitOn {sep : Char} {s part : Text} (h : part ∈ splitOn sep s) :
    sep ∉ part := by
  induction s generalizing part with
  | nil =>
    rw [List.mem_singleton.1 h]
    exact List.not_mem_nil
  | cons c s ih =>
    rw [splitOn] at h
    cases hParts : splitOn sep s with
    | nil => exact absurd hParts (splitOn_ne_nil sep s)
    | cons first parts =>
      rw [hParts] at h ih
      dsimp only at h
      by_cases hSep : c = sep
      · rw [if_pos hSep] at h
        rcases List.mem_cons.1 h with rfl | hRest
        · exact List.not_mem_nil
        · exact ih hRest
      · rw [if_neg hSep] at h
        rcases List.mem_cons.1 h with rfl | hRest
        · intro hMem
          rcases List.mem_cons.1 hMem with hHere | hLater
          · exact hSep hHere.symm
          · exact ih List.mem_cons_self hLater
        · exact ih (List.mem_cons_of_mem first hRest)

/-! ## Segments -/

/-- The text can stand between two slashes. -/
def IsSegment (name : Text) : Prop := name ≠ [] ∧ '/' ∉ name

instance (s : Text) : Decidable (IsSegment s) := inferInstanceAs (Decidable (s ≠ [] ∧ '/' ∉ s))

theorem isSegment_of_mem {s name : Text} (h : name ∈ segments s) : IsSegment name := by
  obtain ⟨hPart, hNe⟩ := List.mem_filter.1 h
  exact ⟨of_decide_eq_true hNe, not_mem_of_mem_splitOn hPart⟩

theorem segments_of_isSegment {name : Text} (h : IsSegment name) : segments name = [name] := by
  rw [segments, splitOn_of_not_mem h.2, List.filter_cons_of_pos (by simpa using h.1)]
  rfl

/-- **A slash parts the segments in front of it from those behind it.** -/
theorem segments_append_slash (a b : Text) :
    segments (a ++ '/' :: b) = segments a ++ segments b := by
  rw [segments, splitOn_append_sep, List.filter_append]
  rfl

theorem segments_cons_slash (b : Text) : segments ('/' :: b) = segments b :=
  segments_append_slash [] b

theorem segments_concat_slash (a : Text) : segments (a ++ ['/']) = segments a := by
  rw [segments_append_slash]
  exact List.append_nil _

theorem segments_append_replicate_slash (s : Text) (n : Nat) :
    segments (s ++ List.replicate n '/') = segments s := by
  induction n with
  | zero => rw [List.replicate_zero, List.append_nil]
  | succ n ih => rw [List.replicate_succ', ← List.append_assoc, segments_concat_slash, ih]

/-- A path of slashes has no segments, and nothing else has none. -/
theorem segments_eq_nil_iff {s : Text} : segments s = [] ↔ ∀ c ∈ s, c = '/' := by
  constructor
  · intro h
    induction s with
    | nil => exact fun c hc => absurd hc List.not_mem_nil
    | cons c s ih =>
      by_cases hSlash : c = '/'
      · rw [hSlash, segments_cons_slash] at h
        exact List.forall_mem_cons.2 ⟨hSlash, ih h⟩
      · -- Any other character begins a part or goes in front of one.
        simp only [segments, splitOn] at h
        cases hParts : splitOn '/' s with
        | nil => exact absurd hParts (splitOn_ne_nil '/' s)
        | cons part parts => simp [hParts, hSlash] at h
  · intro h
    have hSlashes := segments_append_replicate_slash [] s.length
    rwa [List.nil_append, ← List.eq_replicate_iff.2 ⟨rfl, h⟩] at hSlashes

/-- Slashes at the end make no segment. -/
theorem segments_dropWhile_slash (s : Text) :
    segments (s.dropWhile (· = '/')).reverse = segments s.reverse := by
  induction s with
  | nil => rfl
  | cons c s ih =>
    by_cases hSlash : c = '/'
    · rw [List.dropWhile_cons_of_pos (by simpa using hSlash), ih, hSlash, List.reverse_cons,
        segments_concat_slash]
    · rw [List.dropWhile_cons_of_neg (by simpa using hSlash)]

/-- **Segments that were joined come apart again.** -/
theorem segments_joinWith {names : List Text} (h : ∀ name ∈ names, IsSegment name) :
    segments (joinWith "/" names) = names := by
  induction names with
  | nil => rfl
  | cons name names ih =>
    obtain ⟨hName, hNames⟩ := List.forall_mem_cons.1 h
    cases names with
    | nil => exact segments_of_isSegment hName
    | cons next names =>
      show segments (name ++ ['/'] ++ joinWith "/" (next :: names)) = _
      rw [List.append_assoc, List.singleton_append, segments_append_slash, ih hNames,
        segments_of_isSegment hName]
      rfl

/-- **What is written behind a path without a slash belongs to its last segment.** The last segment
of the path itself may be missing. -/
theorem exists_segments_append (a : Text) :
    ∃ front last, '/' ∉ last ∧ segments a = front ++ [last].filter (· ≠ []) ∧
      ∀ b, '/' ∉ b → b ≠ [] → segments (a ++ b) = front ++ [last ++ b] := by
  obtain ⟨front, last, hParts⟩ := exists_splitOn_append '/' a
  have hWhole := hParts [] List.not_mem_nil
  rw [List.append_nil, List.append_nil] at hWhole
  have hLast : last ∈ splitOn '/' a := by
    rw [hWhole]
    exact List.mem_append_right front List.mem_cons_self
  refine ⟨front.filter (· ≠ []), last, not_mem_of_mem_splitOn hLast, ?_, fun b hb hNe => ?_⟩
  · rw [segments, hWhole, List.filter_append]
  · rw [segments, hParts b hb, List.filter_append, List.filter_cons_of_pos]
    · rfl
    · exact decide_eq_true (List.append_ne_nil_of_right_ne_nil last hNe)

end RestScaffold.Text
