import RestScaffold.Proofs.Text.Segments

/-!
# First occurrences

A text is cut at the first occurrence of a word or of a character. This module says what that means
without a search: what stands in front is the shortest text with the word behind it.

* `Text.cutAt_eq_some_iff` and `Text.cutAt_eq_none_iff`: a word;
* `Text.splitFirst_eq_some_iff` and `Text.splitFirst_eq_none_iff`: a character.
-/

namespace RestScaffold.Text

theorem dropLead?_append (lead rest : Text) : dropLead? lead (lead ++ rest) = some rest := by
  have hDrop := dropLead?_append_append lead [] rest
  rwa [List.append_nil] at hDrop

theorem dropLead?_eq_none_iff {lead s : Text} : dropLead? lead s = none ↔ ¬ lead <+: s := by
  constructor
  · rintro hNone ⟨rest, rfl⟩
    rw [dropLead?_append] at hNone
    cases hNone
  · intro hNot
    cases hDrop : dropLead? lead s with
    | none => rfl
    | some rest => exact absurd ⟨rest, (dropLead?_eq hDrop).symm⟩ hNot

/-! ## Words -/

/-- The text is cut at the first occurrence of the word: in front of every occurrence there is at
least as much. -/
structure CutFirst (word s before rest : Text) : Prop where
  eq : s = before ++ word ++ rest
  first : ∀ a b, s = a ++ word ++ b → before.length ≤ a.length

theorem CutFirst.unique {word s a b a' b' : Text} (h : CutFirst word s a b)
    (h' : CutFirst word s a' b') : a = a' ∧ b = b' := by
  have hLength : a.length = a'.length :=
    Nat.le_antisymm (h.first a' b' h'.eq) (h'.first a b h.eq)
  have hEq := h.eq.symm.trans h'.eq
  rw [List.append_assoc, List.append_assoc] at hEq
  obtain ⟨hFront, hBack⟩ := List.append_inj hEq hLength
  exact ⟨hFront, List.append_cancel_left hBack⟩

/-- What stands in front of the first occurrence does not have the word. -/
theorem CutFirst.not_infix {word s before rest : Text} (h : CutFirst word s before rest)
    (hWord : word ≠ []) : ¬ word <:+: before := by
  rintro ⟨a, b, rfl⟩
  have hFirst := h.first a (b ++ word ++ rest) (by rw [h.eq]; simp only [List.append_assoc])
  have hPos := List.length_pos_iff.2 hWord
  simp only [List.length_append] at hFirst
  omega

theorem cutAt_eq_none_iff {word s : Text} : cutAt word s = none ↔ ¬ word <:+: s := by
  induction s with
  | nil =>
    rw [cutAt, List.infix_nil]
    split
    · next hEmpty => simp [hEmpty]
    · next hWord => simp [hWord]
  | cons c s ih =>
    rw [List.infix_cons_iff, not_or, ← dropLead?_eq_none_iff, ← ih, cutAt]
    cases hDrop : dropLead? word (c :: s) with
    | none => simp
    | some rest => simp

theorem cutFirst_of_cutAt {word s before rest : Text} (h : cutAt word s = some (before, rest)) :
    CutFirst word s before rest := by
  refine ⟨cutAt_eq h, ?_⟩
  induction s generalizing before with
  | nil =>
    have hNil := cutAt_eq h
    simp only [List.nil_eq, List.append_eq_nil_iff] at hNil
    intro a b _
    rw [hNil.1.1]
    exact Nat.zero_le _
  | cons c s ih =>
    rintro a b hEq
    rw [cutAt] at h
    cases hDrop : dropLead? word (c :: s) with
    | some rest' =>
      rw [hDrop] at h
      obtain ⟨rfl, -⟩ := Prod.mk.inj (Option.some.inj h)
      exact Nat.zero_le _
    | none =>
      rw [hDrop] at h
      obtain ⟨p, hCut, hPair⟩ := Option.map_eq_some_iff.1 h
      obtain ⟨rfl, rfl⟩ := Prod.mk.inj hPair
      cases a with
      | nil => exact absurd ⟨b, hEq.symm⟩ (dropLead?_eq_none_iff.1 hDrop)
      | cons x a => exact Nat.succ_le_succ (ih hCut a b (List.cons.inj hEq).2)

/-- **A text is cut at the first occurrence of a word.** -/
theorem cutAt_eq_some_iff {word s before rest : Text} :
    cutAt word s = some (before, rest) ↔ CutFirst word s before rest := by
  constructor
  · exact cutFirst_of_cutAt
  · intro h
    cases hCut : cutAt word s with
    | none => exact absurd ⟨before, rest, h.eq.symm⟩ (cutAt_eq_none_iff.1 hCut)
    | some p =>
      obtain ⟨hBefore, hRest⟩ := h.unique (cutFirst_of_cutAt hCut)
      rw [hBefore, hRest]

/-- A word of one character is first where the character is not in front. -/
theorem cutFirst_singleton {c : Char} {before : Text} (h : c ∉ before) (rest : Text) :
    CutFirst [c] (before ++ [c] ++ rest) before rest := by
  refine ⟨rfl, fun a b hEq => Nat.le_of_not_lt fun hShort => h ?_⟩
  have hBefore : before <+: a ++ [c] ++ b := by
    rw [← hEq, List.append_assoc]
    exact List.prefix_append _ _
  have hLength : (a ++ [c]).length ≤ before.length := by
    rw [List.length_append]
    exact hShort
  have hFront : a ++ [c] <+: before :=
    List.prefix_of_prefix_length_le (List.prefix_append _ b) hBefore hLength
  exact hFront.subset (List.mem_append_right _ List.mem_cons_self)

/-- What stands in front of a word of one character does not have the character. -/
theorem CutFirst.not_mem {c : Char} {s before rest : Text} (h : CutFirst [c] s before rest) :
    c ∉ before := by
  intro hMem
  obtain ⟨a, b, rfl⟩ := List.append_of_mem hMem
  refine h.not_infix (List.cons_ne_nil c []) ⟨a, b, ?_⟩
  rw [List.append_assoc]
  rfl

/-! ## Characters -/

theorem splitFirst_eq_none_iff {sep : Char} {s : Text} : splitFirst sep s = none ↔ sep ∉ s := by
  induction s with
  | nil => simp [splitFirst]
  | cons c s ih =>
    rw [splitFirst, List.mem_cons, not_or, ← ih]
    split
    · next hHere => simp [hHere]
    · next hNot => simp [Ne.symm hNot]

theorem splitFirst_append {sep : Char} {a : Text} (h : sep ∉ a) (b : Text) :
    splitFirst sep (a ++ sep :: b) = some (a, b) := by
  induction a with
  | nil => exact if_pos rfl
  | cons c a ih =>
    rw [List.mem_cons, not_or] at h
    rw [List.cons_append, splitFirst, if_neg (Ne.symm h.1), ih h.2]
    rfl

/-- **A text is split at the first occurrence of a character.** -/
theorem splitFirst_eq_some_iff {sep : Char} {s a b : Text} :
    splitFirst sep s = some (a, b) ↔ s = a ++ sep :: b ∧ sep ∉ a := by
  constructor
  · intro h
    refine ⟨splitFirst_eq h, ?_⟩
    induction s generalizing a with
    | nil => cases h
    | cons c s ih =>
      rw [splitFirst] at h
      split at h
      · obtain ⟨rfl, -⟩ := Prod.mk.inj (Option.some.inj h)
        exact List.not_mem_nil
      · next hNot =>
        obtain ⟨p, hSplit, hPair⟩ := Option.map_eq_some_iff.1 h
        obtain ⟨rfl, rfl⟩ := Prod.mk.inj hPair
        exact List.not_mem_cons_of_ne_of_not_mem (Ne.symm hNot) (ih hSplit)
  · rintro ⟨rfl, hNot⟩
    exact splitFirst_append hNot b

end RestScaffold.Text
