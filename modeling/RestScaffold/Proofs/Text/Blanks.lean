import Mathlib.Data.List.DropRight
import RestScaffold.Proofs.Text.Segments

/-!
# Blanks around texts

Trimming a text takes the blanks at its two ends away and nothing else. So it leaves a text as it
is exactly when there are none, and what is not blank stays.

* `Text.solid_trim` and `Text.Solid.trim_eq`: trimmed texts are those without blanks around them;
* `Text.mem_trim`: what is not blank stays.
-/

namespace RestScaffold.Text

/-- There is no blank at either end of the text. -/
structure Solid (s : Text) : Prop where
  head : ∀ c ∈ s.head?, isBlank c = false
  last : ∀ c ∈ s.getLast?, isBlank c = false

theorem trimStart_of_head {s : Text} (h : ∀ c ∈ s.head?, isBlank c = false) : trimStart s = s := by
  cases s with
  | nil => rfl
  | cons c s => exact List.dropWhile_cons_of_neg (by rw [h c rfl]; decide)

theorem trimEnd_of_last {s : Text} (h : ∀ c ∈ s.getLast?, isBlank c = false) : trimEnd s = s := by
  refine List.rdropWhile_eq_self_iff.2 fun hNe => ?_
  rw [h _ (List.getLast?_eq_some_getLast hNe)]
  decide

theorem Solid.trim_eq {s : Text} (h : Solid s) : trim s = s := by
  rw [trim, trimStart_of_head h.head, trimEnd_of_last h.last]

theorem solid_trim (s : Text) : Solid (trim s) where
  head c hc := by
    have hHead : (trimStart s).head? = some c :=
      head?_of_isPrefix (List.rdropWhile_prefix isBlank (trimStart s)) hc
    have hNot := List.head?_dropWhile_not isBlank s
    rw [show (s.dropWhile isBlank).head? = some c from hHead] at hNot
    exact hNot
  last c hc := by
    have hNe : trim s ≠ [] := by
      intro hNil
      rw [hNil] at hc
      cases hc
    have hNot := List.rdropWhile_last_not isBlank (trimStart s) hNe
    rw [List.getLast?_eq_some_getLast hNe] at hc
    rw [← Option.some.inj hc]
    exact Bool.eq_false_iff.2 hNot

/-- Trimming a text that ends in something without blanks around it reaches its front only. -/
theorem trim_append {s w : Text} (hNe : w ≠ []) (h : Solid w) :
    trim (s ++ w) = trimStart s ++ w := by
  have hStart : trimStart (s ++ w) = trimStart s ++ w := by
    rw [trimStart, List.dropWhile_append]
    by_cases hBlank : (s.dropWhile isBlank).isEmpty = true
    · rw [if_pos hBlank, trimStart, List.isEmpty_iff.1 hBlank]
      exact trimStart_of_head h.head
    · rw [if_neg hBlank, trimStart]
  rw [trim, hStart]
  refine trimEnd_of_last fun c hc => h.last c ?_
  rwa [List.getLast?_append_of_ne_nil _ hNe] at hc

/-- A text has no blanks around it when it has none at all. -/
theorem solid_of_not_blank {s : Text} (h : ∀ c ∈ s, isBlank c = false) : Solid s where
  head c hc := h c (List.mem_of_mem_head? hc)
  last c hc := h c (List.mem_of_mem_getLast? hc)

/-- A text that ends in one without blanks around it needs to begin without a blank. -/
theorem solid_append {s t : Text} (hHead : s.head?.any isBlank = false) (ht : Solid t)
    (hNe : t ≠ []) : Solid (s ++ t) where
  head c hc := by
    cases s with
    | nil => exact ht.head c hc
    | cons x s =>
      rw [← Option.some.inj hc]
      exact hHead
  last c hc := by
    rw [List.getLast?_append_of_ne_nil _ hNe] at hc
    exact ht.last c hc

theorem trim_trim (s : Text) : trim (trim s) = trim s := (solid_trim s).trim_eq

/-- A blank in front does not matter to trimming. -/
theorem trim_cons {c : Char} (h : isBlank c = true) (s : Text) : trim (c :: s) = trim s := by
  rw [trim, trim, trimStart, trimStart, List.dropWhile_cons_of_pos h]

theorem mem_trimStart {c : Char} {s : Text} (h : isBlank c = false) (hc : c ∈ s) :
    c ∈ trimStart s := by
  rw [← List.takeWhile_append_dropWhile (p := isBlank) (l := s)] at hc
  rcases List.mem_append.1 hc with hFront | hRest
  · rw [List.mem_takeWhile_imp hFront] at h
    cases h
  · exact hRest

/-- What is not blank stays. -/
theorem mem_trim {c : Char} {s : Text} (h : isBlank c = false) (hc : c ∈ s) : c ∈ trim s := by
  rw [trim, trimEnd, List.mem_reverse]
  exact mem_trimStart h (List.mem_reverse.2 (mem_trimStart h hc))

/-- Nothing comes in. -/
theorem trim_subset (s : Text) : trim s ⊆ s := by
  intro c hc
  rw [trim, trimEnd, List.mem_reverse] at hc
  have hStart : c ∈ trimStart s := List.mem_reverse.1 ((List.dropWhile_sublist isBlank).subset hc)
  exact (List.dropWhile_sublist isBlank).subset hStart

end RestScaffold.Text
