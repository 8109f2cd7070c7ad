import RestScaffold.Text.Basic

/-!
# Sorted texts

Texts are ordered by their characters' code points, which is also the order of their UTF-8 bytes.
`sortDistinct` is the strictly increasing list of the texts in a list: `mem_sortDistinct` and
`pairwise_sortDistinct` determine it.
-/

namespace RestScaffold.Text

/-- Puts a text into a strictly increasing list, once. -/
def insertSorted (s : Text) : List Text → List Text
  | [] => [s]
  | t :: ts => if s < t then s :: t :: ts else if s = t then t :: ts else t :: insertSorted s ts

/-- The texts of a list in increasing order, each once. -/
def sortDistinct (texts : List Text) : List Text := texts.foldr insertSorted []

theorem mem_insertSorted {s x : Text} {ts : List Text} :
    x ∈ insertSorted s ts ↔ x = s ∨ x ∈ ts := by
  induction ts with
  | nil => simp [insertSorted]
  | cons t ts ih =>
    simp only [insertSorted]
    split
    · simp
    · split
      · next h => simp [h]
      · simp [ih, or_left_comm]

theorem mem_sortDistinct {x : Text} {texts : List Text} : x ∈ sortDistinct texts ↔ x ∈ texts := by
  induction texts with
  | nil => simp [sortDistinct]
  | cons t ts ih =>
    show x ∈ insertSorted t (sortDistinct ts) ↔ _
    rw [mem_insertSorted, ih, List.mem_cons]

/-- Of two different texts one comes first. -/
theorem lt_of_not_lt_of_ne {s t : Text} (h : ¬ s < t) (hne : s ≠ t) : t < s := by
  rcases List.le_total s t with hle | hle
  · exact absurd (List.le_antisymm hle (List.not_lt.1 h)) hne
  · exact Decidable.byContradiction fun hts => hne (List.le_antisymm (List.not_lt.1 hts) hle)

theorem pairwise_insertSorted {s : Text} {ts : List Text} (h : ts.Pairwise (· < ·)) :
    (insertSorted s ts).Pairwise (· < ·) := by
  induction ts with
  | nil => simp [insertSorted]
  | cons t ts ih =>
    obtain ⟨ht, hts⟩ := List.pairwise_cons.1 h
    simp only [insertSorted]
    split
    · next hst =>
      refine List.pairwise_cons.2 ⟨fun x hx => ?_, h⟩
      rcases List.mem_cons.1 hx with rfl | hx
      · exact hst
      · exact List.lt_trans hst (ht x hx)
    · split
      · exact h
      · next hst hne =>
        refine List.pairwise_cons.2 ⟨fun x hx => ?_, ih hts⟩
        rcases mem_insertSorted.1 hx with rfl | hx
        · exact lt_of_not_lt_of_ne hst hne
        · exact ht x hx

theorem pairwise_sortDistinct (texts : List Text) : (sortDistinct texts).Pairwise (· < ·) := by
  induction texts with
  | nil => simp [sortDistinct]
  | cons t ts ih => exact pairwise_insertSorted ih

end RestScaffold.Text
