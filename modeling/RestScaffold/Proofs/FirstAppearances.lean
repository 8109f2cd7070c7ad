import Mathlib.Data.List.Induction
import Mathlib.Data.List.Nodup

/-!
# First appearances

A list with each of its members once, where it appears first. A list that grows by one member at a
time, unless the member is there already, is such a list.

* `nodup_eraseDups`: no member is there twice;
* `eraseDups_concat`: one more member;
* `eraseDups_append_eraseDups`: what appears again in a later part may be left out of it first.
-/

namespace RestScaffold

variable {α : Type} [BEq α] [LawfulBEq α]

theorem eraseDups_concat (xs : List α) (x : α) :
    (xs ++ [x]).eraseDups = if x ∈ xs then xs.eraseDups else xs.eraseDups ++ [x] := by
  rw [List.eraseDups_append, List.removeAll]
  by_cases hx : x ∈ xs <;> simp [hx, List.eraseDups_cons]

theorem nodup_eraseDups (xs : List α) : xs.eraseDups.Nodup := by
  induction xs using List.reverseRecOn with
  | nil => exact List.nodup_nil
  | append_singleton xs x ih =>
    rw [eraseDups_concat]
    by_cases hx : x ∈ xs
    · rwa [if_pos hx]
    · rw [if_neg hx]
      refine List.nodup_append.2 ⟨ih, List.nodup_singleton x, fun a ha b hb hEq => hx ?_⟩
      rw [← List.mem_singleton.1 hb, ← hEq]
      exact List.mem_eraseDups.1 ha

/-- What appears again in a later part may be left out of it first. -/
theorem eraseDups_append_eraseDups (xs ys : List α) :
    (xs ++ ys.eraseDups).eraseDups = (xs ++ ys).eraseDups := by
  induction ys using List.reverseRecOn with
  | nil => rfl
  | append_singleton ys y ih =>
    have hMem : y ∈ xs ++ ys.eraseDups ↔ y ∈ xs ++ ys := by
      rw [List.mem_append, List.mem_eraseDups, List.mem_append]
    rw [← List.append_assoc, eraseDups_concat (xs ++ ys), eraseDups_concat ys]
    by_cases hy : y ∈ ys
    · rw [if_pos hy, if_pos (List.mem_append_right xs hy), ih]
    · rw [if_neg hy, ← List.append_assoc, eraseDups_concat (xs ++ ys.eraseDups), ih]
      by_cases hKnown : y ∈ xs ++ ys
      · rw [if_pos hKnown, if_pos (hMem.2 hKnown)]
      · rw [if_neg hKnown, if_neg (mt hMem.1 hKnown)]

end RestScaffold
