import RestScaffold.Text.Basic

/-!
# File paths

A path is text with slashes. Its components are the non-empty parts between them, without the parts
that are a single dot; only a dot at the very start of a relative path counts. Joining and finding
the parent work on the text, so a path keeps the spelling that its owner gave it.

`parent?_length_lt` says that a parent is shorter, so walking up ends.
-/

namespace RestScaffold.FilePath

open Text

/-- The path of `relative` seen from `base`; an absolute path replaces the base. -/
def join (base relative : Text) : Text :=
  if relative.head? = some '/' || base = [] || base.getLast? = some '/' then
    (if relative.head? = some '/' then [] else base) ++ relative
  else base ++ '/' :: relative

/-- The start of a path that is no part of its components: the root, or the dot that a relative path
may start with. -/
def headLength (s : Text) : Nat :=
  match s with
  | '/' :: _ => 1
  | '.' :: [] => 1
  | '.' :: '/' :: _ => 1
  | _ => 0

/-- Drops the slashes and the single dots behind the last component, from a text that is read from
its end. -/
def dropSpent : Text → Text
  | '/' :: s => dropSpent s
  | ['.'] => []
  | '.' :: '/' :: s => dropSpent s
  | s => s

/-- Drops the last component, from a text that is read from its end. -/
def dropComponent (s : Text) : Text := dropSpent ((s.dropWhile (· ≠ '/')).drop 1)

theorem length_dropSpent_le (s : Text) : (dropSpent s).length ≤ s.length := by
  fun_induction dropSpent s with
  | case1 s ih => exact Nat.le_succ_of_le ih
  | case2 => exact Nat.zero_le _
  | case3 s ih => exact Nat.le_succ_of_le (Nat.le_succ_of_le ih)
  | case4 => exact Nat.le_refl _

theorem length_dropComponent_lt {s : Text} (h : s ≠ []) : (dropComponent s).length < s.length := by
  refine Nat.lt_of_le_of_lt (length_dropSpent_le _) ?_
  cases s with
  | nil => exact absurd rfl h
  | cons c s =>
    rw [List.dropWhile_cons]
    split
    · rw [List.length_drop]
      exact Nat.lt_of_le_of_lt (Nat.sub_le _ _) (Nat.lt_succ_of_le (List.dropWhile_suffix _).length_le)
    · simp

/-- The components of a path as text, from the end, behind its head. -/
def body (s : Text) : Text := dropSpent (s.drop (headLength s)).reverse

/-- The path without its last component. The root and the empty path have no parent. -/
def parent? (s : Text) : Option Text :=
  match body s with
  | [] => if s.head? = some '.' then some [] else none
  | c :: cs => some (s.take (headLength s) ++ (dropComponent (c :: cs)).reverse)

theorem length_body_le (s : Text) : (body s).length ≤ s.length - headLength s := by
  have h := length_dropSpent_le (s.drop (headLength s)).reverse
  rw [List.length_reverse, List.length_drop] at h
  exact h

theorem parent?_length_lt {s p : Text} (h : parent? s = some p) : p.length < s.length := by
  simp only [parent?] at h
  split at h
  · split at h
    · next hs =>
      obtain rfl := Option.some.inj h
      cases s with
      | nil => simp at hs
      | cons c s => exact Nat.zero_lt_succ _
    · simp at h
  · next c cs hb =>
    obtain rfl := Option.some.inj h
    have h₁ := length_body_le s
    have h₂ := length_dropComponent_lt (s := c :: cs) (List.cons_ne_nil c cs)
    rw [hb] at h₁
    rw [List.length_append, List.length_take, List.length_reverse]
    omega

/-- The path, its parent, the parent of that and so on, as long as there is one. -/
def ancestors (s : Text) : List Text :=
  s :: match h : parent? s with
    | none => []
    | some p =>
      have := parent?_length_lt h
      ancestors p
termination_by s.length

/-- The last component, unless it is the root or steps up. -/
def fileName? (s : Text) : Option Text :=
  match (body s).takeWhile (· ≠ '/') with
  | [] => none
  | cs => if cs = ['.', '.'] then none else some cs.reverse

/-- What follows the last dot of the file name. A dot in front of the whole name does not count. -/
def extension? (s : Text) : Option Text :=
  match fileName? s with
  | none => none
  | some name =>
    match splitFirst '.' name.reverse with
    | some (ext, _ :: _) => some ext.reverse
    | _ => none

end RestScaffold.FilePath
