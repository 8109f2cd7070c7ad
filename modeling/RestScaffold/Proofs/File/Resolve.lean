import RestScaffold.File.Path
import RestScaffold.Proofs.Text.Segments

/-!
# Paths below a base

What a path names can be found out without a file system, as far as its text goes: empty segments
and single dots do not count, and a double dot takes back the segment in front of it. A path that is
joined to a base goes on where the base ends, unless it is absolute, so whether it stays below the
base is a matter of how deep its own segments go.

* `FilePath.segments_join`: the segments of a joined path;
* `FilePath.normal` and `FilePath.resolved`: paths without single dots, and without double dots;
* `FilePath.level?`: how deep a walk is, unless it has left the directory that it started in;
* `FilePath.inside_join_iff`: which paths stay below every base that they are joined to.
-/

namespace RestScaffold.FilePath

open Text

variable {base relative : Text} {stack : List Text} {n m : Nat} {rooted : Bool}

/-! ## Joined paths -/

/-- Whether the path starts at the root. -/
def isRooted (path : Text) : Bool := path.head? = some '/'

theorem join_of_rooted (h : isRooted relative = true) : join base relative = relative := by
  have hHead : relative.head? = some '/' := of_decide_eq_true h
  rw [join, hHead]
  rfl

theorem join_nil (relative : Text) : join [] relative = relative := by
  unfold join
  split
  · split <;> rfl
  · next h => simp at h

/-- **The segments of a joined path** are those of its parts. -/
theorem segments_join (h : isRooted relative = false) :
    segments (join base relative) = segments base ++ segments relative := by
  have hHead : relative.head? ≠ some '/' := of_decide_eq_false h
  by_cases hBase : base = []
  · rw [hBase, join_nil]
    rfl
  by_cases hLast : base.getLast? = some '/'
  · obtain ⟨front, rfl⟩ := List.getLast?_eq_some_iff.1 hLast
    rw [join, if_pos (by simp), if_neg hHead, List.append_assoc, List.singleton_append,
      segments_append_slash, segments_concat_slash]
  · rw [join, if_neg (by simp [hHead, hBase, hLast]), segments_append_slash]

theorem isRooted_join (h : isRooted relative = false) :
    isRooted (join base relative) = isRooted base := by
  have hHead : relative.head? ≠ some '/' := of_decide_eq_false h
  cases base with
  | nil =>
    rw [join_nil, h]
    rfl
  | cons c base =>
    rw [join, if_neg hHead]
    split <;> rfl

theorem isRooted_joinWith {parts : List Text} (h : ∀ part ∈ parts, IsSegment part) :
    isRooted (joinWith "/" parts) = false := by
  cases parts with
  | nil => rfl
  | cons part parts =>
    obtain ⟨hNe, hSlash⟩ := h part List.mem_cons_self
    obtain ⟨c, rest, rfl⟩ := List.exists_cons_of_ne_nil hNe
    have hFirst : c ≠ '/' := fun hEq => hSlash (hEq ▸ List.mem_cons_self)
    have hHead : (joinWith "/" ((c :: rest) :: parts)).head? = some c := by
      cases parts <;> rfl
    refine decide_eq_false ?_
    rw [hHead]
    exact fun hEq => hFirst (Option.some.inj hEq)

theorem isRooted_append (a : Text) {b : Text} (h : isRooted b = false) :
    isRooted (a ++ b) = isRooted a := by
  cases a with
  | nil => exact h
  | cons c a => rfl

/-! ## Single dots -/

/-- The segments of a path without single dots. -/
def names (path : Text) : List Text := (segments path).filter (· ≠ ".")

/-- What is left of a path when empty segments and single dots are dropped. -/
def normal (path : Text) : Bool × List Text := (isRooted path, names path)

theorem normal_join (h : isRooted relative = false) :
    normal (join base relative) = (isRooted base, names base ++ names relative) := by
  rw [normal, isRooted_join h, names, segments_join h, List.filter_append]
  rfl

theorem filter_singleton_of_ne {name : Text} (h : name ≠ ".") :
    [name].filter (· ≠ ".".toList) = [name] := by
  rw [List.filter_cons_of_pos (by simpa using h), List.filter_nil]

theorem names_of_isSegment {name : Text} (h : IsSegment name) (hDot : name ≠ ".") :
    names name = [name] := by
  rw [names, segments_of_isSegment h, filter_singleton_of_ne hDot]

/-- What is written behind a path belongs to its last segment, which counts from then on. -/
theorem exists_names_append (a : Text) : ∃ front last,
    names a = front ++ ([last].filter (· ≠ [])).filter (· ≠ ".".toList) ∧
      ∀ b, '/' ∉ b → 2 ≤ b.length → names (a ++ b) = front ++ [last ++ b] := by
  obtain ⟨front, last, -, hWhole, hMore⟩ := exists_segments_append a
  refine ⟨front.filter (· ≠ ".".toList), last, ?_, fun b hSlash hLength => ?_⟩
  · rw [names, hWhole, List.filter_append]
  · have hNe : b ≠ [] := by
      rintro rfl
      exact absurd hLength (by decide)
    have hShort : ".".toList.length < b.length := hLength
    have hDot : last ++ b ≠ "." := append_ne_of_length_lt hShort last
    rw [names, hMore b hSlash hNe, List.filter_append, filter_singleton_of_ne hDot]

/-! ## Double dots -/

/-- What a segment makes of the segments in front of it, which are read from the end. -/
def resolveStep (rooted : Bool) (stack : List Text) (name : Text) : List Text :=
  if name = "." then stack
  else if name = ".." then
    match stack with
    | [] => if rooted then [] else [".."]
    | last :: rest => if last = ".." then ".." :: last :: rest else rest
  else name :: stack

/-- The segments of a path when single dots are dropped and each double dot takes back the segment
in front of it. Above the root there is nothing to go to. -/
def resolved (path : Text) : List Text :=
  ((segments path).foldl (resolveStep (isRooted path)) []).reverse

/-- The path lies below the base, as far as their texts go. -/
def Inside (base path : Text) : Prop :=
  isRooted path = isRooted base ∧
    ∃ rest, rest ≠ [] ∧ "..".toList ∉ rest ∧ resolved path = resolved base ++ rest

theorem resolveStep_dot : resolveStep rooted stack "." = stack := if_pos rfl

theorem resolveStep_dots_cons {last : Text} (h : last ≠ "..") :
    resolveStep rooted (last :: stack) ".." = stack := if_neg h

theorem resolveStep_of_ne {name : Text} (hDot : name ≠ ".") (hDots : name ≠ "..") :
    resolveStep rooted stack name = name :: stack := (if_neg hDot).trans (if_neg hDots)

/-- A double dot in front of all segments is not taken back. -/
theorem getLast?_resolveStep (h : stack.getLast? = some "..".toList) (name : Text) :
    (resolveStep rooted stack name).getLast? = some "..".toList := by
  cases stack with
  | nil => cases h
  | cons last rest =>
    by_cases hDot : name = "."
    · rw [hDot, resolveStep_dot]
      exact h
    by_cases hDots : name = ".."
    · rw [hDots]
      by_cases hLast : last = ".."
      · have hPush : resolveStep rooted (last :: rest) ".." = "..".toList :: last :: rest :=
          if_pos hLast
        rw [hPush, List.getLast?_cons_cons]
        exact h
      · rw [resolveStep_dots_cons hLast]
        cases rest with
        | nil => exact absurd (Option.some.inj h) hLast
        | cons next rest => rwa [List.getLast?_cons_cons] at h
    · rw [resolveStep_of_ne hDot hDots, List.getLast?_cons_cons]
      exact h

theorem getLast?_foldl (h : stack.getLast? = some "..".toList) (walk : List Text) :
    (walk.foldl (resolveStep rooted) stack).getLast? = some "..".toList := by
  induction walk generalizing stack with
  | nil => exact h
  | cons name walk ih => exact ih (getLast?_resolveStep h name)

/-! ## Walks -/

/-- How deep a segment leads from a depth. There is no way up from the depth zero. -/
def levelStep? (n : Nat) (name : Text) : Option Nat :=
  if name = "." then some n
  else if name = ".." then
    match n with
    | 0 => none
    | n + 1 => some n
  else some (n + 1)

/-- How deep a walk along some segments is at its end, from a depth on. There is no answer when it
leaves the directory that it started in. -/
def level? (n : Nat) (walk : List Text) : Option Nat := walk.foldlM levelStep? n

theorem level?_cons (n : Nat) (name : Text) (walk : List Text) :
    level? n (name :: walk) = (levelStep? n name).bind (level? · walk) := List.foldlM_cons

theorem level?_append (n : Nat) (walk more : List Text) :
    level? n (walk ++ more) = (level? n walk).bind (level? · more) := List.foldlM_append

theorem levelStep?_of_ne {name : Text} (hDot : name ≠ ".") (hDots : name ≠ "..") (n : Nat) :
    levelStep? n name = some (n + 1) := (if_neg hDot).trans (if_neg hDots)

/-- A name that is not made of dots leads one level down. -/
theorem level?_singleton {name : Text} (hDot : name ≠ ".") (hDots : name ≠ "..") (n : Nat) :
    level? n [name] = some (n + 1) := by
  rw [level?_cons, levelStep?_of_ne hDot hDots]
  rfl

/-- Without double dots a walk does not leave. -/
theorem exists_level?_of_not_mem {walk : List Text} (h : "..".toList ∉ walk) (n : Nat) :
    ∃ m, level? n walk = some m := by
  induction walk generalizing n with
  | nil => exact ⟨n, rfl⟩
  | cons name walk ih =>
    rw [List.mem_cons, not_or] at h
    have hStep : ∃ next, levelStep? n name = some next := by
      by_cases hDot : name = "."
      · exact ⟨n, if_pos hDot⟩
      · exact ⟨n + 1, levelStep?_of_ne hDot (Ne.symm h.1) n⟩
    obtain ⟨next, hStep⟩ := hStep
    rw [level?_cons, hStep]
    exact ih h.2 next

/-- A step that has a level changes only the segments that the walk has added. -/
theorem resolveStep_of_levelStep? (rooted : Bool) {above : List Text} {name : Text}
    (hAbove : "..".toList ∉ above)
    (h : levelStep? above.length name = some m) (below : List Text) :
    ∃ above', above'.length = m ∧ "..".toList ∉ above' ∧
      resolveStep rooted (above ++ below) name = above' ++ below := by
  by_cases hDot : name = "."
  · rw [hDot] at h ⊢
    exact ⟨above, Option.some.inj h, hAbove, resolveStep_dot⟩
  by_cases hDots : name = ".."
  · rw [hDots] at h ⊢
    cases above with
    | nil => cases h
    | cons last above =>
      rw [List.mem_cons, not_or] at hAbove
      exact ⟨above, Option.some.inj h, hAbove.2, resolveStep_dots_cons (Ne.symm hAbove.1)⟩
  · rw [levelStep?_of_ne hDot hDots] at h
    have hMore : "..".toList ∉ name :: above :=
      List.not_mem_cons_of_ne_of_not_mem (Ne.symm hDots) hAbove
    exact ⟨name :: above, Option.some.inj h, hMore, resolveStep_of_ne hDot hDots⟩

/-- **A walk that does not leave** adds segments to those that it started with. -/
theorem foldl_of_level? (rooted : Bool) {walk above : List Text} (hAbove : "..".toList ∉ above)
    (h : level? above.length walk = some m) (below : List Text) :
    ∃ above', above'.length = m ∧ "..".toList ∉ above' ∧
      walk.foldl (resolveStep rooted) (above ++ below) = above' ++ below := by
  induction walk generalizing above with
  | nil => exact ⟨above, Option.some.inj h, hAbove, rfl⟩
  | cons name walk ih =>
    rw [level?_cons] at h
    obtain ⟨next, hStep, hRest⟩ := Option.bind_eq_some_iff.1 h
    obtain ⟨above', rfl, hAbove', hResolve⟩ := resolveStep_of_levelStep? rooted hAbove hStep below
    rw [List.foldl_cons, hResolve]
    exact ih hAbove' hRest

/-- **A relative walk that leaves** has a double dot in front of it for good. -/
theorem getLast?_foldl_of_level? {walk : List Text} (hStack : "..".toList ∉ stack)
    (h : level? stack.length walk = none) :
    (walk.foldl (resolveStep false) stack).getLast? = some "..".toList := by
  induction walk generalizing stack with
  | nil => cases h
  | cons name walk ih =>
    rw [level?_cons] at h
    rw [List.foldl_cons]
    cases hStep : levelStep? stack.length name with
    | some next =>
      rw [hStep] at h
      obtain ⟨stack', rfl, hStack', hResolve⟩ :=
        resolveStep_of_levelStep? false hStack hStep []
      rw [List.append_nil, List.append_nil] at hResolve
      rw [hResolve]
      exact ih hStack' h
    | none =>
      -- Only a double dot at the depth zero leads nowhere.
      have hTop : resolveStep false stack name = ["..".toList] := by
        by_cases hDot : name = "."
        · rw [hDot] at hStep
          cases hStep
        by_cases hDots : name = ".."
        · rw [hDots] at hStep ⊢
          cases stack with
          | nil => rfl
          | cons last rest => cases hStep
        · rw [levelStep?_of_ne hDot hDots] at hStep
          cases hStep
      rw [hTop]
      exact getLast?_foldl rfl walk

/-- The path is relative, stays below where it starts and ends deeper. -/
def Descends (relative : Text) : Prop :=
  isRooted relative = false ∧ ∃ m, level? 0 (segments relative) = some (m + 1)

theorem resolved_join (h : isRooted relative = false) : resolved (join base relative) =
    ((segments relative).foldl (resolveStep (isRooted base)) (resolved base).reverse).reverse := by
  rw [resolved, resolved, isRooted_join h, segments_join h, List.foldl_append, List.reverse_reverse]

/-- **Which paths stay below every base.** -/
theorem inside_join_iff : (∀ base, Inside base (join base relative)) ↔ Descends relative := by
  constructor
  · intro hInside
    obtain ⟨hRooted, rest, hNe, hRest, hResolved⟩ := hInside "."
    have hRelative : isRooted relative = false := by
      refine Bool.eq_false_iff.2 fun hAbsolute => ?_
      rw [join_of_rooted hAbsolute, hAbsolute] at hRooted
      revert hRooted
      decide
    refine ⟨hRelative, ?_⟩
    have hStack : (segments relative).foldl (resolveStep false) [] = rest.reverse := by
      rw [resolved_join hRelative] at hResolved
      exact List.reverse_eq_iff.1 hResolved
    cases hLevel : level? 0 (segments relative) with
    | none =>
      have hLast := getLast?_foldl_of_level? List.not_mem_nil hLevel
      rw [hStack] at hLast
      exact absurd (List.mem_reverse.1 (List.mem_of_getLast? hLast)) hRest
    | some m =>
      obtain ⟨above, rfl, -, hFold⟩ :=
        foldl_of_level? false List.not_mem_nil hLevel []
      rw [List.append_nil, List.append_nil, hStack] at hFold
      cases above with
      | nil => exact absurd (List.reverse_eq_nil_iff.1 hFold) hNe
      | cons name above => exact ⟨above.length, rfl⟩
  · rintro ⟨hRelative, m, hLevel⟩ base
    obtain ⟨above, hLength, hAbove, hFold⟩ := foldl_of_level? (isRooted base)
      List.not_mem_nil hLevel (resolved base).reverse
    refine ⟨isRooted_join hRelative, above.reverse, ?_, ?_, ?_⟩
    · intro hNil
      rw [List.reverse_eq_nil_iff.1 hNil] at hLength
      cases hLength
    · exact fun hMem => hAbove (List.mem_reverse.1 hMem)
    · rw [List.nil_append] at hFold
      rw [resolved_join hRelative, hFold, List.reverse_append, List.reverse_reverse]

end RestScaffold.FilePath
