import Mathlib.Data.List.Infix
import Mathlib.Data.List.TakeWhile
import RestScaffold.Proofs.File.Tree
import RestScaffold.Proofs.Text.Segments

/-!
# Parents of paths

A path without dots is cut at its last slash, so its parent has all of its segments but the last one.
Hence what stands on the way to such a path stands in the way of a walk, too: the ancestors lead to
the locations above its place, and a path that leads somewhere goes through the directory that its
parent names.

* `FilePath.parent?_cases`: the parent of a path without dots;
* `FilePath.of_mem_ancestors`: the ancestors have the first segments of the path;
* `FileTree.place_ancestor_prefix` and `FileTree.parent_of_reaches`: what that means in a tree.
-/

namespace RestScaffold

open Text

namespace FilePath

open FileTree (DotFree)

variable {s a : Text}

/-! ## The text of a parent -/

theorem dropSpent_suffix (r : Text) : dropSpent r <:+ r := by
  fun_induction dropSpent r with
  | case1 r ih => exact ih.trans (List.suffix_cons '/' r)
  | case2 => exact List.nil_suffix
  | case3 r ih => exact ih.trans ((List.suffix_cons '/' r).trans (List.suffix_cons '.' _))
  | case4 r => exact List.suffix_refl r

theorem dropComponent_suffix (r : Text) : dropComponent r <:+ r :=
  (dropSpent_suffix _).trans ((List.drop_suffix 1 _).trans (List.dropWhile_suffix _))

/-- Behind a path without dots there is nothing to drop but slashes. -/
theorem dropSpent_of_dotFree {r : Text} (h : DotFree r.reverse) :
    dropSpent r = r.dropWhile (· = '/') := by
  fun_induction dropSpent r with
  | case1 r ih =>
    have hFree : DotFree r.reverse := by
      intro name hName
      refine h name ?_
      rw [List.reverse_cons, segments_concat_slash]
      exact hName
    rw [ih hFree]
    rfl
  | case2 => exact absurd rfl (h ['.'] (by decide)).1
  | case3 r ih =>
    -- The last segment would be a dot.
    refine absurd rfl (h ['.'] ?_).1
    rw [List.reverse_cons, List.reverse_cons, List.append_assoc, List.singleton_append,
      segments_append_slash]
    exact List.mem_append_right _ (by decide)
  | case4 r hSlash =>
    cases r with
    | nil => rfl
    | cons c r =>
      have hNe : c ≠ '/' := fun hEq => hSlash r (by rw [hEq])
      rw [List.dropWhile_cons_of_neg (by simpa using hNe)]

/-- A path without dots is a slash and what is behind it, or it is all there is. -/
theorem head_cases (h : DotFree s) : (headLength s = 1 ∧ ∃ w, s = '/' :: w) ∨
    (headLength s = 0 ∧ s.head? ≠ some '/') := by
  unfold headLength
  split
  · next w => exact Or.inl ⟨rfl, w, rfl⟩
  · exact absurd rfl (h ['.'] (by decide)).1
  · next w =>
    refine absurd rfl (h ['.'] ?_).1
    show ['.'] ∈ segments (['.'] ++ '/' :: w)
    rw [segments_append_slash]
    exact List.mem_append_left _ (by decide)
  · next hSlash _ _ =>
    refine Or.inr ⟨rfl, fun hHead => ?_⟩
    cases s with
    | nil => cases hHead
    | cons c s => exact hSlash s (by rw [Option.some.inj hHead])

/-- The last segment is what stands behind the last slash of a text that does not end in one. The
text is read from its end. -/
theorem segments_dropComponent {c : Char} {r : Text} (hSlash : c ≠ '/')
    (h : DotFree (c :: r).reverse) : ∃ name,
      segments (c :: r).reverse = segments (dropComponent (c :: r)).reverse ++ [name] := by
  have hTake : '/' ∉ (c :: r).takeWhile (· ≠ '/') := by
    intro hMem
    simpa using List.mem_takeWhile_imp hMem
  have hName : IsSegment ((c :: r).takeWhile (· ≠ '/')).reverse := by
    refine ⟨?_, fun hMem => hTake (List.mem_reverse.1 hMem)⟩
    rw [List.takeWhile_cons_of_pos (by simpa using hSlash), List.reverse_cons]
    exact List.append_ne_nil_of_right_ne_nil _ (List.cons_ne_nil _ _)
  have hSplit := List.takeWhile_append_dropWhile (p := (· ≠ '/')) (l := c :: r)
  refine ⟨((c :: r).takeWhile (· ≠ '/')).reverse, ?_⟩
  rw [dropComponent]
  cases hRest : (c :: r).dropWhile (· ≠ '/') with
  | nil =>
    rw [hRest, List.append_nil] at hSplit
    rw [hSplit] at hName
    rw [hSplit, segments_of_isSegment hName]
    rfl
  | cons slash rest =>
    have hHead : slash = '/' := by
      have hFirst := List.head_dropWhile_not (· ≠ '/') (l := c :: r) (by rw [hRest]; nofun)
      simp only [hRest, List.head_cons] at hFirst
      simpa using hFirst
    subst hHead
    rw [hRest] at hSplit
    -- The text is the rest, a slash and the last segment.
    have hWhole : (c :: r).reverse =
        rest.reverse ++ '/' :: ((c :: r).takeWhile (· ≠ '/')).reverse := by
      conv_lhs => rw [← hSplit]
      rw [List.reverse_append, List.reverse_cons, List.append_assoc]
      rfl
    have hSegments := congrArg segments hWhole
    rw [segments_append_slash, segments_of_isSegment hName] at hSegments
    have hFree : DotFree rest.reverse := by
      intro name hMem
      refine h name ?_
      rw [hSegments]
      exact List.mem_append_left _ hMem
    rw [hSegments, List.drop_one, List.tail_cons, dropSpent_of_dotFree hFree,
      segments_dropWhile_slash]

/-- **The parent of a path without dots.** It has all segments but the last one and starts where the
path starts; only a path without segments has no parent. -/
theorem parent?_cases (h : DotFree s) : (parent? s = none ∧ segments s = []) ∨
    ∃ q name, parent? s = some q ∧ segments s = segments q ++ [name] ∧ q <+: s ∧
      (q.head? = some '/' ↔ s.head? = some '/') := by
  have hHead := head_cases h
  have hText : s = s.take (headLength s) ++ s.drop (headLength s) :=
    (List.take_append_drop (headLength s) s).symm
  have hStart : ∀ w, segments (s.take (headLength s) ++ w) = segments w := by
    intro w
    rcases hHead with ⟨hLength, v, rfl⟩ | ⟨hLength, -⟩
    · rw [hLength]
      exact segments_cons_slash w
    · rw [hLength]
      rfl
  have hSegments : segments s = segments (s.drop (headLength s)) := by
    conv_lhs => rw [hText]
    exact hStart _
  have hFree : DotFree (s.drop (headLength s)).reverse.reverse := by
    intro name hName
    rw [List.reverse_reverse, ← hSegments] at hName
    exact h name hName
  have hBody : body s = (s.drop (headLength s)).reverse.dropWhile (· = '/') :=
    dropSpent_of_dotFree hFree
  have hBodySegments : segments (body s).reverse = segments s := by
    rw [hBody, segments_dropWhile_slash, List.reverse_reverse, hSegments]
  cases hCases : body s with
  | nil =>
    refine Or.inl ⟨?_, ?_⟩
    · -- A relative path that is not empty would begin with a slash.
      have hNoDot : s.head? ≠ some '.' := by
        intro hDot
        rcases hHead with ⟨-, v, rfl⟩ | ⟨hLength, -⟩
        · cases hDot
        · rw [hLength, List.drop_zero] at hBody
          rw [hCases, eq_comm, List.dropWhile_eq_nil_iff] at hBody
          have hSlash := hBody '.' (List.mem_reverse.2 (List.mem_of_head? hDot))
          simp at hSlash
      rw [parent?, hCases]
      exact if_neg hNoDot
    · rw [← hBodySegments, hCases]
      rfl
  | cons c r =>
    have hSlash : c ≠ '/' := by
      have hFirst := List.head_dropWhile_not (· = '/') (l := (s.drop (headLength s)).reverse)
        (by rw [← hBody, hCases]; exact List.cons_ne_nil c r)
      simp only [← hBody, hCases, List.head_cons] at hFirst
      simpa using hFirst
    have hFreeBody : DotFree (c :: r).reverse := by
      intro name hName
      rw [← hCases, hBodySegments] at hName
      exact h name hName
    obtain ⟨name, hName⟩ := segments_dropComponent hSlash hFreeBody
    have hPrefix : (dropComponent (c :: r)).reverse <+: s.drop (headLength s) := by
      rw [← List.reverse_suffix, List.reverse_reverse, ← hCases]
      exact (dropComponent_suffix _).trans (hBody ▸ List.dropWhile_suffix _)
    refine Or.inr ⟨_, name, by rw [parent?, hCases], ?_, ?_, ?_⟩
    · rw [hStart, ← hName, ← hCases, hBodySegments]
    · conv_rhs => rw [hText]
      exact (List.prefix_append_right_inj _).2 hPrefix
    · rcases hHead with ⟨hLength, v, rfl⟩ | ⟨hLength, hRelative⟩
      · rw [hLength]
        exact Iff.rfl
      · rw [hLength, List.drop_zero] at hPrefix
        rw [hLength, List.take_zero, List.nil_append]
        have hParent : ¬ (dropComponent (c :: r)).reverse.head? = some '/' := fun hAbsolute =>
          hRelative (head?_of_isPrefix hPrefix hAbsolute)
        exact iff_of_false hParent hRelative

/-! ## Ancestors -/

theorem ancestors_of_parent?_none (h : parent? s = none) : ancestors s = [s] := by
  rw [ancestors]
  split
  · rfl
  · next q hSome =>
    rw [h] at hSome
    cases hSome

theorem ancestors_of_parent? {q : Text} (h : parent? s = some q) :
    ancestors s = s :: ancestors q := by
  rw [ancestors]
  split
  · next hNone =>
    rw [h] at hNone
    cases hNone
  · next p hSome =>
    rw [h] at hSome
    rw [Option.some.inj hSome]

/-- **The ancestors of a path without dots have its first segments** and start where it starts. -/
theorem of_mem_ancestors (h : DotFree s) (ha : a ∈ ancestors s) :
    segments a <+: segments s ∧ (a.head? = some '/' ↔ s.head? = some '/') := by
  induction hLength : s.length using Nat.strong_induction_on generalizing s with
  | _ n ih =>
    rcases parent?_cases h with ⟨hNone, -⟩ | ⟨q, name, hSome, hSegments, -, hHead⟩
    · rw [ancestors_of_parent?_none hNone] at ha
      rw [List.mem_singleton.1 ha]
      exact ⟨List.prefix_refl _, Iff.rfl⟩
    · rw [ancestors_of_parent? hSome] at ha
      rcases List.mem_cons.1 ha with rfl | hAbove
      · exact ⟨List.prefix_refl _, Iff.rfl⟩
      · have hFree : DotFree q := by
          intro part hPart
          refine h part ?_
          rw [hSegments]
          exact List.mem_append_left _ hPart
        have hShorter : q.length < n := hLength ▸ parent?_length_lt hSome
        obtain ⟨hPrefix, hStart⟩ := ih q.length hShorter hFree hAbove rfl
        refine ⟨?_, hStart.trans hHead⟩
        rw [hSegments]
        exact hPrefix.trans (List.prefix_append _ _)

end FilePath

namespace FileTree

variable {t : FileTree} {path a q : Text}

/-! ## Parents in a tree -/

theorem place_of_dotFree (t : FileTree) (h : DotFree path) : t.place path =
    (if path.head? = some '/' then [] else t.workingDirectory) ++ segments path :=
  foldl_step_of_dotFree h

/-- What stands on the way to a path without dots leads to a location above its place. -/
theorem place_ancestor_prefix (t : FileTree) (h : DotFree path)
    (ha : a ∈ FilePath.ancestors path) : t.place a <+: t.place path := by
  obtain ⟨hSegments, hHead⟩ := FilePath.of_mem_ancestors h ha
  have hFree : DotFree a := fun name hName => h name (hSegments.subset hName)
  rw [t.place_of_dotFree h, t.place_of_dotFree hFree]
  simp only [hHead]
  exact (List.prefix_append_right_inj _).2 hSegments

/-- A walk over two lists of names is a walk over the first and then one over the second. -/
theorem walk_append_eq_ok_iff {l k : Location} {names more : List Text} :
    t.walk l (names ++ more) = .ok k ↔ ∃ m, t.walk l names = .ok m ∧ t.walk m more = .ok k := by
  induction names generalizing l with
  | nil => exact ⟨fun h => ⟨l, rfl, h⟩, fun ⟨m, hm, h⟩ => by rwa [Except.ok.inj hm]⟩
  | cons name names ih =>
    show t.walk l (name :: (names ++ more)) = .ok k ↔ _
    rw [walk_cons_eq_ok_iff, ih]
    constructor
    · rintro ⟨hDirectory, hName, m, hFirst, hSecond⟩
      exact ⟨m, walk_cons_eq_ok_iff.2 ⟨hDirectory, hName, hFirst⟩, hSecond⟩
    · rintro ⟨m, hFirst, hSecond⟩
      obtain ⟨hDirectory, hName, hRest⟩ := walk_cons_eq_ok_iff.1 hFirst
      exact ⟨hDirectory, hName, m, hRest, hSecond⟩

theorem isPath_of_isPrefix (h : IsPath path) (hPrefix : q <+: path) (hNe : q ≠ []) : IsPath q := by
  obtain ⟨rest, rfl⟩ := hPrefix
  refine ⟨?_, hNe, ?_⟩
  · have hNul := h.no_nul
    rw [← Bool.not_eq_true, List.contains_iff_mem] at hNul ⊢
    exact fun hMem => hNul (List.mem_append_left rest hMem)
  · have hLength := h.length_le
    rw [utf8, List.flatMap_append, List.length_append] at hLength
    exact Nat.le_trans (Nat.le_add_right _ _) hLength

/-- **A path that leads somewhere goes through the directory that its parent names.** -/
theorem parent_of_reaches (h : t.Reaches path) (hDots : DotFree path)
    (hParent : FilePath.parent? path = some q) : q = [] ∨ t.isDirectory q = true := by
  rcases FilePath.parent?_cases hDots with ⟨hNone, -⟩ | ⟨p, name, hSome, hSegments, hPrefix, hHead⟩
  · rw [hParent] at hNone
    cases hNone
  · obtain rfl : q = p := Option.some.inj (hParent.symm.trans hSome)
    by_cases hNe : q = []
    · exact Or.inl hNe
    · right
      obtain ⟨hIsPath, hWalk⟩ := locate_eq_ok_iff.1 h
      rw [hSegments, walk_append_eq_ok_iff] at hWalk
      obtain ⟨m, hFirst, hLast⟩ := hWalk
      have hLocate : t.locate q = .ok m := by
        refine locate_eq_ok_iff.2 ⟨isPath_of_isPrefix hIsPath hPrefix hNe, ?_⟩
        simp only [hHead]
        exact hFirst
      obtain ⟨hDirectory, -⟩ := walk_cons_eq_ok_iff.1 hLast
      unfold isDirectory lookup
      simp only [hLocate, hDirectory]

end FileTree

end RestScaffold
