import RestScaffold.Proofs.Text.Blanks
import RestScaffold.TypeName

/-!
# Type names written and read again

A name that was read is written down and read once more. Almost always this gives the name back:
a written name is cut where it was put together, and the blanks around it were left out before. But
when a dot has nothing in front of it, the base name behind it may begin with a blank. Such a name
is written without the dot, so its blank is now in front of the text and the second reading leaves
it out.

* `TypeName.ofText_of_cut` and `TypeName.ofText_cases`: what a text is read as;
* `TypeName.Settled`: the names that stay, and `TypeName.settle` what becomes of the others;
* `TypeName.ofText_qualified_ofText`: the second reading;
* `TypeName.settled_ofText_iff`: the texts whose names stay.
-/

namespace RestScaffold

open Text

namespace TypeName

variable {package base s : Text} {n : TypeName}

/-! ## Reading -/

/-- A text is cut at its last dot when no slash stands behind it. -/
theorem ofText_of_cut (hBase : ∀ c ∈ base, endsBase c = false) (h : trim s = package ++ '.' :: base) :
    ofText s = ⟨package, base⟩ := by
  have hReverse : (trim s).reverse = base.reverse ++ '.' :: package.reverse := by
    rw [h, List.reverse_append, List.reverse_cons, List.append_assoc]
    rfl
  have hPos : ∀ c ∈ base.reverse, (!endsBase c) = true := fun c hc => by
    rw [hBase c (List.mem_reverse.1 hc)]
    rfl
  rw [ofText, hReverse, List.dropWhile_append_of_pos hPos, List.takeWhile_append_of_pos hPos,
    List.dropWhile_cons_of_neg (by decide), List.takeWhile_cons_of_neg (by decide)]
  simp

/-- **A text is cut at a dot, or it is a base name as a whole.** -/
theorem ofText_cases (s : Text) :
    (∃ package base, trim s = package ++ '.' :: base ∧ (∀ c ∈ base, endsBase c = false) ∧
        ofText s = ⟨package, base⟩) ∨
      ofText s = ⟨[], trim s⟩ := by
  have hParts := List.takeWhile_append_dropWhile (p := (!endsBase ·)) (l := (trim s).reverse)
  cases hDrop : (trim s).reverse.dropWhile (!endsBase ·) with
  | nil => exact Or.inr (by rw [ofText, hDrop])
  | cons c front =>
    by_cases hDot : c = '.'
    · refine Or.inl ⟨front.reverse, ((trim s).reverse.takeWhile (!endsBase ·)).reverse, ?_, ?_, ?_⟩
      · rw [hDrop, hDot] at hParts
        simpa using congrArg List.reverse hParts.symm
      · intro d hd
        simpa using List.mem_takeWhile_imp (List.mem_reverse.1 hd)
      · rw [ofText, hDrop]
        exact if_pos hDot
    · refine Or.inr ?_
      rw [ofText, hDrop]
      exact if_neg hDot

theorem ofText_trim (s : Text) : ofText (trim s) = ofText s := by
  rw [ofText, ofText, trim_trim]

/-- A text without dots and slashes is a base name. -/
theorem ofText_of_base (h : ∀ c ∈ base, endsBase c = false) : ofText base = ⟨[], trim base⟩ := by
  rcases ofText_cases base with ⟨package, rest, hCut, -, -⟩ | hBase
  · have hDot : '.' ∈ trim base := by
      rw [hCut]
      exact List.mem_append_right package List.mem_cons_self
    exact absurd (h '.' (trim_subset base hDot)) (by decide)
  · exact hBase

/-! ## Reading again -/

/-- A name that is written as it was read: one without a package has no blanks around it. -/
def Settled (n : TypeName) : Prop := n.package = [] → Solid n.base

/-- The name without blanks around the base when it has no package. -/
def settle (n : TypeName) : TypeName := if n.package = [] then ⟨[], trim n.base⟩ else n

theorem settle_eq_iff : n.settle = n ↔ n.Settled := by
  unfold settle Settled
  by_cases hPackage : n.package = []
  · rw [if_pos hPackage]
    constructor
    · intro h _
      rw [← h]
      exact solid_trim n.base
    · intro h
      rw [(h hPackage).trim_eq, ← hPackage]
  · rw [if_neg hPackage]
    exact iff_of_true rfl fun h => absurd h hPackage

theorem settled_settle (n : TypeName) : n.settle.Settled := by
  unfold settle Settled
  by_cases hPackage : n.package = []
  · rw [if_pos hPackage]
    exact fun _ => solid_trim n.base
  · rw [if_neg hPackage]
    exact fun h => absurd h hPackage

/-- **What a name becomes that was read, written and read again.** -/
theorem ofText_qualified_ofText (s : Text) : ofText (ofText s).qualified = (ofText s).settle := by
  rcases ofText_cases s with ⟨package, base, hCut, hBase, hName⟩ | hName
  · rw [hName, qualified, settle]
    by_cases hPackage : package = []
    · rw [if_pos hPackage, if_pos hPackage, ofText_of_base hBase]
    · rw [if_neg hPackage, if_neg hPackage]
      have hWritten : package ++ ".".toList ++ base = trim s := by
        rw [hCut, List.append_assoc]
        rfl
      rw [hWritten, ofText_trim, hName]
  · rw [hName, qualified, settle, if_pos rfl, if_pos rfl, ofText_trim, hName, trim_trim]

/-- After one more reading a name stays as it is. -/
theorem settled_reread (s : Text) : (ofText (ofText s).qualified).Settled := by
  rw [ofText_qualified_ofText]
  exact settled_settle _

/-- Blanks around it aside, the text begins with a dot and a blank behind it, and there are no other
dots, and no slashes. -/
def DotBeforeBlank (s : Text) : Prop :=
  ∃ base, trim s = '.' :: base ∧ base.head?.any isBlank = true ∧ ∀ c ∈ base, endsBase c = false

/-- **The names that stay are those of all texts but the ones with a blank behind a first dot.** -/
theorem settled_ofText_iff : (ofText s).Settled ↔ ¬ DotBeforeBlank s := by
  constructor
  · rintro hSettled ⟨base, hCut, hBlank, hBase⟩
    have hName : ofText s = ⟨[], base⟩ := ofText_of_cut hBase hCut
    obtain ⟨c, hHead, hc⟩ := (Option.any_eq_true _ _).1 hBlank
    rw [hName] at hSettled
    rw [(hSettled rfl).head c hHead] at hc
    cases hc
  · intro hNot
    rcases ofText_cases s with ⟨package, base, hCut, hBase, hName⟩ | hName
    · rw [hName]
      rintro (rfl : package = [])
      rw [List.nil_append] at hCut
      have hSolid : Solid ('.' :: base) := hCut ▸ solid_trim s
      refine ⟨fun c hc => Bool.eq_false_iff.2 fun hBlank => ?_, fun c hc => hSolid.last c ?_⟩
      · refine hNot ⟨base, hCut, ?_, hBase⟩
        rw [show base.head? = some c from hc]
        exact hBlank
      · cases base with
        | nil => cases hc
        | cons d base => exact hc
    · rw [hName]
      exact fun _ => solid_trim s

end TypeName

end RestScaffold
