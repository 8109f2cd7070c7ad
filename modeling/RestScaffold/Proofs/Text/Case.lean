import RestScaffold.Import.Line
import RestScaffold.Text.Case

/-!
# Lowercase forms without blanks and quotes

A text in which no character is blank or a double quote has a lowercase form of this kind. Beyond
ASCII this is a property of the case tables: no run of the lowercase mappings reaches a blank, which
is checked run by run, since the image of a run lies between the images of its ends.
-/

namespace RestScaffold.Text

/-- The code points of the blanks and of the double quote. -/
def unplainCodes : List Nat :=
  [9, 10, 11, 12, 13, 0x20, 0x22, 0x85, 0xA0, 0x1680, 0x2000, 0x2001, 0x2002, 0x2003, 0x2004,
    0x2005, 0x2006, 0x2007, 0x2008, 0x2009, 0x200A, 0x2028, 0x2029, 0x202F, 0x205F, 0x3000]

/-- No character of the text is blank or a double quote. -/
def Plain (s : Text) : Prop := ∀ c ∈ s, isBlank c = false ∧ c ≠ ImportLine.quote

instance (s : Text) : Decidable (Plain s) := List.decidableBAll _ s

theorem plain_iff {s : Text} : Plain s ↔ ∀ c ∈ s, c.toNat ∉ unplainCodes := by
  refine forall₂_congr fun c _ => ?_
  have hQuote : c ≠ ImportLine.quote ↔ c.toNat ≠ 0x22 :=
    not_congr ⟨fun h => h ▸ rfl, fun h => Char.toNat_inj.1 h⟩
  rw [hQuote]
  simp only [isBlank, unplainCodes, Bool.or_eq_false_iff, Bool.and_eq_false_iff,
    decide_eq_false_iff_not, beq_eq_false_iff_ne, List.mem_cons, List.not_mem_nil, not_or, or_false]
  constructor <;> intro h <;> omega

theorem toNat_ofNat_not_unplain {code : Nat} (h : code ∉ unplainCodes) :
    (Char.ofNat code).toNat ∉ unplainCodes := by
  unfold Char.ofNat
  by_cases hValid : code.isValidChar
  · rw [dif_pos hValid]
    exact h
  · rw [dif_neg hValid]
    decide

/-- The images of the lowercase runs lie beside the blanks and the quote. -/
theorem lowerRuns_beside : ∀ r ∈ lowerRuns, ∀ code ∈ unplainCodes,
    (code : Int) < r.first + r.offset ∨ r.last + r.offset < (code : Int) := by
  decide +kernel

theorem lookup_lowerRuns_not_unplain {code : Nat} (h : code ∉ unplainCodes) :
    CaseRun.lookup lowerRuns code ∉ unplainCodes := by
  unfold CaseRun.lookup
  cases hImage : lowerRuns.findSome? (·.image? code) with
  | none => exact h
  | some image =>
    obtain ⟨r, hr, hEq⟩ := List.exists_of_findSome?_eq_some hImage
    unfold CaseRun.image? at hEq
    split at hEq
    · next hIn =>
      have hShift : Int.toNat (code + r.offset) = image := Option.some.inj hEq
      intro (hMem : image ∈ unplainCodes)
      have hBeside := lowerRuns_beside r hr image hMem
      have hPositive : image ≠ 0 := fun hZero => absurd (hZero ▸ hMem) (by decide)
      omega
    · cases hEq

/-- ASCII letters become small letters, and nothing else changes. -/
theorem toLower_not_unplain : ∀ code < 128, code ∉ unplainCodes →
    (Char.ofNat code).toLower.toNat ∉ unplainCodes := by
  decide +kernel

theorem plain_lowerOf {c : Char} (h : c.toNat ∉ unplainCodes) : Plain (lowerOf c) := by
  rw [plain_iff]
  unfold lowerOf
  by_cases hAscii : c.toNat < 128
  · rw [if_pos hAscii, List.forall_mem_singleton]
    have hLower := toLower_not_unplain c.toNat hAscii h
    rwa [Char.ofNat_toNat] at hLower
  · rw [if_neg hAscii]
    by_cases hDotted : c.toNat = 0x130
    · rw [if_pos hDotted]
      exact List.forall_mem_cons.2 ⟨by decide, List.forall_mem_singleton.2 (by decide)⟩
    · rw [if_neg hDotted, List.forall_mem_singleton]
      exact toNat_ofNat_not_unplain (lookup_lowerRuns_not_unplain h)

theorem Plain.append {s t : Text} (hs : Plain s) (ht : Plain t) : Plain (s ++ t) :=
  fun c hc => (List.mem_append.1 hc).elim (hs c) (ht c)

theorem plain_lowerFrom {s : Text} (h : Plain s) (before : Text) : Plain (lowerFrom before s) := by
  induction s generalizing before with
  | nil => exact fun c hc => absurd hc List.not_mem_nil
  | cons c s ih =>
    have hRest : Plain s := fun x hx => h x (List.mem_cons_of_mem c hx)
    refine Plain.append ?_ (ih hRest (c :: before))
    by_cases hSigma : c.toNat = 0x3A3
    · rw [if_pos hSigma, plain_iff, List.forall_mem_singleton]
      split <;> decide
    · rw [if_neg hSigma]
      exact plain_lowerOf (plain_iff.1 h c List.mem_cons_self)

/-- **The lowercase form of a plain text is plain.** -/
theorem Plain.lower {s : Text} (h : Plain s) : Plain (lower s) := plain_lowerFrom h []

end RestScaffold.Text
