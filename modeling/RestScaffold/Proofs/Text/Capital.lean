import RestScaffold.Text.Case

/-!
# Capital letters and lowercase forms

A text and the text with a capital first letter may have different lowercase forms: the capital form
of a long s is an ordinary `S`, and that of a sharp s is two letters. Such a text shares its
capitalized form with a text of another lowercase form. Texts that keep their lowercase form do not,
and `BeginsPlain.keepsLower` says that all that begin with an ASCII character or with one that has
no other capital form keep it.

The lowercase form of a text is not made character by character, since a sigma looks at what stands
before it. So what comes behind the first character is compared under two beginnings, by
`lowerFrom_congr`.
-/

namespace RestScaffold.Text

/-- Capitalizing the text does not change its lowercase form. -/
def KeepsLower (s : Text) : Prop := lower (capitalize s) = lower s

instance (s : Text) : Decidable (KeepsLower s) := inferInstanceAs (Decidable (_ = _))

/-- Of the texts that keep their lowercase form, those with one capitalized form have one lowercase
form. -/
theorem KeepsLower.lower_eq {s t : Text} (hs : KeepsLower s) (ht : KeepsLower t)
    (h : capitalize s = capitalize t) : lower s = lower t :=
  calc lower s = lower (capitalize s) := hs.symm
    _ = lower (capitalize t) := by rw [h]
    _ = lower t := ht

/-! ## What stands before a sigma -/

/-- The lowercase form of a text depends on what stands before it only through the case of words. -/
theorem lowerFrom_congr {a b : Text} (s : Text)
    (h : ∀ front, leadsCased (front ++ a) = leadsCased (front ++ b)) :
    lowerFrom a s = lowerFrom b s := by
  induction s generalizing a b with
  | nil => rfl
  | cons c s ih =>
    have hHere : leadsCased a = leadsCased b := h []
    have hRest : lowerFrom (c :: a) s = lowerFrom (c :: b) s := by
      apply ih
      intro front
      simpa using h (front ++ [c])
    simp only [lowerFrom, hHere, hRest]

/-- Two characters with the same properties of case are alike at the end of a text. -/
theorem leadsCased_concat {c d : Char}
    (hIgnorable : inRanges caseIgnorableRanges c.toNat = inRanges caseIgnorableRanges d.toNat)
    (hCased : inRanges casedRanges c.toNat = inRanges casedRanges d.toNat) (front : Text) :
    leadsCased (front ++ [c]) = leadsCased (front ++ [d]) := by
  induction front with
  | nil =>
    by_cases hSkip : inRanges caseIgnorableRanges d.toNat = true
    · simp [leadsCased, hIgnorable, hSkip]
    · simp [leadsCased, hIgnorable, hSkip, hCased]
  | cons x front ih =>
    by_cases hSkip : inRanges caseIgnorableRanges x.toNat = true
    · simpa [leadsCased, hSkip] using ih
    · simp [leadsCased, hSkip]

/-! ## Texts that keep their lowercase form -/

/-- Ranges that begin beyond ASCII do not matter for ASCII. -/
theorem inRanges_ascii {code : Nat} (h : code < 128) (ranges : List (Nat × Nat)) :
    inRanges ranges code = inRanges (ranges.filter (·.1 < 128)) code := by
  induction ranges with
  | nil => rfl
  | cons r ranges ih =>
    by_cases hFirst : r.1 < 128
    · rw [List.filter_cons_of_pos (by simpa using hFirst)]
      simp only [inRanges, List.any_cons] at ih ⊢
      rw [ih]
    · rw [List.filter_cons_of_neg (by simpa using hFirst), ← ih]
      have hOutside : decide (r.1 ≤ code) = false := decide_eq_false (by omega)
      simp only [inRanges, List.any_cons, hOutside, Bool.false_and, Bool.false_or]

theorem caseIgnorableRanges_ascii : caseIgnorableRanges.filter (·.1 < 128) =
    [(0x27, 0x27), (0x2E, 0x2E), (0x3A, 0x3A), (0x5E, 0x5E), (0x60, 0x60)] := by
  decide +kernel

theorem casedRanges_ascii :
    casedRanges.filter (·.1 < 128) = [(0x41, 0x5A), (0x61, 0x7A)] := by
  decide +kernel

/-- An ASCII letter and its capital form have one lowercase form and the same properties of case. -/
theorem toUpper_alike : ∀ code < 128, (Char.ofNat code).toUpper.toNat < 128 ∧
    lowerOf (Char.ofNat code).toUpper = lowerOf (Char.ofNat code) ∧
    inRanges (caseIgnorableRanges.filter (·.1 < 128)) (Char.ofNat code).toUpper.toNat =
      inRanges (caseIgnorableRanges.filter (·.1 < 128)) code ∧
    inRanges (casedRanges.filter (·.1 < 128)) (Char.ofNat code).toUpper.toNat =
      inRanges (casedRanges.filter (·.1 < 128)) code := by
  rw [caseIgnorableRanges_ascii, casedRanges_ascii]
  decide +kernel

/-- If the text is not empty, it begins with an ASCII character or with one that is its own capital
form. -/
def BeginsPlain : Text → Prop
  | [] => True
  | c :: _ => c.toNat < 128 ∨ upperOf c = [c]

instance : (s : Text) → Decidable (BeginsPlain s)
  | [] => inferInstanceAs (Decidable True)
  | c :: _ => inferInstanceAs (Decidable (c.toNat < 128 ∨ upperOf c = [c]))

theorem keepsLower_cons {c : Char} (h : c.toNat < 128 ∨ upperOf c = [c]) (s : Text) :
    KeepsLower (c :: s) := by
  rcases h with hAscii | hSame
  · obtain ⟨hUpper, hLower, hIgnorable, hCased⟩ := toUpper_alike c.toNat hAscii
    rw [Char.ofNat_toNat] at hUpper hLower hIgnorable hCased
    rw [← inRanges_ascii hUpper, ← inRanges_ascii hAscii] at hIgnorable hCased
    have hSigma : c.toUpper.toNat ≠ 0x3A3 ∧ c.toNat ≠ 0x3A3 := by omega
    have hRest : lowerFrom [c.toUpper] s = lowerFrom [c] s :=
      lowerFrom_congr s (leadsCased_concat hIgnorable hCased)
    have hCapital : capitalize (c :: s) = c.toUpper :: s := by
      simp only [capitalize, upperOf, if_pos hAscii, List.singleton_append]
    rw [KeepsLower, hCapital]
    simp only [lower, lowerFrom, if_neg hSigma.1, if_neg hSigma.2, hLower, hRest]
  · have hCapital : capitalize (c :: s) = c :: s := by
      simp only [capitalize, hSame, List.singleton_append]
    rw [KeepsLower, hCapital]

/-- **A text that begins plain keeps its lowercase form.** -/
theorem BeginsPlain.keepsLower {s : Text} (h : BeginsPlain s) : KeepsLower s := by
  cases s with
  | nil => rfl
  | cons c s => exact keepsLower_cons h s

end RestScaffold.Text
