import RestScaffold.Text.Basic

/-!
# Classes of ASCII characters

Letters and digits are ranges of code points, so that what is said of them is a matter of numbers.
-/

namespace RestScaffold.Text

theorem isUpper_iff {c : Char} : c.isUpper = true ↔ 65 ≤ c.toNat ∧ c.toNat ≤ 90 :=
  decide_eq_true_iff

theorem isLower_iff {c : Char} : c.isLower = true ↔ 97 ≤ c.toNat ∧ c.toNat ≤ 122 := by
  show (decide ('a'.val ≤ c.val) && decide (c.val ≤ 'z'.val)) = true ↔ _
  rw [Bool.and_eq_true, decide_eq_true_iff, decide_eq_true_iff]
  exact Iff.rfl

theorem isDigit_iff {c : Char} : c.isDigit = true ↔ 48 ≤ c.toNat ∧ c.toNat ≤ 57 := by
  show (decide ('0'.val ≤ c.val) && decide (c.val ≤ '9'.val)) = true ↔ _
  rw [Bool.and_eq_true, decide_eq_true_iff, decide_eq_true_iff]
  exact Iff.rfl

theorem isAlphanum_iff {c : Char} :
    c.isAlphanum = true ↔ (c.isUpper = true ∨ c.isLower = true) ∨ c.isDigit = true := by
  show ((c.isUpper || c.isLower) || c.isDigit) = true ↔ _
  rw [Bool.or_eq_true, Bool.or_eq_true]

/-- Capital letters become small letters, and nothing else changes. -/
theorem toNat_toLower (c : Char) :
    c.toLower.toNat = if c.isUpper then c.toNat + 32 else c.toNat := by
  by_cases hUpper : c.isUpper = true
  · rw [if_pos hUpper]
    have hBounds := isUpper_iff.1 hUpper
    have hLower : c.toLower.val = c.val + 32 := congrArg Char.val (dif_pos hBounds)
    show c.toLower.val.toNat = c.val.toNat + 32
    rw [hLower, UInt32.toNat_add]
    have hOffset : (32 : UInt32).toNat = 32 := rfl
    have hCode : c.toNat = c.val.toNat := rfl
    omega
  · rw [if_neg hUpper]
    exact congrArg Char.toNat (dif_neg (mt isUpper_iff.2 hUpper))

end RestScaffold.Text
