import RestScaffold.Proofs.Import.Tracking

/-!
# Local names as identifiers

A local name stands in front of the names of its package, so it has to be an identifier. A path with
anything between its slashes gets one, whatever the table has names for already. A path of slashes
has no segments that a name could be made of: it gets the empty name, or a number when another path
of slashes has that.

* `ImportTable.IsIdentifier`: small letters, digits and underscores, with no digit in front;
* `ImportTable.NamedAs`: the names that paths may have, which `ImportTable.freshName_namedAs` gives
  and `ImportTable.WellNamed.register` keeps;
* `ImportTable.isIdentifier_localName_iff`: which paths are named by identifiers.
-/

namespace RestScaffold

open Text

namespace ImportTable

variable {t : ImportTable} {path : Text}

/-! ## Identifiers -/

/-- The characters that an identifier may begin with. -/
def isLocalNameStart (c : Char) : Bool := c.isLower || c = '_'

/-- An identifier of small letters, digits and underscores, which does not begin with a digit. -/
structure IsIdentifier (name : Text) : Prop where
  head : name.head?.any isLocalNameStart = true
  chars : ∀ c ∈ name, isLocalNameChar c = true

theorem isIdentifier_iff {name : Text} : IsIdentifier name ↔
    (name.head?.any isLocalNameStart && name.all isLocalNameChar) = true := by
  rw [Bool.and_eq_true, List.all_eq_true]
  exact ⟨fun h => ⟨h.head, h.chars⟩, fun h => ⟨h.1, h.2⟩⟩

instance (name : Text) : Decidable (IsIdentifier name) :=
  decidable_of_iff _ isIdentifier_iff.symm

theorem isLocalNameStart_of_not_digit {c : Char} (h : isLocalNameChar c = true)
    (hDigit : c.isDigit = false) : isLocalNameStart c = true := by
  simpa [isLocalNameChar, isLocalNameStart, hDigit] using h

theorem not_isLocalNameStart_of_digit {c : Char} (h : c.isDigit = true) :
    isLocalNameStart c = false := by
  have hCodes := isDigit_iff.1 h
  rw [isLocalNameStart, Bool.or_eq_false_iff, decide_eq_false_iff_not]
  refine ⟨Bool.eq_false_iff.2 fun hLower => ?_, ?_⟩
  · have hLetters := isLower_iff.1 hLower
    omega
  · rintro rfl
    exact absurd hCodes (by decide)

/-- **What is made of a text is an identifier,** since a word stands in front where it would not
begin like one. -/
theorem isIdentifier_identifier (s : Text) : IsIdentifier (identifier s) := by
  have hName := isLocalName_identifier s
  refine ⟨?_, hName.chars⟩
  unfold identifier at hName ⊢
  generalize (s.filter isNameChar).map Char.toLower = name at hName ⊢
  dsimp only at hName ⊢
  by_cases hDigit : name.head?.all Char.isDigit = true
  · rw [if_pos hDigit]
    rfl
  · rw [if_neg hDigit] at hName ⊢
    cases name with
    | nil => exact absurd rfl hDigit
    | cons c name =>
      exact isLocalNameStart_of_not_digit (hName.chars c List.mem_cons_self)
        (Bool.eq_false_iff.2 hDigit)

/-- A number behind an identifier leaves it one. -/
theorem IsIdentifier.append_ofNat {name : Text} (h : IsIdentifier name) (i : Nat) :
    IsIdentifier (name ++ ofNat i) where
  head := by
    obtain ⟨c, hHead, hStart⟩ := (Option.any_eq_true _ _).1 h.head
    rw [List.head?_append, hHead]
    exact hStart
  chars := (IsLocalName.append_ofNat h.chars i).chars

/-- A bare number is no identifier. -/
theorem not_isIdentifier_ofNat (i : Nat) : ¬ IsIdentifier (ofNat i) := by
  intro h
  obtain ⟨c, hHead, hStart⟩ := (Option.any_eq_true _ _).1 h.head
  have hDigit : c.isDigit = true :=
    Nat.isDigit_of_mem_toDigits (by decide) (by decide) (List.mem_of_mem_head? hHead)
  rw [not_isLocalNameStart_of_digit hDigit] at hStart
  cases hStart

/-! ## Names of paths -/

/-- The name is one that the path may have: an identifier if it has segments, else the empty name or
a number from 2 up. -/
def NamedAs (path name : Text) : Prop :=
  (∃ c ∈ path, c ≠ '/') ∧ IsIdentifier name ∨
    (∀ c ∈ path, c = '/') ∧ (name = [] ∨ ∃ i, 2 ≤ i ∧ name = ofNat i)

/-- A name that is made of segments is an identifier, whether it has a number or not. -/
theorem NewName.isIdentifier {name : Text} (h : t.NewName path name) : IsIdentifier name := by
  cases h with
  | suffix n => exact isIdentifier_identifier _
  | numbered i => exact (isIdentifier_identifier _).append_ofNat i

/-- **A new name is one that its path may have,** on each way to it. -/
theorem freshName_namedAs (t : ImportTable) (path : Text) : NamedAs path (t.freshName path) := by
  by_cases hSegments : segments path = []
  · -- There is no run of segments to try, so the number is put behind nothing.
    refine Or.inr ⟨segments_eq_nil_iff.1 hSegments, ?_⟩
    have hNone : suffixNames path = [] := by rw [suffixNames_eq, hSegments]; rfl
    have hLongest : longestName path = [] := by rw [longestName, hNone]; rfl
    rw [freshName_of_find?_eq_none (by rw [hNone]; rfl)]
    split
    · obtain ⟨i, hNumber, -, hName, -⟩ := t.exists_numberFrom (longestName path) 2
        (t.takenBelow_two _)
      exact Or.inr ⟨i, hNumber, by rw [hName, hLongest]; rfl⟩
    · exact Or.inl hLongest
  · refine Or.inl ⟨?_, ?_⟩
    · simpa only [segments_eq_nil_iff, not_forall, exists_prop] using hSegments
    · exact (t.newName_freshName hSegments).isIdentifier

theorem NamedAs.isIdentifier_iff {name : Text} (h : NamedAs path name) :
    IsIdentifier name ↔ ∃ c ∈ path, c ≠ '/' := by
  rcases h with ⟨hSegment, hName⟩ | ⟨hSlashes, hName⟩
  · exact iff_of_true hName hSegment
  · refine iff_of_false ?_ fun ⟨c, hc, hNe⟩ => hNe (hSlashes c hc)
    rcases hName with rfl | ⟨i, -, rfl⟩
    · exact fun h => absurd h.head (by decide)
    · exact not_isIdentifier_ofNat i

/-! ## Tables that were filled path by path -/

/-- Every path of the table has a name that it may have. -/
def WellNamed (t : ImportTable) : Prop :=
  ∀ path name, t.names.get? path = some name → NamedAs path name

theorem wellNamed_empty : ({} : ImportTable).WellNamed := nofun

/-- A path gets a name that it may have, whether it is new or not. -/
theorem WellNamed.namedAs (h : t.WellNamed) (path : Text) : NamedAs path (t.localName path).1 := by
  cases hPath : t.names.get? path with
  | some name =>
    rw [localName_of_get? hPath]
    exact h path name hPath
  | none =>
    rw [localName_of_get?_none hPath]
    exact t.freshName_namedAs path

theorem WellNamed.localName (h : t.WellNamed) (path : Text) : (t.localName path).2.WellNamed := by
  intro other name hName
  rw [get?_localName] at hName
  by_cases hOther : other = path
  · rw [if_pos hOther] at hName
    rw [hOther, ← Option.some.inj hName]
    exact h.namedAs path
  · rw [if_neg hOther] at hName
    exact h other name hName

theorem WellNamed.register (h : t.WellNamed) (paths : List Text) :
    (t.register paths).WellNamed := by
  induction paths generalizing t with
  | nil => exact h
  | cons path paths ih => exact ih (h.localName path)

/-- **Which paths are named by identifiers.** Whatever paths got names before, a path gets an
identifier when it has a character other than a slash. Else it gets the empty name or a number. -/
theorem isIdentifier_localName_iff (calls : List Text) (path : Text) :
    (IsIdentifier ((({} : ImportTable).register calls).localName path).1 ↔ ∃ c ∈ path, c ≠ '/') ∧
      ((∀ c ∈ path, c = '/') →
        ((({} : ImportTable).register calls).localName path).1 = [] ∨
          ∃ i, 2 ≤ i ∧ ((({} : ImportTable).register calls).localName path).1 = ofNat i) := by
  have hNamed := (wellNamed_empty.register calls).namedAs path
  refine ⟨hNamed.isIdentifier_iff, fun hSlashes => ?_⟩
  rcases hNamed with ⟨⟨c, hc, hNe⟩, -⟩ | ⟨-, hName⟩
  · exact absurd (hSlashes c hc) hNe
  · exact hName

/-- Punctuation makes no name, so a word does, and then a number with it; a path of slashes gets a
bare number when another one has the empty name. -/
theorem isIdentifier_localName_iff_punctuation :
    IsIdentifier ((({} : ImportTable).register ["-.-", "/"]).localName "../3d").1 ∧
      ((({} : ImportTable).register ["-.-", "/"]).localName "é").1 = "pkg2" ∧
      IsIdentifier ((({} : ImportTable).register ["-.-", "/"]).localName "é").1 ∧
      ((({} : ImportTable).register ["-.-", "/"]).localName "//").1 = ofNat 2 ∧
      ¬ IsIdentifier ((({} : ImportTable).register ["-.-", "/"]).localName "//").1 := by
  refine ⟨(isIdentifier_localName_iff ["-.-", "/"] "../3d").1.2 ⟨'3', by decide, by decide⟩,
    by decide +kernel, (isIdentifier_localName_iff ["-.-", "/"] "é").1.2 ⟨'é', by decide, by decide⟩,
    by decide +kernel, fun h => ?_⟩
  obtain ⟨c, hc, hNe⟩ := (isIdentifier_localName_iff ["-.-", "/"] "//").1.1 h
  simp at hc
  exact hNe hc

/-- A path that is not blank may get a name that is no identifier. -/
theorem not_forall_isIdentifier : ¬ ∀ (calls : List Text) (path : Text),
    (∀ call ∈ calls, isBlankText call = false) → isBlankText path = false →
      IsIdentifier ((({} : ImportTable).register calls).localName path).1 := by
  intro h
  exact absurd (h [] "/" nofun (by decide)) (by decide)

end ImportTable

end RestScaffold
