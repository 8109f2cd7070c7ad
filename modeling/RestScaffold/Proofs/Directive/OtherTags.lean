import RestScaffold.Proofs.Directive.Block

/-!
# Tags of others

A comment line that begins with a plus sign is a tag, and the key behind the sign tells whose it is.
A line with a key of another family should say nothing to a block that it is put into. It does say
nothing when its key does not begin like the family's, whatever follows the key. When it does begin
like that, the line is read like one of the family: it is passed over if the key ends the line or an
equals sign and a text without line breaks follow, and else the whole block is refused for it.

* `Directive.OtherTag`: the tags with keys of other families;
* `Directive.read_of_otherTag`: what is read of such a line by itself;
* `Directive.ofLines_insert`: a line that says nothing may stand anywhere;
* `DirectiveSet.ofLines_insert_otherTag`: which tags of others are passed over.
-/

namespace RestScaffold

open Text

namespace Directive

variable {line key : Text} {value : Option Text} {front back : List Text}

/-! ## One line -/

/-- The line is a tag of others: the characters of a key that stand behind its plus sign, as many as
there are, make no key of the family. Anything may stand behind them. -/
structure OtherTag (line : Text) : Prop where
  marked : line.head? = some marker
  outside : ¬ InFamily (line.tail.takeWhile isKeyChar)

/-- What stands behind the characters of the key is nothing, or it begins with an equals sign and has
no line break. -/
def KeyEnds (line : Text) : Prop :=
  line.tail.dropWhile isKeyChar = [] ∨
    (line.tail.dropWhile isKeyChar).head? = some '=' ∧ '\n' ∉ line.tail.dropWhile isKeyChar

/-- The line does not begin like those of the family, or its key ends as a key should. -/
def PassedOver (line : Text) : Prop := LooksLike line → KeyEnds line

instance (key : Text) : Decidable (InFamily key) :=
  decidable_of_iff (key = familyKey ∨ startsWith (extensionKey []) key = true)
    (or_congr_right startsWith_extensionKey_iff)

instance (line : Text) : Decidable (OtherTag line) :=
  decidable_of_iff (line.head? = some marker ∧ ¬ InFamily (line.tail.takeWhile isKeyChar))
    ⟨fun h => ⟨h.1, h.2⟩, fun h => ⟨h.marked, h.outside⟩⟩

instance (line : Text) : Decidable (KeyEnds line) := inferInstanceAs (Decidable (_ ∨ _))

instance (line : Text) : Decidable (PassedOver line) :=
  decidable_of_iff (startsWith (marker :: familyKey) line = true → KeyEnds line)
    (imp_congr_left looksLike_iff)

theorem Gives.keyEnds (h : Gives line key value) : KeyEnds line := by
  rw [KeyEnds, h.dropWhile_eq]
  cases value with
  | none => exact Or.inl rfl
  | some v =>
    exact Or.inr ⟨rfl, List.not_mem_cons_of_ne_of_not_mem (by decide) (h.oneLine v rfl)⟩

/-- A line that begins like those of the family gives a key when its key ends. -/
theorem exists_gives_iff (h : LooksLike line) :
    (∃ value, Gives line (line.tail.takeWhile isKeyChar) value) ↔ KeyEnds line := by
  constructor
  · rintro ⟨value, hGives⟩
    exact hGives.keyEnds
  · intro hEnds
    obtain ⟨rest, rfl⟩ := h
    have hHead : ((familyKey ++ rest).takeWhile isKeyChar).head?.any Char.isAlpha = true := rfl
    have hChars : ∀ c ∈ (familyKey ++ rest).takeWhile isKeyChar, isKeyChar c = true :=
      fun c hc => List.mem_takeWhile_imp hc
    have hParts := List.takeWhile_append_dropWhile (p := isKeyChar) (l := familyKey ++ rest)
    rcases hEnds with hNothing | ⟨hEquals, hLine⟩
    · refine ⟨none, congrArg (marker :: ·) ?_, hHead, hChars, nofun⟩
      exact hParts.symm.trans (congrArg _ hNothing)
    · obtain ⟨v, hValue⟩ := List.head?_eq_some_iff.1 hEquals
      refine ⟨some v, congrArg (marker :: ·) ?_, hHead, hChars, fun v' hv' => ?_⟩
      · exact hParts.symm.trans (congrArg _ hValue)
      · rw [hValue] at hLine
        rw [← Option.some.inj hv']
        exact List.not_mem_of_not_mem_cons hLine

/-- **What is read of a tag of others:** nothing, if it is passed over; else it is refused for its
shape, like a line of the family. -/
theorem read_of_otherTag (h : OtherTag line) :
    (PassedOver line → read line = .ok none) ∧
      (¬ PassedOver line → HasFlaw line .shape) := by
  constructor
  · intro hPassed
    by_cases hLooks : LooksLike line
    · obtain ⟨value, hGives⟩ := (exists_gives_iff hLooks).2 (hPassed hLooks)
      rw [read_eq_interpret hLooks hGives]
      exact interpret_outside h.outside value
    · rw [read, if_neg (mt looksLike_iff.1 hLooks)]
  · intro hNot
    rw [PassedOver, Classical.not_imp] at hNot
    exact ⟨hNot.1, Or.inl ⟨rfl, fun key value hGives => hNot.2 hGives.keyEnds⟩⟩

/-! ## Blocks -/

/-- **A line that says nothing may stand anywhere in a block.** -/
theorem ofLines_insert (h : read (trim line) = .ok none) (front back : List Text) :
    ofLines (front ++ line :: back) = ofLines (front ++ back) := by
  induction front with
  | nil => rw [List.nil_append, List.nil_append, ofLines, h]
  | cons first front ih =>
    rw [List.cons_append, List.cons_append, ofLines, ofLines]
    cases read (trim first) with
    | error flaw => rfl
    | ok d? =>
      cases d? with
      | none => exact ih
      | some d => exact congrArg (Except.map (d :: ·)) ih

/-- What stands behind a flawed line does not matter. -/
theorem ofLines_append_of_flawed (h : ∃ l ∈ front, Flawed (trim l)) (back : List Text) :
    ofLines (front ++ back) = ofLines front := by
  rcases sound_or_first front with hSound | ⟨sound, bad, rest, flaw, rfl, hFront, hFlaw⟩
  · obtain ⟨l, hl, hFlawed⟩ := h
    exact absurd hFlawed (hSound l hl)
  · rw [List.append_assoc, List.cons_append, ofLines_of_flaw hFront hFlaw,
      ofLines_of_flaw hFront hFlaw]

end Directive

namespace DirectiveSet

open Directive

/-- **Which tags of others are passed over.** A tag of others may be put anywhere into any block
without changing what the block says exactly when it does not begin like those of the family, or its
key ends the line or is followed by an equals sign and a text of one line. Any other one is the flaw
of the block, unless a line in front of it is flawed. -/
theorem ofLines_insert_otherTag {line : Text} (h : OtherTag (trim line)) :
    ((∀ front back, ofLines (front ++ line :: back) = ofLines (front ++ back)) ↔
        PassedOver (trim line)) ∧
      (¬ PassedOver (trim line) → ∀ front back, (∀ l ∈ front, ¬ Flawed (trim l)) →
        ofLines (front ++ line :: back) = .error (.malformed (trim line) .shape)) ∧
      ∀ front back, (∃ l ∈ front, Flawed (trim l)) →
        ofLines (front ++ line :: back) = ofLines (front ++ back) := by
  obtain ⟨hPassed, hRefused⟩ := read_of_otherTag h
  refine ⟨⟨fun hAll => ?_, fun hPass front back => ?_⟩, fun hNot front back hFront => ?_,
    fun front back hFlawed => ?_⟩
  · -- A block of this line alone would be refused, and the empty block has no directive.
    by_contra hNot
    have hBlock : ofLines ([] ++ [line]) = .error (.malformed (trim line) .shape) :=
      ofLines_of_flaw nofun (hRefused hNot)
    have hEmpty : ofLines ([] ++ []) = .error .absent := rfl
    rw [hAll [] [], hEmpty] at hBlock
    cases hBlock
  · rw [ofLines, ofLines, Directive.ofLines_insert (hPassed hPass)]
  · exact ofLines_of_flaw hFront (hRefused hNot)
  · rw [ofLines, ofLines, ofLines_append_of_flawed hFlawed, ofLines_append_of_flawed hFlawed]

/-- Two tags of others that are passed over, one behind a flawed line, and one that is not. -/
theorem ofLines_insert_otherTag_clientset :
    OtherTag (trim " +genclientset=true, of pods") ∧
      ofLines ["+genclient", " +genclientset=true, of pods", "+genclient:noVerbs"] =
        ofLines ["+genclient", "+genclient:noVerbs"] ∧
      OtherTag (trim "+k8s:deepcopy-gen (of pods)") ∧
      ofLines ["+genclient=no", "+k8s:deepcopy-gen (of pods)"] = ofLines ["+genclient=no"] ∧
      OtherTag (trim "+genclientset of pods") ∧
      ofLines ["+genclient", "+genclientset of pods", "+genclient=no"] =
        .error (.malformed "+genclientset of pods" .shape) := by
  have hValue : OtherTag (trim " +genclientset=true, of pods") := by decide
  have hOther : OtherTag (trim "+k8s:deepcopy-gen (of pods)") := by decide
  have hRefused : OtherTag (trim "+genclientset of pods") := by decide
  refine ⟨hValue, ?_, hOther, ?_, hRefused, ?_⟩
  · exact (ofLines_insert_otherTag hValue).1.2 (by decide) ["+genclient"] ["+genclient:noVerbs"]
  · exact (ofLines_insert_otherTag hOther).2.2 ["+genclient=no"] []
      ⟨_, List.mem_cons_self, by decide⟩
  · exact (ofLines_insert_otherTag hRefused).2.1 (by decide) ["+genclient"] ["+genclient=no"]
      (by decide)

/-- A tag of others may make a block refused that is not without it. -/
theorem exists_otherTag_refused : ¬ ∀ line, OtherTag (trim line) → ∀ front back,
    ofLines (front ++ line :: back) = ofLines (front ++ back) := by
  intro h
  exact absurd (h "+genclientset of pods" (by decide) ["+genclient"] []) (by decide)

end DirectiveSet

end RestScaffold
