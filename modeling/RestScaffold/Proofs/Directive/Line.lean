import Mathlib.Data.List.TakeWhile
import RestScaffold.Directive
import RestScaffold.Proofs.Checks
import RestScaffold.Proofs.Text.Cut

/-!
# What a directive line says

A line gives a key, with or without a value behind an equals sign. What the key and the value mean,
or what is wrong with them, is said here as relations, without the order in which the cases are
looked at. Blanks around a value, and around the names of a list, do not count.

* `Directive.split?_eq_some_iff`: which key and value a line gives;
* `Directive.readVerbs_eq_ok_iff` and `Directive.readVerbs_eq_error_iff`: lists of verbs;
* `Directive.interpret_eq_ok_iff` and `Directive.interpret_eq_error_iff`: what keys mean;
* `Directive.read_eq_ok_iff`, `Directive.read_eq_error_iff` and `Directive.read_eq_none_iff`: what a
  line says, what its flaw is, and when it belongs to others.
-/

namespace RestScaffold

open Text

/-! ## Verbs -/

namespace Verb

theorem name_injective : Function.Injective name := by
  intro v w h
  have hText := congrArg ofText? h
  rw [ofText?_name, ofText?_name] at hText
  exact Option.some.inj hText

/-- A text names a verb when it is the verb's name, blanks around it aside. -/
theorem ofText?_eq_some_iff {s : Text} {v : Verb} : ofText? s = some v ↔ trim s = v.name := by
  have hFound : ∀ w : Verb, ofText? s = some w → trim s = w.name := by
    intro w hw
    have hName : w.name = trim s := by simpa using List.find?_some hw
    exact hName.symm
  constructor
  · exact hFound v
  · intro h
    cases hFind : ofText? s with
    | none => exact absurd (decide_eq_true h.symm) (List.find?_eq_none.1 hFind v (mem_all v))
    | some w => rw [name_injective ((hFound w hFind).symm.trans h)]

end Verb

namespace Directive

/-- The key that a directive is written with. -/
def key : Directive → Text
  | generate _ => familyKey
  | nonNamespaced => extensionKey "nonNamespaced"
  | noVerbs => extensionKey "noVerbs"
  | onlyVerbs _ => extensionKey "onlyVerbs"
  | skipVerbs _ => extensionKey "skipVerbs"

variable {line key : Text} {value : Option Text}

/-! ## Keys and values -/

/-- A line gives a key and maybe a value: a plus sign, the key, and an equals sign with the value if
there is one. The key starts with a letter and has only letters, digits and the signs `:`, `.`, `_`
and `-`, and the value has no line break. -/
structure Gives (line key : Text) (value : Option Text) : Prop where
  eq : line = marker :: (key ++ (value.map ('=' :: ·)).getD [])
  head : key.head?.any Char.isAlpha = true
  chars : ∀ c ∈ key, isKeyChar c = true
  oneLine : ∀ v, value = some v → '\n' ∉ v

/-- What stands behind a key does not begin like one. -/
theorem isKeyChar_head (value : Option Text) :
    ∀ c ∈ ((value.map ('=' :: ·)).getD [] : Text).head?, isKeyChar c = false := by
  cases value with
  | none => exact nofun
  | some v =>
    intro c hc
    rw [← Option.some.inj hc]
    decide

theorem Gives.takeWhile_eq (h : Gives line key value) :
    line.tail.takeWhile isKeyChar = key := by
  rw [h.eq, List.tail_cons, List.takeWhile_append_of_pos h.chars]
  cases hRest : ((value.map ('=' :: ·)).getD [] : Text) with
  | nil => exact List.append_nil key
  | cons c rest =>
    have hHead := isKeyChar_head value c (by rw [hRest]; rfl)
    rw [List.takeWhile_cons_of_neg (by rw [hHead]; decide), List.append_nil]

theorem Gives.dropWhile_eq (h : Gives line key value) :
    line.tail.dropWhile isKeyChar = (value.map ('=' :: ·)).getD [] := by
  rw [h.eq, List.tail_cons, List.dropWhile_append_of_pos h.chars]
  cases hRest : ((value.map ('=' :: ·)).getD [] : Text) with
  | nil => rfl
  | cons c rest =>
    have hHead := isKeyChar_head value c (by rw [hRest]; rfl)
    exact List.dropWhile_cons_of_neg (by rw [hHead]; decide)

/-- **A line is split into the key and the value that it gives.** -/
theorem split?_eq_some_iff : split? line = some (key, value) ↔ Gives line key value := by
  constructor
  · intro h
    cases line with
    | nil => cases h
    | cons c rest =>
      have hParts := List.takeWhile_append_dropWhile (p := isKeyChar) (l := rest)
      have hChars : ∀ d ∈ rest.takeWhile isKeyChar, isKeyChar d = true :=
        fun d hd => List.mem_takeWhile_imp hd
      unfold split? at h
      dsimp only at h
      split at h
      · next hKey =>
        rw [Bool.and_eq_true, decide_eq_true_eq] at hKey
        obtain ⟨rfl, hHead⟩ := hKey
        split at h
        · next hRest =>
          obtain ⟨rfl, rfl⟩ := Prod.mk.inj (Option.some.inj h)
          rw [hRest] at hParts
          exact ⟨congrArg (marker :: ·) hParts.symm, hHead, hChars, nofun⟩
        · next d v hRest =>
          split at h
          · next hValue =>
            rw [Bool.and_eq_true, decide_eq_true_eq, Bool.not_eq_true', ← Bool.not_eq_true,
              List.contains_iff_mem] at hValue
            obtain ⟨rfl, rfl⟩ := Prod.mk.inj (Option.some.inj h)
            rw [hRest, hValue.1] at hParts
            refine ⟨congrArg (marker :: ·) hParts.symm, hHead, hChars, fun v' hv' => ?_⟩
            rw [← Option.some.inj hv']
            exact hValue.2
          · cases h
      · cases h
  · intro h
    have hKey := h.takeWhile_eq
    have hRest := h.dropWhile_eq
    rw [h.eq, List.tail_cons] at hKey hRest
    rw [h.eq, split?, hKey, hRest, h.head, if_pos (by decide)]
    cases value with
    | none => rfl
    | some v =>
      have hLine : v.contains '\n' = false := by
        rw [← Bool.not_eq_true, List.contains_iff_mem]
        exact h.oneLine v rfl
      show (if (decide ('=' = '=') && !v.contains '\n') = true then _ else _) = _
      rw [hLine]
      rfl

theorem split?_eq_none_iff : split? line = none ↔ ∀ key value, ¬ Gives line key value := by
  rw [Option.eq_none_iff_forall_not_mem]
  constructor
  · intro h key value hGives
    exact h (key, value) (split?_eq_some_iff.2 hGives)
  · rintro h ⟨key, value⟩ hSplit
    exact h key value (split?_eq_some_iff.1 hSplit)

/-- A line gives one key and one value. -/
theorem Gives.unique {key' : Text} {value' : Option Text} (h : Gives line key value)
    (h' : Gives line key' value') : key = key' ∧ value = value' := by
  have hSplit := (split?_eq_some_iff.2 h).symm.trans (split?_eq_some_iff.2 h')
  exact Prod.mk.inj (Option.some.inj hSplit)

/-! ## Lists of verbs -/

/-- The parts of a list between its commas. -/
def listParts (value : Option Text) : List Text := splitOn ',' (trim (value.getD []))

/-- The names in a list. -/
def listedNames (value : Option Text) : List Text := (listParts value).map trim

/-- The part of a list is the name of a verb, blanks around it aside. -/
def NamesVerb (part : Text) : Prop := ∃ v : Verb, trim part = v.name

/-- What is read of a part of a list. -/
def readVerb (part : Text) : Except DirectiveFlaw Verb :=
  match Verb.ofText? part with
  | some v => .ok v
  | none => .error (.unknownVerb part)

theorem readVerb_eq_ok_iff {part : Text} {v : Verb} :
    readVerb part = .ok v ↔ trim part = v.name := by
  rw [← Verb.ofText?_eq_some_iff, readVerb]
  cases Verb.ofText? part <;> simp

theorem readVerb_eq_error_iff {part : Text} {flaw : DirectiveFlaw} :
    readVerb part = .error flaw ↔ ¬ NamesVerb part ∧ flaw = .unknownVerb part := by
  have hNone : ¬ NamesVerb part ↔ Verb.ofText? part = none := by
    rw [Option.eq_none_iff_forall_not_mem]
    exact not_exists.trans (forall_congr' fun v => not_congr Verb.ofText?_eq_some_iff.symm)
  rw [hNone, readVerb]
  cases Verb.ofText? part <;> simp [eq_comm]

theorem readVerbs_eq (value : Option Text) : readVerbs value =
    if trim (value.getD []) = [] then .error .missingVerbs else (listParts value).mapM readVerb :=
  rfl

/-- A blank list has one part, which names no verb. -/
theorem not_listedNames_of_blank (h : trim (value.getD []) = []) (verbs : List Verb) :
    listedNames value ≠ verbs.map Verb.name := by
  have hNames : listedNames value = [[]] := by
    rw [listedNames, listParts, h]
    rfl
  have hNe : ∀ v : Verb, v.name ≠ [] := by
    intro v
    cases v <;> decide
  rw [hNames]
  intro hEq
  cases verbs with
  | nil => cases hEq
  | cons v verbs => exact hNe v (List.cons.inj hEq).1.symm

/-- **A list is read as the verbs that its names are.** -/
theorem readVerbs_eq_ok_iff {verbs : List Verb} :
    readVerbs value = .ok verbs ↔ listedNames value = verbs.map Verb.name := by
  rw [readVerbs_eq]
  by_cases hBlank : trim (value.getD []) = []
  · rw [if_pos hBlank]
    exact iff_of_false nofun (not_listedNames_of_blank hBlank verbs)
  · rw [if_neg hBlank, mapM_eq_ok_iff, listedNames, ← List.forall₂_eq_eq_eq,
      List.forall₂_map_left_iff, List.forall₂_map_right_iff]
    simp only [readVerb_eq_ok_iff]

/-- **A list is refused when it is blank or has a part that names no verb,** of which the first is
reported. -/
theorem readVerbs_eq_error_iff {flaw : DirectiveFlaw} : readVerbs value = .error flaw ↔
    trim (value.getD []) = [] ∧ flaw = .missingVerbs ∨
      trim (value.getD []) ≠ [] ∧ ∃ front part back, listParts value = front ++ part :: back ∧
        (∀ p ∈ front, NamesVerb p) ∧ ¬ NamesVerb part ∧ flaw = .unknownVerb part := by
  rw [readVerbs_eq]
  by_cases hBlank : trim (value.getD []) = []
  · simp [hBlank, eq_comm]
  · rw [if_neg hBlank, mapM_eq_error_iff]
    simp only [readVerb_eq_ok_iff, readVerb_eq_error_iff, hBlank, false_and, false_or, ne_eq,
      not_false_eq_true, true_and, NamesVerb]

/-! ## Flags -/

/-- A flag is set by a value that is blank or `true`. -/
def Enables (value : Option Text) : Prop :=
  trim (value.getD []) = [] ∨ trim (value.getD []) = "true"

/-- A flag is taken back by the value `false`. -/
def Disables (value : Option Text) : Prop := trim (value.getD []) = "false"

theorem not_disables_of_enables (h : Enables value) : ¬ Disables value := by
  rintro hFalse
  rcases h with hNil | hTrue
  · exact absurd (hNil.symm.trans hFalse) (by decide)
  · exact absurd (hTrue.symm.trans hFalse) (by decide)

theorem readFlag_of_enables (h : Enables value) : readFlag value = .ok true := by
  unfold readFlag
  exact if_pos (by simpa [Enables] using h)

theorem readFlag_of_disables (h : Disables value) : readFlag value = .ok false := by
  have hNot : ¬ Enables value := fun hEnables => not_disables_of_enables hEnables h
  unfold readFlag
  rw [if_neg (by simpa [Enables] using hNot)]
  exact if_pos h

theorem readFlag_of_neither (hEnables : ¬ Enables value) (hDisables : ¬ Disables value) :
    readFlag value = .error (.flagValue (trim (value.getD []))) := by
  unfold readFlag
  rw [if_neg (by simpa [Enables] using hEnables)]
  exact if_neg hDisables

/-! ## Keys of the family -/

/-- A key of the family: `genclient`, or an extension of it. -/
def InFamily (key : Text) : Prop := key = familyKey ∨ ∃ name, key = extensionKey name

/-- The names of the extensions that mean something. -/
def extensionNames : List Text := ["nonNamespaced", "noVerbs", "onlyVerbs", "skipVerbs"]

/-- The extensions that take no value. -/
def TakesNoValue (key : Text) : Prop :=
  key = extensionKey "nonNamespaced" ∨ key = extensionKey "noVerbs"

/-- The extensions that take a list of verbs. -/
def TakesVerbs (key : Text) : Prop :=
  key = extensionKey "onlyVerbs" ∨ key = extensionKey "skipVerbs"

theorem extensionKey_injective : Function.Injective extensionKey :=
  fun _ _ h => List.append_cancel_left h

theorem extensionKey_ne_familyKey (name : Text) : extensionKey name ≠ familyKey := by
  intro h
  have hLength := congrArg List.length h
  rw [extensionKey, List.append_assoc, List.length_append, List.length_append] at hLength
  have hColon : (":" : Text).length = 1 := rfl
  omega

theorem startsWith_extensionKey_iff {key : Text} :
    startsWith (extensionKey []) key = true ↔ ∃ name, key = extensionKey name := by
  rw [startsWith, Option.isSome_iff_exists]
  have hLead : ∀ name, extensionKey name = extensionKey [] ++ name := by
    intro name
    simp [extensionKey]
  constructor
  · rintro ⟨name, hDrop⟩
    exact ⟨name, (dropLead?_eq hDrop).trans (hLead name).symm⟩
  · rintro ⟨name, rfl⟩
    rw [hLead]
    exact ⟨name, dropLead?_append _ name⟩

/-- What a key may be. -/
theorem key_cases (key : Text) : key = familyKey ∨ key = extensionKey "nonNamespaced" ∨
    key = extensionKey "noVerbs" ∨ key = extensionKey "onlyVerbs" ∨
      key = extensionKey "skipVerbs" ∨
        (∃ name, key = extensionKey name ∧ name ∉ extensionNames) ∨ ¬ InFamily key := by
  by_cases hFamily : InFamily key
  · rcases hFamily with rfl | ⟨name, rfl⟩
    · exact Or.inl rfl
    · by_cases hName : name ∈ extensionNames
      · simp only [extensionNames, List.mem_cons, List.not_mem_nil, or_false] at hName
        rcases hName with rfl | rfl | rfl | rfl <;> simp
      · exact Or.inr (Or.inr (Or.inr (Or.inr (Or.inr (Or.inl ⟨name, rfl, hName⟩)))))
  · simp [hFamily]

/-! ## What keys mean -/

theorem interpret_familyKey (value : Option Text) :
    interpret familyKey value = (readFlag value).map fun enabled => some (generate enabled) := rfl

theorem interpret_nonNamespaced (value : Option Text) :
    interpret (extensionKey "nonNamespaced") value =
      if value.isSome then .error (.unexpectedValue (extensionKey "nonNamespaced"))
      else .ok (some nonNamespaced) := rfl

theorem interpret_noVerbs (value : Option Text) :
    interpret (extensionKey "noVerbs") value =
      if value.isSome then .error (.unexpectedValue (extensionKey "noVerbs"))
      else .ok (some noVerbs) := rfl

theorem interpret_onlyVerbs (value : Option Text) :
    interpret (extensionKey "onlyVerbs") value =
      (readVerbs value).map fun verbs => some (onlyVerbs verbs) := rfl

theorem interpret_skipVerbs (value : Option Text) :
    interpret (extensionKey "skipVerbs") value =
      (readVerbs value).map fun verbs => some (skipVerbs verbs) := rfl

theorem interpret_unknown {name : Text} (h : name ∉ extensionNames) (value : Option Text) :
    interpret (extensionKey name) value = .error (.unknownKey (extensionKey name)) := by
  simp only [extensionNames, List.mem_cons, List.not_mem_nil, or_false, not_or] at h
  simp only [interpret, extensionKey_ne_familyKey, extensionKey_injective.eq_iff, h, if_false,
    startsWith_extensionKey_iff, exists_eq', if_true]

theorem interpret_outside (h : ¬ InFamily key) (value : Option Text) :
    interpret key value = .ok none := by
  rw [InFamily, not_or, not_exists] at h
  have hLead : ¬ startsWith (extensionKey []) key = true := by
    rw [startsWith_extensionKey_iff]
    exact not_exists.2 h.2
  simp only [interpret, h, hLead, if_false, Bool.false_eq_true]

/-- The values that a directive is written with: none where the key takes none, and a list of its
verbs where the key takes a list. -/
def Fits (value : Option Text) : Directive → Prop
  | generate enabled => if enabled then Enables value else Disables value
  | nonNamespaced => value = none
  | noVerbs => value = none
  | onlyVerbs verbs => listedNames value = verbs.map Verb.name
  | skipVerbs verbs => listedNames value = verbs.map Verb.name

/-- What is wrong with a key and its value. -/
def Refuses (key : Text) (value : Option Text) : DirectiveFlaw → Prop
  | .shape => False
  | .flagValue flag => key = familyKey ∧ ¬ Enables value ∧ ¬ Disables value ∧
      flag = trim (value.getD [])
  | .unexpectedValue k => TakesNoValue key ∧ value.isSome ∧ k = key
  | .missingVerbs => TakesVerbs key ∧ trim (value.getD []) = []
  | .unknownVerb name => TakesVerbs key ∧ trim (value.getD []) ≠ [] ∧
      ∃ front back, listParts value = front ++ name :: back ∧
        (∀ part ∈ front, NamesVerb part) ∧ ¬ NamesVerb name
  | .unknownKey k => (∃ name, key = extensionKey name ∧ name ∉ extensionNames) ∧ k = key

theorem eq_key_of_interpret {d : Directive} (h : interpret key value = .ok (some d)) :
    key = d.key ∧ d.Fits value := by
  rcases key_cases key with rfl | rfl | rfl | rfl | rfl | ⟨name, rfl, hName⟩ | hOutside
  · rw [interpret_familyKey] at h
    by_cases hEnables : Enables value
    · rw [readFlag_of_enables hEnables] at h
      obtain rfl := Option.some.inj (Except.ok.inj h)
      exact ⟨rfl, hEnables⟩
    · by_cases hDisables : Disables value
      · rw [readFlag_of_disables hDisables] at h
        obtain rfl := Option.some.inj (Except.ok.inj h)
        exact ⟨rfl, hDisables⟩
      · rw [readFlag_of_neither hEnables hDisables] at h
        cases h
  · rw [interpret_nonNamespaced] at h
    cases value with
    | none =>
      obtain rfl := Option.some.inj (Except.ok.inj h)
      exact ⟨rfl, rfl⟩
    | some v => cases h
  · rw [interpret_noVerbs] at h
    cases value with
    | none =>
      obtain rfl := Option.some.inj (Except.ok.inj h)
      exact ⟨rfl, rfl⟩
    | some v => cases h
  · rw [interpret_onlyVerbs, map_eq_ok_iff] at h
    obtain ⟨verbs, hVerbs, hEq⟩ := h
    obtain rfl := Option.some.inj hEq
    exact ⟨rfl, readVerbs_eq_ok_iff.1 hVerbs⟩
  · rw [interpret_skipVerbs, map_eq_ok_iff] at h
    obtain ⟨verbs, hVerbs, hEq⟩ := h
    obtain rfl := Option.some.inj hEq
    exact ⟨rfl, readVerbs_eq_ok_iff.1 hVerbs⟩
  · rw [interpret_unknown hName] at h
    cases h
  · rw [interpret_outside hOutside] at h
    cases h

/-- **A key means the directive that it is the key of,** if the value fits. -/
theorem interpret_eq_ok_iff {d : Directive} :
    interpret key value = .ok (some d) ↔ key = d.key ∧ d.Fits value := by
  refine ⟨eq_key_of_interpret, ?_⟩
  rintro ⟨rfl, hFits⟩
  cases d with
  | generate enabled =>
    show interpret familyKey value = _
    rw [interpret_familyKey]
    cases enabled with
    | true => rw [readFlag_of_enables hFits]; rfl
    | false => rw [readFlag_of_disables hFits]; rfl
  | nonNamespaced =>
    obtain rfl : value = none := hFits
    exact interpret_nonNamespaced none
  | noVerbs =>
    obtain rfl : value = none := hFits
    exact interpret_noVerbs none
  | onlyVerbs verbs =>
    show interpret (extensionKey "onlyVerbs") value = _
    rw [interpret_onlyVerbs, readVerbs_eq_ok_iff.2 hFits]
    rfl
  | skipVerbs verbs =>
    show interpret (extensionKey "skipVerbs") value = _
    rw [interpret_skipVerbs, readVerbs_eq_ok_iff.2 hFits]
    rfl

/-- What is wrong with a list is wrong with an extension that takes it. -/
theorem refuses_of_readVerbs {flaw : DirectiveFlaw} (hKey : TakesVerbs key)
    (h : readVerbs value = .error flaw) : Refuses key value flaw := by
  rcases readVerbs_eq_error_iff.1 h with ⟨hBlank, rfl⟩ | ⟨hNe, front, name, back, hParts⟩
  · exact ⟨hKey, hBlank⟩
  · obtain ⟨hEq, hFront, hName, rfl⟩ := hParts
    exact ⟨hKey, hNe, front, back, hEq, hFront, hName⟩

theorem refuses_of_interpret {flaw : DirectiveFlaw} (h : interpret key value = .error flaw) :
    Refuses key value flaw := by
  rcases key_cases key with rfl | rfl | rfl | rfl | rfl | ⟨name, rfl, hName⟩ | hOutside
  · rw [interpret_familyKey] at h
    by_cases hEnables : Enables value
    · rw [readFlag_of_enables hEnables] at h
      cases h
    · by_cases hDisables : Disables value
      · rw [readFlag_of_disables hDisables] at h
        cases h
      · rw [readFlag_of_neither hEnables hDisables] at h
        obtain rfl := Except.error.inj h
        exact ⟨rfl, hEnables, hDisables, rfl⟩
  · rw [interpret_nonNamespaced] at h
    cases value with
    | none => cases h
    | some v =>
      obtain rfl := Except.error.inj h
      exact ⟨Or.inl rfl, rfl, rfl⟩
  · rw [interpret_noVerbs] at h
    cases value with
    | none => cases h
    | some v =>
      obtain rfl := Except.error.inj h
      exact ⟨Or.inr rfl, rfl, rfl⟩
  · rw [interpret_onlyVerbs, map_eq_error_iff] at h
    exact refuses_of_readVerbs (Or.inl rfl) h
  · rw [interpret_skipVerbs, map_eq_error_iff] at h
    exact refuses_of_readVerbs (Or.inr rfl) h
  · rw [interpret_unknown hName] at h
    obtain rfl := Except.error.inj h
    exact ⟨⟨name, rfl, hName⟩, rfl⟩
  · rw [interpret_outside hOutside] at h
    cases h

/-- **A key and its value are refused exactly for what is wrong with them.** -/
theorem interpret_eq_error_iff {flaw : DirectiveFlaw} :
    interpret key value = .error flaw ↔ Refuses key value flaw := by
  refine ⟨refuses_of_interpret, fun h => ?_⟩
  have hList : TakesVerbs key → readVerbs value = .error flaw →
      interpret key value = .error flaw := by
    rintro (rfl | rfl) hVerbs
    · rw [interpret_onlyVerbs, map_eq_error_iff]
      exact hVerbs
    · rw [interpret_skipVerbs, map_eq_error_iff]
      exact hVerbs
  cases flaw with
  | shape => exact h.elim
  | flagValue flag =>
    obtain ⟨rfl, hEnables, hDisables, rfl⟩ := h
    rw [interpret_familyKey, readFlag_of_neither hEnables hDisables]
    rfl
  | unexpectedValue k =>
    obtain ⟨hKey, hValue, rfl⟩ := h
    rcases hKey with rfl | rfl
    · rw [interpret_nonNamespaced, if_pos hValue]
    · rw [interpret_noVerbs, if_pos hValue]
  | missingVerbs => exact hList h.1 (readVerbs_eq_error_iff.2 (Or.inl ⟨h.2, rfl⟩))
  | unknownVerb name =>
    obtain ⟨hKey, hNe, front, back, hEq, hFront, hName⟩ := h
    exact hList hKey
      (readVerbs_eq_error_iff.2 (Or.inr ⟨hNe, front, name, back, hEq, hFront, hName, rfl⟩))
  | unknownKey k =>
    obtain ⟨⟨name, rfl, hName⟩, rfl⟩ := h
    exact interpret_unknown hName value

theorem interpret_eq_none_iff : interpret key value = .ok none ↔ ¬ InFamily key := by
  refine ⟨fun h => ?_, fun h => interpret_outside h value⟩
  rcases key_cases key with rfl | rfl | rfl | rfl | rfl | ⟨name, rfl, hName⟩ | hOutside
  · rw [interpret_familyKey, map_eq_ok_iff] at h
    obtain ⟨_, -, hNone⟩ := h
    cases hNone
  · rw [interpret_nonNamespaced] at h
    cases value <;> cases h
  · rw [interpret_noVerbs] at h
    cases value <;> cases h
  · rw [interpret_onlyVerbs, map_eq_ok_iff] at h
    obtain ⟨_, -, hNone⟩ := h
    cases hNone
  · rw [interpret_skipVerbs, map_eq_ok_iff] at h
    obtain ⟨_, -, hNone⟩ := h
    cases hNone
  · rw [interpret_unknown hName] at h
    cases h
  · exact hOutside

/-! ## What lines say -/

/-- A line starts like those of the family. -/
def LooksLike (line : Text) : Prop := marker :: familyKey <+: line

/-- A line says a directive: it gives the key with a value that fits. -/
def Says (line : Text) (d : Directive) : Prop := ∃ value, Gives line d.key value ∧ d.Fits value

/-- What is wrong with a line that starts like those of the family: it does not give a key, or it
gives one with a value that is refused. -/
def HasFlaw (line : Text) (flaw : DirectiveFlaw) : Prop :=
  LooksLike line ∧ (flaw = .shape ∧ (∀ key value, ¬ Gives line key value) ∨
    ∃ key value, Gives line key value ∧ Refuses key value flaw)

/-- Something is wrong with the line. -/
def Flawed (line : Text) : Prop := ∃ flaw, HasFlaw line flaw

theorem looksLike_iff : startsWith (marker :: familyKey) line = true ↔ LooksLike line := by
  rw [LooksLike, ← not_iff_not, ← dropLead?_eq_none_iff, startsWith, Option.not_isSome_iff_eq_none]

/-- A line that gives a key of the family starts like those of the family. -/
theorem Gives.looksLike (h : Gives line key value) (hKey : InFamily key) : LooksLike line := by
  have hFamily : familyKey <+: key := by
    rcases hKey with rfl | ⟨name, rfl⟩
    · exact List.prefix_refl _
    · rw [extensionKey, List.append_assoc]
      exact List.prefix_append _ _
  rw [LooksLike, h.eq, List.prefix_cons_inj]
  exact hFamily.trans (List.prefix_append _ _)

theorem inFamily_key (d : Directive) : InFamily d.key := by
  cases d with
  | generate enabled => exact Or.inl rfl
  | nonNamespaced => exact Or.inr ⟨_, rfl⟩
  | noVerbs => exact Or.inr ⟨_, rfl⟩
  | onlyVerbs verbs => exact Or.inr ⟨_, rfl⟩
  | skipVerbs verbs => exact Or.inr ⟨_, rfl⟩

theorem read_eq_interpret (hLooks : LooksLike line) (h : Gives line key value) :
    read line = interpret key value := by
  rw [read, if_pos (looksLike_iff.2 hLooks), split?_eq_some_iff.2 h]

/-- **What is read of a line is what it says.** -/
theorem read_eq_ok_iff {d : Directive} : read line = .ok (some d) ↔ Says line d := by
  constructor
  · intro h
    by_cases hLooks : LooksLike line
    · cases hSplit : split? line with
      | none =>
        rw [read, if_pos (looksLike_iff.2 hLooks), hSplit] at h
        cases h
      | some parts =>
        have hGives := split?_eq_some_iff.1 hSplit
        rw [read_eq_interpret hLooks hGives] at h
        obtain ⟨hKey, hFits⟩ := eq_key_of_interpret h
        exact ⟨parts.2, hKey ▸ hGives, hFits⟩
    · rw [read, if_neg (mt looksLike_iff.1 hLooks)] at h
      cases h
  · rintro ⟨value, hGives, hFits⟩
    rw [read_eq_interpret (hGives.looksLike (inFamily_key d)) hGives]
    exact interpret_eq_ok_iff.2 ⟨rfl, hFits⟩

/-- **A line is refused exactly for its flaw.** -/
theorem read_eq_error_iff {flaw : DirectiveFlaw} :
    read line = .error flaw ↔ HasFlaw line flaw := by
  constructor
  · intro h
    by_cases hLooks : LooksLike line
    · refine ⟨hLooks, ?_⟩
      cases hSplit : split? line with
      | none =>
        rw [read, if_pos (looksLike_iff.2 hLooks), hSplit] at h
        exact Or.inl ⟨(Except.error.inj h).symm, split?_eq_none_iff.1 hSplit⟩
      | some parts =>
        have hGives := split?_eq_some_iff.1 hSplit
        rw [read_eq_interpret hLooks hGives] at h
        exact Or.inr ⟨parts.1, parts.2, hGives, refuses_of_interpret h⟩
    · rw [read, if_neg (mt looksLike_iff.1 hLooks)] at h
      cases h
  · rintro ⟨hLooks, ⟨rfl, hNone⟩ | ⟨key, value, hGives, hRefuses⟩⟩
    · rw [read, if_pos (looksLike_iff.2 hLooks), split?_eq_none_iff.2 hNone]
    · rw [read_eq_interpret hLooks hGives]
      exact interpret_eq_error_iff.2 hRefuses

theorem flawed_iff : Flawed line ↔ ∃ flaw, read line = .error flaw :=
  exists_congr fun _ => read_eq_error_iff.symm

instance (line : Text) : Decidable (Flawed line) :=
  decidable_of_iff ((read line).toOption = none) <| by
    rw [flawed_iff]
    cases read line <;> simp [Except.toOption]

/-- A line says nothing and has no flaw when it gives no key of the family. -/
theorem read_eq_none_iff (hSound : ¬ Flawed line) :
    read line = .ok none ↔ ∀ key value, Gives line key value → ¬ InFamily key := by
  by_cases hLooks : LooksLike line
  · cases hSplit : split? line with
    | none =>
      have hNone := split?_eq_none_iff.1 hSplit
      exact absurd ⟨.shape, hLooks, Or.inl ⟨rfl, hNone⟩⟩ hSound
    | some parts =>
      have hGives := split?_eq_some_iff.1 hSplit
      rw [read_eq_interpret hLooks hGives, interpret_eq_none_iff]
      constructor
      · intro hOutside key value hGives'
        rw [(hGives'.unique hGives).1]
        exact hOutside
      · intro hAll
        exact hAll _ _ hGives
  · rw [read, if_neg (mt looksLike_iff.1 hLooks)]
    exact iff_of_true rfl fun key value hGives hKey => hLooks (hGives.looksLike hKey)

end Directive

end RestScaffold
