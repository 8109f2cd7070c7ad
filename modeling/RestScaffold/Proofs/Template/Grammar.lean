import RestScaffold.Proofs.Template.Steps
import RestScaffold.Proofs.Text.Ascii
import RestScaffold.Proofs.Text.Blanks
import RestScaffold.Proofs.Text.Cut

/-!
# The grammar of actions

An action ends a range, begins one for a key, or is a placeholder for a key, which may have a form.
The words `end` and `range` are no placeholders, whatever stands behind the second one, but a key
may have these names when it is written with a dot in front. This module gives the grammar as
predicates on texts, without the order in which an action is looked at.

* `KeyRef.ofText_eq_ok_iff` and `Expression.ofText_eq_ok_iff`: keys and placeholders;
* `Step.Spells`: what an action says, with `Step.spells_iff_of_end`, `Step.spells_iff_of_range` and
  `Step.spells_iff_of_not_keyword` for the three kinds of actions.
-/

namespace RestScaffold

open Text

/-! ## Identifiers -/

theorem toNat_lt_of_isKeyRest {c : Char} (h : isKeyRest c = true) : c.toNat < 123 := by
  rw [isKeyRest, Bool.or_eq_true, isAlphanum_iff, isUpper_iff, isLower_iff, isDigit_iff,
    decide_eq_true_eq] at h
  rcases h with hRange | rfl
  · omega
  · decide

/-- A blank is no part of an identifier. -/
theorem isBlank_of_isKeyRest {c : Char} (h : isKeyRest c = true) : isBlank c = false := by
  have hCodes : ∀ code < 123, isKeyRest (Char.ofNat code) = true →
      isBlank (Char.ofNat code) = false := by decide
  have hCode := hCodes c.toNat (toNat_lt_of_isKeyRest h)
  rw [Char.ofNat_toNat] at hCode
  exact hCode h

theorem isKeyRest_of_mem {name : Text} (h : isIdentifier name = true) {c : Char} (hc : c ∈ name) :
    isKeyRest c = true :=
  List.all_eq_true.1 (Bool.and_eq_true_iff.1 h).2 c hc

theorem not_mem_identifier {name : Text} (h : isIdentifier name = true) {c : Char}
    (hc : isKeyRest c = false) : c ∉ name := by
  intro hMem
  rw [isKeyRest_of_mem h hMem] at hc
  cases hc

/-! ## Keys -/

namespace KeyRef

/-- How a key is written, blanks around it aside: the current element as a dot, and a name with or
without a dot in front. -/
def Spells : KeyRef → Text → Prop
  | current, s => trim s = "."
  | named name, s => isIdentifier name = true ∧ (trim s = name ∨ trim s = "." ++ name)

/-- The name that is read off a key without its blanks. -/
def nameOf (s : Text) : Text := (dropLead? "." s).getD s

theorem nameOf_dot (name : Text) : nameOf ("." ++ name) = name := by
  rw [nameOf, dropLead?_append]
  rfl

theorem nameOf_identifier {name : Text} (h : isIdentifier name = true) : nameOf name = name := by
  have hDot : dropLead? "." name = none := by
    rw [dropLead?_eq_none_iff]
    intro hLead
    exact not_mem_identifier h (by decide) (hLead.subset List.mem_cons_self)
  rw [nameOf, hDot]
  rfl

/-- The text is what is read off, with or without a dot. -/
theorem eq_of_nameOf (s : Text) : s = nameOf s ∨ s = "." ++ nameOf s := by
  unfold nameOf
  cases hDrop : dropLead? "." s with
  | none => exact Or.inl rfl
  | some name => exact Or.inr (dropLead?_eq hDrop)

theorem spells_named_iff {name s : Text} :
    (named name).Spells s ↔ isIdentifier name = true ∧ nameOf (trim s) = name := by
  constructor
  · rintro ⟨hName, hPlain | hDotted⟩
    · rw [hPlain]
      exact ⟨hName, nameOf_identifier hName⟩
    · rw [hDotted]
      exact ⟨hName, nameOf_dot name⟩
  · rintro ⟨hName, rfl⟩
    exact ⟨hName, eq_of_nameOf _⟩

theorem Spells.trim_ne_nil {key : KeyRef} {s : Text} (h : key.Spells s) : trim s ≠ [] := by
  intro hNil
  cases key with
  | current => exact absurd (hNil.symm.trans h) (by decide)
  | named name =>
    obtain ⟨hName, rfl⟩ := spells_named_iff.1 h
    rw [hNil] at hName
    exact absurd hName (by decide)

/-- **A key is read exactly as what it spells.** -/
theorem ofText_eq_ok_iff {line : Nat} {s : Text} {key : KeyRef} :
    ofText line s = .ok key ↔ key.Spells s := by
  have hRead : ofText line s = if trim s = [] then .error (.flaw line .emptyAction)
      else if trim s = "." then .ok current
      else if isIdentifier (nameOf (trim s)) = true then .ok (named (nameOf (trim s)))
      else .error (.flaw line (.invalidKey (trim s))) := rfl
  rw [hRead]
  by_cases hNil : trim s = []
  · rw [if_pos hNil]
    exact iff_of_false nofun fun hKey => hKey.trim_ne_nil hNil
  rw [if_neg hNil]
  by_cases hDot : trim s = "."
  · rw [if_pos hDot]
    cases key with
    | current => exact iff_of_true rfl hDot
    | named name =>
      refine iff_of_false nofun fun hKey => ?_
      obtain ⟨hName, rfl⟩ := spells_named_iff.1 hKey
      rw [hDot] at hName
      exact absurd hName (by decide)
  rw [if_neg hDot]
  by_cases hName : isIdentifier (nameOf (trim s)) = true
  · rw [if_pos hName]
    cases key with
    | current => exact iff_of_false nofun hDot
    | named name =>
      rw [spells_named_iff, Except.ok.injEq, named.injEq]
      exact ⟨fun hSame => ⟨hSame ▸ hName, hSame⟩, And.right⟩
  · rw [if_neg hName]
    refine iff_of_false nofun fun hKey => ?_
    cases key with
    | current => exact hDot hKey
    | named name =>
      obtain ⟨hName', rfl⟩ := spells_named_iff.1 hKey
      exact hName hName'

theorem Spells.unique {key key' : KeyRef} {s : Text} (h : key.Spells s) (h' : key'.Spells s) :
    key = key' := by
  have hRead := (@ofText_eq_ok_iff 0 s key).2 h
  have hRead' := (@ofText_eq_ok_iff 0 s key').2 h'
  exact Except.ok.inj (hRead.symm.trans hRead')

/-- Nothing but letters, digits, underscores, dots and blanks stands in a key. -/
theorem Spells.not_mem {key : KeyRef} {s : Text} (h : key.Spells s) {c : Char}
    (hRest : isKeyRest c = false) (hDot : c ≠ '.') (hBlank : isBlank c = false) : c ∉ s := by
  intro hc
  have hTrim := mem_trim hBlank hc
  cases key with
  | current =>
    rw [show trim s = ".".toList from h] at hTrim
    exact hDot (List.mem_singleton.1 hTrim)
  | named name =>
    have hName := not_mem_identifier h.1 hRest
    rcases h.2 with hPlain | hDotted
    · rw [hPlain] at hTrim
      exact hName hTrim
    · rw [hDotted] at hTrim
      rcases List.mem_cons.1 hTrim with hHead | hMem
      · exact hDot hHead
      · exact hName hMem

theorem Spells.bar_not_mem {key : KeyRef} {s : Text} (h : key.Spells s) : '|' ∉ s :=
  h.not_mem (by decide) (by decide) (by decide)

end KeyRef

/-! ## Placeholders -/

/-- How a placeholder is written: its key, or its key and its form with a bar between them. -/
def Expression.Spells (e : Expression) (s : Text) : Prop :=
  match e.form with
  | none => e.key.Spells s
  | some form => ∃ key raw, s = key ++ '|' :: raw ∧ e.key.Spells key ∧ form = trim raw ∧ form ≠ []

/-- **A placeholder is read exactly as what it spells.** -/
theorem Expression.ofText_eq_ok_iff {line : Nat} {s : Text} {e : Expression} :
    ofText line s = .ok e ↔ e.Spells s := by
  obtain ⟨key, form⟩ := e
  unfold ofText
  cases hSplit : splitFirst '|' s with
  | none =>
    have hBar : '|' ∉ s := splitFirst_eq_none_iff.1 hSplit
    simp only [map_eq_ok_iff, KeyRef.ofText_eq_ok_iff, Expression.mk.injEq]
    cases form with
    | none => exact ⟨fun ⟨_, hKey, hEq, _⟩ => hEq ▸ hKey, fun hKey => ⟨key, hKey, rfl, rfl⟩⟩
    | some form =>
      refine iff_of_false nofun ?_
      rintro ⟨front, raw, rfl, -⟩
      exact hBar (List.mem_append_right _ List.mem_cons_self)
  | some parts =>
    obtain ⟨hEq, hFront⟩ := splitFirst_eq_some_iff.1 hSplit
    -- No key has a bar, so the parts that a placeholder spells are those at the first bar.
    have hSpells : Spells ⟨key, form⟩ s ↔
        key.Spells parts.1 ∧ form = some (trim parts.2) ∧ trim parts.2 ≠ [] := by
      cases form with
      | none =>
        refine iff_of_false (fun hKey => hKey.bar_not_mem ?_) nofun
        rw [hEq]
        exact List.mem_append_right _ List.mem_cons_self
      | some form =>
        constructor
        · rintro ⟨front, raw, hEq', hKey, rfl, hForm⟩
          have hSame := splitFirst_eq_some_iff.2 ⟨hEq', hKey.bar_not_mem⟩
          obtain rfl := Option.some.inj (hSplit.symm.trans hSame)
          exact ⟨hKey, rfl, hForm⟩
        · rintro ⟨hKey, hForm, hNe⟩
          obtain rfl := Option.some.inj hForm
          exact ⟨parts.1, parts.2, hEq, hKey, rfl, hNe⟩
    rw [hSpells]
    dsimp only
    split
    · next hEmpty => exact iff_of_false nofun fun ⟨_, _, hNe⟩ => hNe hEmpty
    · next hNe =>
      simp only [map_eq_ok_iff, KeyRef.ofText_eq_ok_iff, Expression.mk.injEq]
      exact ⟨fun ⟨_, hKey, hSame, hForm⟩ => ⟨hSame ▸ hKey, hForm.symm, hNe⟩,
        fun ⟨hKey, hForm, _⟩ => ⟨key, hKey, rfl, hForm.symm⟩⟩

theorem Expression.Spells.unique {e e' : Expression} {s : Text} (h : e.Spells s)
    (h' : e'.Spells s) : e = e' := by
  have hRead := (@ofText_eq_ok_iff 0 s e).2 h
  have hRead' := (@ofText_eq_ok_iff 0 s e').2 h'
  exact Except.ok.inj (hRead.symm.trans hRead')

/-! ## Actions -/

/-- An action without its blanks that is no placeholder: the word `end`, and the word `range` by
itself or with a blank behind it. -/
def IsKeyword (action : Text) : Prop :=
  action = "end" ∨ ∃ rest, action = "range" ++ rest ∧ ∀ c ∈ rest.head?, isBlank c = true

/-- How an action begins a range. -/
def EntersRange (key : KeyRef) (action : Text) : Prop :=
  ∃ blank rest, action = "range" ++ (blank :: rest : Text) ∧ isBlank blank = true ∧ key.Spells rest

/-- How an action writes a placeholder. -/
def Emits (e : Expression) (action : Text) : Prop := ¬ IsKeyword action ∧ e.Spells action

/-- What an action of a line says as a step. -/
def Step.Spells (line : Nat) (content : Text) : Step → Prop
  | .text _ => False
  | .leave => trim content = "end"
  | .enter key l => l = line ∧ EntersRange key (trim content)
  | .emit e l => l = line ∧ Emits e (trim content)

/-- The word of a range is not the end of one. -/
theorem range_append_ne_end (rest : Text) : ("range" ++ rest : Text) ≠ "end" := by
  intro hEq
  exact absurd (List.cons.inj hEq).1 (by decide)

theorem isKeyword_cases (action : Text) : action = "end" ∨
    (∃ rest, action = "range" ++ rest ∧ ∀ c ∈ rest.head?, isBlank c = true) ∨
      ¬ IsKeyword action := by
  by_cases hKeyword : IsKeyword action
  · exact hKeyword.imp_right Or.inl
  · exact Or.inr (Or.inr hKeyword)

theorem KeyRef.spells_cons_iff {key : KeyRef} {blank : Char} (h : isBlank blank = true)
    (rest : Text) : key.Spells (blank :: rest) ↔ key.Spells rest := by
  cases key <;> simp only [Spells, trim_cons h]

section Spells

variable {line : Nat} {content rest : Text} {step : Step}

/-- An action of the word `end` ends a range. -/
theorem Action.ofText_of_end (h : trim content = "end") : ofText content = .leave := by
  unfold ofText
  exact if_pos h

theorem Step.spells_iff_of_end (h : trim content = "end") :
    step.Spells line content ↔ step = .leave := by
  cases step with
  | leave => exact iff_of_true h rfl
  | text s => exact iff_of_false id nofun
  | enter key l =>
    refine iff_of_false ?_ nofun
    rintro ⟨-, blank, rest, hRange, -⟩
    exact range_append_ne_end _ (hRange.symm.trans h)
  | emit e l =>
    refine iff_of_false ?_ nofun
    rintro ⟨-, hKeyword, -⟩
    exact hKeyword (Or.inl h)

/-- An action of the word `range`, by itself or with a blank behind it, begins a range. -/
theorem Action.ofText_of_range (h : trim content = "range" ++ rest)
    (hBlank : ∀ c ∈ rest.head?, isBlank c = true) : ofText content = .enter rest := by
  have hAll : rest.head?.all isBlank = true := by
    rw [Option.all_eq_true]
    exact hBlank
  unfold ofText
  simp only [h, if_neg (range_append_ne_end rest), dropLead?_append, hAll, if_true]

theorem Step.spells_iff_of_range (h : trim content = "range" ++ rest)
    (hBlank : ∀ c ∈ rest.head?, isBlank c = true) :
    step.Spells line content ↔ ∃ key, step = .enter key line ∧ key.Spells rest := by
  cases step with
  | leave => exact iff_of_false (fun hEnd => range_append_ne_end rest (h.symm.trans hEnd)) nofun
  | text s => exact iff_of_false id nofun
  | emit e l =>
    refine iff_of_false ?_ nofun
    rintro ⟨-, hKeyword, -⟩
    exact hKeyword (Or.inr ⟨rest, h, hBlank⟩)
  | enter key l =>
    constructor
    · rintro ⟨rfl, blank, after, hRange, hHead, hKey⟩
      obtain rfl := List.append_cancel_left (h.symm.trans hRange)
      exact ⟨key, rfl, (KeyRef.spells_cons_iff hHead after).2 hKey⟩
    · rintro ⟨key', hEq, hKey⟩
      obtain ⟨rfl, rfl⟩ := Step.enter.inj hEq
      cases rest with
      | nil => exact absurd rfl hKey.trim_ne_nil
      | cons blank after =>
        have hHead : isBlank blank = true := hBlank blank rfl
        exact ⟨rfl, blank, after, h, hHead, (KeyRef.spells_cons_iff hHead after).1 hKey⟩

/-- Every other action is a placeholder. -/
theorem Action.ofText_of_not_keyword (h : ¬ IsKeyword (trim content)) :
    ofText content = .emit (trim content) := by
  unfold ofText
  simp only [if_neg (fun hEnd => h (Or.inl hEnd))]
  cases hDrop : dropLead? "range" (trim content) with
  | none => rfl
  | some rest =>
    have hAll : ¬ rest.head?.all isBlank = true := by
      rw [Option.all_eq_true]
      exact fun hBlank => h (Or.inr ⟨rest, dropLead?_eq hDrop, hBlank⟩)
    exact if_neg hAll

theorem Step.spells_iff_of_not_keyword (h : ¬ IsKeyword (trim content)) :
    step.Spells line content ↔ ∃ e, step = .emit e line ∧ e.Spells (trim content) := by
  cases step with
  | leave => exact iff_of_false (fun hEnd => h (Or.inl hEnd)) nofun
  | text s => exact iff_of_false id nofun
  | enter key l =>
    refine iff_of_false ?_ nofun
    rintro ⟨-, blank, rest, hRange, hBlank, -⟩
    refine h (Or.inr ⟨blank :: rest, hRange, fun c hc => ?_⟩)
    rwa [← Option.some.inj hc]
  | emit e l =>
    constructor
    · rintro ⟨rfl, -, hSpells⟩
      exact ⟨e, rfl, hSpells⟩
    · rintro ⟨e', hEq, hSpells⟩
      obtain ⟨rfl, rfl⟩ := Step.emit.inj hEq
      exact ⟨rfl, h, hSpells⟩

end Spells

/-- **An action says one thing.** -/
theorem Step.Spells.unique {line : Nat} {content : Text} {step step' : Step}
    (h : step.Spells line content) (h' : step'.Spells line content) : step = step' := by
  rcases isKeyword_cases (trim content) with hEnd | ⟨rest, hRange, hBlank⟩ | hOther
  · rw [spells_iff_of_end hEnd] at h h'
    exact h.trans h'.symm
  · rw [spells_iff_of_range hRange hBlank] at h h'
    obtain ⟨key, rfl, hKey⟩ := h
    obtain ⟨key', rfl, hKey'⟩ := h'
    rw [hKey.unique hKey']
  · rw [spells_iff_of_not_keyword hOther] at h h'
    obtain ⟨e, rfl, hSpells⟩ := h
    obtain ⟨e', rfl, hSpells'⟩ := h'
    rw [hSpells.unique hSpells']

end RestScaffold
