import RestScaffold.Proofs.Import.Table
import RestScaffold.Template.Render

/-!
# Templates under fixed local names

Rendering gives local names to packages as it comes upon them. The same text can be written without
a state, once all local names are known. This module says what that text is and which packages need
a name, both by recursion on the template.

* `Block.fixed?`: the text of a block under given local names;
* `Block.rawPackages`: the packages of the types that a block writes in raw form, those of the file
  itself left out, in the order in which they are met;
* `Block.render_registers`: rendering a block gives names to exactly these packages, and what it
  writes is the text under the names of the table in the end, or of any later table.

The invariant is that bindings of the table last: a name that was written early is still the name of
its package when the rest has been rendered.
-/

namespace RestScaffold

open Text

/-! ## Texts that may be missing -/

/-- One text and then another, if there are both. -/
def Text.append? (a b : Option Text) : Option Text := a.bind fun s => b.map (s ++ ·)

/-- The texts of a list one after the other, if there are all. -/
def Text.concat? (parts : List (Option Text)) : Option Text := parts.foldr append? (some [])

/-! ## Names and templates without a state -/

/-- A form of a name when packages have these local names. A raw name has none when its package
needs a local name and has none. -/
def NameScope.fixedName? (scope : NameScope) (names : TextMap Text) (n : TypeName) :
    NameForm → Option Text
  | .pub => some (capitalize n.base)
  | .priv => some (decapitalize n.base)
  | .pubPlural => some (scope.publicPlural n.base)
  | .lowerPlural => some (lower (scope.publicPlural n.base))
  | .lower => some (lower n.base)
  | .raw =>
    if scope.isLocal n.package then some n.base
    else (names.get? n.package).map fun name => name ++ "." ++ n.base

/-- The form in which a placeholder writes a type, the public one if it asks for none. -/
def Expression.nameForm? (e : Expression) : Option NameForm :=
  e.form.elim (some .pub) NameForm.ofText?

/-- The text of a placeholder when packages have these local names. -/
def Expression.fixed? (scope : NameScope) (names : TextMap Text) (vars : Bindings)
    (current : Option Declaration) (e : Expression) : Option Text :=
  match e.key.lookup vars current with
  | .ok (.type d) => e.nameForm?.bind (scope.fixedName? names d.name)
  | .ok (.scalar s) => if e.form = none then some s else none
  | _ => none

/-- The text of a block when packages have these local names. -/
def Block.fixed? (scope : NameScope) (names : TextMap Text) (vars : Bindings) :
    Block → Option Declaration → Option Text
  | done, _ => some []
  | text s rest, current => append? (some s) (rest.fixed? scope names vars current)
  | emit e _ rest, current =>
    append? (e.fixed? scope names vars current) (rest.fixed? scope names vars current)
  | range key _ body rest, current =>
    match key.lookup vars current with
    | .ok (.types items) =>
      append? (concat? (items.map fun item => body.fixed? scope names vars (some item)))
        (rest.fixed? scope names vars current)
    | _ => none

/-- The package that a form of a name needs a local name for. -/
def NameScope.rawPackages (scope : NameScope) (n : TypeName) : NameForm → List Text
  | .raw => if scope.isLocal n.package then [] else [n.package]
  | _ => []

/-- The package that a placeholder needs a local name for. -/
def Expression.rawPackages (scope : NameScope) (vars : Bindings) (current : Option Declaration)
    (e : Expression) : List Text :=
  match e.key.lookup vars current with
  | .ok (.type d) => e.nameForm?.elim [] (scope.rawPackages d.name)
  | _ => []

/-- The packages that a block needs local names for, in the order in which it comes upon them. -/
def Block.rawPackages (scope : NameScope) (vars : Bindings) :
    Block → Option Declaration → List Text
  | done, _ => []
  | text _ rest, current => rest.rawPackages scope vars current
  | emit e _ rest, current =>
    e.rawPackages scope vars current ++ rest.rawPackages scope vars current
  | range key _ body rest, current =>
    (match key.lookup vars current with
      | .ok (.types items) => items.flatMap fun item => body.rawPackages scope vars (some item)
      | _ => []) ++ rest.rawPackages scope vars current

/-! ## Rendering agrees with the text under its last names -/

/-- What a rendering does when it does not fail: it gives names to these paths in order, and writes
what `fixed` gives for the names that it leaves, or for any further ones. -/
def Rendering.Registers (r : Rendering) (paths : List Text) (fixed : TextMap Text → Option Text) :
    Prop :=
  ∀ t s t', r t = (.ok s, t') →
    t' = t.register paths ∧ ∀ names, t'.names.Within names → fixed names = some s

namespace Rendering

theorem registers_fail (e : TemplateError) (paths : List Text)
    (fixed : TextMap Text → Option Text) : (fail e).Registers paths fixed := by
  intro t s t' h
  cases h

theorem registers_text (s : Text) : (text s).Registers [] fun _ => some s := by
  intro t s' t' h
  cases h
  exact ⟨rfl, fun _ _ => rfl⟩

/-- The names that the second rendering adds do not change what the first one wrote. -/
theorem registers_append {a b : Rendering} {paths paths' : List Text}
    {fixed fixed' : TextMap Text → Option Text} (ha : a.Registers paths fixed)
    (hb : b.Registers paths' fixed') :
    (append a b).Registers (paths ++ paths') fun names => append? (fixed names) (fixed' names) := by
  intro t s t' h
  rw [append] at h
  cases hFirst : a t with
  | mk result t₁ =>
    cases result with
    | error e => rw [hFirst] at h; cases h
    | ok s₁ =>
      rw [hFirst] at h
      cases hSecond : b t₁ with
      | mk result t₂ =>
        cases result with
        | error e => simp only [hSecond] at h; cases h
        | ok s₂ =>
          simp only [hSecond] at h
          obtain ⟨hText, rfl⟩ := Prod.ext_iff.1 h
          obtain rfl : s₁ ++ s₂ = s := Except.ok.inj hText
          obtain ⟨hTable₁, hText₁⟩ := ha t s₁ t₁ hFirst
          obtain ⟨hTable₂, hText₂⟩ := hb t₁ s₂ t₂ hSecond
          refine ⟨by rw [hTable₂, hTable₁, ImportTable.register_append], fun names hNames => ?_⟩
          have hLasts : t₁.names.Within names := fun key name hKey =>
            hNames key name (hTable₂ ▸ ImportTable.within_register t₁ paths' key name hKey)
          show append? (fixed names) (fixed' names) = some (s₁ ++ s₂)
          rw [hText₁ names hLasts, hText₂ names hNames]
          rfl

theorem registers_concat {α : Type} {items : List α} {r : α → Rendering} {paths : α → List Text}
    {fixed : α → TextMap Text → Option Text}
    (h : ∀ item ∈ items, (r item).Registers (paths item) (fixed item)) :
    (concat (items.map r)).Registers (items.flatMap paths) fun names =>
      concat? (items.map fun item => fixed item names) := by
  induction items with
  | nil => exact registers_text []
  | cons item items ih =>
    exact registers_append (h item List.mem_cons_self)
      (ih fun item' hItem' => h item' (List.mem_cons_of_mem item hItem'))

theorem registers_name (scope : NameScope) (n : TypeName) (form : NameForm) :
    (name scope n form).Registers (scope.rawPackages n form) fun names =>
      scope.fixedName? names n form := by
  intro t s t' h
  cases form with
  | raw =>
    simp only [name, NameScope.name, NameScope.rawName, NameScope.rawPackages,
      NameScope.fixedName?] at h ⊢
    by_cases hLocal : scope.isLocal n.package = true
    · rw [if_pos hLocal] at h
      cases h
      rw [if_pos hLocal]
      exact ⟨rfl, fun _ _ => if_pos hLocal⟩
    · rw [if_neg hLocal] at h
      cases h
      rw [if_neg hLocal]
      refine ⟨rfl, fun names hNames => ?_⟩
      have hName : names.get? n.package = some (t.localName n.package).1 := by
        refine hNames _ _ ?_
        rw [ImportTable.get?_localName, if_pos rfl]
      rw [if_neg hLocal, hName]
      rfl
  | pub | priv | pubPlural | lowerPlural | lower =>
    cases h
    exact ⟨rfl, fun _ _ => rfl⟩

end Rendering

theorem Expression.render_registers (scope : NameScope) (vars : Bindings)
    (current : Option Declaration) (e : Expression) :
    (e.render scope vars current).Registers (e.rawPackages scope vars current) fun names =>
      e.fixed? scope names vars current := by
  obtain ⟨key, form⟩ := e
  simp only [render, rawPackages, fixed?, nameForm?]
  cases key.lookup vars current with
  | error err => exact Rendering.registers_fail _ _ _
  | ok value =>
    cases form with
    | none =>
      cases value with
      | type d => exact Rendering.registers_name scope d.name .pub
      | scalar s => exact Rendering.registers_text s
      | types ds => exact Rendering.registers_fail _ _ _
    | some tag =>
      simp only [Option.elim]
      cases NameForm.ofText? tag with
      | none => exact Rendering.registers_fail _ _ _
      | some form =>
        cases value with
        | type d => exact Rendering.registers_name scope d.name form
        | scalar s => exact Rendering.registers_fail _ _ _
        | types ds => exact Rendering.registers_fail _ _ _

/-- **Rendering a block agrees with the block under fixed local names.** -/
theorem Block.render_registers (scope : NameScope) (vars : Bindings) (block : Block)
    (current : Option Declaration) :
    (block.render scope vars current).Registers (block.rawPackages scope vars current) fun names =>
      block.fixed? scope names vars current := by
  induction block generalizing current with
  | done => exact Rendering.registers_text []
  | text s rest ih => exact Rendering.registers_append (Rendering.registers_text s) (ih current)
  | emit e line rest ih =>
    exact Rendering.registers_append (e.render_registers scope vars current) (ih current)
  | range key line body rest ihBody ihRest =>
    simp only [render, rawPackages, fixed?]
    cases key.lookup vars current with
    | error err => exact Rendering.registers_fail _ _ _
    | ok value =>
      cases value with
      | type d => exact Rendering.registers_fail _ _ _
      | scalar s => exact Rendering.registers_fail _ _ _
      | types items =>
        exact Rendering.registers_append
          (Rendering.registers_concat fun item _ => ihBody (some item)) (ihRest current)

end RestScaffold
