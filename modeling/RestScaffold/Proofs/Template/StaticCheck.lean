import Mathlib.Data.List.Basic
import RestScaffold.Proofs.Template.WellTyped

/-!
# What makes a template fail

A template fails at a reference: a key that has no value, or a value or a form that does not fit the
place where the reference stands. So the references of a template can be checked one by one, without
rendering anything. Rendering reaches them in the order in which they stand, apart from those in the
body of a range without elements, and ends with the failure of the first one that does not fit.

* `Reference.Fits` and `Block.Fits`: references that fit, and templates in which all do;
* `Block.wellTyped_iff_fits`: this is what `Block.wellTyped` checks;
* `Block.render_failsAs`: the error of a rendering is the first failure among the references that it
  reaches, whatever names are written and whatever is imported;
* `Block.renders_iff_fits`: templates that fit are rendered, and only they when no range is without
  elements.
-/

namespace RestScaffold

open Text

/-! ## References -/

/-- What a reference stands for in its place. -/
inductive Role where
  /-- The sequence of a range. -/
  | range
  /-- A placeholder without a form. -/
  | plain
  /-- A placeholder with the tag of a form. -/
  | formed (tag : Text)
  deriving DecidableEq

/-- A reference somewhere in a template: its key, its role, and whether it stands in the body of a
range. -/
structure Reference where
  key : KeyRef
  role : Role
  inRange : Bool
  deriving DecidableEq

/-- The reference of a placeholder. -/
def Expression.reference (inRange : Bool) (e : Expression) : Reference :=
  ⟨e.key, e.form.elim .plain .formed, inRange⟩

/-- The references of a block, in order. -/
def Block.references : Bool → Block → List Reference
  | _, done => []
  | inRange, text _ rest => rest.references inRange
  | inRange, emit e _ rest => e.reference inRange :: rest.references inRange
  | inRange, range key _ body rest =>
    ⟨key, .range, inRange⟩ :: (body.references true ++ rest.references inRange)

/-- A reference that fits its place. -/
structure Reference.Fits (vars : Bindings) (r : Reference) : Prop where
  /-- The current element is there in a range only, and it is no sequence. -/
  current : r.key = .current → r.inRange = true ∧ r.role ≠ .range
  /-- A named key has a value. -/
  bound : ∀ name, r.key = .named name → vars.contains name = true
  /-- The key of a range is bound to a sequence. -/
  sequence : r.role = .range → ∀ name, r.key = .named name →
    ∃ items, vars.get? name = some (.types items)
  /-- A form is asked of a type, and it is one of the forms. -/
  formed : ∀ tag, r.role = .formed tag →
    (∀ name, r.key = .named name → ∃ d, vars.get? name = some (.type d)) ∧
      ∃ form ∈ NameForm.all, form.tag = trim tag
  /-- A type or a scalar is written as it is. -/
  plain : r.role = .plain → ∀ name, r.key = .named name →
    (∃ d, vars.get? name = some (.type d)) ∨ ∃ s, vars.get? name = some (.scalar s)

/-- A template in which every reference fits. -/
def Block.Fits (vars : Bindings) (b : Block) : Prop := ∀ r ∈ b.references false, r.Fits vars

/-! ## Kinds that fit -/

/-- The kinds of values that fit a role. -/
def Role.Accepts : Role → ValueKind → Prop
  | range, kind => kind = .types
  | plain, kind => kind ≠ .types
  | formed tag, kind => kind = .type ∧ ∃ form ∈ NameForm.all, form.tag = trim tag

/-- **A reference fits when it has a value of a kind that fits its role.** -/
theorem Reference.fits_iff {vars : Bindings} {r : Reference} :
    r.Fits vars ↔ ∃ kind, r.key.kind? vars.kinds r.inRange = some kind ∧ r.role.Accepts kind := by
  obtain ⟨key, role, inRange⟩ := r
  constructor
  · intro hFits
    cases key with
    | current =>
      obtain ⟨rfl, hRole⟩ : inRange = true ∧ role ≠ .range := hFits.current rfl
      refine ⟨.type, rfl, ?_⟩
      cases role with
      | range => exact absurd rfl hRole
      | plain => exact nofun
      | formed tag => exact ⟨rfl, (hFits.formed tag rfl).2⟩
    | named name =>
      obtain ⟨v, hValue⟩ := Option.isSome_iff_exists.1 (hFits.bound name rfl)
      refine ⟨v.kind, congrArg (Option.map Value.kind) hValue, ?_⟩
      cases role with
      | range =>
        obtain ⟨items, hItems⟩ := hFits.sequence rfl name rfl
        obtain rfl := Option.some.inj (hValue.symm.trans hItems)
        rfl
      | plain =>
        rcases hFits.plain rfl name rfl with ⟨d, hType⟩ | ⟨s, hScalar⟩
        · obtain rfl := Option.some.inj (hValue.symm.trans hType)
          exact nofun
        · obtain rfl := Option.some.inj (hValue.symm.trans hScalar)
          exact nofun
      | formed tag =>
        obtain ⟨hTypes, hForm⟩ := hFits.formed tag rfl
        obtain ⟨d, hType⟩ := hTypes name rfl
        obtain rfl := Option.some.inj (hValue.symm.trans hType)
        exact ⟨rfl, hForm⟩
  · rintro ⟨kind, hKind, hAccepts⟩
    have hBound : ∀ name, key = .named name → ∃ v, vars.get? name = some v ∧ v.kind = kind := by
      rintro name rfl
      exact Option.map_eq_some_iff.1 hKind
    refine ⟨?_, ?_, ?_, ?_, ?_⟩
    · rintro rfl
      cases inRange with
      | false => cases hKind
      | true =>
        refine ⟨rfl, ?_⟩
        rintro rfl
        obtain rfl : ValueKind.type = kind := Option.some.inj hKind
        cases hAccepts
    · intro name hName
      obtain ⟨v, hValue, -⟩ := hBound name hName
      exact Option.isSome_iff_exists.2 ⟨v, hValue⟩
    · rintro rfl name hName
      obtain ⟨v, hValue, hSame⟩ := hBound name hName
      cases v with
      | types items => exact ⟨items, hValue⟩
      | type d => cases hSame.trans hAccepts
      | scalar s => cases hSame.trans hAccepts
    · rintro tag rfl
      refine ⟨fun name hName => ?_, hAccepts.2⟩
      obtain ⟨v, hValue, hSame⟩ := hBound name hName
      cases v with
      | type d => exact ⟨d, hValue⟩
      | types items => cases hSame.trans hAccepts.1
      | scalar s => cases hSame.trans hAccepts.1
    · rintro rfl name hName
      obtain ⟨v, hValue, hSame⟩ := hBound name hName
      cases v with
      | type d => exact Or.inl ⟨d, hValue⟩
      | scalar s => exact Or.inr ⟨s, hValue⟩
      | types items => exact absurd hSame.symm hAccepts

/-- A text names a form when it is the tag of one, blanks around it aside. -/
theorem NameForm.isSome_ofText?_iff {s : Text} :
    (ofText? s).isSome = true ↔ ∃ form ∈ all, form.tag = trim s := by
  rw [ofText?, ofTag?, List.find?_isSome]
  simp only [decide_eq_true_eq]

/-- The kinds that fit are those for which a placeholder is well typed. -/
theorem Expression.wellTyped_iff {kinds : Kinds} {inRange : Bool} {e : Expression} :
    e.wellTyped kinds inRange = true ↔
      ∃ kind, e.key.kind? kinds inRange = some kind ∧ (e.reference inRange).role.Accepts kind := by
  obtain ⟨key, form⟩ := e
  simp only [wellTyped, reference]
  cases key.kind? kinds inRange with
  | none => cases form <;> simp
  | some kind =>
    cases form with
    | none => cases kind <;> simp [Role.Accepts]
    | some tag => cases kind <;> simp [Role.Accepts, NameForm.isSome_ofText?_iff]

/-- **The check of a template is that of its references.** -/
theorem Block.wellTyped_iff_fits {vars : Bindings} {b : Block} {inRange : Bool} :
    b.wellTyped vars.kinds inRange = true ↔ ∀ r ∈ b.references inRange, r.Fits vars := by
  induction b generalizing inRange with
  | done => exact iff_of_true rfl nofun
  | text s rest ih => exact ih
  | emit e line rest ih =>
    rw [wellTyped, Bool.and_eq_true, Expression.wellTyped_iff, ih, references, List.forall_mem_cons,
      Reference.fits_iff]
    rfl
  | range key line body rest ihBody ihRest =>
    rw [wellTyped, Bool.and_eq_true, Bool.and_eq_true, decide_eq_true_eq, ihBody, ihRest, references,
      List.forall_mem_cons, List.forall_mem_append, and_assoc, Reference.fits_iff]
    refine and_congr_left fun _ => ?_
    constructor
    · intro hKind
      exact ⟨.types, hKind, rfl⟩
    · rintro ⟨kind, hKind, rfl⟩
      exact hKind

instance (vars : Bindings) (b : Block) : Decidable (b.Fits vars) :=
  decidable_of_iff _ Block.wellTyped_iff_fits

/-! ## The failure of a reference -/

/-- The error of a reference of this role, if it does not fit. A form that does not exist is reported
before a value that has no forms. -/
def Role.failure? (key : KeyRef) : Role → ValueKind → Option TemplateError
  | range, .types => none
  | range, _ => some (.notASequence key.display)
  | plain, .types => some (.notAScalar key.display)
  | plain, _ => none
  | formed tag, kind =>
    if NameForm.ofText? tag = none then some (.unknownForm (trim tag))
    else if kind = .type then none
    else some (.notAType key.display)

/-- The error of a reference, which has no value or does not fit. -/
def Reference.failure? (kinds : Kinds) (r : Reference) : Option TemplateError :=
  match r.key.kind? kinds r.inRange with
  | none => some (.unboundKey r.key.display)
  | some kind => r.role.failure? r.key kind

theorem Role.failure?_eq_none_iff {key : KeyRef} {role : Role} {kind : ValueKind} :
    role.failure? key kind = none ↔ role.Accepts kind := by
  cases role with
  | range => cases kind <;> simp [failure?, Accepts]
  | plain => cases kind <;> simp [failure?, Accepts]
  | formed tag =>
    rw [Accepts, ← NameForm.isSome_ofText?_iff, failure?]
    cases NameForm.ofText? tag <;> cases kind <;> simp

/-- **A reference fits when it has no failure.** -/
theorem Reference.failure?_eq_none_iff {vars : Bindings} {r : Reference} :
    r.failure? vars.kinds = none ↔ r.Fits vars := by
  rw [fits_iff, failure?]
  cases r.key.kind? vars.kinds r.inRange with
  | none => simp
  | some kind => simp [Role.failure?_eq_none_iff]

/-! ## The failure of a rendering -/

namespace Rendering

/-- The error that a rendering ends with on an import table, if it does. -/
def failureOn (r : Rendering) (t : ImportTable) : Option TemplateError :=
  match (r t).1 with
  | .ok _ => none
  | .error e => some e

/-- The rendering ends with this error, or with none, on every import table. -/
def FailsAs (r : Rendering) (failure : Option TemplateError) : Prop :=
  ∀ t, r.failureOn t = failure

theorem failsAs_text (s : Text) : (text s).FailsAs none := fun _ => rfl

theorem failsAs_fail (e : TemplateError) : (fail e).FailsAs (some e) := fun _ => rfl

theorem failsAs_name (scope : NameScope) (n : TypeName) (form : NameForm) :
    (name scope n form).FailsAs none := fun _ => rfl

/-- The first of two renderings that fails ends both. -/
theorem FailsAs.append {a b : Rendering} {failure failure' : Option TemplateError}
    (ha : a.FailsAs failure) (hb : b.FailsAs failure') :
    (append a b).FailsAs (failure.or failure') := by
  intro t
  rw [← ha t]
  simp only [failureOn, Rendering.append]
  cases hFirst : a t with
  | mk first t₁ =>
    cases first with
    | error e => rfl
    | ok s =>
      rw [← hb t₁]
      simp only [failureOn]
      cases hSecond : b t₁ with
      | mk second t₂ => cases second <;> rfl

/-- Renderings that fail alike fail like the first one, if there is one. -/
theorem failsAs_concat {rs : List Rendering} {failure : Option TemplateError}
    (h : ∀ r ∈ rs, r.FailsAs failure) :
    (concat rs).FailsAs (if rs = [] then none else failure) := by
  induction rs with
  | nil => exact failsAs_text []
  | cons r rs ih =>
    have hBoth := (h r List.mem_cons_self).append
      (ih fun other hOther => h other (List.mem_cons_of_mem r hOther))
    have hSame : failure.or (if rs = [] then none else failure) = failure := by
      cases failure with
      | none => exact ite_self none
      | some e => rfl
    rw [hSame] at hBoth
    exact hBoth

theorem failureOn_eq_none_iff {r : Rendering} {t : ImportTable} :
    r.failureOn t = none ↔ ∃ s t', r t = (.ok s, t') := by
  rw [failureOn]
  cases hResult : r t with
  | mk result t' => cases result <;> simp

theorem failureOn_eq_some_iff {r : Rendering} {t : ImportTable} {e : TemplateError} :
    r.failureOn t = some e ↔ ∃ t', r t = (.error e, t') := by
  rw [failureOn]
  cases hResult : r t with
  | mk result t' => cases result <;> simp

end Rendering

/-! ## The failure of a template -/

/-- A reference has a value of its kind, or it has none and this is the error. -/
theorem KeyRef.lookup_cases (vars : Bindings) (current : Option Declaration) (key : KeyRef) :
    (key.kind? vars.kinds current.isSome = none ∧
      key.lookup vars current = .error (.unboundKey key.display)) ∨
    ∃ v, key.kind? vars.kinds current.isSome = some v.kind ∧ key.lookup vars current = .ok v := by
  cases key with
  | current =>
    cases current with
    | none => exact Or.inl ⟨rfl, rfl⟩
    | some d => exact Or.inr ⟨.type d, rfl, rfl⟩
  | named name =>
    simp only [kind?, Bindings.kinds, lookup]
    cases vars.get? name with
    | none => exact Or.inl ⟨rfl, rfl⟩
    | some v => exact Or.inr ⟨v, rfl, rfl⟩

/-- Whether a reference is bound to a sequence without elements. -/
def KeyRef.lacksElements (vars : Bindings) : KeyRef → Bool
  | current => false
  | named name => vars.get? name = some (.types [])

theorem KeyRef.lacksElements_iff {vars : Bindings} {current : Option Declaration} {key : KeyRef}
    {items : List Declaration} (h : key.lookup vars current = .ok (.types items)) :
    key.lacksElements vars = true ↔ items = [] := by
  cases key with
  | current => cases current <;> cases h
  | named name =>
    rw [lookup] at h
    cases hValue : vars.get? name with
    | none => rw [hValue] at h; cases h
    | some v =>
      rw [hValue] at h
      obtain rfl := Except.ok.inj h
      simp [lacksElements, hValue]

/-- The references that rendering reaches unless it fails: those of a body without an element are
passed over. -/
def Block.reached (vars : Bindings) : Bool → Block → List Reference
  | _, done => []
  | inRange, text _ rest => rest.reached vars inRange
  | inRange, emit e _ rest => e.reference inRange :: rest.reached vars inRange
  | inRange, range key _ body rest =>
    ⟨key, .range, inRange⟩ ::
      ((if key.lacksElements vars then [] else body.reached vars true) ++ rest.reached vars inRange)

/-- The first failure among the references that rendering reaches. -/
def Block.failure? (vars : Bindings) (inRange : Bool) (b : Block) : Option TemplateError :=
  (b.reached vars inRange).findSome? (Reference.failure? vars.kinds)

theorem Expression.render_failsAs (scope : NameScope) (vars : Bindings)
    (current : Option Declaration) (e : Expression) :
    (e.render scope vars current).FailsAs ((e.reference current.isSome).failure? vars.kinds) := by
  obtain ⟨key, form⟩ := e
  rcases key.lookup_cases vars current with ⟨hNone, hLookup⟩ | ⟨v, hKind, hLookup⟩
  · simp only [render, reference, Reference.failure?, hLookup, hNone]
    exact Rendering.failsAs_fail _
  · simp only [render, reference, Reference.failure?, hLookup, hKind]
    cases form with
    | none =>
      cases v with
      | type d => exact Rendering.failsAs_name scope d.name .pub
      | scalar s => exact Rendering.failsAs_text s
      | types ds => exact Rendering.failsAs_fail _
    | some tag =>
      simp only [Option.elim, Role.failure?]
      cases NameForm.ofText? tag with
      | none => exact Rendering.failsAs_fail _
      | some form =>
        cases v with
        | type d => exact Rendering.failsAs_name scope d.name form
        | scalar s => exact Rendering.failsAs_fail _
        | types ds => exact Rendering.failsAs_fail _

namespace Block

variable {vars : Bindings} {inRange : Bool}

theorem failure?_emit (e : Expression) (line : Nat) (rest : Block) :
    (emit e line rest).failure? vars inRange =
      ((e.reference inRange).failure? vars.kinds).or (rest.failure? vars inRange) := by
  rw [failure?, reached, List.findSome?_cons, ← failure?]
  cases (e.reference inRange).failure? vars.kinds <;> rfl

theorem failure?_range (key : KeyRef) (line : Nat) (body rest : Block) :
    (range key line body rest).failure? vars inRange =
      (Reference.failure? vars.kinds ⟨key, .range, inRange⟩).or
        ((if key.lacksElements vars then none else body.failure? vars true).or
          (rest.failure? vars inRange)) := by
  have hBody : (if key.lacksElements vars = true then [] else body.reached vars true).findSome?
      (Reference.failure? vars.kinds) =
        if key.lacksElements vars = true then none else body.failure? vars true := by
    split <;> rfl
  rw [failure?, reached, List.findSome?_cons, List.findSome?_append, hBody, ← failure?]
  cases Reference.failure? vars.kinds ⟨key, .range, inRange⟩ <;> rfl

/-- **The error of a rendering is the first failure among the references that it reaches.** -/
theorem render_failsAs (scope : NameScope) (vars : Bindings) (b : Block)
    (current : Option Declaration) :
    (b.render scope vars current).FailsAs (b.failure? vars current.isSome) := by
  induction b generalizing current with
  | done => exact Rendering.failsAs_text []
  | text s rest ih => exact (Rendering.failsAs_text s).append (ih current)
  | emit e line rest ih =>
    rw [failure?_emit]
    exact (e.render_failsAs scope vars current).append (ih current)
  | range key line body rest ihBody ihRest =>
    rw [failure?_range, render]
    rcases key.lookup_cases vars current with ⟨hNone, hLookup⟩ | ⟨v, hKind, hLookup⟩
    · simp only [Reference.failure?, hLookup, hNone]
      exact Rendering.failsAs_fail _
    · simp only [Reference.failure?, hLookup, hKind]
      cases v with
      | type d => exact Rendering.failsAs_fail _
      | scalar s => exact Rendering.failsAs_fail _
      | types items =>
        have hItems : ∀ r ∈ items.map fun item => body.render scope vars (some item),
            r.FailsAs (body.failure? vars true) := by
          intro r hr
          obtain ⟨item, -, rfl⟩ := List.mem_map.1 hr
          exact ihBody (some item)
        have hBodies := Rendering.failsAs_concat hItems
        simp only [List.map_eq_nil_iff, ← KeyRef.lacksElements_iff hLookup] at hBodies
        exact hBodies.append (ihRest current)

/-- Rendering reaches every reference when no range is without elements. -/
theorem reached_eq_references {b : Block}
    (h : ∀ r ∈ b.references inRange, r.role = .range → r.key.lacksElements vars = false) :
    b.reached vars inRange = b.references inRange := by
  induction b generalizing inRange with
  | done => rfl
  | text s rest ih => exact ih h
  | emit e line rest ih =>
    rw [reached, ih fun r hr => h r (List.mem_cons_of_mem _ hr), references]
  | range key line body rest ihBody ihRest =>
    rw [references, List.forall_mem_cons, List.forall_mem_append] at h
    obtain ⟨hKey, hBody, hRest⟩ := h
    rw [reached, ihBody hBody, ihRest hRest, hKey rfl, references]
    rfl

theorem failure?_eq_none_iff {b : Block} :
    b.failure? vars inRange = none ↔ ∀ r ∈ b.reached vars inRange, r.Fits vars := by
  rw [failure?, List.findSome?_eq_none_iff]
  exact forall₂_congr fun r _ => Reference.failure?_eq_none_iff

/-- **Templates that fit are rendered.** A template in which every reference fits is rendered with
any names and on any import table; and a template that is rendered once has no other references when
no range in it is over a sequence without elements. Whether a template is rendered, and which error
it ends with, is the same for all names and tables. -/
theorem renders_iff_fits (b : Block) (vars : Bindings) :
    (b.Fits vars → ∀ scope t, ∃ s t', b.render scope vars none t = (.ok s, t')) ∧
    (∀ scope t s t', b.render scope vars none t = (.ok s, t') →
      (∀ r ∈ b.references false, r.role = .range → ∀ name, r.key = .named name →
        vars.get? name ≠ some (.types [])) → b.Fits vars) ∧
    ∀ scope scope' t t',
      ((∃ s t₁, b.render scope vars none t = (.ok s, t₁)) ↔
        ∃ s t₁, b.render scope' vars none t' = (.ok s, t₁)) ∧
      ∀ e, (∃ t₁, b.render scope vars none t = (.error e, t₁)) ↔
        ∃ t₁, b.render scope' vars none t' = (.error e, t₁) := by
  have hFails : ∀ scope t, (b.render scope vars none).failureOn t = b.failure? vars false :=
    fun scope t => b.render_failsAs scope vars none t
  refine ⟨?_, ?_, ?_⟩
  · intro hFits scope t
    exact render_succeeds scope none (wellTyped_iff_fits.2 hFits) t
  · intro scope t s t' hRender hElements
    have hNone := Rendering.failureOn_eq_none_iff.2 ⟨s, t', hRender⟩
    rw [hFails, failure?_eq_none_iff, reached_eq_references] at hNone
    · exact hNone
    · intro r hr hRange
      cases hKey : r.key with
      | current => rfl
      | named name => exact decide_eq_false (hElements r hr hRange name hKey)
  · intro scope scope' t t'
    simp only [← Rendering.failureOn_eq_none_iff, ← Rendering.failureOn_eq_some_iff, hFails,
      implies_true, and_self]

/-- Bindings to values of all kinds. -/
def titledTypes : Bindings := TextMap.ofList [("none", .types []), ("title", .scalar "Types"),
  ("type", .type { name := ⟨"c/v1", "Job"⟩ }),
  ("types", .types [{ name := ⟨"a/v1", "Pod"⟩ }, { name := ⟨"b/v1", "Node"⟩ }])]

/-- A title, and a range with its own element and a type from outside. -/
def titled : Block :=
  .emit ⟨.named "title", none⟩ 1 (.range (.named "types") 1
    (.text " " (.emit ⟨.current, some "raw"⟩ 1 (.text "/"
      (.emit ⟨.named "type", some " private "⟩ 1 .done)))) .done)

/-- One rendering shows that every reference of this template fits, and so the template is rendered
with all names and on all import tables. A range without elements hides a key without a value. -/
theorem renders_iff_fits_titled :
    (titled.render ⟨"out", TextMap.empty⟩ titledTypes none {}).1 =
      .ok "Types v1.Pod/job bv1.Node/job" ∧
    (∀ r ∈ titled.references false, r.role = .range → ∀ name, r.key = .named name →
      titledTypes.get? name ≠ some (.types [])) ∧
    titled.Fits titledTypes ∧
    (∀ scope t, ∃ s t', titled.render scope titledTypes none t = (.ok s, t')) ∧
    ¬ (range (.named "none") 1 (.emit ⟨.named "missing", none⟩ 1 .done) .done).Fits titledTypes ∧
    (range (.named "none") 1 (.emit ⟨.named "missing", none⟩ 1 .done) .done).render
      ⟨"out", TextMap.empty⟩ titledTypes none {} = (.ok [], {}) := by
  have hText : (titled.render ⟨"out", TextMap.empty⟩ titledTypes none {}).1 =
      .ok "Types v1.Pod/job bv1.Node/job" := by decide +kernel
  have hElements : ∀ r ∈ titled.references false, r.role = .range → ∀ name, r.key = .named name →
      titledTypes.get? name ≠ some (.types []) := by
    intro r hr hRange name hKey hEmpty
    have hFull : ∀ r ∈ titled.references false, r.key.lacksElements titledTypes = false := by
      decide +kernel
    have hLacks := hFull r hr
    rw [hKey] at hLacks
    exact of_decide_eq_false hLacks hEmpty
  obtain ⟨hRenders, hFits, -⟩ := renders_iff_fits titled titledTypes
  have hTitled := hFits _ _ _ _ (Prod.ext hText rfl) hElements
  exact ⟨hText, hElements, hTitled, hRenders hTitled, by decide +kernel, by decide +kernel⟩

end Block

end RestScaffold
