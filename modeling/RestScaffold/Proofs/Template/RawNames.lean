import RestScaffold.Proofs.Template.LocalNames
import RestScaffold.Proofs.Template.WellTyped

/-!
# The packages that a template refers to

A file imports a package when its templates write a type of it in raw form. Which packages these are
is read off the templates without rendering them.

* `Block.rawPackages_of_wellTyped`: a block that is well typed for some keys refers to packages of
  the types behind these keys only, whatever else is bound;
* `Block.mem_rawPackages_of_writesRaw` and `Block.mem_rawPackages_of_listsRaw`: a raw placeholder
  refers to the package of its type, and one in a range to the packages of all types of its
  sequence.
-/

namespace RestScaffold

/-- The types that a value stands for. -/
def Value.declarations : Value → List Declaration
  | .type d => [d]
  | .types ds => ds
  | .scalar _ => []

/-- The types behind some keys come from packages with a property. -/
def Bindings.Cover (vars : Bindings) (kinds : Kinds) (P : Text → Prop) : Prop :=
  ∀ key kind v, kinds key = some kind → vars.get? key = some v → ∀ d ∈ v.declarations,
    P d.name.package

section Cover

variable {vars : Bindings} {kinds : Kinds} {P : Text → Prop}

theorem KeyRef.declarations_of_kind? (h : vars.Cover kinds P) {current : Option Declaration}
    (hCurrent : ∀ d ∈ current, P d.name.package) {key : KeyRef} {kind : ValueKind} {v : Value}
    (hKind : key.kind? kinds current.isSome = some kind)
    (hLookup : key.lookup vars current = .ok v) : ∀ d ∈ v.declarations, P d.name.package := by
  cases key with
  | current =>
    cases current with
    | none => cases hLookup
    | some d =>
      obtain rfl : Value.type d = v := Except.ok.inj hLookup
      exact List.forall_mem_singleton.2 (hCurrent d rfl)
  | named name =>
    refine h name kind v hKind ?_
    simp only [KeyRef.lookup] at hLookup
    cases hBound : vars.get? name with
    | none =>
      rw [hBound] at hLookup
      cases hLookup
    | some w =>
      rw [hBound] at hLookup
      exact congrArg some (Except.ok.inj hLookup)

/-- A form refers to a package when it is the raw one and the package is another. -/
theorem NameScope.mem_rawPackages {scope : NameScope} {n : TypeName} {form : NameForm}
    {path : Text} : path ∈ scope.rawPackages n form ↔
      form = .raw ∧ scope.isLocal n.package = false ∧ path = n.package := by
  cases form with
  | raw =>
    rw [rawPackages]
    by_cases hLocal : scope.isLocal n.package = true
    · simp [hLocal]
    · simp [hLocal]
  | pub | priv | pubPlural | lowerPlural | lower => simp [rawPackages]

theorem Expression.rawPackages_of_wellTyped (scope : NameScope) (h : vars.Cover kinds P)
    {current : Option Declaration} (hCurrent : ∀ d ∈ current, P d.name.package) {e : Expression}
    (hTyped : e.wellTyped kinds current.isSome = true) :
    ∀ path ∈ e.rawPackages scope vars current, P path ∧ scope.isLocal path = false := by
  intro path hPath
  unfold Expression.rawPackages at hPath
  split at hPath
  · next d hLookup =>
    obtain ⟨kind, hKind⟩ : ∃ kind, e.key.kind? kinds current.isSome = some kind := by
      refine Option.ne_none_iff_exists'.1 fun hNone => ?_
      rw [wellTyped, hNone] at hTyped
      cases hTyped
    have hPackage := KeyRef.declarations_of_kind? h hCurrent hKind hLookup d List.mem_cons_self
    cases hForm : e.nameForm? with
    | none =>
      rw [hForm] at hPath
      cases hPath
    | some form =>
      rw [hForm] at hPath
      obtain ⟨-, hForeign, rfl⟩ := NameScope.mem_rawPackages.1 hPath
      exact ⟨hPackage, hForeign⟩
  · cases hPath

/-- **A well-typed block refers to packages of the types behind its keys.** -/
theorem Block.rawPackages_of_wellTyped (scope : NameScope) (h : vars.Cover kinds P) {block : Block}
    {current : Option Declaration} (hCurrent : ∀ d ∈ current, P d.name.package)
    (hTyped : block.wellTyped kinds current.isSome = true) :
    ∀ path ∈ block.rawPackages scope vars current, P path ∧ scope.isLocal path = false := by
  induction block generalizing current with
  | done => exact fun path hPath => absurd hPath List.not_mem_nil
  | text s rest ih => exact ih hCurrent hTyped
  | emit e line rest ih =>
    simp only [wellTyped, Bool.and_eq_true] at hTyped
    intro path hPath
    rcases List.mem_append.1 hPath with hPath | hPath
    · exact e.rawPackages_of_wellTyped scope h hCurrent hTyped.1 path hPath
    · exact ih hCurrent hTyped.2 path hPath
  | range key line body rest ihBody ihRest =>
    simp only [wellTyped, Bool.and_eq_true, decide_eq_true_eq] at hTyped
    obtain ⟨⟨hKind, hBody⟩, hRest⟩ := hTyped
    intro path hPath
    rcases List.mem_append.1 hPath with hPath | hPath
    · split at hPath
      · next items hLookup =>
        obtain ⟨item, hItem, hPath⟩ := List.mem_flatMap.1 hPath
        have hPackage := KeyRef.declarations_of_kind? h hCurrent hKind hLookup item hItem
        refine @ihBody (some item) (fun d hd => ?_) hBody path hPath
        rwa [← Option.some.inj hd]
      · cases hPath
    · exact ihRest hCurrent hRest path hPath

end Cover

/-! ## Placeholders that are certain to be written -/

namespace Block

/-- Whether a placeholder outside of ranges writes what a reference stands for in raw form. -/
def writesRaw (key : KeyRef) : Block → Bool
  | done => false
  | text _ rest => rest.writesRaw key
  | emit e _ rest => (e.key = key && e.nameForm? = some .raw) || rest.writesRaw key
  | range _ _ _ rest => rest.writesRaw key

/-- Whether a range over what a reference stands for writes each element in raw form. -/
def listsRaw (key : KeyRef) : Block → Bool
  | done => false
  | text _ rest => rest.listsRaw key
  | emit _ _ rest => rest.listsRaw key
  | range k _ body rest => (k = key && body.writesRaw .current) || rest.listsRaw key

variable {scope : NameScope} {vars : Bindings} {current : Option Declaration} {d : Declaration}
  {key : KeyRef} {block : Block}

theorem mem_rawPackages_of_writesRaw (h : block.writesRaw key = true)
    (hLookup : key.lookup vars current = .ok (.type d))
    (hForeign : scope.isLocal d.name.package = false) :
    d.name.package ∈ block.rawPackages scope vars current := by
  induction block with
  | done => cases h
  | text s rest ih => exact ih h
  | emit e line rest ih =>
    simp only [writesRaw, Bool.or_eq_true, Bool.and_eq_true, decide_eq_true_eq] at h
    refine List.mem_append.2 (h.imp (fun hHere => ?_) ih)
    rw [Expression.rawPackages, hHere.1, hLookup]
    simp only [hHere.2]
    exact NameScope.mem_rawPackages.2 ⟨rfl, hForeign, rfl⟩
  | range k line body rest ihBody ihRest => exact List.mem_append_right _ (ihRest h)

theorem mem_rawPackages_of_listsRaw (h : block.listsRaw key = true) {ds : List Declaration}
    (hLookup : key.lookup vars current = .ok (.types ds)) (hd : d ∈ ds)
    (hForeign : scope.isLocal d.name.package = false) :
    d.name.package ∈ block.rawPackages scope vars current := by
  induction block with
  | done => cases h
  | text s rest ih => exact ih h
  | emit e line rest ih => exact List.mem_append_right _ (ih h)
  | range k line body rest ihBody ihRest =>
    simp only [listsRaw, Bool.or_eq_true, Bool.and_eq_true, decide_eq_true_eq] at h
    refine List.mem_append.2 (h.imp (fun hHere => ?_) ihRest)
    rw [hHere.1, hLookup]
    exact List.mem_flatMap.2 ⟨d, hd, mem_rawPackages_of_writesRaw hHere.2 rfl hForeign⟩

end Block

end RestScaffold
