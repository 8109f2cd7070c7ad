import RestScaffold.Template.Render

/-!
# Well-typed templates

Whether a template can be rendered is decided before any value is known, from the kinds of values
that its keys are bound to. A block is well typed for such kinds when each reference fits its place:
a range goes through a sequence, a form is asked of a type, and only a type or a scalar is written
as it is.

* `Block.render_succeeds`: a well-typed block is rendered on every import table;
* `Block.wellTyped_mono`: further keys do no harm;
* `Block.render_congr_of_keys` and `Block.render_congr`: a block is rendered alike under bindings
  that agree on its named keys, and these have kinds when it is well typed for some, so nothing else
  can reach its text;
* `Block.render_apart`: scalars do not reach the import table, and the lengths of two texts that
  differ in scalars only differ by those scalars.
-/

namespace RestScaffold

/-! ## Kinds of values -/

/-- What a key may stand for. -/
inductive ValueKind where
  | type
  | types
  | scalar
  deriving DecidableEq

/-- The kind of a value. -/
def Value.kind : Value → ValueKind
  | .type _ => .type
  | .types _ => .types
  | .scalar _ => .scalar

/-- The kinds of the values that keys are bound to. -/
abbrev Kinds := Text → Option ValueKind

/-- The kinds that bindings give to their keys. -/
def Bindings.kinds (vars : Bindings) : Kinds := fun key => (vars.get? key).map Value.kind

/-- Every key with a kind on the left has it on the right as well. -/
def Kinds.Within (a b : Kinds) : Prop := ∀ key kind, a key = some kind → b key = some kind

/-- The kind of what a reference is bound to, inside or outside of a range. -/
def KeyRef.kind? (kinds : Kinds) (inRange : Bool) : KeyRef → Option ValueKind
  | .current => if inRange then some .type else none
  | .named name => kinds name

/-! ## Well-typed parts -/

/-- Whether a placeholder asks for something that its value has. -/
def Expression.wellTyped (kinds : Kinds) (inRange : Bool) (e : Expression) : Bool :=
  match e.key.kind? kinds inRange, e.form with
  | some .type, some tag => (NameForm.ofText? tag).isSome
  | some .type, none => true
  | some .scalar, none => true
  | _, _ => false

/-- Whether every reference of a block fits its place. -/
def Block.wellTyped (kinds : Kinds) : Bool → Block → Bool
  | _, done => true
  | inRange, text _ rest => rest.wellTyped kinds inRange
  | inRange, emit e _ rest => e.wellTyped kinds inRange && rest.wellTyped kinds inRange
  | inRange, range key _ body rest =>
    key.kind? kinds inRange = some .types && body.wellTyped kinds true &&
      rest.wellTyped kinds inRange

theorem KeyRef.kind?_mono {a b : Kinds} (h : a.Within b) {inRange : Bool} {key : KeyRef}
    {kind : ValueKind} (hk : key.kind? a inRange = some kind) :
    key.kind? b inRange = some kind := by
  cases key with
  | current => exact hk
  | named name => exact h name kind hk

theorem Expression.wellTyped_mono {a b : Kinds} (h : a.Within b) {inRange : Bool} {e : Expression}
    (he : e.wellTyped a inRange = true) : e.wellTyped b inRange = true := by
  unfold Expression.wellTyped at he ⊢
  cases hk : e.key.kind? a inRange with
  | none => simp [hk] at he
  | some kind => rw [KeyRef.kind?_mono h hk]; rwa [hk] at he

theorem Block.wellTyped_mono {a b : Kinds} (h : a.Within b) {block : Block} {inRange : Bool}
    (hb : block.wellTyped a inRange = true) : block.wellTyped b inRange = true := by
  induction block generalizing inRange with
  | done => rfl
  | text s rest ih => exact ih hb
  | emit e line rest ih =>
    simp only [Block.wellTyped, Bool.and_eq_true] at hb ⊢
    exact ⟨Expression.wellTyped_mono h hb.1, ih hb.2⟩
  | range key line body rest ihBody ihRest =>
    simp only [Block.wellTyped, Bool.and_eq_true, decide_eq_true_eq] at hb ⊢
    exact ⟨⟨KeyRef.kind?_mono h hb.1.1, ihBody hb.1.2⟩, ihRest hb.2⟩

/-- A reference with a kind has a value of that kind. -/
theorem KeyRef.lookup_of_kind? {vars : Bindings} {current : Option Declaration} {key : KeyRef}
    {kind : ValueKind} (h : key.kind? vars.kinds current.isSome = some kind) :
    ∃ v, key.lookup vars current = .ok v ∧ v.kind = kind := by
  cases key with
  | current =>
    cases current with
    | none => simp [KeyRef.kind?] at h
    | some d =>
      refine ⟨.type d, rfl, ?_⟩
      exact Option.some.inj h
  | named name =>
    obtain ⟨v, hv, hk⟩ := Option.map_eq_some_iff.1 h
    exact ⟨v, by simp only [KeyRef.lookup, hv], hk⟩

/-! ## Rendering succeeds -/

/-- The rendering writes a text on every import table. -/
def Rendering.Succeeds (r : Rendering) : Prop := ∀ t, ∃ s t', r t = (.ok s, t')

theorem Rendering.succeeds_text (s : Text) : (text s).Succeeds := fun t => ⟨s, t, rfl⟩

theorem Rendering.succeeds_name (scope : NameScope) (n : TypeName) (form : NameForm) :
    (name scope n form).Succeeds := fun _ => ⟨_, _, rfl⟩

theorem Rendering.succeeds_append {a b : Rendering} (ha : a.Succeeds) (hb : b.Succeeds) :
    (append a b).Succeeds := by
  intro t
  obtain ⟨s₁, t₁, h₁⟩ := ha t
  obtain ⟨s₂, t₂, h₂⟩ := hb t₁
  exact ⟨s₁ ++ s₂, t₂, by simp only [append, h₁, h₂]⟩

theorem Rendering.succeeds_concat {rs : List Rendering} (h : ∀ r ∈ rs, r.Succeeds) :
    (concat rs).Succeeds := by
  induction rs with
  | nil => exact succeeds_text []
  | cons r rs ih =>
    show (append r (concat rs)).Succeeds
    exact succeeds_append (h r List.mem_cons_self) (ih fun q hq => h q (List.mem_cons_of_mem r hq))

theorem Expression.render_succeeds (scope : NameScope) {vars : Bindings}
    (current : Option Declaration) {e : Expression}
    (h : e.wellTyped vars.kinds current.isSome = true) :
    (e.render scope vars current).Succeeds := by
  unfold Expression.wellTyped at h
  cases hk : e.key.kind? vars.kinds current.isSome with
  | none => simp [hk] at h
  | some kind =>
    obtain ⟨v, hv, hkind⟩ := KeyRef.lookup_of_kind? hk
    simp only [Expression.render, hv]
    cases hform : e.form with
    | none =>
      cases v with
      | type d => exact Rendering.succeeds_name scope d.name .pub
      | scalar s => exact Rendering.succeeds_text s
      | types ds => subst hkind; simp [hk, hform, Value.kind] at h
    | some tag =>
      cases v with
      | type d =>
        subst hkind
        simp only [hk, hform, Value.kind] at h
        obtain ⟨form, hf⟩ := Option.isSome_iff_exists.1 h
        simp only [hf]
        exact Rendering.succeeds_name scope d.name form
      | scalar s => subst hkind; simp [hk, hform, Value.kind] at h
      | types ds => subst hkind; simp [hk, hform, Value.kind] at h

/-- **A well-typed block is rendered on every import table.** -/
theorem Block.render_succeeds (scope : NameScope) {vars : Bindings} {block : Block}
    (current : Option Declaration) (h : block.wellTyped vars.kinds current.isSome = true) :
    (block.render scope vars current).Succeeds := by
  induction block generalizing current with
  | done => exact Rendering.succeeds_text []
  | text s rest ih => exact Rendering.succeeds_append (Rendering.succeeds_text s) (ih current h)
  | emit e line rest ih =>
    simp only [Block.wellTyped, Bool.and_eq_true] at h
    exact Rendering.succeeds_append (Expression.render_succeeds scope current h.1) (ih current h.2)
  | range key line body rest ihBody ihRest =>
    simp only [Block.wellTyped, Bool.and_eq_true, decide_eq_true_eq] at h
    obtain ⟨v, hv, hkind⟩ := KeyRef.lookup_of_kind? h.1.1
    cases v with
    | type d => cases hkind
    | scalar s => cases hkind
    | types items =>
      simp only [Block.render, hv]
      refine Rendering.succeeds_append (Rendering.succeeds_concat fun r hr => ?_)
        (ihRest current h.2)
      obtain ⟨item, -, rfl⟩ := List.mem_map.1 hr
      exact ihBody (some item) h.1.2

/-! ## What a block can see -/

theorem KeyRef.lookup_congr {a b : Bindings} {key : KeyRef}
    (h : ∀ name ∈ Block.namedKeys.ofRef key, a.get? name = b.get? name)
    (current : Option Declaration) : key.lookup a current = key.lookup b current := by
  cases key with
  | current => rfl
  | named name => simp only [KeyRef.lookup, h name List.mem_cons_self]

theorem Expression.render_congr (scope : NameScope) {a b : Bindings} {e : Expression}
    (h : ∀ name ∈ Block.namedKeys.ofRef e.key, a.get? name = b.get? name)
    (current : Option Declaration) : e.render scope a current = e.render scope b current := by
  simp only [Expression.render, KeyRef.lookup_congr h]

/-- **A block sees its named keys only.** -/
theorem Block.render_congr_of_keys (scope : NameScope) {a b : Bindings} {block : Block}
    (h : ∀ key ∈ block.namedKeys, a.get? key = b.get? key) (current : Option Declaration) :
    block.render scope a current = block.render scope b current := by
  induction block generalizing current with
  | done => rfl
  | text s rest ih => simp only [Block.render, ih h]
  | emit e line rest ih =>
    rw [namedKeys, List.forall_mem_append] at h
    simp only [Block.render, Expression.render_congr scope h.1, ih h.2]
  | range key line body rest ihBody ihRest =>
    rw [namedKeys, List.forall_mem_append, List.forall_mem_append] at h
    simp only [Block.render, KeyRef.lookup_congr h.1.1, ihBody h.1.2, ihRest h.2]

/-- Bindings that agree on every key that has a kind. -/
def Bindings.AgreeOn (kinds : Kinds) (a b : Bindings) : Prop :=
  ∀ key, (kinds key).isSome → a.get? key = b.get? key

theorem KeyRef.isSome_of_kind? {kinds : Kinds} {inRange : Bool} {key : KeyRef} {kind : ValueKind}
    (h : key.kind? kinds inRange = some kind) :
    ∀ name ∈ Block.namedKeys.ofRef key, (kinds name).isSome := by
  cases key with
  | current => exact nofun
  | named name =>
    intro other hOther
    rw [List.mem_singleton.1 hOther]
    exact Option.isSome_iff_exists.2 ⟨kind, h⟩

/-- Every key of a well-typed block has a kind. -/
theorem Block.isSome_of_mem_namedKeys {kinds : Kinds} {block : Block} {inRange : Bool}
    (hb : block.wellTyped kinds inRange = true) : ∀ key ∈ block.namedKeys, (kinds key).isSome := by
  induction block generalizing inRange with
  | done => exact nofun
  | text s rest ih => exact ih hb
  | emit e line rest ih =>
    simp only [Block.wellTyped, Bool.and_eq_true] at hb
    refine List.forall_mem_append.2 ⟨?_, ih hb.2⟩
    cases hKind : e.key.kind? kinds inRange with
    | none => simp [Expression.wellTyped, hKind] at hb
    | some kind => exact KeyRef.isSome_of_kind? hKind
  | range key line body rest ihBody ihRest =>
    simp only [Block.wellTyped, Bool.and_eq_true, decide_eq_true_eq] at hb
    refine List.forall_mem_append.2 ⟨List.forall_mem_append.2 ⟨?_, ihBody hb.1.2⟩, ihRest hb.2⟩
    exact KeyRef.isSome_of_kind? hb.1.1

/-- **A well-typed block sees the keys of its kinds only.** -/
theorem Block.render_congr (scope : NameScope) {kinds : Kinds} {a b : Bindings}
    (h : a.AgreeOn kinds b) {block : Block} {inRange : Bool}
    (hb : block.wellTyped kinds inRange = true) (current : Option Declaration) :
    block.render scope a current = block.render scope b current :=
  render_congr_of_keys scope (fun key hKey => h key (isSome_of_mem_namedKeys hb key hKey)) current

/-! ## Scalars and lengths -/

/-- Both renderings write a text and leave the same table; the texts would be equally long if the
first were `n` characters longer and the second `m`. -/
def Rendering.Apart (m n : Nat) (a b : Rendering) : Prop :=
  ∀ t, ∃ s s' t', a t = (.ok s, t') ∧ b t = (.ok s', t') ∧ s.length + n = s'.length + m

theorem Rendering.apart_self {a : Rendering} (h : a.Succeeds) : Apart 0 0 a a := by
  intro t
  obtain ⟨s, t', hs⟩ := h t
  exact ⟨s, s, t', hs, hs, rfl⟩

theorem Rendering.apart_append {m n m' n' : Nat} {a a' b b' : Rendering} (ha : Apart m n a a')
    (hb : Apart m' n' b b') : Apart (m + m') (n + n') (append a b) (append a' b') := by
  intro t
  obtain ⟨s₁, s₁', t₁, h₁, h₁', hlen₁⟩ := ha t
  obtain ⟨s₂, s₂', t₂, h₂, h₂', hlen₂⟩ := hb t₁
  refine ⟨s₁ ++ s₂, s₁' ++ s₂', t₂, by simp only [append, h₁, h₂],
    by simp only [append, h₁', h₂'], ?_⟩
  rw [List.length_append, List.length_append]
  omega

/-- How long the scalar is that a key is bound to, if it is bound to one. -/
def Bindings.scalarLength (vars : Bindings) (key : Text) : Nat :=
  match vars.get? key with
  | some (.scalar s) => s.length
  | _ => 0

/-- The keys that a placeholder without a form refers to. -/
def Expression.plainKeys (e : Expression) : List Text :=
  match e.key, e.form with
  | .named name, none => [name]
  | _, _ => []

/-- The keys that the placeholders without a form refer to, if the block has no ranges. -/
def Block.plainKeys? : Block → Option (List Text)
  | done => some []
  | text _ rest => rest.plainKeys?
  | emit e _ rest => rest.plainKeys?.map (e.plainKeys ++ ·)
  | range _ _ _ _ => none

/-- Bindings that agree on the kinds of keys, and on all but the scalars. -/
structure Bindings.AgreeButScalars (kinds : Kinds) (a b : Bindings) : Prop where
  left : kinds.Within a.kinds
  right : kinds.Within b.kinds
  types : ∀ key, kinds key ≠ some .scalar → (kinds key).isSome → a.get? key = b.get? key

theorem Bindings.get?_of_scalar {kinds : Kinds} {vars : Bindings} (h : kinds.Within vars.kinds)
    {key : Text} (hk : kinds key = some .scalar) : ∃ s, vars.get? key = some (.scalar s) := by
  obtain ⟨v, hv, hkind⟩ := Option.map_eq_some_iff.1 (h key .scalar hk)
  cases v with
  | scalar s => exact ⟨s, hv⟩
  | type d => cases hkind
  | types ds => cases hkind

/-- The lengths of the scalars that some keys are bound to, taken together. -/
def Bindings.scalarLengths (vars : Bindings) : List Text → Nat
  | [] => 0
  | key :: keys => vars.scalarLength key + vars.scalarLengths keys

theorem Bindings.scalarLengths_append (vars : Bindings) (keys keys' : List Text) :
    vars.scalarLengths (keys ++ keys') = vars.scalarLengths keys + vars.scalarLengths keys' := by
  induction keys with
  | nil => exact (Nat.zero_add _).symm
  | cons key keys ih =>
    rw [List.cons_append, scalarLengths, scalarLengths, ih, Nat.add_assoc]

theorem Expression.render_apart (scope : NameScope) {kinds : Kinds} {a b : Bindings}
    (h : a.AgreeButScalars kinds b) (current : Option Declaration) {e : Expression}
    (he : e.wellTyped kinds current.isSome = true) :
    Rendering.Apart (a.scalarLengths e.plainKeys) (b.scalarLengths e.plainKeys)
      (e.render scope a current) (e.render scope b current) := by
  have hSucceeds := Expression.render_succeeds scope current
    (Expression.wellTyped_mono h.left he)
  obtain ⟨key, form⟩ := e
  cases key with
  | current => exact Rendering.apart_self hSucceeds
  | named name =>
    by_cases hk : kinds name = some .scalar
    · obtain ⟨s, hs⟩ := Bindings.get?_of_scalar h.left hk
      obtain ⟨s', hs'⟩ := Bindings.get?_of_scalar h.right hk
      cases form with
      | none =>
        intro t
        refine ⟨s, s', t, ?_, ?_, ?_⟩
        · simp only [Expression.render, KeyRef.lookup, hs, Rendering.text]
        · simp only [Expression.render, KeyRef.lookup, hs', Rendering.text]
        · simp [Expression.plainKeys, Bindings.scalarLengths, Bindings.scalarLength, hs, hs',
            Nat.add_comm]
      | some tag => simp [Expression.wellTyped, KeyRef.kind?, hk] at he
    · have hSome : (kinds name).isSome := by
        cases hn : kinds name with
        | none => simp [Expression.wellTyped, KeyRef.kind?, hn] at he
        | some kind => rfl
      have hGet : a.get? name = b.get? name := h.types name hk hSome
      have hLength : a.scalarLength name = b.scalarLength name := by
        simp only [Bindings.scalarLength, hGet]
      have hSame : Expression.render scope b current ⟨.named name, form⟩ =
          Expression.render scope a current ⟨.named name, form⟩ := by
        simp only [Expression.render, KeyRef.lookup, hGet]
      rw [hSame]
      intro t
      obtain ⟨s, t', hs⟩ := hSucceeds t
      refine ⟨s, s, t', hs, hs, ?_⟩
      cases form <;> simp [Expression.plainKeys, Bindings.scalarLengths, hLength]

/-- **Scalars reach the text of a block and nothing else.** The lengths of the two texts differ by
the scalars that stand in them. -/
theorem Block.render_apart (scope : NameScope) {kinds : Kinds} {a b : Bindings}
    (h : a.AgreeButScalars kinds b) {block : Block} {keys : List Text}
    (current : Option Declaration) (hb : block.wellTyped kinds current.isSome = true)
    (hKeys : block.plainKeys? = some keys) :
    Rendering.Apart (a.scalarLengths keys) (b.scalarLengths keys)
      (block.render scope a current) (block.render scope b current) := by
  induction block generalizing keys with
  | done =>
    cases hKeys
    exact Rendering.apart_self (Rendering.succeeds_text [])
  | text s rest ih =>
    have hText := Rendering.apart_append
      (Rendering.apart_self (Rendering.succeeds_text s)) (ih hb hKeys)
    rwa [Nat.zero_add, Nat.zero_add] at hText
  | emit e line rest ih =>
    simp only [Block.wellTyped, Bool.and_eq_true] at hb
    obtain ⟨restKeys, hRest, rfl⟩ := Option.map_eq_some_iff.1 hKeys
    have hEmit := Rendering.apart_append (Expression.render_apart scope h current hb.1)
      (ih hb.2 hRest)
    rw [Bindings.scalarLengths_append, Bindings.scalarLengths_append]
    exact hEmit
  | range key line body rest ihBody ihRest => cases hKeys

end RestScaffold
