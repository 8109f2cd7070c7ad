import Mathlib.Data.List.Infix
import RestScaffold.Proofs.Template.LocalNames

/-!
# Templates as lists of symbols

A template about one type that has no ranges is a list of symbols: characters, and forms of the
name of the type. Its text has what each symbol writes, in order. So whatever stands in the symbols
of a template stands in its text, for every type alike.

* `Block.fixed?_of_symbols`: the text of a block with symbols;
* `Block.fixed?_of_listing`: the text of a block that writes symbols for each type of a sequence;
* `Symbol.infix_write`: a run of symbols in a template is a run of text in what it writes.

Runs of symbols are compared by evaluation, which text with names in it does not allow.
-/

namespace RestScaffold

open Text

/-! ## Texts that have parts -/

/-- A text made of parts that are all there. -/
theorem Text.concat?_map_some (parts : List Text) :
    concat? (parts.map some) = some parts.flatten := by
  induction parts with
  | nil => rfl
  | cons part parts ih =>
    rw [List.map_cons, List.flatten_cons]
    show append? (some part) (concat? (parts.map some)) = _
    rw [ih]
    rfl

/-- Every part of a text is there and stands in it. -/
theorem Text.exists_of_mem_concat? {parts : List (Option Text)} {part : Option Text} {s : Text}
    (h : concat? parts = some s) (hPart : part ∈ parts) : ∃ t, part = some t ∧ t <:+: s := by
  induction parts generalizing s with
  | nil => cases hPart
  | cons first parts ih =>
    obtain ⟨t, rfl, hMap⟩ := Option.bind_eq_some_iff.1 h
    obtain ⟨rest, hRest, rfl⟩ := Option.map_eq_some_iff.1 hMap
    rcases List.mem_cons.1 hPart with rfl | hPart
    · exact ⟨t, rfl, (List.prefix_append t rest).isInfix⟩
    · obtain ⟨u, hu, hInfix⟩ := ih hRest hPart
      exact ⟨u, hu, hInfix.trans (List.suffix_append t rest).isInfix⟩

/-! ## Symbols -/

/-- What a template about a type is made of. -/
inductive Symbol where
  | char (c : Char)
  /-- A form of the type's name. -/
  | form (f : NameForm)
  deriving DecidableEq

/-- The symbols of a text without placeholders. -/
def Symbol.ofText (s : Text) : List Symbol := s.map char

/-- A form of a name, `raw` being its raw form. -/
def NameScope.formText (scope : NameScope) (n : TypeName) (raw : Text) : NameForm → Text
  | .pub => capitalize n.base
  | .priv => decapitalize n.base
  | .pubPlural => scope.publicPlural n.base
  | .lowerPlural => lower (scope.publicPlural n.base)
  | .lower => lower n.base
  | .raw => raw

/-- What a symbol writes for a type, `raw` being the raw form of its name. -/
def Symbol.write (scope : NameScope) (n : TypeName) (raw : Text) : Symbol → Text
  | char c => [c]
  | form f => scope.formText n raw f

namespace Symbol

variable (scope : NameScope) (n : TypeName) (raw : Text)

/-- What symbols write one after the other. -/
def writeAll (symbols : List Symbol) : Text := symbols.flatMap (write scope n raw)

@[simp] theorem writeAll_append (a b : List Symbol) :
    writeAll scope n raw (a ++ b) = writeAll scope n raw a ++ writeAll scope n raw b :=
  List.flatMap_append

@[simp] theorem writeAll_ofText (s : Text) : writeAll scope n raw (ofText s) = s := by
  induction s with
  | nil => rfl
  | cons c s ih => exact congrArg (c :: ·) ih

@[simp] theorem writeAll_form (f : NameForm) :
    writeAll scope n raw [form f] = scope.formText n raw f := List.append_nil _

/-- A run of symbols writes a run of text. -/
theorem infix_write {run symbols : List Symbol} (h : run <:+: symbols) :
    writeAll scope n raw run <:+: writeAll scope n raw symbols := by
  obtain ⟨front, back, rfl⟩ := h
  refine ⟨writeAll scope n raw front, writeAll scope n raw back, ?_⟩
  rw [writeAll_append, writeAll_append]

end Symbol

/-! ## Blocks with symbols -/

/-- The symbols of a block in which nothing but forms of the value of `key` is written. -/
def Block.symbols? (key : KeyRef) : Block → Option (List Symbol)
  | done => some []
  | text s rest => (rest.symbols? key).map (Symbol.ofText s ++ ·)
  | emit e _ rest =>
    if e.key = key then
      e.nameForm?.bind fun f => (rest.symbols? key).map (.form f :: ·)
    else none
  | range _ _ _ _ => none

/-- Whether a run of symbols stands in a block. -/
def Block.hasRun (key : KeyRef) (run : List Symbol) (block : Block) : Bool :=
  (block.symbols? key).any fun symbols => run <:+: symbols

section Fixed

variable {scope : NameScope} {names : TextMap Text} {vars : Bindings}
  {current : Option Declaration} {key : KeyRef} {d : Declaration} {raw : Text}

/-- A name has each of its forms when it has the raw one. -/
theorem NameScope.fixedName?_eq (hRaw : scope.fixedName? names d.name .raw = some raw)
    (f : NameForm) : scope.fixedName? names d.name f = some (scope.formText d.name raw f) := by
  cases f with
  | raw => exact hRaw
  | pub | priv | pubPlural | lowerPlural | lower => rfl

/-- **A block with symbols has the text that they write.** -/
theorem Block.fixed?_of_symbols {block : Block} {symbols : List Symbol}
    (h : block.symbols? key = some symbols) (hKey : key.lookup vars current = .ok (.type d))
    (hRaw : scope.fixedName? names d.name .raw = some raw) :
    block.fixed? scope names vars current = some (Symbol.writeAll scope d.name raw symbols) := by
  induction block generalizing symbols with
  | done =>
    obtain rfl := Option.some.inj h
    rfl
  | text s rest ih =>
    obtain ⟨tail, hTail, rfl⟩ := Option.map_eq_some_iff.1 h
    rw [fixed?, ih hTail, Symbol.writeAll_append, Symbol.writeAll_ofText]
    rfl
  | emit e line rest ih =>
    simp only [symbols?] at h
    split at h
    · next hSame =>
      obtain ⟨f, hForm, hMap⟩ := Option.bind_eq_some_iff.1 h
      obtain ⟨tail, hTail, rfl⟩ := Option.map_eq_some_iff.1 hMap
      have hEmit : e.fixed? scope names vars current = some (scope.formText d.name raw f) := by
        rw [Expression.fixed?, hSame, hKey]
        show e.nameForm?.bind _ = _
        rw [hForm]
        exact NameScope.fixedName?_eq hRaw f
      rw [fixed?, hEmit, ih hTail]
      rfl
    · cases h
  | range k line body rest ihBody ihRest => cases h

/-- A run of symbols of a block is written as a run of its text. -/
theorem Block.infix_of_hasRun {block : Block} {run : List Symbol} {s : Text}
    (h : block.hasRun key run = true) (hKey : key.lookup vars current = .ok (.type d))
    (hRaw : scope.fixedName? names d.name .raw = some raw)
    (hText : block.fixed? scope names vars current = some s) :
    Symbol.writeAll scope d.name raw run <:+: s := by
  obtain ⟨symbols, hSymbols, hRun⟩ := (Option.any_eq_true _ _).1 h
  rw [fixed?_of_symbols hSymbols hKey hRaw] at hText
  rw [← Option.some.inj hText]
  exact Symbol.infix_write scope d.name raw (of_decide_eq_true hRun)

/-- The symbols that a block writes for each type of the sequence of `key`, with the text in front of
them and the text behind. -/
def Block.listing? (key : KeyRef) : Block → Option (Text × List Symbol × Text)
  | text front (range k _ body (text back done)) =>
    if k = key then (body.symbols? .current).map fun symbols => (front, symbols, back) else none
  | _ => none

/-- **A block that lists types writes its symbols for each of them, in order.** -/
theorem Block.fixed?_of_listing {block : Block} {front back : Text} {symbols : List Symbol}
    {items : List Declaration} {rawOf : Declaration → Text}
    (h : block.listing? key = some (front, symbols, back))
    (hKey : key.lookup vars current = .ok (.types items))
    (hRaw : ∀ item ∈ items, scope.fixedName? names item.name .raw = some (rawOf item)) :
    block.fixed? scope names vars current = some (front ++ (items.flatMap fun item =>
      Symbol.writeAll scope item.name (rawOf item) symbols) ++ back) := by
  unfold listing? at h
  split at h
  · next front' k line body back' =>
    split at h
    · next hSame =>
      obtain ⟨symbols', hBody, hEq⟩ := Option.map_eq_some_iff.1 h
      obtain ⟨rfl, rfl, rfl⟩ : front' = front ∧ symbols' = symbols ∧ back' = back := by
        simpa only [Prod.mk.injEq] using hEq
      have hItems : items.map (fun item => body.fixed? scope names vars (some item)) =
          (items.map fun item =>
            Symbol.writeAll scope item.name (rawOf item) symbols').map some := by
        rw [List.map_map]
        exact List.map_congr_left fun item hItem =>
          fixed?_of_symbols hBody rfl (hRaw item hItem)
      simp only [fixed?, hSame, hKey, hItems, concat?_map_some, append?, Option.bind_some,
        Option.map_some, List.append_nil, ← List.flatMap_def, List.append_assoc]
    · cases h
  · cases h

end Fixed

end RestScaffold
