import RestScaffold.Generator.Basic
import RestScaffold.Proofs.Template.Atoms

/-!
# Snippets as one template

A generator reads and renders its snippets one after the other. When each of them is a template by
itself, this comes to the same as reading and rendering all their texts as one template: no action
and no range goes over the end of a snippet, and each snippet is rendered on the import table that
the snippets in front of it have left.

* `Block.exists_ofText_flatMap`: the templates of a list as one template;
* `Generator.generate_concatenated`: a generator with its snippets as one template.
-/

namespace RestScaffold

open Text

/-- **The templates of a list are one template when they stand one behind the other.** -/
theorem Block.exists_ofText_flatMap {α : Type} {items : List α} {text : α → Text}
    (h : ∀ item ∈ items, ∃ b, ofText .dollar (text item) = .ok b) :
    ∃ b, ofText .dollar (items.flatMap text) = .ok b ∧ ∀ scope vars,
      .concat (items.map fun item => renderText .dollar scope vars (text item)) =
        b.render scope vars none := by
  induction items with
  | nil =>
    obtain ⟨b, hRead, hAtoms⟩ := exists_ofText_of_written (b := done) .nothing (Nat.zero_le _)
    exact ⟨b, hRead, fun scope vars => (render_of_atoms scope vars hAtoms none).symm⟩
  | cons item items ih =>
    obtain ⟨a, ha⟩ := h item List.mem_cons_self
    obtain ⟨b, hb, hRest⟩ := ih fun other hOther => h other (List.mem_cons_of_mem item hOther)
    obtain ⟨c, hc, hAtoms⟩ := exists_ofText_append ha hb
    refine ⟨c, hc, fun scope vars => ?_⟩
    rw [render_of_atoms scope vars hAtoms, render_append, ← hRest]
    show Rendering.append (renderText .dollar scope vars (text item)) _ = _
    rw [renderText, ha]
    rfl

namespace Generator

/-- The texts of the snippets one behind the other. -/
def text (g : Generator) : Text := g.snippets.flatMap (·.body)

/-- **A generator writes its snippets as one template.** When each snippet is a template, so are
their texts one behind the other, and rendering the snippets is rendering this template, with the
same bindings and where names are written in the same package with the same plurals: it does the
same to every import table. In particular, on the empty table, a source is written exactly when the
template has a text, which is the text of the source, and the imports are those of the generator
with a line for each path in the table behind it; and an error is met exactly when the template
meets it. -/
theorem generate_concatenated {g : Generator}
    (h : ∀ s ∈ g.snippets, ∃ b, Block.ofText .dollar s.body = .ok b) (d : Declaration) :
    (∃ b, Block.ofText .dollar g.text = .ok b) ∧
    g.renderingWith .dollar d = renderText .dollar g.scope (g.bindings d) g.text ∧
    (∀ source, g.generate d = .ok source ↔
      ∃ t, renderText .dollar g.scope (g.bindings d) g.text {} = (.ok source.body, t) ∧
        source.imports = ImportLine.merge (g.imports ++ t.lines)) ∧
    ∀ e, g.generate d = .error e ↔
      ∃ t, renderText .dollar g.scope (g.bindings d) g.text {} = (.error e, t) := by
  obtain ⟨b, hRead, hRender⟩ := Block.exists_ofText_flatMap h
  have hRendering :
      g.renderingWith .dollar d = renderText .dollar g.scope (g.bindings d) g.text := by
    rw [renderingWith, hRender, renderText, text, hRead]
  refine ⟨⟨b, hRead⟩, hRendering, fun source => ?_, fun e => ?_⟩
  · rw [generate, generateWith, hRendering]
    cases renderText .dollar g.scope (g.bindings d) g.text {} with
    | mk result t =>
      obtain ⟨body, imports⟩ := source
      cases result with
      | error e => simp
      | ok s => simp [eq_comm]
  · rw [generate, generateWith, hRendering]
    cases renderText .dollar g.scope (g.bindings d) g.text {} with
    | mk result t => cases result <;> simp

/-- A generator whose snippets end and begin with texts, ranges and placeholders. -/
def divided : Generator where
  id := ⟨"out/list", "list"⟩
  imports := ["fmt"]
  vars := TextMap.ofList
    [("types", .types [{ name := ⟨"a/v1", "Pod"⟩ }, { name := ⟨"b/v1", "Node"⟩ }])]
  contextKey := some ("type" : Text)
  snippets := [⟨"first", "of ", [], []⟩, ⟨"second", "types: $range types$$.|raw$ $end$", [], []⟩,
    ⟨"third", "$type|raw$", [], []⟩]

/-- The snippets of this generator are one template, with one local name for each package; without
the type at hand, both meet the key that has no value. -/
theorem generate_concatenated_divided :
    (∀ s ∈ divided.snippets, ∃ b, Block.ofText .dollar s.body = .ok b) ∧
    divided.text = "of types: $range types$$.|raw$ $end$$type|raw$".toList ∧
    divided.generate { name := ⟨"c/v1", "Job"⟩ } = .ok ⟨"of types: v1.Pod bv1.Node cv1.Job",
      ["\"a/v1\"", "\"fmt\"", "bv1 \"b/v1\"", "cv1 \"c/v1\""]⟩ ∧
    ({ divided with contextKey := none } : Generator).generate { name := ⟨"c/v1", "Job"⟩ } =
      .error (.unboundKey "type") := by
  have hTemplates : ∀ s ∈ divided.snippets, ∃ b, Block.ofText .dollar s.body = .ok b := by
    have hRead : ∀ s ∈ divided.snippets, (Block.ofText .dollar s.body).toBool = true := by
      decide +kernel
    intro s hs
    cases hBlock : Block.ofText .dollar s.body with
    | ok b => exact ⟨b, rfl⟩
    | error e =>
      have hSome := hRead s hs
      rw [hBlock] at hSome
      cases hSome
  obtain ⟨-, -, hSource, -⟩ := generate_concatenated hTemplates { name := ⟨"c/v1", "Job"⟩ }
  obtain ⟨-, -, -, hError⟩ := generate_concatenated
    (g := { divided with contextKey := none }) hTemplates { name := ⟨"c/v1", "Job"⟩ }
  refine ⟨hTemplates, by decide +kernel, (hSource _).2 ⟨_, Prod.ext ?_ rfl, ?_⟩,
    (hError _).2 ⟨_, Prod.ext ?_ rfl⟩⟩ <;> decide +kernel

end Generator

end RestScaffold
