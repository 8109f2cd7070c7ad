import RestScaffold.Proofs.Template.Nesting
import RestScaffold.Template.Render

/-!
# Renderings and blocks one behind the other

Renderings form a monoid: writing nothing is neutral, and it does not matter how a sequence of
renderings is grouped, since each one goes on with the import table of the one in front of it and
the first error ends them all. Blocks can be put one behind the other as well, and rendering respects
this.

* `Rendering.append_assoc`, `Rendering.nothing_append` and `Rendering.append_nothing`: the laws of the
  monoid;
* `Block.render_append`: a block behind another is rendered behind it.
-/

namespace RestScaffold

namespace Rendering

theorem nothing_append (r : Rendering) : append (text []) r = r := by
  funext t
  simp only [append, text]
  cases r t with
  | mk result t' => cases result <;> rfl

theorem append_nothing (r : Rendering) : append r (text []) = r := by
  funext t
  simp only [append, text]
  cases r t with
  | mk result t' =>
    cases result with
    | error e => rfl
    | ok s => simp only [List.append_nil]

/-- **Renderings may be grouped in any way.** -/
theorem append_assoc (a b c : Rendering) : append (append a b) c = append a (append b c) := by
  funext t
  simp only [append]
  cases a t with
  | mk first t₁ =>
    cases first with
    | error e => rfl
    | ok s₁ =>
      dsimp only
      cases b t₁ with
      | mk second t₂ =>
        cases second with
        | error e => rfl
        | ok s₂ =>
          dsimp only
          cases c t₂ with
          | mk third t₃ =>
            cases third with
            | error e => rfl
            | ok s₃ => simp only [List.append_assoc]

/-- A text may be written in parts. -/
theorem text_append (s s' : Text) : text (s ++ s') = append (text s) (text s') := rfl

theorem fail_append (e : TemplateError) (r : Rendering) : append (fail e) r = fail e := rfl

end Rendering

namespace Block

/-- A block and another one behind it. -/
def append : Block → Block → Block
  | done, b => b
  | text s rest, b => text s (rest.append b)
  | emit e line rest, b => emit e line (rest.append b)
  | range key line body rest, b => range key line body (rest.append b)

theorem toSteps_append (a b : Block) : (a.append b).toSteps = a.toSteps ++ b.toSteps := by
  induction a with
  | done => rfl
  | text s rest ih => exact congrArg (.text s :: ·) ih
  | emit e line rest ih => exact congrArg (.emit e line :: ·) ih
  | range key line body rest ihBody ihRest =>
    rw [toSteps_range_append, ← ihRest]
    rfl

theorem depth_append (a b : Block) : (a.append b).depth = max a.depth b.depth := by
  induction a with
  | done => exact (Nat.zero_max b.depth).symm
  | text s rest ih => exact ih
  | emit e line rest ih => exact ih
  | range key line body rest ihBody ihRest =>
    show max (body.depth + 1) (rest.append b).depth = max (max (body.depth + 1) rest.depth) b.depth
    rw [ihRest, Nat.max_assoc]

/-- **A block behind another is rendered behind it,** and both see the same element. -/
theorem render_append (scope : NameScope) (vars : Bindings) (a b : Block)
    (current : Option Declaration) :
    (a.append b).render scope vars current =
      Rendering.append (a.render scope vars current) (b.render scope vars current) := by
  induction a with
  | done => exact (Rendering.nothing_append _).symm
  | text s rest ih => rw [append, render, render, ih, Rendering.append_assoc]
  | emit e line rest ih => rw [append, render, render, ih, Rendering.append_assoc]
  | range key line body rest ihBody ihRest =>
    rw [append, render, render]
    cases key.lookup vars current with
    | error err => exact (Rendering.fail_append err _).symm
    | ok value =>
      cases value with
      | type d => exact (Rendering.fail_append _ _).symm
      | scalar s => exact (Rendering.fail_append _ _).symm
      | types items => simp only [ihRest, Rendering.append_assoc]

end Block

end RestScaffold
