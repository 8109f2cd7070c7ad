import Mathlib.Data.List.Forall2

/-!
# Checks that may fail

A check gives a result or an error. What is done with its result, and the same check for each member
of a list, fail with the first error that there is.

* `map_eq_ok_iff` and `bind_eq_ok_iff`: what comes behind a check;
* `mapM_eq_ok_iff` and `mapM_eq_error_iff`: the check of a list.
-/

namespace RestScaffold

variable {ε α β γ : Type}

theorem map_map (x : Except ε α) (f : α → β) (g : β → γ) :
    (x.map f).map g = x.map fun a => g (f a) := by
  cases x <;> rfl

/-- A mapped result is there when the result itself is. -/
theorem map_eq_ok_iff {x : Except ε α} {f : α → β} {b : β} :
    x.map f = .ok b ↔ ∃ a, x = .ok a ∧ f a = b := by
  cases x <;> simp [Except.map]

theorem map_eq_error_iff {x : Except ε α} {f : α → β} {e : ε} :
    x.map f = .error e ↔ x = .error e := by
  cases x <;> simp [Except.map]

theorem bind_eq_ok_iff {x : Except ε α} {f : α → Except ε β} {b : β} :
    (x >>= f) = .ok b ↔ ∃ a, x = .ok a ∧ f a = .ok b := by
  cases x <;> simp [bind, Except.bind]

theorem bind_eq_error_iff {x : Except ε α} {f : α → Except ε β} {e : ε} :
    (x >>= f) = .error e ↔ x = .error e ∨ ∃ a, x = .ok a ∧ f a = .error e := by
  cases x <;> simp [bind, Except.bind]

/-- A check of a list gives the results of its members. -/
theorem mapM_eq_ok_iff {f : α → Except ε β} {xs : List α} {ys : List β} :
    xs.mapM f = .ok ys ↔ List.Forall₂ (fun x y => f x = .ok y) xs ys := by
  induction xs generalizing ys with
  | nil =>
    rw [List.forall₂_nil_left_iff, List.mapM_nil]
    exact ⟨fun h => (Except.ok.inj h).symm, fun h => h ▸ rfl⟩
  | cons x xs ih =>
    rw [List.mapM_cons, List.forall₂_cons_left_iff, bind_eq_ok_iff]
    constructor
    · rintro ⟨y, hy, hRest⟩
      obtain ⟨zs, hzs, hEq⟩ := bind_eq_ok_iff.1 hRest
      exact ⟨y, zs, hy, ih.1 hzs, (Except.ok.inj hEq).symm⟩
    · rintro ⟨y, zs, hy, hzs, rfl⟩
      exact ⟨y, hy, bind_eq_ok_iff.2 ⟨zs, ih.2 hzs, rfl⟩⟩

/-- A check of a list fails with the flaw of the first member that has one. -/
theorem mapM_eq_error_iff {f : α → Except ε β} {xs : List α} {e : ε} :
    xs.mapM f = .error e ↔ ∃ front x back, xs = front ++ x :: back ∧
      (∀ a ∈ front, ∃ b, f a = .ok b) ∧ f x = .error e := by
  induction xs with
  | nil =>
    refine iff_of_false nofun ?_
    rintro ⟨front, x, back, hNil, -⟩
    exact absurd hNil.symm (by simp)
  | cons x xs ih =>
    rw [List.mapM_cons, bind_eq_error_iff]
    constructor
    · rintro (hx | ⟨y, hy, hRest⟩)
      · exact ⟨[], x, xs, rfl, nofun, hx⟩
      · rcases bind_eq_error_iff.1 hRest with hxs | ⟨_, _, hPure⟩
        · obtain ⟨front, x', back, rfl, hFront, hx'⟩ := ih.1 hxs
          exact ⟨x :: front, x', back, rfl, List.forall_mem_cons.2 ⟨⟨y, hy⟩, hFront⟩, hx'⟩
        · cases hPure
    · rintro ⟨front, x', back, hEq, hFront, hx'⟩
      cases front with
      | nil =>
        obtain ⟨rfl, -⟩ := List.cons.inj hEq
        exact Or.inl hx'
      | cons a front =>
        obtain ⟨rfl, rfl⟩ := List.cons.inj hEq
        obtain ⟨⟨y, hy⟩, hFront⟩ := List.forall_mem_cons.1 hFront
        have hxs := ih.2 ⟨front, x', back, rfl, hFront, hx'⟩
        exact Or.inr ⟨y, hy, bind_eq_error_iff.2 (Or.inl hxs)⟩

end RestScaffold
