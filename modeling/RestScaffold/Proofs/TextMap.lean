import Mathlib.Data.List.Sort
import RestScaffold.TextMap

/-!
# Maps as their bindings

* `TextMap.ext_get?`: maps in which every key is bound to the same are equal;
* `TextMap.keys_eq_sortDistinct`: the keys of a map, listed.
-/

namespace RestScaffold

open Text

namespace TextMap

variable {α : Type}

/-- **Maps in which every key is bound to the same are equal.** -/
theorem ext_get? {a b : TextMap α} (h : ∀ key, a.get? key = b.get? key) : a = b := by
  have hIrrefl : Std.Irrefl fun x y : Text × α => x.1 < y.1 := ⟨fun x => List.lt_irrefl x.1⟩
  have hAntisymm : Std.Antisymm fun x y : Text × α => x.1 < y.1 :=
    ⟨fun x y hxy hyx => absurd hyx (List.lt_asymm hxy)⟩
  have hEntries : a.entries = b.entries := by
    refine a.sorted.eq_of_mem_iff b.sorted fun e => ?_
    rw [← Prod.mk.eta (p := e), mem_entries_iff, mem_entries_iff, h]
  obtain ⟨es, hes⟩ := a
  obtain ⟨es', hes'⟩ := b
  obtain rfl : es = es' := hEntries
  rfl

theorem pairwise_keys (m : TextMap α) : m.keys.Pairwise (· < ·) := List.pairwise_map.2 m.sorted

/-- **The keys of a map are what is bound in it, in increasing order.** -/
theorem keys_eq_sortDistinct {m : TextMap α} {keys : List Text}
    (h : ∀ key, m.contains key = true ↔ key ∈ keys) : m.keys = sortDistinct keys :=
  m.pairwise_keys.eq_of_mem_iff (pairwise_sortDistinct keys) fun key => by
    rw [mem_keys_iff, h, mem_sortDistinct]

end TextMap

end RestScaffold
