import Mathlib.Data.List.Nodup
import RestScaffold.Declaration

/-!
# The order of declarations

Declarations are sorted by keys that tell their names. So a sorted list of declarations with
different names is strictly increasing and does not depend on the order that they were in, also when
each of them carries something along: `Declaration.pairwise_order_mergeSort` and
`Declaration.mergeSort_eq_of_perm`. Sorting is stable, so it does not matter whether a list is sorted
before or after some of it is left out, whatever the names are: `Declaration.filter_sort`.
-/

namespace RestScaffold.Declaration

theorem notAfter_iff {a b : Declaration} : notAfter a b = true ↔ ¬ b.sortKey < a.sortKey := by
  rw [notAfter, Bool.not_eq_true', decide_eq_false_iff_not]

theorem notAfter_trans {a b c : Declaration} (hab : notAfter a b = true)
    (hbc : notAfter b c = true) : notAfter a c = true := by
  rw [notAfter_iff] at hab hbc ⊢
  exact List.not_lt.2 (List.le_trans (List.not_lt.1 hab) (List.not_lt.1 hbc))

theorem notAfter_total (a b : Declaration) : (notAfter a b || notAfter b a) = true := by
  rw [Bool.or_eq_true, notAfter_iff, notAfter_iff]
  exact List.le_total a.sortKey b.sortKey

/-- Two declarations that may stand on either side of each other have the same name. -/
theorem name_eq_of_notAfter {a b : Declaration} (hab : notAfter a b = true)
    (hba : notAfter b a = true) : a.name = b.name := by
  rw [notAfter_iff] at hab hba
  have hKey : a.sortKey = b.sortKey :=
    List.le_antisymm (List.not_lt.1 hab) (List.not_lt.1 hba)
  simp only [sortKey, List.cons.injEq, and_true] at hKey
  obtain ⟨-, hPackage, hBase⟩ := hKey
  calc a.name = ⟨a.name.package, a.name.base⟩ := rfl
    _ = ⟨b.name.package, b.name.base⟩ := by rw [hPackage, hBase]
    _ = b.name := rfl

/-- Of two declarations with different names in order, the first comes before the second. -/
theorem order_eq_lt_of_notAfter {a b : Declaration} (h : notAfter a b = true)
    (hNames : a.name ≠ b.name) : order a b = .lt := by
  have hLess : a.sortKey < b.sortKey := by
    by_contra hNot
    exact hNames (name_eq_of_notAfter h (notAfter_iff.2 hNot))
  rw [order, if_pos hLess]

variable {β : Type}

theorem pairwise_notAfter_mergeSort (xs : List (Declaration × β)) :
    (xs.mergeSort fun a b => notAfter a.1 b.1).Pairwise fun a b => notAfter a.1 b.1 = true :=
  @List.pairwise_mergeSort _ (fun a b => notAfter a.1 b.1) (fun _ _ _ => notAfter_trans)
    (fun a b => notAfter_total a.1 b.1) xs

/-- Sorting puts declarations with different names in strictly increasing order. -/
theorem pairwise_order_mergeSort {xs : List (Declaration × β)}
    (hNames : (xs.map (·.1.name)).Nodup) :
    (xs.mergeSort fun a b => notAfter a.1 b.1).Pairwise fun a b => order a.1 b.1 = .lt := by
  have hApart : (xs.mergeSort fun a b => notAfter a.1 b.1).Pairwise
      fun a b => a.1.name ≠ b.1.name := by
    rw [← List.pairwise_map (f := fun a : Declaration × β => a.1.name) (R := (· ≠ ·))]
    exact ((List.mergeSort_perm xs _).map _).nodup_iff.2 hNames
  exact (pairwise_notAfter_mergeSort xs).imp₂ (fun _ _ => order_eq_lt_of_notAfter) hApart

/-- **Sorting forgets the order of declarations with different names.** -/
theorem mergeSort_eq_of_perm {xs ys : List (Declaration × β)} (h : xs.Perm ys)
    (hNames : (xs.map (·.1.name)).Nodup) :
    xs.mergeSort (fun a b => notAfter a.1 b.1) = ys.mergeSort fun a b => notAfter a.1 b.1 := by
  refine List.Perm.eq_of_pairwise (fun a b ha hb hab hba => ?_) (pairwise_notAfter_mergeSort xs)
    (pairwise_notAfter_mergeSort ys)
    (((List.mergeSort_perm xs _).trans h).trans (List.mergeSort_perm ys _).symm)
  have hMem : b ∈ xs := h.mem_iff.2 (List.mem_mergeSort.1 hb)
  exact List.inj_on_of_nodup_map hNames (List.mem_mergeSort.1 ha) hMem
    (name_eq_of_notAfter hab hba)

theorem sort_eq_of_perm {xs ys : List Declaration} (h : xs.Perm ys)
    (hNames : (xs.map (·.name)).Nodup) : sort xs = sort ys := by
  have hUntagged : ∀ zs : List Declaration, sort zs =
      ((zs.map fun d => (d, ())).mergeSort fun a b => notAfter a.1 b.1).map Prod.fst := by
    intro zs
    rw [List.map_mergeSort (s := notAfter) fun _ _ _ _ => rfl, List.map_map]
    exact congrArg sort (List.map_id zs).symm
  rw [hUntagged, hUntagged, mergeSort_eq_of_perm (h.map fun d => (d, ()))]
  rw [List.map_map]
  exact hNames

/-! ## What is kept of a sorted list -/

/-- A list is cut in one way only into a part that passes a test and a part that fails it. -/
theorem append_inj_of_filter {α : Type} {test : α → Bool} {a b c d : List α} (h : a ++ b = c ++ d)
    (ha : ∀ x ∈ a, test x = true) (hb : ∀ x ∈ b, test x = false) (hc : ∀ x ∈ c, test x = true)
    (hd : ∀ x ∈ d, test x = false) : a = c ∧ b = d := by
  have hFront : a = c := by
    have hFilter := congrArg (List.filter test) h
    rw [List.filter_append, List.filter_append, List.filter_eq_self.2 ha, List.filter_eq_self.2 hc,
      List.filter_eq_nil_iff.2 (by simpa using hb), List.filter_eq_nil_iff.2 (by simpa using hd),
      List.append_nil, List.append_nil] at hFilter
    exact hFilter
  exact ⟨hFront, List.append_cancel_left (hFront ▸ h)⟩

theorem pairwise_sort (ds : List Declaration) :
    (sort ds).Pairwise fun a b => notAfter a b = true :=
  @List.pairwise_mergeSort _ notAfter (fun _ _ _ => notAfter_trans) notAfter_total ds

/-- What follows a declaration in a sorted list is not before it. -/
theorem sort_cons (d : Declaration) (ds : List Declaration) :
    ∃ front back, sort (d :: ds) = front ++ d :: back ∧ sort ds = front ++ back ∧
      (∀ x ∈ front, (!notAfter d x) = true) ∧ ∀ x ∈ back, (!notAfter d x) = false := by
  obtain ⟨front, back, hAll, hRest, hFront⟩ :=
    @List.mergeSort_cons _ notAfter (fun _ _ _ => notAfter_trans) notAfter_total d ds
  refine ⟨front, back, hAll, hRest, hFront, fun x hx => ?_⟩
  have hSorted : (front ++ d :: back).Pairwise fun a b => notAfter a b = true := by
    rw [← hAll]
    exact pairwise_sort (d :: ds)
  have hAfter := (List.pairwise_cons.1 (List.pairwise_append.1 hSorted).2.1).1 x hx
  rw [hAfter]
  rfl

/-- **What is kept of a sorted list is what is kept, sorted.** -/
theorem filter_sort (keep : Declaration → Bool) (ds : List Declaration) :
    (sort ds).filter keep = sort (ds.filter keep) := by
  induction ds with
  | nil => simp only [sort, List.mergeSort_nil, List.filter_nil]
  | cons d ds ih =>
    obtain ⟨front, back, hAll, hRest, hFront, hBack⟩ := sort_cons d ds
    rw [hRest, List.filter_append] at ih
    by_cases hKeep : keep d = true
    · obtain ⟨front', back', hAll', hRest', hFront', hBack'⟩ := sort_cons d (ds.filter keep)
      obtain ⟨hSame, hSame'⟩ := append_inj_of_filter (ih.trans hRest')
        (fun x hx => hFront x (List.mem_of_mem_filter hx))
        (fun x hx => hBack x (List.mem_of_mem_filter hx)) hFront' hBack'
      rw [List.filter_cons_of_pos hKeep, hAll, hAll', List.filter_append,
        List.filter_cons_of_pos hKeep, hSame, hSame']
    · rw [List.filter_cons_of_neg hKeep, hAll, List.filter_append, List.filter_cons_of_neg hKeep, ih]

end RestScaffold.Declaration
