import RestScaffold.Proofs.Declaration
import RestScaffold.Proofs.Selection

/-!
# Selection gives a canonical list

Selection stops at the first declaration with a malformed directive. Otherwise it gives the
declarations that suit it, in an order that depends on their names only. This module says so without
the scan and the sort:

* `Selection.Suits`: what a declaration must be like to be selected;
* `Selection.select_eq_error_iff` and `Selection.select_eq_ok_iff`: when selection fails and with
  which error, and what it gives otherwise;
* `Selection.select_of_perm`: the order of declarations with different names does not matter;
* `Selection.select_of_subset`: to require more verbs leaves some of the selected declarations out
  and changes nothing else;
* `Selection.select_canonical`: all of this of one selection.
-/

namespace RestScaffold

/-! ## The first flaw -/

/-- The first flaw of a list is that of a declaration with none malformed before it. -/
theorem firstFlaw?_eq_some_iff {ds : List Declaration} {e : ScaffoldError} :
    firstFlaw? ds = some e ↔ ∃ front d back line flaw, ds = front ++ d :: back ∧
      (∀ x ∈ front, ¬ x.IsMalformed) ∧
        DirectiveSet.ofLines d.annotationLines = .error (.malformed line flaw) ∧
          e = .directive d.name (.malformed line flaw) := by
  constructor
  · intro h
    obtain ⟨front, d, back, rfl, hFlaw, hFront⟩ := List.findSome?_eq_some_iff.1 h
    obtain ⟨line, flaw, hLines, rfl⟩ := Declaration.exists_of_flaw? hFlaw
    exact ⟨front, d, back, line, flaw, rfl,
      fun x hx => Declaration.flaw?_eq_none_iff.1 (hFront x hx),
      hLines, rfl⟩
  · rintro ⟨front, d, back, line, flaw, rfl, hFront, hLines, rfl⟩
    have hFlaw : d.flaw? = some (.directive d.name (.malformed line flaw)) := by
      unfold Declaration.flaw?
      rw [hLines]
    exact List.findSome?_eq_some_iff.2 ⟨front, d, back, rfl, hFlaw,
      fun x hx => Declaration.flaw?_eq_none_iff.2 (hFront x hx)⟩

theorem firstFlaw?_eq_none_of_perm {ds es : List Declaration} (h : ds.Perm es) :
    firstFlaw? ds = none ↔ firstFlaw? es = none := by
  rw [firstFlaw?_eq_none_iff, firstFlaw?_eq_none_iff]
  exact forall_congr' fun d => by rw [h.mem_iff]

namespace Selection

/-! ## Declarations that suit a selection -/

/-- The directives of a declaration can be read, ask for generation and support every verb that is
required. -/
def Suits (sel : Selection) (d : Declaration) : Prop :=
  ∃ s, DirectiveSet.ofLines d.annotationLines = .ok s ∧ s.generate = true ∧
    ∀ v ∈ sel.requiredVerbs, v ∈ s.supportedVerbs

theorem selects_iff {sel : Selection} {d : Declaration} : sel.selects d = true ↔ sel.Suits d := by
  unfold selects Suits Declaration.directiveSet?
  cases DirectiveSet.ofLines d.annotationLines with
  | error e => simp [Except.toOption]
  | ok s => simp [Except.toOption, DirectiveSet.satisfies, DirectiveSet.supports]

instance (sel : Selection) (d : Declaration) : Decidable (sel.Suits d) :=
  decidable_of_iff _ selects_iff

theorem filter_suits (sel : Selection) (ds : List Declaration) :
    ds.filter (sel.Suits ·) = ds.filter sel.selects :=
  List.filter_congr fun d _ => by rw [Bool.eq_iff_iff, decide_eq_true_iff, selects_iff]

/-- A declaration that suits a selection suits one that requires less. -/
theorem Suits.of_subset {sel more : Selection} {d : Declaration}
    (h : sel.requiredVerbs ⊆ more.requiredVerbs) (hMore : more.Suits d) : sel.Suits d := by
  obtain ⟨s, hLines, hGenerate, hVerbs⟩ := hMore
  exact ⟨s, hLines, hGenerate, fun v hv => hVerbs v (h hv)⟩

/-! ## Selected declarations -/

variable {sel more : Selection} {p q : SourcePackage}

theorem select_eq_error_iff {e : ScaffoldError} :
    sel.select p = .error e ↔ firstFlaw? p.types = some e := by
  rw [select_eq]
  cases firstFlaw? p.types <;> simp

theorem select_eq_ok_iff {ds : List Declaration} :
    sel.select p = .ok ds ↔
      firstFlaw? p.types = none ∧ ds = Declaration.sort (p.types.filter (sel.Suits ·)) := by
  rw [select_eq, filter_suits]
  cases firstFlaw? p.types <;> simp [eq_comm]

/-- The order of declarations with different names does not matter. -/
theorem select_of_perm (h : q.types.Perm p.types) (hNames : (p.types.map (·.name)).Nodup)
    (ds : List Declaration) : sel.select q = .ok ds ↔ sel.select p = .ok ds := by
  have hSorted : Declaration.sort (p.types.filter (sel.Suits ·)) =
      Declaration.sort (q.types.filter (sel.Suits ·)) :=
    Declaration.sort_eq_of_perm (h.symm.filter _)
      (hNames.sublist (List.filter_sublist.map _))
  rw [select_eq_ok_iff, select_eq_ok_iff, firstFlaw?_eq_none_of_perm h, hSorted]

/-- To require more verbs leaves some of the selected declarations out and keeps the others in
order. -/
theorem select_of_subset (h : sel.requiredVerbs ⊆ more.requiredVerbs) {ds : List Declaration}
    (hSelect : sel.select p = .ok ds) : ∃ kept, more.select p = .ok kept ∧ kept.Sublist ds := by
  obtain ⟨hSound, rfl⟩ := select_eq_ok_iff.1 hSelect
  -- What suits the stricter selection suits the other one, so it can be filtered from its result.
  have hFewer : p.types.filter (more.Suits ·) =
      (p.types.filter (sel.Suits ·)).filter (more.Suits ·) := by
    rw [List.filter_filter]
    refine List.filter_congr fun d _ => ?_
    rw [Bool.eq_iff_iff, Bool.and_eq_true, decide_eq_true_iff, decide_eq_true_iff]
    exact ⟨fun hMore => ⟨hMore, hMore.of_subset h⟩, fun hBoth => hBoth.1⟩
  refine ⟨_, select_eq_ok_iff.2 ⟨hSound, rfl⟩, ?_⟩
  rw [hFewer, ← Declaration.filter_sort]
  exact List.filter_sublist

/-- **Selection is the specified set in canonical order.** It fails when the directives of a
declaration are malformed, and its error names the first such declaration. Otherwise its result is
sorted by the base name with a small first letter, the package and the base name, and has exactly
the declarations whose directives ask for generation and support every required verb. For
declarations with different names it does not depend on their order, and to require more verbs gives
a sublist. -/
theorem select_canonical (sel : Selection) (p : SourcePackage) :
    ((∃ e, sel.select p = .error e) ↔ ∃ d ∈ p.types, d.IsMalformed) ∧
      (∀ e, sel.select p = .error e ↔ ∃ front d back line flaw, p.types = front ++ d :: back ∧
        (∀ x ∈ front, ¬ x.IsMalformed) ∧
          DirectiveSet.ofLines d.annotationLines = .error (.malformed line flaw) ∧
            e = .directive d.name (.malformed line flaw)) ∧
      (∀ ds, sel.select p = .ok ds →
        ds.Pairwise (fun a b => ¬ b.sortKey < a.sortKey) ∧
          ds.Perm (p.types.filter (sel.Suits ·))) ∧
      (∀ q : SourcePackage, q.types.Perm p.types → (p.types.map (·.name)).Nodup →
        ∀ ds, sel.select q = .ok ds ↔ sel.select p = .ok ds) ∧
      ∀ more : Selection, sel.requiredVerbs ⊆ more.requiredVerbs →
        ∀ ds, sel.select p = .ok ds → ∃ kept, more.select p = .ok kept ∧ kept.Sublist ds := by
  refine ⟨?_, fun e => ?_, fun ds h => ?_, fun q h hNames => select_of_perm h hNames,
    fun more h ds => select_of_subset h⟩
  · have hFails : (∃ e, sel.select p = .error e) ↔ ¬ firstFlaw? p.types = none := by
      simp only [select_eq_error_iff, ← Option.isSome_iff_exists, Option.isSome_iff_ne_none, ne_eq]
    rw [hFails, firstFlaw?_eq_none_iff]
    push Not
    rfl
  · rw [select_eq_error_iff, firstFlaw?_eq_some_iff]
  · obtain ⟨-, rfl⟩ := select_eq_ok_iff.1 h
    exact ⟨(Declaration.pairwise_sort _).imp Declaration.notAfter_iff.1, List.mergeSort_perm _ _⟩

end Selection

/-- A package whose types are listed out of order. One does not support a verb, and one is not
generated. -/
def SourcePackage.listed : SourcePackage where
  path := "a/v1"
  types := [
    { name := ⟨"a/v1", "beta"⟩, comments := ["+genclient"] },
    { name := ⟨"a/v1", "Alpha"⟩, comments := ["+genclient", "+genclient:skipVerbs=create"] },
    { name := ⟨"a/v1", "Plain"⟩ }]

/-- Two types of the package are selected, in whichever order it lists them, and one of them when
`create` is required as well. -/
theorem Selection.select_canonical_listed : ∃ ds kept : List Declaration,
    ({} : Selection).select .listed = .ok ds ∧ ds.length = 2 ∧
      ({} : Selection).select { SourcePackage.listed with
        types := SourcePackage.listed.types.reverse } = .ok ds ∧
      ({ requiredVerbs := [.list, .get, .create] } : Selection).select .listed = .ok kept ∧
        kept.length = 1 ∧ kept.Sublist ds := by
  let more : Selection := { requiredVerbs := [.list, .get, .create] }
  obtain ⟨-, -, hResult, hPerm, hMore⟩ := select_canonical {} .listed
  have hSelect : ({} : Selection).select .listed =
      .ok (Declaration.sort (SourcePackage.listed.types.filter (({} : Selection).Suits ·))) :=
    select_eq_ok_iff.2 ⟨by decide +kernel, rfl⟩
  obtain ⟨kept, hKept, hSublist⟩ := hMore more (by decide) _ hSelect
  obtain ⟨-, -, hKeptResult, -, -⟩ := select_canonical more .listed
  refine ⟨_, kept, hSelect, ?_, ?_, hKept, ?_, hSublist⟩
  · rw [(hResult _ hSelect).2.length_eq]
    decide +kernel
  · exact (hPerm _ (List.reverse_perm _) (by decide +kernel) _).2 hSelect
  · rw [(hKeptResult _ hKept).2.length_eq]
    decide +kernel

end RestScaffold
