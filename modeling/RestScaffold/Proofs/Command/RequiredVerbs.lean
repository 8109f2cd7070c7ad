import Mathlib.Data.Set.List
import RestScaffold.Command.Run
import RestScaffold.Proofs.Directive.Line
import RestScaffold.Proofs.FirstAppearances
import RestScaffold.Proofs.Plan.Outcome
import RestScaffold.Proofs.Selection.Canonical

/-!
# Required verbs

The verbs that types must support are written as a list with commas. Blanks around its parts, empty
parts and parts that repeat an earlier one do not count, and the order of the verbs counts for what
is read only: a type supports all of them or it does not. So two lists that name the same verbs give
the same plans, and the same runs of the command.

* `Options.readVerbs_eq_ok_iff`: the lists that can be read, and their verbs;
* `Selection.select_congr` and `Plan.ofUniverse_of_select`: what is planned depends on the required
  verbs as a set;
* `Options.generate_congr`: so does a run;
* `Options.requiredVerbs_as_set`: lists of verbs and what is planned for them.
-/

namespace RestScaffold

open Text

/-! ## What is planned -/

/-- The order of the required verbs and their repetitions do not matter to the selection. -/
theorem Selection.select_congr {sel other : Selection}
    (h : ∀ v, v ∈ sel.requiredVerbs ↔ v ∈ other.requiredVerbs) : sel.select = other.select := by
  have hSuits : sel.selects = other.selects := by
    funext d
    rw [Bool.eq_iff_iff, selects_iff, selects_iff]
    exact ⟨fun hd => hd.of_subset fun v hv => (h v).2 hv,
      fun hd => hd.of_subset fun v hv => (h v).1 hv⟩
  funext p
  rw [select_eq, select_eq, hSuits]

section Plans

variable {c : PlanConfig} {sel : Selection}

theorem SourcePackage.plan_of_select (h : sel.select = c.selection.select) (p : SourcePackage) :
    p.plan { c with selection := sel } = p.plan c := by
  unfold plan
  rw [show ({ c with selection := sel } : PlanConfig).selection.select p =
    c.selection.select p from congrFun h p]

theorem PlanConfig.planSources_of_select (h : sel.select = c.selection.select)
    (ps : List SourcePackage) :
    ({ c with selection := sel } : PlanConfig).planSources ps = c.planSources ps := by
  induction ps with
  | nil => rfl
  | cons p ps ih => rw [planSources, planSources, p.plan_of_select h, ih]

/-- **Planning asks the required verbs for the selected types, and for nothing else.** -/
theorem Plan.ofUniverse_of_select (h : sel.select = c.selection.select) (u : Universe) :
    ofUniverse { c with selection := sel } u = ofUniverse c u := by
  unfold ofUniverse
  rw [PlanConfig.planSources_of_select h]
  rfl

/-- Two lists of the same verbs give the same plan. -/
theorem Plan.ofUniverse_congr {verbs others : List Verb} (h : ∀ v, v ∈ verbs ↔ v ∈ others)
    (c : PlanConfig) (u : Universe) :
    ofUniverse { c with selection := { requiredVerbs := verbs } } u =
      ofUniverse { c with selection := { requiredVerbs := others } } u :=
  ofUniverse_of_select (c := { c with selection := { requiredVerbs := others } })
    (Selection.select_congr h) u

end Plans

namespace Options

/-! ## Lists of verbs -/

/-- The parts of a list between its commas, without the blanks around them. Blank parts are left
out. -/
def verbParts (list : Text) : List Text := ((splitOn ',' list).map trim).filter (· ≠ [])

/-- The verbs of further names go behind those that are known, each once. -/
theorem addVerbs_eq_ok_iff {names : List Text} {known verbs : List Verb} :
    addVerbs known.eraseDups names = .ok verbs ↔
      ∃ named : List Verb, names.map trim = named.map Verb.name ∧
        verbs = (known ++ named).eraseDups := by
  induction names generalizing known with
  | nil =>
    simp only [addVerbs, List.map_nil, List.nil_eq, List.map_eq_nil_iff, exists_eq_left,
      List.append_nil, Except.ok.injEq]
    exact eq_comm
  | cons name names ih =>
    rw [addVerbs, List.map_cons]
    cases hName : Verb.ofText? name with
    | none =>
      refine iff_of_false nofun ?_
      rintro ⟨named, hNamed, -⟩
      cases named with
      | nil => cases hNamed
      | cons v named =>
        rw [Verb.ofText?_eq_some_iff.2 (List.cons.inj hNamed).1] at hName
        cases hName
    | some v =>
      have hAdded : (if v ∈ known.eraseDups then known.eraseDups else known.eraseDups ++ [v]) =
          (known ++ [v]).eraseDups := by
        simp only [eraseDups_concat, List.mem_eraseDups]
      have hTrim := Verb.ofText?_eq_some_iff.1 hName
      dsimp only
      rw [hAdded, ih]
      constructor
      · rintro ⟨named, hNamed, rfl⟩
        exact ⟨v :: named, congrArg₂ _ hTrim hNamed, by rw [← List.append_cons]⟩
      · rintro ⟨named, hNamed, rfl⟩
        cases named with
        | nil => cases hNamed
        | cons w named =>
          obtain ⟨hHead, hRest⟩ := List.cons.inj hNamed
          obtain rfl : v = w := Verb.name_injective (hTrim.symm.trans hHead)
          exact ⟨named, hRest, by rw [← List.append_cons]⟩

/-- **A list is read as the verbs that its parts name, each once, where it is named first.** -/
theorem readVerbs_eq_ok_iff {list : Text} {verbs : List Verb} : readVerbs list = .ok verbs ↔
    ∃ named : List Verb, verbParts list = named.map Verb.name ∧ verbs = named.eraseDups := by
  have hParts : ((splitOn ',' list).filter fun part => !isBlankText part).map trim =
      verbParts list := by
    rw [verbParts, List.filter_map]
    refine congrArg (List.map trim) (List.filter_congr fun part _ => ?_)
    show (!(trim part == [])) = decide (trim part ≠ [])
    rw [Bool.eq_iff_iff]
    simp
  rw [← hParts]
  exact @addVerbs_eq_ok_iff _ [] verbs

/-- **The lists that can be read:** each part that is not blank is the name of a verb. -/
theorem exists_readVerbs_iff {list : Text} : (∃ verbs, readVerbs list = .ok verbs) ↔
    ∀ part ∈ splitOn ',' list, trim part ≠ [] → ∃ v : Verb, trim part = v.name := by
  have hNames : (∃ named : List Verb, verbParts list = named.map Verb.name) ↔
      ∀ part ∈ verbParts list, ∃ v : Verb, part = v.name := by
    have hRange := Set.ext_iff.1 (Set.range_list_map Verb.name) (verbParts list)
    simpa only [Set.mem_range, Set.mem_ofPred_eq, eq_comm] using hRange
  have hParts : (∀ part ∈ verbParts list, ∃ v : Verb, part = v.name) ↔
      ∀ part ∈ splitOn ',' list, trim part ≠ [] → ∃ v : Verb, trim part = v.name := by
    simp [verbParts]
  rw [← hParts, ← hNames]
  constructor
  · rintro ⟨verbs, h⟩
    obtain ⟨named, hNamed, -⟩ := readVerbs_eq_ok_iff.1 h
    exact ⟨named, hNamed⟩
  · rintro ⟨named, hNamed⟩
    exact ⟨_, readVerbs_eq_ok_iff.2 ⟨named, hNamed, rfl⟩⟩

/-- The verbs that are read are those that some part names. -/
theorem mem_iff_of_readVerbs {list : Text} {verbs : List Verb} (h : readVerbs list = .ok verbs)
    {v : Verb} : v ∈ verbs ↔ v.name ∈ verbParts list := by
  obtain ⟨named, hNamed, rfl⟩ := readVerbs_eq_ok_iff.1 h
  rw [hNamed, List.mem_eraseDups, List.mem_map_of_injective Verb.name_injective]

/-! ## Lists that name the same verbs -/

/-- The options with this list of required verbs. -/
def requiring (o : Options) (list : Text) : Options := { o with requiredVerbs := list }

section SameVerbs

variable {list other : Text} {verbs others : List Verb}

/-- Which verbs are required matters to the checks of the options only through what is read. -/
theorem validate_requiring (h : readVerbs list = .ok verbs) (o : Options) :
    (o.requiring list).validate = (o.requiring []).validate.map fun _ => verbs := by
  show (if isBlankText o.outputPackage then _ else if o.input = [] then _ else readVerbs list) =
    (if isBlankText o.outputPackage then _ else if o.input = [] then _ else _ : Except _ _).map _
  rw [h]
  split
  · rfl
  · split <;> rfl

/-- The configuration has the verbs that are read, and the rest of it does not depend on them. -/
theorem planConfig_requiring (h : readVerbs list = .ok verbs) (o : Options) (header : List UInt8) :
    (o.requiring list).planConfig header = ((o.requiring []).planConfig header).map fun c =>
      { c with selection := { requiredVerbs := verbs } } := by
  unfold planConfig
  rw [validate_requiring h]
  cases (o.requiring []).validate with
  | error e => rfl
  | ok _ =>
    show (readPlurals o.pluralExceptions).map _ = ((readPlurals o.pluralExceptions).map _).map _
    cases readPlurals o.pluralExceptions <;> rfl

variable (h : readVerbs list = .ok verbs) (hOther : readVerbs other = .ok others)
  (hSame : ∀ v, v ∈ verbs ↔ v ∈ others)

include h hOther hSame

/-- **Lists that name the same verbs give the same plan or the same error.** -/
theorem planConfig_ofUniverse_congr (o : Options) (header : List UInt8) (u : Universe) :
    ((o.requiring list).planConfig header).map (Plan.ofUniverse · u) =
      ((o.requiring other).planConfig header).map (Plan.ofUniverse · u) := by
  rw [planConfig_requiring h, planConfig_requiring hOther]
  cases (o.requiring []).planConfig header with
  | error e => rfl
  | ok c => exact congrArg Except.ok (Plan.ofUniverse_congr hSame c u)

/-- **Lists that name the same verbs make the command do the same,** whatever the files are. -/
theorem generate_congr {m : Type → Type} [Monad m] [FileStore m] (o : Options) (year : Int) :
    ((o.requiring list).generate year : m _) = (o.requiring other).generate year := by
  unfold generate
  rw [validate_requiring h, validate_requiring hOther]
  -- Both runs take the same steps up to the plan, and the steps behind it see the plan only.
  cases (o.requiring []).validate with
  | error e => rfl
  | ok _ =>
    refine bind_congr fun header? => ?_
    cases header? with
    | error e => rfl
    | ok header =>
      dsimp only
      rw [planConfig_requiring h, planConfig_requiring hOther]
      cases (o.requiring []).planConfig header with
      | error e => rfl
      | ok c =>
        refine bind_congr fun u? => ?_
        cases u? with
        | error e => rfl
        | ok u =>
          dsimp only
          rw [renderUniverse, renderUniverse, Plan.ofUniverse_congr hSame]
          rfl

end SameVerbs

/-- **Only the set of the required verbs matters.** A list can be read when each part that is not
blank is the name of a verb, blanks around it aside. It gives these verbs, each once, in the order
in which they are named first. Two such lists that name the same verbs give the same plan or the
same error for every universe, and the command does the same for both. -/
theorem requiredVerbs_as_set (list : Text) :
    ((∃ verbs, readVerbs list = .ok verbs) ↔
      ∀ part ∈ splitOn ',' list, trim part ≠ [] → ∃ v : Verb, trim part = v.name) ∧
      (∀ verbs, readVerbs list = .ok verbs → verbs.Nodup ∧
        ∃ named : List Verb, verbParts list = named.map Verb.name ∧ verbs = named.eraseDups) ∧
      ∀ other, (∃ verbs, readVerbs list = .ok verbs) → (∃ verbs, readVerbs other = .ok verbs) →
        (∀ v : Verb, v.name ∈ verbParts list ↔ v.name ∈ verbParts other) →
          (∀ (o : Options) (header : List UInt8) (u : Universe),
            ((o.requiring list).planConfig header).map (Plan.ofUniverse · u) =
              ((o.requiring other).planConfig header).map (Plan.ofUniverse · u)) ∧
          ∀ {m : Type → Type} [Monad m] [FileStore m] (o : Options) (year : Int),
            ((o.requiring list).generate year : m _) = (o.requiring other).generate year := by
  refine ⟨exists_readVerbs_iff, fun verbs h => ?_, ?_⟩
  · obtain ⟨named, hNamed, rfl⟩ := readVerbs_eq_ok_iff.1 h
    exact ⟨nodup_eraseDups named, named, hNamed, rfl⟩
  · rintro other ⟨verbs, h⟩ ⟨others, hOther⟩ hNames
    have hSame : ∀ v, v ∈ verbs ↔ v ∈ others := by
      intro v
      rw [mem_iff_of_readVerbs h, mem_iff_of_readVerbs hOther, hNames]
    exact ⟨planConfig_ofUniverse_congr h hOther hSame, generate_congr h hOther hSame⟩

/-- Two lists of the same verbs in another order, one with blank and repeated parts, and the plan
that they give for a universe of one type. -/
theorem requiredVerbs_as_set_pods :
    readVerbs "get,list" = .ok [.get, .list] ∧
      readVerbs " list ,,\u2003get\u2003,list" = .ok [.list, .get] ∧
      (∀ v : Verb, v.name ∈ verbParts "get,list" ↔
        v.name ∈ verbParts " list ,,\u2003get\u2003,list") ∧
      ∃ plan, let o : Options := { outputPackage := "out", input := ["types.json"] }
        ((o.requiring "get,list").planConfig []).map (Plan.ofUniverse · .pods) = .ok (.ok plan) ∧
          ((o.requiring " list ,,\u2003get\u2003,list").planConfig []).map
            (Plan.ofUniverse · .pods) = .ok (.ok plan) := by
  have hList : readVerbs "get,list" = .ok [.get, .list] := by decide +kernel
  have hOther : readVerbs " list ,,\u2003get\u2003,list" = .ok [.list, .get] := by decide +kernel
  have hNames : ∀ v : Verb, v.name ∈ verbParts "get,list" ↔
      v.name ∈ verbParts " list ,,\u2003get\u2003,list" := by
    intro v
    cases v <;> decide +kernel
  obtain ⟨-, -, hSame⟩ := requiredVerbs_as_set "get,list"
  have hPlans := (hSame _ ⟨_, hList⟩ ⟨_, hOther⟩ hNames).1
    { outputPackage := "out", input := ["types.json"] } [] .pods
  obtain ⟨plan, hPlan⟩ : ∃ plan, Plan.ofUniverse
      { outputPackage := "out", selection := { requiredVerbs := [.get, .list] } } .pods =
        .ok plan :=
    PlanConfig.exists_ofUniverse_eq_ok_iff.2 ⟨by decide +kernel, by decide +kernel⟩
  have hRead : ((requiring { outputPackage := "out", input := ["types.json"] }
      "get,list").planConfig []).map (Plan.ofUniverse · .pods) = .ok (.ok plan) := by
    rw [planConfig_requiring hList]
    exact congrArg Except.ok hPlan
  exact ⟨hList, hOther, hNames, plan, hRead, hPlans.symm.trans hRead⟩

end Options

end RestScaffold
