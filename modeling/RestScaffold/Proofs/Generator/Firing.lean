import RestScaffold.Plan.Render

/-!
# When generators fire

A run offers every type to every generator, but a generator takes one of them only: the first one if
it fires once, else the one it is bound to. So it writes one source, its `Generator.written`, and
the ledger of the run learns nothing about other generators.

* `Generator.run_eq`: one generator, on a ledger that does not know it;
* `Package.render_eq` and `Plan.renderPackages_eq`: the generators of packages one after the other,
  by the freshness of those that are still to come.

Freshness is the invariant of the run: it lasts for a generator until it is its turn.
-/

namespace RestScaffold

/-! ## The subject of a generator -/

namespace Generator

/-- The type that a generator fires for. -/
def subject? (g : Generator) (types : List Declaration) : Option Declaration :=
  match g.trigger with
  | .once => types.head?
  | .forType name => types.find? (·.name = name)

/-- The source that a generator writes in a run over some types. -/
def written (g : Generator) (types : List Declaration) : Source :=
  ((g.subject? types).bind fun d => (g.generate d).toOption).getD {}

theorem written_eq {g : Generator} {types : List Declaration} {d : Declaration} {s : Source}
    (hd : g.subject? types = some d) (hs : g.generate d = .ok s) : g.written types = s := by
  rw [written, hd]
  show (g.generate d).toOption.getD {} = s
  rw [hs]
  rfl

/-- A generator that waits for any type, or for one of a list, has a subject in it. -/
theorem exists_subject? {g : Generator} {types : List Declaration} (hNe : types ≠ [])
    (h : g.trigger = .once ∨ ∃ d ∈ types, g.trigger = .forType d.name) :
    ∃ d ∈ types, g.subject? types = some d ∧
      (g.trigger = .once ∧ types.head? = some d ∨ g.trigger = .forType d.name) := by
  unfold subject?
  rcases h with hOnce | ⟨d, hd, hBound⟩
  · obtain ⟨d, rest, rfl⟩ := List.exists_cons_of_ne_nil hNe
    rw [hOnce]
    exact ⟨d, List.mem_cons_self, rfl, Or.inl ⟨rfl, rfl⟩⟩
  · rw [hBound]
    cases hFind : types.find? (·.name = d.name) with
    | none => exact absurd (decide_eq_true rfl) (List.find?_eq_none.1 hFind d hd)
    | some e =>
      have hName : e.name = d.name := by simpa using List.find?_some hFind
      exact ⟨e, List.mem_of_find?_eq_some hFind, hFind, Or.inr (by rw [hName])⟩

end Generator

/-! ## One generator -/

/-- Nothing is known about a generator: it has had no chance to fire and has not written. -/
structure Ledger.Fresh (l : Ledger) (id : GeneratorId) : Prop where
  unlatched : l.isLatched id = false
  unemitted : l.emitted.contains id = false

theorem Ledger.fresh_empty (id : GeneratorId) : ({} : Ledger).Fresh id := ⟨rfl, rfl⟩

/-- Another generator that is latched or has written does not make a generator less fresh. -/
theorem Ledger.Fresh.of_ne {l : Ledger} {id other : GeneratorId} (h : l.Fresh id) (hNe : id ≠ other)
    {latched : List GeneratorId} (hLatched : latched = l.latched ∨ latched = other :: l.latched) :
    (⟨latched, other :: l.emitted⟩ : Ledger).Fresh id where
  unlatched := by
    rcases hLatched with rfl | rfl
    · exact h.unlatched
    · show List.contains (other :: l.latched) id = false
      rw [List.contains_cons, beq_eq_false_iff_ne.2 hNe, Bool.false_or]
      exact h.unlatched
  unemitted := by
    show List.contains (other :: l.emitted) id = false
    rw [List.contains_cons, beq_eq_false_iff_ne.2 hNe, Bool.false_or]
    exact h.unemitted

namespace Generator

variable {g : Generator} {l : Ledger}

/-- A generator that takes none of the types writes nothing more. -/
theorem run_of_idle {types : List Declaration} (h : ∀ d ∈ types, l.offer g d = (false, l))
    (written : Source) : g.run types l written = .ok (written, l) := by
  induction types with
  | nil => rfl
  | cons d ds ih =>
    rw [run, h d List.mem_cons_self]
    exact ih fun e he => h e (List.mem_cons_of_mem d he)

/-- A generator that takes the first type and none of the others writes the source for it. -/
theorem run_cons_of_fires {d : Declaration} {ds : List Declaration} {s : Source}
    {latched : List GeneratorId} (hOffer : l.offer g d = (true, { l with latched }))
    (hGenerate : g.generate d = .ok s) (hFresh : l.Fresh g.id)
    (hIdle : ∀ e ∈ ds, (⟨latched, g.id :: l.emitted⟩ : Ledger).offer g e =
      (false, ⟨latched, g.id :: l.emitted⟩)) :
    g.run (d :: ds) l {} = .ok (s, ⟨latched, g.id :: l.emitted⟩) := by
  rw [run, hOffer]
  simp only [hGenerate, Ledger.recordEmission, hFresh.unemitted, Bool.false_eq_true, if_false]
  exact run_of_idle hIdle _

/-- What a run of a generator does to the ledger: others stay fresh. -/
def Spares (g : Generator) (l l' : Ledger) : Prop := ∀ id, id ≠ g.id → l.Fresh id → l'.Fresh id

theorem run_eq_of_once {types : List Declaration} (hTrigger : g.trigger = .once)
    (hFresh : l.Fresh g.id) (hRenders : ∀ d, ∃ s, g.generate d = .ok s) :
    ∃ l', g.run types l {} = .ok (g.written types, l') ∧ g.Spares l l' := by
  cases types with
  | nil =>
    refine ⟨l, ?_, fun id _ h => h⟩
    rw [written, subject?, hTrigger]
    rfl
  | cons d ds =>
    obtain ⟨s, hs⟩ := hRenders d
    refine ⟨⟨g.id :: l.latched, g.id :: l.emitted⟩, ?_, fun id hNe h => h.of_ne hNe (Or.inr rfl)⟩
    have hSubject : g.subject? (d :: ds) = some d := by rw [subject?, hTrigger]; rfl
    rw [written_eq hSubject hs]
    refine run_cons_of_fires ?_ hs hFresh fun e _ => ?_
    · simp only [Ledger.offer, hTrigger, hFresh.unlatched, Bool.false_eq_true, if_false]
    · -- From the first type on the generator is latched.
      simp [Ledger.offer, hTrigger, Ledger.isLatched]

theorem run_eq_of_forType {types : List Declaration} {name : TypeName}
    (hTrigger : g.trigger = .forType name) (hNames : (types.map (·.name)).Nodup)
    (hFresh : l.Fresh g.id) (hRenders : ∀ d, ∃ s, g.generate d = .ok s) :
    ∃ l', g.run types l {} = .ok (g.written types, l') ∧ g.Spares l l' := by
  have hOffer : ∀ (l : Ledger) (d : Declaration),
      l.offer g d = (decide (d.name = name), l) := by
    intro l d
    simp only [Ledger.offer, hTrigger]
  induction types with
  | nil =>
    refine ⟨l, ?_, fun id _ h => h⟩
    rw [written, subject?, hTrigger]
    rfl
  | cons d ds ih =>
    rw [List.map_cons, List.nodup_cons] at hNames
    by_cases hName : d.name = name
    · obtain ⟨s, hs⟩ := hRenders d
      refine ⟨⟨l.latched, g.id :: l.emitted⟩, ?_, fun id hNe h => h.of_ne hNe (Or.inl rfl)⟩
      have hSubject : g.subject? (d :: ds) = some d := by
        simp only [subject?, hTrigger]
        exact List.find?_cons_of_pos (decide_eq_true hName)
      rw [written_eq hSubject hs]
      refine run_cons_of_fires ?_ hs hFresh fun e he => ?_
      · rw [hOffer, decide_eq_true hName]
      · -- No later type has the name of this one.
        have hOther : e.name ≠ name := fun hEq =>
          hNames.1 (List.mem_map.2 ⟨e, he, hEq.trans hName.symm⟩)
        rw [hOffer, decide_eq_false hOther]
    · obtain ⟨l', hRun, hSpares⟩ := ih hNames.2
      refine ⟨l', ?_, hSpares⟩
      have hWritten : g.written (d :: ds) = g.written ds := by
        simp only [written, subject?, hTrigger]
        rw [List.find?_cons_of_neg (by simpa using hName)]
      rw [hWritten, run, hOffer, decide_eq_false hName]
      exact hRun

/-- **A generator writes the source for its subject, and the ledger learns nothing of others.** -/
theorem run_eq {types : List Declaration} (hNames : (types.map (·.name)).Nodup)
    (hFresh : l.Fresh g.id) (hRenders : ∀ d, ∃ s, g.generate d = .ok s) :
    ∃ l', g.run types l {} = .ok (g.written types, l') ∧ g.Spares l l' := by
  cases hTrigger : g.trigger with
  | once => exact run_eq_of_once hTrigger hFresh hRenders
  | forType name => exact run_eq_of_forType hTrigger hNames hFresh hRenders

end Generator

/-! ## All generators -/

namespace Package

/-- The names of a package's generators. -/
def ids (p : Package) : List GeneratorId := p.generators.map (·.id)

/-- The files of a package for some types. -/
def files (p : Package) (types : List Declaration) : List RenderedFile :=
  (p.documentation.map p.docFile).toList ++
    p.generators.map fun g => p.generatedFile g (g.written types)

theorem renderGenerators_eq (p : Package) {types : List Declaration} {gs : List Generator}
    {l : Ledger} (hNames : (types.map (·.name)).Nodup) (hIds : (gs.map (·.id)).Nodup)
    (hFresh : ∀ g ∈ gs, l.Fresh g.id) (hRenders : ∀ g ∈ gs, ∀ d, ∃ s, g.generate d = .ok s) :
    ∃ l', p.renderGenerators types gs l =
        .ok (gs.map fun g => p.generatedFile g (g.written types), l') ∧
      ∀ id, id ∉ gs.map (·.id) → l.Fresh id → l'.Fresh id := by
  induction gs generalizing l with
  | nil => exact ⟨l, rfl, fun _ _ h => h⟩
  | cons g gs ih =>
    rw [List.map_cons, List.nodup_cons] at hIds
    obtain ⟨l₁, hRun, hSpares⟩ :=
      Generator.run_eq hNames (hFresh g List.mem_cons_self) (hRenders g List.mem_cons_self)
    have hFresh₁ : ∀ g' ∈ gs, l₁.Fresh g'.id := by
      intro g' hg'
      refine hSpares g'.id (fun hEq => ?_) (hFresh g' (List.mem_cons_of_mem g hg'))
      exact hIds.1 (hEq ▸ List.mem_map_of_mem hg')
    obtain ⟨l₂, hRest, hSpares₂⟩ :=
      ih hIds.2 hFresh₁ fun g' hg' => hRenders g' (List.mem_cons_of_mem g hg')
    refine ⟨l₂, ?_, fun id hId hFreshId => ?_⟩
    · simp only [renderGenerators, hRun, hRest]
      rfl
    · rw [List.map_cons, List.mem_cons, not_or] at hId
      exact hSpares₂ id hId.2 (hSpares id hId.1 hFreshId)

/-- **A package renders to its files, and the ledger learns nothing about other packages.** -/
theorem render_eq (p : Package) {types : List Declaration} {l : Ledger}
    (hNames : (types.map (·.name)).Nodup) (hIds : p.ids.Nodup) (hFresh : ∀ id ∈ p.ids, l.Fresh id)
    (hRenders : ∀ g ∈ p.generators, ∀ d, ∃ s, g.generate d = .ok s) :
    ∃ l', p.render types l = .ok (p.files types, l') ∧
      ∀ id, id ∉ p.ids → l.Fresh id → l'.Fresh id := by
  obtain ⟨l', hRun, hSpares⟩ := p.renderGenerators_eq hNames hIds
    (fun g hg => hFresh g.id (List.mem_map_of_mem hg)) hRenders
  refine ⟨l', ?_, hSpares⟩
  rw [render, hRun]
  rfl

end Package

/-- **Packages render to their files when no two generators are known by the same name.** -/
theorem Plan.renderPackages_eq {types : List Declaration} {ps : List Package} {l : Ledger}
    (hNames : (types.map (·.name)).Nodup) (hIds : (ps.flatMap Package.ids).Nodup)
    (hFresh : ∀ id ∈ ps.flatMap Package.ids, l.Fresh id)
    (hRenders : ∀ p ∈ ps, ∀ g ∈ p.generators, ∀ d, ∃ s, g.generate d = .ok s) :
    renderPackages types ps l = .ok (ps.flatMap (·.files types)) := by
  induction ps generalizing l with
  | nil => rfl
  | cons p ps ih =>
    rw [List.flatMap_cons, List.nodup_append] at hIds
    obtain ⟨hHead, hTail, hApart⟩ := hIds
    obtain ⟨l', hRun, hSpares⟩ := p.render_eq hNames hHead
      (fun id hId => hFresh id (List.mem_append_left _ hId)) (hRenders p List.mem_cons_self)
    have hFresh' : ∀ id ∈ ps.flatMap Package.ids, l'.Fresh id := by
      intro id hId
      refine hSpares id (fun hMem => hApart id hMem id hId rfl) (hFresh id ?_)
      exact List.mem_append_right _ hId
    have hRest := ih hTail hFresh' fun q hq => hRenders q (List.mem_cons_of_mem p hq)
    rw [renderPackages, hRun]
    show (renderPackages types ps l').map _ = _
    rw [hRest]
    rfl

end RestScaffold
