import Mathlib.Data.List.Nodup
import Mathlib.Data.List.ProdSigma
import RestScaffold.Generator.Ledger

/-!
# Generators that share a ledger

Generators take turns in any order: each may be offered any declaration any number of times, and
files are written in between. A generator that fires once still fires for the first declaration that
it is offered, and one that is bound to a type fires for the declarations of that name.

* `Ledger.mem_latched_afterAll`: what is latched after any events;
* `Ledger.firings_of_once` and `Ledger.firings_of_forType`: the firings of one generator among those
  of all;
* `Ledger.consultation`: both for any order of events, and what follows for one pass.

What a generator is told apart by is its name, so all of this is about generators of different
names.
-/

namespace RestScaffold

namespace Ledger

/-! ## Events -/

/-- What happens to the ledger of a run. -/
inductive Event where
  /-- A declaration is offered to a generator. -/
  | offer (g : Generator) (d : Declaration)
  /-- The writing of a file is recorded. -/
  | emission (id : GeneratorId)
  deriving DecidableEq

/-- The offer that an event is. -/
def Event.offer? : Event → Option (Generator × Declaration)
  | .offer g d => some (g, d)
  | .emission _ => none

/-- The offers among events, in their order. -/
def offers (events : List Event) : List (Generator × Declaration) := events.filterMap Event.offer?

/-- The ledger after an event. A file that is refused leaves it as it was. -/
def after (l : Ledger) : Event → Ledger
  | .offer g d => (l.offer g d).2
  | .emission id => (l.recordEmission id).toOption.getD l

/-- The ledger after some events. -/
def afterAll (l : Ledger) (events : List Event) : Ledger := events.foldl after l

/-- The offers that generators fire for. -/
def firings (l : Ledger) : List Event → List (Generator × Declaration)
  | [] => []
  | e :: events =>
    (e.offer?.filter fun o => (l.offer o.1 o.2).1).toList ++ (l.after e).firings events

variable {l : Ledger} {g : Generator} {d : Declaration}

theorem mem_offers {events : List Event} : (g, d) ∈ offers events ↔ .offer g d ∈ events := by
  rw [offers, List.mem_filterMap]
  constructor
  · rintro ⟨e, he, hOffer⟩
    cases e with
    | offer g' d' =>
      cases hOffer
      exact he
    | emission id => cases hOffer
  · exact fun he => ⟨_, he, rfl⟩

/-! ## One event -/

theorem offer_of_forType {name : TypeName} (h : g.trigger = .forType name) (l : Ledger)
    (d : Declaration) : l.offer g d = (decide (d.name = name), l) := by
  simp only [offer, h]

theorem offer_of_once (h : g.trigger = .once) (l : Ledger) (d : Declaration) :
    l.offer g d = if g.id ∈ l.latched then (false, l)
      else (true, { l with latched := g.id :: l.latched }) := by
  simp only [offer, h, isLatched, List.contains_iff_mem]

theorem latched_emission (l : Ledger) (id : GeneratorId) :
    (l.after (.emission id)).latched = l.latched := by
  show ((l.recordEmission id).toOption.getD l).latched = l.latched
  unfold recordEmission
  by_cases hEmitted : l.emitted.contains id = true
  · rw [if_pos hEmitted]
    rfl
  · rw [if_neg hEmitted]
    rfl

/-- What an event latches. -/
theorem mem_latched_after {e : Event} {id : GeneratorId} :
    id ∈ (l.after e).latched ↔
      id ∈ l.latched ∨ ∃ g d, e = .offer g d ∧ g.trigger = .once ∧ g.id = id := by
  cases e with
  | emission other =>
    rw [latched_emission]
    exact (or_iff_left (by simp)).symm
  | offer g d =>
    cases hTrigger : g.trigger with
    | forType name =>
      rw [after, offer_of_forType hTrigger]
      refine (or_iff_left ?_).symm
      rintro ⟨g', d', hEvent, hOnce, -⟩
      cases hEvent
      cases hTrigger.symm.trans hOnce
    | once =>
      have hEvent : (∃ g' d', Event.offer g d = .offer g' d' ∧ g'.trigger = .once ∧ g'.id = id) ↔
          g.id = id := by
        constructor
        · rintro ⟨g', d', hEvent, -, hId⟩
          cases hEvent
          exact hId
        · exact fun hId => ⟨g, d, rfl, hTrigger, hId⟩
      rw [after, offer_of_once hTrigger, hEvent]
      by_cases hLatched : g.id ∈ l.latched
      · rw [if_pos hLatched]
        exact (or_iff_left_of_imp fun hId => hId ▸ hLatched).symm
      · rw [if_neg hLatched, List.mem_cons, or_comm, eq_comm]

theorem nodup_latched_after (h : l.latched.Nodup) (e : Event) : (l.after e).latched.Nodup := by
  cases e with
  | emission id => rwa [latched_emission]
  | offer g d =>
    cases hTrigger : g.trigger with
    | forType name => rwa [after, offer_of_forType hTrigger]
    | once =>
      rw [after, offer_of_once hTrigger]
      by_cases hLatched : g.id ∈ l.latched
      · rwa [if_pos hLatched]
      · rw [if_neg hLatched]
        exact List.nodup_cons.2 ⟨hLatched, h⟩

/-! ## Any events -/

/-- **The latched generators are those that fire once and were offered something.** -/
theorem mem_latched_afterAll {events : List Event} {id : GeneratorId} :
    id ∈ (l.afterAll events).latched ↔
      id ∈ l.latched ∨ ∃ o ∈ offers events, o.1.trigger = .once ∧ o.1.id = id := by
  induction events generalizing l with
  | nil => simp [afterAll, offers]
  | cons e events ih =>
    show id ∈ ((l.after e).afterAll events).latched ↔ _
    rw [ih, mem_latched_after, or_assoc]
    refine or_congr_right ?_
    constructor
    · rintro (⟨g, d, rfl, hOnce, hId⟩ | ⟨o, ho, hOnce, hId⟩)
      · exact ⟨(g, d), mem_offers.2 List.mem_cons_self, hOnce, hId⟩
      · exact ⟨o, mem_offers.2 (List.mem_cons_of_mem e (mem_offers.1 ho)), hOnce, hId⟩
    · rintro ⟨⟨g, d⟩, ho, hOnce, hId⟩
      rcases List.mem_cons.1 (mem_offers.1 ho) with hHead | hTail
      · exact Or.inl ⟨g, d, hHead.symm, hOnce, hId⟩
      · exact Or.inr ⟨(g, d), mem_offers.2 hTail, hOnce, hId⟩

theorem nodup_latched_afterAll (h : l.latched.Nodup) (events : List Event) :
    (l.afterAll events).latched.Nodup := by
  induction events generalizing l with
  | nil => exact h
  | cons e events ih => exact ih (nodup_latched_after h e)

/-! ## One generator among others -/

/-- Whether an offer is for the generator, going by its name. -/
def isFor (g : Generator) (o : Generator × Declaration) : Bool := decide (o.1.id = g.id)

theorem firings_offer (l : Ledger) (g : Generator) (d : Declaration) (events : List Event) :
    l.firings (.offer g d :: events) =
      (if (l.offer g d).1 then [(g, d)] else []) ++ (l.offer g d).2.firings events := by
  rw [firings]
  by_cases hFires : (l.offer g d).1 = true <;> simp [Event.offer?, Option.filter, after, hFires]

/-- **A generator that is bound to a type fires for the declarations of its name**, whatever the
ledger is. -/
theorem firings_of_forType {name : TypeName} (hTrigger : g.trigger = .forType name)
    {events : List Event} (hOnly : ∀ o ∈ offers events, o.1.id = g.id → o.1 = g) :
    (l.firings events).filter (isFor g) =
      ((offers events).filter (isFor g)).filter (·.2.name = name) := by
  induction events generalizing l with
  | nil => rfl
  | cons e events ih =>
    cases e with
    | emission id => exact ih hOnly
    | offer g' d =>
      obtain ⟨hHead, hTail⟩ := List.forall_mem_cons.1 hOnly
      rw [firings_offer, List.filter_append, ih hTail]
      show _ = List.filter _ (List.filter (isFor g) ((g', d) :: offers events))
      by_cases hId : g'.id = g.id
      · obtain rfl : g' = g := hHead hId
        rw [offer_of_forType hTrigger, List.filter_cons_of_pos (by simp [isFor])]
        by_cases hName : d.name = name <;> simp [hName, isFor]
      · rw [List.filter_cons_of_neg (by simpa [isFor] using hId)]
        by_cases hFires : (l.offer g' d).1 = true <;> simp [hFires, isFor, hId]

/-- **A generator that fires once fires for the first declaration that it is offered**, if its time
is not over. -/
theorem firings_of_once (hTrigger : g.trigger = .once) {events : List Event}
    (hOnly : ∀ o ∈ offers events, o.1.id = g.id → o.1 = g) :
    (l.firings events).filter (isFor g) =
      if g.id ∈ l.latched then [] else ((offers events).filter (isFor g)).take 1 := by
  induction events generalizing l with
  | nil => exact (ite_self []).symm
  | cons e events ih =>
    cases e with
    | emission id =>
      show ((l.after (.emission id)).firings events).filter (isFor g) = _
      rw [ih hOnly, latched_emission]
      rfl
    | offer g' d =>
      obtain ⟨hHead, hTail⟩ := List.forall_mem_cons.1 hOnly
      rw [firings_offer, List.filter_append, ih hTail]
      show _ = if g.id ∈ l.latched then []
        else (List.filter (isFor g) ((g', d) :: offers events)).take 1
      by_cases hId : g'.id = g.id
      · obtain rfl : g' = g := hHead hId
        rw [offer_of_once hTrigger, List.filter_cons_of_pos (by simp [isFor])]
        by_cases hLatched : g'.id ∈ l.latched <;> simp [hLatched, isFor]
      · -- What is offered to others latches others.
        have hSame : g.id ∈ (l.offer g' d).2.latched ↔ g.id ∈ l.latched := by
          refine (mem_latched_after (e := .offer g' d)).trans (or_iff_left ?_)
          rintro ⟨g'', d', hEvent, -, hId'⟩
          cases hEvent
          exact hId hId'
        rw [List.filter_cons_of_neg (by simpa [isFor] using hId)]
        by_cases hFires : (l.offer g' d).1 = true <;> simp [hFires, isFor, hId, hSame]

/-! ## One pass -/

/-- In a pass a generator is offered each declaration once. -/
theorem filter_isFor_product {gs : List Generator} (hIds : (gs.map (·.id)).Nodup) (hg : g ∈ gs)
    (ds : List Declaration) : (gs ×ˢ ds).filter (isFor g) = ds.map (Prod.mk g) := by
  induction gs with
  | nil => cases hg
  | cons g' gs ih =>
    rw [List.map_cons, List.nodup_cons] at hIds
    rw [List.product_cons, List.filter_append, List.filter_map]
    rcases List.mem_cons.1 hg with rfl | hg
    · have hHead : ds.filter (isFor g ∘ Prod.mk g) = ds := by simp [isFor]
      have hTail : (gs ×ˢ ds).filter (isFor g) = [] := by
        refine List.filter_eq_nil_iff.2 fun o ho hFor => hIds.1 ?_
        rw [← of_decide_eq_true hFor]
        exact List.mem_map_of_mem (List.mem_product.1 ho).1
      rw [hHead, hTail, List.append_nil]
    · have hNe : g'.id ≠ g.id := fun hEq => hIds.1 (hEq ▸ List.mem_map_of_mem hg)
      have hHead : ds.filter (isFor g ∘ Prod.mk g') = [] := by simp [isFor, hNe]
      rw [hHead, ih hIds.2 hg]
      rfl

/-- **In one pass over declarations of different names each generator that finds one to fire for
fires once**: one that fires once for some declaration, one that is bound to a type for the
declaration of its name. -/
theorem filter_firings_of_pass {gs : List Generator} {ds : List Declaration} {events : List Event}
    (hIds : (gs.map (·.id)).Nodup) (hNames : (ds.map (·.name)).Nodup)
    (hPass : (offers events).Perm (gs ×ˢ ds)) (hg : g ∈ gs) :
    (g.trigger = .once → ds ≠ [] →
      ∃ d ∈ ds, (firings {} events).filter (isFor g) = [(g, d)]) ∧
    ∀ d ∈ ds, g.trigger = .forType d.name →
      (firings {} events).filter (isFor g) = [(g, d)] := by
  have hOffers : ((offers events).filter (isFor g)).Perm (ds.map (Prod.mk g)) :=
    filter_isFor_product hIds hg ds ▸ hPass.filter _
  have hOnly : ∀ o ∈ offers events, o.1.id = g.id → o.1 = g := by
    intro o ho hId
    have hMem : o.1 ∈ gs := (List.mem_product.1 (hPass.mem_iff.1 ho)).1
    exact List.inj_on_of_nodup_map hIds hMem hg hId
  refine ⟨fun hOnce hNe => ?_, fun d hd hBound => ?_⟩
  · have hEmpty : (offers events).filter (isFor g) ≠ [] := by
      intro hNil
      rw [hNil] at hOffers
      exact hNe (List.map_eq_nil_iff.1 hOffers.nil_eq.symm)
    obtain ⟨o, rest, hFirst⟩ := List.exists_cons_of_ne_nil hEmpty
    have hMem : o ∈ ds.map (Prod.mk g) := hOffers.mem_iff.1 (hFirst ▸ List.mem_cons_self)
    obtain ⟨d, hd, rfl⟩ := List.mem_map.1 hMem
    refine ⟨d, hd, ?_⟩
    rw [firings_of_once hOnce hOnly, if_neg List.not_mem_nil, hFirst]
    rfl
  · rw [firings_of_forType hBound hOnly]
    have hDistinct : (ds.map (Prod.mk g)).Nodup :=
      (List.Nodup.of_map _ hNames).map fun a b hEq => (Prod.mk.inj hEq).2
    have hNodup : ((offers events).filter (isFor g)).Nodup := hOffers.nodup_iff.2 hDistinct
    refine List.perm_singleton.1 ((List.perm_ext_iff_of_nodup (hNodup.filter _)
      (List.nodup_singleton _)).2 fun o => ?_)
    rw [List.mem_filter, hOffers.mem_iff, List.mem_map, List.mem_singleton, decide_eq_true_eq]
    constructor
    · rintro ⟨⟨e, he, rfl⟩, hName⟩
      rw [List.inj_on_of_nodup_map hNames he hd hName]
    · rintro rfl
      exact ⟨⟨d, hd, rfl⟩, rfl⟩

/-! ## Any order of events -/

/-- **Generators of different names do not get in each other's way, whatever the order of events.**
One that fires once does so for the first declaration that it is offered and for no later one; one
that is bound to a type goes by the name of the declaration only and leaves the ledger alone; and
just those of the first kind that were offered something are latched. So in one pass each generator
that finds a declaration to fire for fires once. -/
theorem consultation {gs : List Generator} (hIds : (gs.map (·.id)).Nodup) {events : List Event}
    (hOffers : ∀ o ∈ offers events, o.1 ∈ gs) :
    (∀ before g d later, events = before ++ .offer g d :: later →
      (g.trigger = .once → (((afterAll {} before).offer g d).1 = true ↔
        ∀ e, .offer g e ∉ before)) ∧
      ∀ name, g.trigger = .forType name →
        (afterAll {} before).offer g d = (decide (d.name = name), afterAll {} before)) ∧
    (∀ id, id ∈ (afterAll {} events).latched ↔
      ∃ g d, .offer g d ∈ events ∧ g.trigger = .once ∧ g.id = id) ∧
    (afterAll {} events).latched.Nodup ∧
    ∀ ds : List Declaration, (ds.map (·.name)).Nodup → (offers events).Perm (gs ×ˢ ds) →
      ∀ g ∈ gs,
        (g.trigger = .once → ds ≠ [] →
          ∃ d ∈ ds, (firings {} events).filter (isFor g) = [(g, d)]) ∧
        ∀ d ∈ ds, g.trigger = .forType d.name →
          (firings {} events).filter (isFor g) = [(g, d)] := by
  have hLatched : ∀ events id, id ∈ (afterAll {} events).latched ↔
      ∃ g d, .offer g d ∈ events ∧ g.trigger = .once ∧ g.id = id := by
    intro events id
    rw [mem_latched_afterAll, or_iff_right List.not_mem_nil]
    constructor
    · rintro ⟨⟨g, d⟩, ho, hOnce, hId⟩
      exact ⟨g, d, mem_offers.1 ho, hOnce, hId⟩
    · rintro ⟨g, d, he, hOnce, hId⟩
      exact ⟨(g, d), mem_offers.2 he, hOnce, hId⟩
  refine ⟨?_, hLatched events, nodup_latched_afterAll List.nodup_nil events,
    fun ds hNames hPass g hg => filter_firings_of_pass hIds hNames hPass hg⟩
  rintro before g d later rfl
  refine ⟨fun hOnce => ?_, fun name hBound => offer_of_forType hBound _ d⟩
  have hMem : ∀ g' d', .offer g' d' ∈ before ++ .offer g d :: later → g' ∈ gs :=
    fun g' d' he => hOffers (g', d') (mem_offers.2 he)
  have hBefore : g.id ∈ (afterAll {} before).latched ↔ ∃ e, .offer g e ∈ before := by
    rw [hLatched]
    constructor
    · rintro ⟨g', e, he, -, hId⟩
      have hg' := hMem g' e (List.mem_append_left _ he)
      have hg := hMem g d (List.mem_append_right _ List.mem_cons_self)
      obtain rfl := List.inj_on_of_nodup_map hIds hg' hg hId
      exact ⟨e, he⟩
    · rintro ⟨e, he⟩
      exact ⟨g, e, he, hOnce, rfl⟩
  rw [offer_of_once hOnce, ← not_exists, ← hBefore]
  by_cases hId : g.id ∈ (afterAll {} before).latched <;> simp [hId]

/-- A generator that fires once. -/
def serverFile : Generator := { id := ⟨"acme/server", "server"⟩ }

/-- A generator that is bound to a type. -/
def taskFile : Generator :=
  { id := ⟨"acme/server", "task"⟩, trigger := .forType ⟨"acme/v1", "Task"⟩ }

/-- The declaration of a type that no generator is bound to. -/
def clusterType : Declaration := { name := ⟨"acme/v1", "Cluster"⟩ }

/-- The declaration of the bound type. -/
def taskType : Declaration := { name := ⟨"acme/v1", "Task"⟩ }

/-- One pass of both, in which a file is written between two offers. -/
def interleaved : List Event :=
  [.offer taskFile clusterType, .offer serverFile clusterType, .emission serverFile.id,
    .offer serverFile taskType, .offer taskFile taskType]

theorem consultation_interleaved :
    (((afterAll {} (interleaved.take 1)).offer serverFile clusterType).1 = true ↔
      ∀ e, .offer serverFile e ∉ interleaved.take 1) ∧
    (∃ d ∈ [clusterType, taskType],
      (firings {} interleaved).filter (isFor serverFile) = [(serverFile, d)]) ∧
    (firings {} interleaved).filter (isFor taskFile) = [(taskFile, taskType)] := by
  have hIds : ([serverFile, taskFile].map (·.id)).Nodup := by decide
  have hOffers : ∀ o ∈ offers interleaved, o.1 ∈ [serverFile, taskFile] := by decide
  obtain ⟨hAnswers, -, -, hPass⟩ := consultation hIds hOffers
  have hOnce := hPass [clusterType, taskType] (by decide) (by decide)
  exact ⟨(hAnswers _ serverFile clusterType (interleaved.drop 2) (by decide)).1 rfl,
    (hOnce serverFile (by decide)).1 rfl (by decide),
    (hOnce taskFile (by decide)).2 taskType (by decide) rfl⟩

end Ledger

end RestScaffold
