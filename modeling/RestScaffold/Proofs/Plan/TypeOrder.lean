import Mathlib.Data.List.Forall2
import RestScaffold.Proofs.Plan.SourceOrder
import RestScaffold.Proofs.Scaffold.Routes

/-!
# Plans and the order of types

Inside a source package the types may be listed in any order as well. The selected types are put in
order, but the object meta is that of the first generated type which has it, so the order decides
whether the package is internal, and with that its group and its version.

* `SourcePackage.isInternal_eq_iff_agreesOnMeta`: for which packages the order decides nothing;
* `PlanConfig.render_planOf_eq_iff`: when two orders give the same files;
* `Plan.ofUniverse_reordered`: what stays the same in any order, and exactly when the files do;
* `Plan.render_ne_of_reordered`: two types whose order shows in the files.

Two universes are compared package by package, as one list of pairs of packages.
-/

namespace RestScaffold

open Text

/-! ## One source package -/

namespace SourcePackage

/-- The same package, with its types listed in another order. -/
structure Reordered (p q : SourcePackage) : Prop where
  path : p.path = q.path
  comments : p.comments = q.comments
  types : p.types.Perm q.types

variable {p q : SourcePackage} {c : PlanConfig}

theorem Reordered.flaw?_eq_none_iff (h : p.Reordered q) :
    p.flaw? c = none ↔ q.flaw? c = none := by
  rw [SourcePackage.flaw?_eq_none_iff, SourcePackage.flaw?_eq_none_iff]
  simp only [h.types.mem_iff]

theorem Reordered.groupVersion_eq (h : p.Reordered q) (internal : Bool) :
    q.groupVersion internal = p.groupVersion internal := by
  unfold groupVersion
  rw [h.path, h.comments]

/-- Selected types of different names come out in one order. -/
theorem Reordered.selected_eq (h : p.Reordered q)
    (hNames : ((p.types.filter c.selection.selects).map (·.name)).Nodup) :
    p.selected c = q.selected c :=
  Declaration.sort_eq_of_perm (h.types.filter _) hNames

/-- The group and the version are the same when it makes no difference whether the package is
internal. -/
theorem groupVersion_congr {i j : Bool} (h : 2 ≤ (segments p.path).length → i = j) :
    p.groupVersion i = p.groupVersion j := by
  by_cases hLong : 2 ≤ (segments p.path).length
  · rw [h hLong]
  · exact groupVersion_of_short (Nat.lt_of_not_le hLong) i j

/-- The types that ask for generation agree on whether the object meta has a JSON name. -/
def AgreesOnMeta (p : SourcePackage) (c : PlanConfig) : Prop :=
  ∀ name, c.objectMetaMember = some name →
    ∀ d ∈ p.types, ∀ e ∈ p.types, d.generates = true → e.generates = true →
      ∀ m n, d.member? name = some m → e.member? name = some n →
        (cutAt "json" m.tags).isNone = (cutAt "json" n.tags).isNone

theorem exists_of_metaMember? {m : Member} (h : p.metaMember? c = some m) :
    ∃ name, c.objectMetaMember = some name ∧
      ∃ d ∈ p.types, d.generates = true ∧ d.member? name = some m := by
  obtain ⟨name, hName, hFind⟩ := Option.bind_eq_some_iff.1 h
  obtain ⟨d, hd, hMember⟩ := List.exists_of_findSome?_eq_some hFind
  exact ⟨name, hName, d, (List.mem_filter.1 hd).1, (List.mem_filter.1 hd).2, hMember⟩

theorem Reordered.metaMember?_eq_none_iff (h : p.Reordered q) :
    p.metaMember? c = none ↔ q.metaMember? c = none := by
  unfold metaMember?
  cases c.objectMetaMember with
  | none => exact Iff.rfl
  | some name =>
    show List.findSome? _ _ = none ↔ List.findSome? _ _ = none
    rw [List.findSome?_eq_none_iff, List.findSome?_eq_none_iff]
    simp only [(h.types.filter _).mem_iff]

/-- A generated type that comes first has the object meta of its package. -/
theorem isInternal_of_first {name : Text} {d : Declaration} {ds : List Declaration} {m : Member}
    (hTypes : p.types = d :: ds) (hName : c.objectMetaMember = some name)
    (hGenerates : d.generates = true) (hMember : d.member? name = some m) :
    p.isInternal c = (cutAt "json" m.tags).isNone := by
  have hMeta : p.metaMember? c = some m := by
    rw [metaMember?, hName, hTypes, List.filter_cons_of_pos hGenerates]
    show List.findSome? _ _ = _
    rw [List.findSome?_cons, hMember]
  rw [isInternal, hMeta]
  rfl

/-- **No order of the types shows when they agree on the object meta, and else some order does.** -/
theorem isInternal_eq_iff_agreesOnMeta :
    (∀ q, p.Reordered q → p.isInternal c = q.isInternal c) ↔ p.AgreesOnMeta c := by
  constructor
  · intro h name hName d hd e he hGenD hGenE m n hm hn
    have hFirst : ∀ x ∈ p.types, p.Reordered { p with types := x :: p.types.erase x } :=
      fun x hx => ⟨rfl, rfl, List.perm_cons_erase hx⟩
    calc (cutAt "json" m.tags).isNone
        = isInternal { p with types := d :: p.types.erase d } c :=
          (isInternal_of_first rfl hName hGenD hm).symm
      _ = p.isInternal c := (h _ (hFirst d hd)).symm
      _ = isInternal { p with types := e :: p.types.erase e } c := h _ (hFirst e he)
      _ = (cutAt "json" n.tags).isNone := isInternal_of_first rfl hName hGenE hn
  · intro h q hq
    unfold isInternal
    cases hp : p.metaMember? c with
    | none => rw [hq.metaMember?_eq_none_iff.1 hp]
    | some m =>
      cases hq' : q.metaMember? c with
      | none =>
        rw [hq.metaMember?_eq_none_iff.2 hq'] at hp
        cases hp
      | some n =>
        obtain ⟨name, hName, d, hd, hGenD, hm⟩ := exists_of_metaMember? hp
        obtain ⟨name', hName', e, he, hGenE, hn⟩ := exists_of_metaMember? hq'
        obtain rfl : name = name' := Option.some.inj (hName.symm.trans hName')
        exact h name hName d hd e (hq.types.mem_iff.2 he) hGenD hGenE m n hm hn

end SourcePackage

/-! ## Two universes side by side -/

namespace PlanConfig

variable {c : PlanConfig} {w : List (SourcePackage × SourcePackage)}

theorem selectedIn_perm_of_reordered (hw : ∀ pq ∈ w, pq.1.Reordered pq.2) :
    (c.selectedIn (w.map Prod.fst)).Perm (c.selectedIn (w.map Prod.snd)) := by
  unfold selectedIn
  rw [List.flatMap_map, List.flatMap_map]
  exact List.Perm.flatMap_left w fun pq hpq => (hw pq hpq).types.filter _

/-- What a universe must be like does not depend on the order of types. -/
theorem admits_iff_of_reordered (hw : ∀ pq ∈ w, pq.1.Reordered pq.2) :
    c.Admits (w.map Prod.fst) ↔ c.Admits (w.map Prod.snd) := by
  have hFlaws : (∀ q ∈ w.map Prod.fst, q.flaw? c = none) ↔
      ∀ q ∈ w.map Prod.snd, q.flaw? c = none := by
    rw [List.forall_mem_map, List.forall_mem_map]
    exact forall₂_congr fun pq hpq => (hw pq hpq).flaw?_eq_none_iff
  have hSelected := selectedIn_perm_of_reordered (c := c) hw
  rw [admits_iff, admits_iff, hFlaws, (hSelected.map Declaration.directory).nodup_iff]
  simp only [hSelected.mem_iff]

theorem Admits.selected_eq (hu : c.Admits (w.map Prod.fst))
    (hw : ∀ pq ∈ w, pq.1.Reordered pq.2) :
    ∀ pq ∈ w, pq.1.selected c = pq.2.selected c := by
  intro pq hpq
  apply (hw pq hpq).selected_eq
  have hNames : ((c.selectedIn (w.map Prod.fst)).map (·.name)).Nodup :=
    ((c.types_perm _).map _).nodup_iff.1 hu.nodup_names
  rw [selectedIn, List.map_flatMap] at hNames
  exact (List.nodup_flatMap.1 hNames).1 pq.1 (List.mem_map_of_mem hpq)

/-- The selected types of two universes in order, each with the packages that it is from. -/
def alignedTypes (c : PlanConfig) (w : List (SourcePackage × SourcePackage)) :
    List (Declaration × SourcePackage × SourcePackage) :=
  (w.flatMap fun pq => (pq.1.selected c).map fun d => (d, pq)).mergeSort
    fun a b => Declaration.notAfter a.1 b.1

theorem mem_alignedTypes {t : Declaration × SourcePackage × SourcePackage} :
    t ∈ c.alignedTypes w ↔ t.2 ∈ w ∧ t.1 ∈ t.2.1.selected c := by
  obtain ⟨d, pq⟩ := t
  rw [alignedTypes, List.mem_mergeSort, List.mem_flatMap]
  constructor
  · rintro ⟨pq', hpq, hMem⟩
    obtain ⟨d', hd, hEq⟩ := List.mem_map.1 hMem
    cases hEq
    exact ⟨hpq, hd⟩
  · rintro ⟨hpq, hd⟩
    exact ⟨pq, hpq, List.mem_map_of_mem hd⟩

theorem plannedTypes_fst (c : PlanConfig) (w : List (SourcePackage × SourcePackage)) :
    c.plannedTypes (w.map Prod.fst) =
      (c.alignedTypes w).map fun t => (t.1, c.scaffold (t.2.1.sourcePlan c).vars) := by
  rw [plannedTypes_eq, alignedTypes, List.map_mergeSort
    (s := fun a b : Declaration × Scaffold => Declaration.notAfter a.1 b.1) fun _ _ _ _ => rfl,
    unsortedTypes, List.flatMap_map, List.map_flatMap]
  simp only [List.map_map]
  rfl

theorem plannedTypes_snd (h : ∀ pq ∈ w, pq.1.selected c = pq.2.selected c) :
    c.plannedTypes (w.map Prod.snd) =
      (c.alignedTypes w).map fun t => (t.1, c.scaffold (t.2.2.sourcePlan c).vars) := by
  rw [plannedTypes_eq, alignedTypes, List.map_mergeSort
    (s := fun a b : Declaration × Scaffold => Declaration.notAfter a.1 b.1) fun _ _ _ _ => rfl,
    unsortedTypes, List.flatMap_map, List.map_flatMap]
  congr 1
  refine List.flatMap_congr fun pq hpq => ?_
  rw [← h pq hpq, List.map_map]
  rfl

/-! ## The files of the types -/

/-- Whether two lists of blocks of equal lengths give the same list. -/
theorem flatMap_eq_flatMap_iff {α β : Type} {xs : List α} {f g : α → List β} {n : Nat}
    (hf : ∀ x, (f x).length = n) (hg : ∀ x, (g x).length = n) :
    xs.flatMap f = xs.flatMap g ↔ ∀ x ∈ xs, f x = g x := by
  constructor
  · intro h
    induction xs with
    | nil => exact fun x hx => absurd hx List.not_mem_nil
    | cons x xs ih =>
      rw [List.flatMap_cons, List.flatMap_cons] at h
      obtain ⟨hHead, hTail⟩ := List.append_inj h ((hf x).trans (hg x).symm)
      exact List.forall_mem_cons.2 ⟨hHead, ih hTail⟩
  · exact List.flatMap_congr

/-- Two plans for the same types have the same files when the files of each type are the same. -/
theorem files_packagesOf_eq_iff {α : Type} {ts : List α} {d : α → Declaration}
    (f g : α → Scaffold) (types : List Declaration) :
    (c.packagesOf (ts.map fun t => (d t, f t))).flatMap (·.files types) =
        (c.packagesOf (ts.map fun t => (d t, g t))).flatMap (·.files types) ↔
      ∀ t ∈ ts, (f t).typeFiles types (d t) = (g t).typeFiles types (d t) := by
  have hTypes : ∀ e : α → Scaffold, (ts.map fun t => (d t, e t)).map Prod.fst = ts.map d := by
    intro e
    rw [List.map_map]
    rfl
  have hBlocks : ∀ e : α → Scaffold, ((ts.map fun t => (d t, e t)).flatMap fun t =>
      [t.2.typeController t.1, t.2.typeService t.1]).flatMap (·.files types) =
        ts.flatMap fun t => (e t).typeFiles types (d t) := by
    intro e
    rw [List.flatMap_assoc, List.flatMap_map]
    refine List.flatMap_congr fun t _ => ?_
    rw [List.flatMap_cons, List.flatMap_singleton, Scaffold.typeFiles]
  by_cases hEmpty : ts = []
  · subst hEmpty
    exact ⟨fun _ t ht => absurd ht List.not_mem_nil, fun _ => rfl⟩
  · simp only [packagesOf, hTypes, List.map_eq_nil_iff, hEmpty, if_false, List.flatMap_append,
      hBlocks, List.append_cancel_left_eq, List.append_cancel_right_eq]
    exact flatMap_eq_flatMap_iff (fun t => (f t).length_typeFiles (d t) types)
      fun t => (g t).length_typeFiles (d t) types

/-- **The files of a type tell whether its package is internal, unless its path is short.** -/
theorem typeFiles_eq_iff {p q : SourcePackage} (h : p.Reordered q) {d : Declaration}
    {types : List Declaration} (hd : d ∈ types) :
    (c.scaffold (q.sourcePlan c).vars).typeFiles types d =
        (c.scaffold (p.sourcePlan c).vars).typeFiles types d ↔
      (2 ≤ (segments p.path).length → p.isInternal c = q.isInternal c) := by
  have hLeft : (c.scaffold (p.sourcePlan c).vars).vars.BindRoutes
      (p.groupVersion (p.isInternal c)) := bindRoutes_vars (p.sourcePlan c)
  have hRight : (q.sourcePlan c).vars.BindRoutes (p.groupVersion (q.isInternal c)) := by
    rw [← h.groupVersion_eq]
    exact bindRoutes_vars (q.sourcePlan c)
  have hScaffold : c.scaffold (q.sourcePlan c).vars =
      { c.scaffold (p.sourcePlan c).vars with vars := (q.sourcePlan c).vars } := rfl
  rw [hScaffold]
  constructor
  · intro hFiles
    apply SourcePackage.routeLength_eq_iff.1
    exact Scaffold.length_eq_of_typeFiles_eq _ hLeft hRight hd hFiles
  · intro hInternal
    rw [← SourcePackage.groupVersion_congr hInternal] at hRight
    exact Scaffold.typeFiles_congr _ d types hLeft hRight

/-- Plans for the same types have their files at the same places. -/
theorem outputs_planOf_congr {u v : Universe} (h : (c.planOf u).types = (c.planOf v).types) :
    (c.planOf u).outputs = (c.planOf v).outputs := by
  rw [outputs_planOf, outputs_planOf, h]

theorem types_planOf_of_reordered (hu : c.Admits (w.map Prod.fst))
    (hw : ∀ pq ∈ w, pq.1.Reordered pq.2) :
    (c.planOf (w.map Prod.fst)).types = (c.planOf (w.map Prod.snd)).types := by
  show (c.plannedTypes _).map Prod.fst = (c.plannedTypes _).map Prod.fst
  rw [plannedTypes_fst, plannedTypes_snd (hu.selected_eq hw), List.map_map, List.map_map]
  rfl

/-- **When the order of types does not show in the files.** -/
theorem render_planOf_eq_iff (hu : c.Admits (w.map Prod.fst))
    (hw : ∀ pq ∈ w, pq.1.Reordered pq.2) :
    (c.planOf (w.map Prod.fst)).render = (c.planOf (w.map Prod.snd)).render ↔
      ∀ pq ∈ w, pq.1.selected c ≠ [] → 2 ≤ (segments pq.1.path).length →
        pq.1.isInternal c = pq.2.isInternal c := by
  have hMem : ∀ t ∈ c.alignedTypes w, t.1 ∈ (c.planOf (w.map Prod.fst)).types := by
    intro t ht
    show t.1 ∈ (c.plannedTypes _).map Prod.fst
    rw [plannedTypes_fst, List.map_map]
    exact List.mem_map_of_mem ht
  rw [hu.render_planOf, ((admits_iff_of_reordered hw).1 hu).render_planOf,
    ← types_planOf_of_reordered hu hw, Except.ok.injEq]
  show (c.packagesOf (c.plannedTypes _)).flatMap _ = (c.packagesOf (c.plannedTypes _)).flatMap _ ↔ _
  rw [plannedTypes_fst, plannedTypes_snd (hu.selected_eq hw), files_packagesOf_eq_iff]
  constructor
  · intro hFiles pq hpq hSelected
    obtain ⟨d, hd⟩ := List.exists_mem_of_ne_nil _ hSelected
    have ht : (d, pq) ∈ c.alignedTypes w := mem_alignedTypes.2 ⟨hpq, hd⟩
    exact (typeFiles_eq_iff (hw pq hpq) (hMem _ ht)).1 (hFiles _ ht).symm
  · intro hInternal t ht
    obtain ⟨hpq, hd⟩ := mem_alignedTypes.1 ht
    exact ((typeFiles_eq_iff (hw t.2 hpq) (hMem t ht)).2
      (hInternal t.2 hpq (List.ne_nil_of_mem hd))).symm

end PlanConfig

/-! ## Orders of a universe -/

namespace Universe

/-- The same universe, with the types inside its packages listed in another order. -/
def Reordered (u v : Universe) : Prop := List.Forall₂ SourcePackage.Reordered u v

variable {u v : Universe} {c : PlanConfig}

/-- Universes that agree but for the order of types are a list of pairs of packages. -/
theorem Reordered.zip (h : u.Reordered v) :
    (List.zip u v).map Prod.fst = u ∧ (List.zip u v).map Prod.snd = v ∧
      ∀ pq ∈ List.zip u v, pq.1.Reordered pq.2 := by
  have hLength : u.length = v.length := List.Forall₂.length_eq h
  exact ⟨List.map_fst_zip (Nat.le_of_eq hLength), List.map_snd_zip (Nat.le_of_eq hLength.symm),
    fun pq hpq => List.forall₂_zip h hpq⟩

theorem Reordered.admits_iff (h : u.Reordered v) : c.Admits u ↔ c.Admits v := by
  obtain ⟨hFst, hSnd, hw⟩ := h.zip
  have hPairs := PlanConfig.admits_iff_of_reordered (c := c) hw
  rwa [hFst, hSnd] at hPairs

theorem Reordered.types_planOf_eq (h : u.Reordered v) (hu : c.Admits u) :
    (c.planOf u).types = (c.planOf v).types := by
  obtain ⟨hFst, hSnd, hw⟩ := h.zip
  have hTypes := PlanConfig.types_planOf_of_reordered (c := c) (hFst.symm ▸ hu) hw
  rwa [hFst, hSnd] at hTypes

theorem Reordered.render_planOf_eq_iff (h : u.Reordered v) (hu : c.Admits u) :
    (c.planOf u).render = (c.planOf v).render ↔
      ∀ pq ∈ List.zip u v, pq.1.selected c ≠ [] → 2 ≤ (segments pq.1.path).length →
        pq.1.isInternal c = pq.2.isInternal c := by
  obtain ⟨hFst, hSnd, hw⟩ := h.zip
  have hRender := PlanConfig.render_planOf_eq_iff (c := c) (hFst.symm ▸ hu) hw
  rwa [hFst, hSnd] at hRender

/-- One package of a universe can be reordered by itself. -/
theorem exists_reordered_of_mem {a b : SourcePackage} (ha : a ∈ u) (hab : a.Reordered b) :
    ∃ v, u.Reordered v ∧ (a, b) ∈ List.zip u v := by
  refine ⟨u.map fun x => if x = a then b else x, ?_, ?_⟩
  · refine List.forall₂_map_right_iff.2 (List.forall₂_same.2 fun x _ => ?_)
    by_cases hx : x = a
    · rw [if_pos hx, hx]
      exact hab
    · rw [if_neg hx]
      exact ⟨rfl, rfl, List.Perm.refl _⟩
  · rw [← List.map_prod_left_eq_zip]
    exact List.mem_map.2 ⟨a, ha, Prod.ext rfl (if_pos rfl)⟩

/-- **No order of the types shows in the files exactly when the packages agree on the object meta.**
-/
theorem render_planOf_eq_iff_agreesOnMeta (hu : c.Admits u) :
    (∀ v, u.Reordered v → (c.planOf u).render = (c.planOf v).render) ↔
      ∀ a ∈ u, a.selected c ≠ [] → 2 ≤ (segments a.path).length → a.AgreesOnMeta c := by
  constructor
  · intro h a ha hSelected hLong
    refine SourcePackage.isInternal_eq_iff_agreesOnMeta.1 fun b hab => ?_
    obtain ⟨v, hv, hPair⟩ := exists_reordered_of_mem ha hab
    exact (hv.render_planOf_eq_iff hu).1 (h v hv) (a, b) hPair hSelected hLong
  · intro h v hv
    refine (hv.render_planOf_eq_iff hu).2 fun pq hpq hSelected hLong => ?_
    have hMem : pq.1 ∈ u := (List.of_mem_zip hpq).1
    exact SourcePackage.isInternal_eq_iff_agreesOnMeta.2 (h pq.1 hMem hSelected hLong) pq.2
      (hv.zip.2.2 pq hpq)

end Universe

/-- **The order of types inside packages.** Two universes that agree but for this order both have a
plan or both have none. Their plans have the same types and can be rendered, with files at the same
places. The files are the same exactly when every package with a selected type, whose path is long
enough for a group and a version, is internal in both universes or in neither. They are the same for
every order exactly when the generated types of such a package agree on the object meta. -/
theorem Plan.ofUniverse_reordered (c : PlanConfig) (u : Universe) :
    (∀ v, u.Reordered v →
      ((∃ p, ofUniverse c u = .ok p) ↔ ∃ q, ofUniverse c v = .ok q) ∧
        ∀ p q, ofUniverse c u = .ok p → ofUniverse c v = .ok q →
          p.types = q.types ∧ ∃ files files', p.render = .ok files ∧ q.render = .ok files' ∧
            files.map (fun f => (f.packagePath, f.stem)) =
              files'.map (fun f => (f.packagePath, f.stem)) ∧
            (files = files' ↔ ∀ pq ∈ List.zip u v, pq.1.selected c ≠ [] →
              2 ≤ (segments pq.1.path).length → pq.1.isInternal c = pq.2.isInternal c)) ∧
      ∀ p, ofUniverse c u = .ok p →
        ((∀ v q, u.Reordered v → ofUniverse c v = .ok q → p.render = q.render) ↔
          ∀ a ∈ u, a.selected c ≠ [] → 2 ≤ (segments a.path).length → a.AgreesOnMeta c) := by
  refine ⟨fun v h => ⟨?_, fun p q hp hq => ?_⟩, fun p hp => ?_⟩
  · rw [PlanConfig.exists_ofUniverse_eq_ok_iff, PlanConfig.exists_ofUniverse_eq_ok_iff,
      h.admits_iff]
  · obtain ⟨-, hu, rfl⟩ := PlanConfig.ofUniverse_eq_ok_iff_admits.1 hp
    obtain ⟨-, hv, rfl⟩ := PlanConfig.ofUniverse_eq_ok_iff_admits.1 hq
    have hTypes := h.types_planOf_eq hu
    have hRender := h.render_planOf_eq_iff hu
    rw [hu.render_planOf, hv.render_planOf, Except.ok.injEq] at hRender
    refine ⟨hTypes, _, _, hu.render_planOf, hv.render_planOf, ?_, hRender⟩
    rw [Plan.map_place_files, Plan.map_place_files]
    exact PlanConfig.outputs_planOf_congr hTypes
  · obtain ⟨hBlank, hu, rfl⟩ := PlanConfig.ofUniverse_eq_ok_iff_admits.1 hp
    rw [← Universe.render_planOf_eq_iff_agreesOnMeta hu]
    constructor
    · intro h v hv
      exact h v _ hv ((hv.admits_iff.1 hu).ofUniverse_eq hBlank)
    · intro h v q hv hq
      obtain ⟨-, -, rfl⟩ := PlanConfig.ofUniverse_eq_ok_iff_admits.1 hq
      exact h v hv

/-- A package of two types. -/
def SourcePackage.pair (a b : Declaration) : SourcePackage where
  path := "a/v1"
  types := [a, b]

theorem Universe.reordered_pair (a b : Declaration) :
    Universe.Reordered [.pair a b] [.pair b a] :=
  .cons ⟨rfl, rfl, List.Perm.swap b a []⟩ .nil

/-- A second type like the pod. -/
def Declaration.job : Declaration := { pod with name := ⟨"a/v1", "Job"⟩ }

/-- A type whose object meta has no JSON name. -/
def Declaration.node : Declaration where
  name := ⟨"a/v1", "Node"⟩
  members := [{ name := "ObjectMeta", type := ⟨"m", "ObjectMeta"⟩ }]
  comments := ["+genclient"]

/-- Two types that agree on the object meta have the same files in either order. -/
theorem Plan.ofUniverse_reordered_jobs :
    Universe.Reordered [.pair .pod .job] [.pair .job .pod] ∧
      ∃ p q, ofUniverse { outputPackage := "out" } [.pair .pod .job] = .ok p ∧
        ofUniverse { outputPackage := "out" } [.pair .job .pod] = .ok q ∧ p.render = q.render := by
  have hReordered := Universe.reordered_pair .pod .job
  have hp : ofUniverse { outputPackage := "out" } [.pair .pod .job] =
      .ok (PlanConfig.planOf { outputPackage := "out" } [.pair .pod .job]) :=
    PlanConfig.Admits.ofUniverse_eq (by decide +kernel) (by decide +kernel)
  obtain ⟨hPlan, hSame⟩ := (ofUniverse_reordered { outputPackage := "out" } _).1 _ hReordered
  obtain ⟨q, hq⟩ := hPlan.1 ⟨_, hp⟩
  obtain ⟨-, files, files', hFiles, hFiles', -, hIff⟩ := hSame _ q hp hq
  have hInternal : files = files' :=
    hIff.2 (List.forall_mem_singleton.2 fun _ _ => by decide +kernel)
  exact ⟨hReordered, _, q, hp, hq, by rw [hFiles, hFiles', hInternal]⟩

/-- **Two types that disagree on the object meta have different files in either order.** -/
theorem Plan.render_ne_of_reordered :
    Universe.Reordered [.pair .pod .node] [.pair .node .pod] ∧
      ([Declaration.pod, .node].map (·.name)).Nodup ∧
      ∃ p q, ofUniverse { outputPackage := "out" } [.pair .pod .node] = .ok p ∧
        ofUniverse { outputPackage := "out" } [.pair .node .pod] = .ok q ∧ p.render ≠ q.render := by
  let c : PlanConfig := { outputPackage := "out" }
  have hReordered := Universe.reordered_pair .pod .node
  have hu : c.Admits [.pair .pod .node] := by decide +kernel
  have hv : c.Admits [.pair .node .pod] := hReordered.admits_iff.1 hu
  refine ⟨hReordered, by decide +kernel, c.planOf [.pair .pod .node], c.planOf [.pair .node .pod],
    hu.ofUniverse_eq (by decide +kernel), hv.ofUniverse_eq (by decide +kernel), fun hEq => ?_⟩
  have hSelected : (SourcePackage.pair .pod .node).selected c ≠ [] :=
    List.ne_nil_of_mem (SourcePackage.mem_selected.2 ⟨List.mem_cons_self, by decide +kernel⟩)
  have hInternal := (hReordered.render_planOf_eq_iff hu).1 hEq _ List.mem_cons_self hSelected
    (by decide +kernel)
  revert hInternal
  decide +kernel

end RestScaffold
