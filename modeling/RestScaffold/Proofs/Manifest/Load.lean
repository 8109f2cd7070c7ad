import Mathlib.Data.List.Forall2
import RestScaffold.Manifest.Load
import RestScaffold.Proofs.File.Store
import RestScaffold.Proofs.Universe.Merge

/-!
# What several manifests make

The packages of manifests make one universe. It is the universe of all of them in sequence, so it
does not matter how they are split over files, and a package may even be split itself.

* `Manifest.addPackages_eq_ok_iff`: when packages may be added, and what they make;
* `Manifest.run_loadInto`: when files may be read, and what their packages make;
* `Manifest.run_loadAll_merges`: the universe of all files, package by package.
-/

namespace RestScaffold

open Text

namespace Manifest

/-! ## Packages -/

/-- The path of the package and the names of its types are not blank. -/
structure Named (p : SourcePackage) : Prop where
  path : isBlankText p.path = false
  types : ∀ d ∈ p.types, isBlankText d.name.base = false

/-- The package as it goes into a universe, its types named as its own. -/
def qualified (p : SourcePackage) : SourcePackage := .ofTypes p.path p.comments p.types

theorem qualified_eq (p : SourcePackage) : qualified p =
    { p with types := p.types.map fun d => { d with name := ⟨p.path, d.name.base⟩ } } :=
  SourcePackage.ofTypes_eq p.path p.comments p.types

theorem map_path_qualified (ps : List SourcePackage) :
    (ps.map qualified).map (·.path) = ps.map (·.path) := by
  rw [List.map_map]
  exact List.map_congr_left fun p _ => by rw [Function.comp_apply, qualified_eq]

/-- What stands under a path in a universe of such packages. -/
theorem gather_map_qualified (ps : List SourcePackage) (path : Text) :
    Universe.gather (ps.map qualified) path =
      { path
        comments := (ps.filter (·.path = path)).flatMap (·.comments)
        types := (ps.filter (·.path = path)).flatMap fun p =>
          p.types.map fun d => { d with name := ⟨path, d.name.base⟩ } } := by
  have hFilter : (ps.map qualified).filter (·.path = path) =
      (ps.filter (·.path = path)).map qualified := by
    rw [List.filter_map]
    refine congrArg _ (List.filter_congr fun p _ => ?_)
    rw [Function.comp_apply, qualified_eq]
  have hComments : ∀ p, (qualified p).comments = p.comments := fun p => by rw [qualified_eq]
  have hTypes : ∀ p ∈ ps.filter (·.path = path), (qualified p).types =
      p.types.map fun d => { d with name := ⟨path, d.name.base⟩ } := by
    intro p hp
    rw [qualified_eq, of_decide_eq_true (List.mem_filter.1 hp).2]
  rw [Universe.gather, hFilter, List.flatMap_map, List.flatMap_map, List.flatMap_congr hTypes]
  simp only [hComments]

theorem named_iff {p : SourcePackage} : Named p ↔
    isBlankText p.path = false ∧ (p.types.any fun d => isBlankText d.name.base) = false := by
  rw [List.any_eq_false]
  constructor
  · exact fun h => ⟨h.path, fun d hd => Bool.eq_false_iff.1 (h.types d hd)⟩
  · exact fun h => ⟨h.1, fun d hd => Bool.eq_false_iff.2 (h.2 d hd)⟩

/-- **Packages may be added when they are named**, and then they are with their types as theirs. -/
theorem addPackages_eq_ok_iff {u v : Universe} {ps : List SourcePackage} :
    addPackages u ps = .ok v ↔
      (∀ p ∈ ps, Named p) ∧ v = (ps.map qualified).foldl Universe.add u := by
  induction ps generalizing u with
  | nil => simp [addPackages, eq_comm]
  | cons p ps ih =>
    rw [addPackages, List.forall_mem_cons, named_iff]
    by_cases hPath : isBlankText p.path = true
    · rw [if_pos hPath, hPath]
      exact iff_of_false nofun fun h => Bool.noConfusion h.1.1.1
    · by_cases hTypes : (p.types.any fun d => isBlankText d.name.base) = true
      · rw [if_neg hPath, if_pos hTypes, hTypes]
        exact iff_of_false nofun fun h => Bool.noConfusion h.1.1.2
      · rw [if_neg hPath, if_neg hTypes, ih]
        simp [hPath, hTypes, qualified]

/-! ## Documents -/

/-- The text is a document of these packages. -/
def Decodes (f : ManifestFormat) (s : Text) (ps : List SourcePackage) : Prop :=
  (f.document? s).bind (·.decode? packages) = some ps

instance (f : ManifestFormat) (s : Text) (ps : List SourcePackage) : Decidable (Decodes f s ps) :=
  inferInstanceAs (Decidable (_ = _))

theorem read_eq_ok_iff {f : ManifestFormat} {s : Text} {u : Universe} : read f s = .ok u ↔
    ∃ ps, Decodes f s ps ∧ (∀ p ∈ ps, Named p) ∧ u = .ofList (ps.map qualified) := by
  unfold read Decodes
  cases (f.document? s).bind (·.decode? packages) with
  | none => exact iff_of_false nofun fun ⟨_, h, _⟩ => nomatch h
  | some ps =>
    show addPackages [] ps = .ok u ↔ _
    rw [addPackages_eq_ok_iff]
    constructor
    · exact fun h => ⟨ps, rfl, h⟩
    · rintro ⟨ps', hEq, h⟩
      cases hEq
      exact h

/-! ## Files -/

/-- The text of a file of the tree. -/
def text? (t : FileTree) (path : Text) : Option Text :=
  (t.read path).toOption.bind ofUtf8?

/-- The tree has a manifest of these packages at the path. -/
def Holds (t : FileTree) (path : Text) (ps : List SourcePackage) : Prop :=
  ∃ f s, ManifestFormat.ofPath? path = some f ∧ text? t path = some s ∧ Decodes f s ps

variable {t : FileTree} {path : Text} {paths : List Text}

theorem holds_iff {f : ManifestFormat} {s : Text} (hFormat : ManifestFormat.ofPath? path = some f)
    (hText : text? t path = some s) (ps : List SourcePackage) :
    Holds t path ps ↔ Decodes f s ps := by
  constructor
  · rintro ⟨f', s', hFormat', hText', hDecodes⟩
    obtain rfl := Option.some.inj (hFormat.symm.trans hFormat')
    obtain rfl := Option.some.inj (hText.symm.trans hText')
    exact hDecodes
  · exact fun hDecodes => ⟨f, s, hFormat, hText, hDecodes⟩

theorem Holds.unique {ps qs : List SourcePackage} (hp : Holds t path ps) (hq : Holds t path qs) :
    ps = qs := by
  obtain ⟨f, s, hFormat, hText, hDecodes⟩ := hp
  exact Option.some.inj (hDecodes.symm.trans ((holds_iff hFormat hText qs).1 hq))

theorem run_readText (t : FileTree) (path : Text) :
    ∃ r, (FileStore.readText path : StateM FileTree _).run t = (r, t) ∧
      r.toOption = text? t path := by
  have hRead : (FileStore.read path : StateM FileTree _).run t = (t.read path, t) := rfl
  unfold FileStore.readText text?
  rw [FileTree.run_bind, hRead]
  cases t.read path with
  | error e => exact ⟨_, rfl, rfl⟩
  | ok bytes =>
    simp only [Except.toOption, Option.bind_some]
    cases ofUtf8? bytes with
    | none => exact ⟨_, rfl, rfl⟩
    | some s => exact ⟨_, rfl, rfl⟩

/-- **A file may be loaded when it is a manifest of named packages**, and it stays as it is. -/
theorem run_load (t : FileTree) (path : Text) :
    ∃ r, (load path : StateM FileTree _).run t = (r, t) ∧ ∀ u, r = .ok u ↔
      ∃ ps, Holds t path ps ∧ (∀ p ∈ ps, Named p) ∧ u = .ofList (ps.map qualified) := by
  unfold load
  cases hFormat : ManifestFormat.ofPath? path with
  | none =>
    refine ⟨_, rfl, fun u => iff_of_false (by simp) ?_⟩
    rintro ⟨ps, ⟨f, s, hSome, -⟩, -⟩
    simp [hFormat] at hSome
  | some f =>
    obtain ⟨text, hRun, hText⟩ := run_readText t path
    show ∃ r, (FileStore.readText path >>= _ : StateM FileTree _).run t = (r, t) ∧ _
    rw [FileTree.run_bind, hRun]
    cases text with
    | error e =>
      refine ⟨_, rfl, fun u => iff_of_false (by simp) ?_⟩
      rintro ⟨ps, ⟨f', s, -, hSome, -⟩, -⟩
      simp [← hText, Except.toOption] at hSome
    | ok s =>
      simp only [holds_iff hFormat hText.symm, ← read_eq_ok_iff]
      cases read f s with
      | error flaw => exact ⟨_, rfl, fun u => by simp⟩
      | ok v => exact ⟨_, rfl, fun u => by rw [Except.ok.injEq, Except.ok.injEq]⟩

/-- A member of a list has a partner in the list beside it. -/
theorem exists_of_mem_left {α β : Type} {R : α → β → Prop} {xs : List α} {ys : List β}
    (h : List.Forall₂ R xs ys) {x : α} (hx : x ∈ xs) : ∃ y ∈ ys, R x y := by
  induction h with
  | nil => cases hx
  | cons hHead _ ih =>
    rcases List.mem_cons.1 hx with rfl | hx
    · exact ⟨_, List.mem_cons_self, hHead⟩
    · obtain ⟨y, hy, hR⟩ := ih hx
      exact ⟨y, List.mem_cons_of_mem _ hy, hR⟩

/-- **Files may be loaded when each is a manifest of named packages**, and what they make is the
universe of all their packages in sequence. -/
theorem run_loadInto (t : FileTree) (qs : List SourcePackage) (paths : List Text) :
    ∃ r, (loadInto (.ofList qs) paths : StateM FileTree _).run t = (r, t) ∧ ∀ u, r = .ok u ↔
      ∃ pss, List.Forall₂ (Holds t) paths pss ∧ (∀ p ∈ pss.flatten, Named p) ∧
        u = .ofList (qs ++ pss.flatten.map qualified) := by
  induction paths generalizing qs with
  | nil =>
    refine ⟨_, rfl, fun u => ?_⟩
    simp [List.forall₂_nil_left_iff, eq_comm]
  | cons path paths ih =>
    obtain ⟨loaded, hRun, hLoaded⟩ := run_load t path
    show ∃ r, (load path >>= _ : StateM FileTree _).run t = (r, t) ∧ _
    rw [FileTree.run_bind, hRun]
    cases loaded with
    | error e =>
      refine ⟨_, rfl, fun u => iff_of_false nofun ?_⟩
      rintro ⟨pss, hHolds, hNamed, -⟩
      obtain ⟨ps, pss, hHead, -, rfl⟩ := List.forall₂_cons_left_iff.1 hHolds
      have hPs : ∀ p ∈ ps, Named p := fun p hp => hNamed p (List.mem_append_left _ hp)
      cases (hLoaded _).2 ⟨ps, hHead, hPs, rfl⟩
    | ok v =>
      obtain ⟨ps, hHead, hNamed, rfl⟩ := (hLoaded v).1 rfl
      -- The packages of the file go on those of the files in front.
      have hNext : (Universe.ofList (ps.map qualified)).foldl Universe.add (.ofList qs) =
          .ofList (qs ++ ps.map qualified) := by
        rw [← Universe.ofList_append_ofList]
        exact List.foldl_append.symm
      obtain ⟨r, hRest, hResult⟩ := ih (qs ++ ps.map qualified)
      rw [← hNext] at hRest
      refine ⟨r, hRest, fun u => (hResult u).trans ?_⟩
      have hConcat : ∀ pss : List (List SourcePackage), (qs ++ ps.map qualified) ++
          pss.flatten.map qualified = qs ++ (ps :: pss).flatten.map qualified := fun pss => by
        rw [List.flatten_cons, List.map_append, List.append_assoc]
      constructor
      · rintro ⟨pss, hHolds, hNamed', rfl⟩
        refine ⟨ps :: pss, .cons hHead hHolds, fun p hp => ?_, by rw [hConcat]⟩
        exact (List.mem_append.1 hp).elim (hNamed p) (hNamed' p)
      · rintro ⟨pss', hHolds, hNamed', rfl⟩
        obtain ⟨ps', pss, hHead', hRest', rfl⟩ := List.forall₂_cons_left_iff.1 hHolds
        obtain rfl := hHead.unique hHead'
        exact ⟨pss, hRest', fun p hp => hNamed' p (List.mem_append_right _ hp), by rw [hConcat]⟩

/-! ## All files -/

/-- **The universe of several manifests has each path once, in the order of first appearance over
all files, with the comments and the types of all packages of this path in sequence**, each type
named as one of the path. So it is what one manifest of all packages makes. Nothing is loaded when a
package of some file has a blank path or a type of it has a blank name. -/
theorem run_loadAll_merges (t : FileTree) (paths : List Text) :
    (∀ pss, List.Forall₂ (Holds t) paths pss → (∀ p ∈ pss.flatten, Named p) →
      ∃ u : Universe, (loadAll paths : StateM FileTree _).run t = (.ok u, t) ∧
        (u.map (·.path)).Nodup ∧ u.map (·.path) = (pss.flatten.map (·.path)).eraseDups ∧
        (∀ q ∈ u,
          q.comments = (pss.flatten.filter (·.path = q.path)).flatMap (·.comments) ∧
          q.types = (pss.flatten.filter (·.path = q.path)).flatMap fun p =>
            p.types.map fun d => { d with name := ⟨q.path, d.name.base⟩ }) ∧
        ∀ f s, Decodes f s pss.flatten → read f s = .ok u) ∧
    ∀ path ∈ paths, ∀ ps, Holds t path ps → (∃ p ∈ ps, ¬ Named p) →
      ∃ e, (loadAll paths : StateM FileTree _).run t = (.error e, t) := by
  obtain ⟨r, hRun, hResult⟩ := run_loadInto t [] paths
  constructor
  · intro pss hHolds hNamed
    have hLoaded := (hResult _).2 ⟨pss, hHolds, hNamed, rfl⟩
    rw [List.nil_append] at hLoaded
    refine ⟨_, hLoaded ▸ hRun, ?_, ?_, ?_, fun f s hDecodes => ?_⟩
    · rw [Universe.map_path_ofList]
      exact nodup_eraseDups _
    · rw [Universe.map_path_ofList, map_path_qualified]
    · intro q hq
      rw [Universe.ofList_eq] at hq
      obtain ⟨path, -, rfl⟩ := List.mem_map.1 hq
      rw [gather_map_qualified]
      exact ⟨rfl, rfl⟩
    · exact read_eq_ok_iff.2 ⟨_, hDecodes, hNamed, rfl⟩
  · rintro path hPath ps hHolds ⟨p, hp, hUnnamed⟩
    cases r with
    | error e => exact ⟨e, hRun⟩
    | ok u =>
      obtain ⟨pss, hAll, hNamed, -⟩ := (hResult u).1 rfl
      obtain ⟨ps', hPs', hHolds'⟩ := exists_of_mem_left hAll hPath
      obtain rfl := hHolds.unique hHolds'
      exact absurd (hNamed p (List.mem_flatten.2 ⟨ps, hPs', hp⟩)) hUnnamed

/-! ## A package in two files -/

/-- A document of packages, from the lines of these. -/
def documentOf (lines : List Text) : Text := ofLines ("packages:" :: lines)

/-- The lines of a package that is split, and of another one. -/
def firstLines : List Text :=
  ["- path: a/v1", "  comments: [first]", "  types:", "  - name: Task", "- path: b/v1"]

/-- The lines of the rest of the first package. -/
def secondLines : List Text := ["- path: a/v1", "  comments: [second]", "  types:", "  - name: Job"]

/-- What these lines say. -/
def splitPackages : List (List SourcePackage) :=
  [[{ path := "a/v1", comments := ["first"], types := [{ name := ⟨"", "Task"⟩ }] },
      { path := "b/v1" }],
    [{ path := "a/v1", comments := ["second"], types := [{ name := ⟨"", "Job"⟩ }] }]]

/-- The lines in two files, and in a third one a package without a name. -/
def splitTree : FileTree where
  entries :=
    [(["first.yaml"], .file (utf8 (documentOf firstLines))),
      (["second.yml"], .file (utf8 (documentOf secondLines))),
      (["third.yaml"], .file (utf8 (documentOf ["- path: ' '"])))]

theorem run_loadAll_merges_splitTree :
    (∃ u : Universe, (loadAll ["first.yaml", "second.yml"] : StateM FileTree _).run splitTree =
        (.ok u, splitTree) ∧
      u.map (·.path) = ["a/v1", "b/v1"] ∧
      read .yaml (documentOf (firstLines ++ secondLines)) = .ok u) ∧
    ∃ e, (loadAll ["first.yaml", "third.yaml"] : StateM FileTree _).run splitTree =
      (.error e, splitTree) := by
  have hFirst : Holds splitTree "first.yaml" splitPackages[0] :=
    ⟨.yaml, documentOf firstLines, by decide, by decide +kernel, by decide +kernel⟩
  have hSecond : Holds splitTree "second.yml" splitPackages[1] :=
    ⟨.yaml, documentOf secondLines, by decide, by decide +kernel, by decide +kernel⟩
  have hThird : Holds splitTree "third.yaml" [{ path := " " }] :=
    ⟨.yaml, documentOf ["- path: ' '"], by decide, by decide +kernel, by decide +kernel⟩
  have hNamed : ∀ p ∈ splitPackages.flatten, Named p := by
    intro p hp
    rw [named_iff]
    revert p
    decide
  obtain ⟨u, hRun, -, hPaths, -, hRead⟩ := (run_loadAll_merges splitTree
    ["first.yaml", "second.yml"]).1 splitPackages (.cons hFirst (.cons hSecond .nil)) hNamed
  refine ⟨⟨u, hRun, hPaths.trans (by decide), hRead .yaml _ (by decide +kernel)⟩, ?_⟩
  exact (run_loadAll_merges splitTree ["first.yaml", "third.yaml"]).2 "third.yaml" (by decide) _
    hThird ⟨_, List.mem_cons_self, fun hPackage => absurd hPackage.path (by decide)⟩

end Manifest

end RestScaffold
