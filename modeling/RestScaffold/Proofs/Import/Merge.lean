import Mathlib.Data.List.Sort
import RestScaffold.Plan.Render
import RestScaffold.Proofs.Checks
import RestScaffold.Proofs.Import.Line

/-!
# Merging import entries

Merging keeps of a list of entries what lines they have, and forgets their order and how often each
is given. So merged lists are joined like sets, and merging what was merged already changes nothing.
This is why the import lines of a generated file are those that its generator merged, although they
are merged once more when the file is made.

* `ImportLine.merge_eq_iff`: entries with the same lines are merged to the same list;
* `ImportLine.merge_append`, `ImportLine.merge_comm` and `ImportLine.merge_assoc`: joining lists;
* `Generator.run_cons_eq_ok` and `Generator.run_eq_ok`: a generator writes at most one source in a
  run;
* `ImportLine.merge_laws`: all of this, and what it means for the files of a plan.
-/

namespace RestScaffold

open Text

namespace ImportLine

variable {xs ys : List Text} {line : Text}

/-! ## Lines of entries -/

/-- The line is the normal form of an entry that is not blank. -/
def LineOf (entries : List Text) (line : Text) : Prop :=
  ∃ e ∈ entries, isBlankText e = false ∧ normalize e = line

theorem lineOf_append : LineOf (xs ++ ys) line ↔ LineOf xs line ∨ LineOf ys line := by
  simp only [LineOf, List.mem_append, or_and_right, exists_or]

/-- Merged entries have the lines that the entries themselves have. -/
theorem lineOf_merge : LineOf (merge xs) line ↔ LineOf xs line := by
  rw [LineOf, LineOf, ← mem_merge, ← mem_merge, mem_merge_merge]

theorem pairwise_merge (xs : List Text) : (merge xs).Pairwise (· < ·) := pairwise_sortDistinct _

/-- **Entries are merged to the same list exactly when they have the same lines.** -/
theorem merge_eq_iff : merge xs = merge ys ↔ ∀ line, LineOf xs line ↔ LineOf ys line := by
  constructor
  · intro h line
    rw [LineOf, LineOf, ← mem_merge, ← mem_merge, h]
  · intro h
    refine (pairwise_merge xs).eq_of_mem_iff (pairwise_merge ys) fun line => ?_
    rw [mem_merge, mem_merge]
    exact h line

/-! ## Joining lists -/

/-- Merging lines once more changes nothing. -/
theorem merge_merge (xs : List Text) : merge (merge xs) = merge xs :=
  merge_eq_iff.2 fun _ => lineOf_merge

/-- Lists may be merged before they are joined. -/
theorem merge_append (xs ys : List Text) : merge (xs ++ ys) = merge (merge xs ++ merge ys) :=
  merge_eq_iff.2 fun line => by
    rw [lineOf_append, lineOf_append, lineOf_merge, lineOf_merge]

theorem merge_comm (xs ys : List Text) : merge (xs ++ ys) = merge (ys ++ xs) :=
  merge_eq_iff.2 fun line => by
    rw [lineOf_append, lineOf_append]
    exact or_comm

theorem merge_assoc (xs ys zs : List Text) :
    merge (merge (xs ++ ys) ++ zs) = merge (xs ++ merge (ys ++ zs)) :=
  merge_eq_iff.2 fun line => by
    rw [lineOf_append, lineOf_append, lineOf_merge, lineOf_merge, lineOf_append, lineOf_append]
    exact or_assoc

theorem merge_self (xs : List Text) : merge (xs ++ xs) = merge xs :=
  merge_eq_iff.2 fun line => by
    rw [lineOf_append]
    exact or_self_iff

end ImportLine

/-! ## What generators write -/

namespace Ledger

variable {l l' : Ledger} {id : GeneratorId}

/-- An offer does not count as writing. -/
theorem emitted_offer (l : Ledger) (g : Generator) (d : Declaration) :
    (l.offer g d).2.emitted = l.emitted := by
  unfold offer
  split
  · rfl
  · split <;> rfl

/-- Writing is recorded of a generator that has not written. -/
theorem recordEmission_eq_ok_iff : l.recordEmission id = .ok l' ↔
    l.emitted.contains id = false ∧ l' = { l with emitted := id :: l.emitted } := by
  unfold recordEmission
  by_cases hEmitted : l.emitted.contains id = true
  · rw [if_pos hEmitted, hEmitted]
    simp
  · rw [if_neg hEmitted, Bool.eq_false_iff.2 hEmitted]
    simp [eq_comm]

end Ledger

namespace Generator

variable {g : Generator} {types : List Declaration} {l l' : Ledger} {written s : Source}

/-- The imports of a source are merged. -/
theorem merge_imports {marks : Delimiters} {d : Declaration} (h : g.generateWith marks d = .ok s) :
    ImportLine.merge s.imports = s.imports := by
  unfold generateWith at h
  split at h
  · cases h
  · cases h
    exact ImportLine.merge_merge _

/-- **What a run does with its first type:** it is passed over, or a source is written for it and the
emission is recorded. -/
theorem run_cons_eq_ok {d : Declaration} (h : g.run (d :: types) l written = .ok (s, l')) :
    g.run types (l.offer g d).2 written = .ok (s, l') ∨
      ∃ new recorded, g.generate d = .ok new ∧
        (l.offer g d).2.recordEmission g.id = .ok recorded ∧
        g.run types recorded ⟨written.body ++ new.body, written.imports ++ new.imports⟩ =
          .ok (s, l') := by
  rw [run] at h
  cases hOffer : l.offer g d with
  | mk fires after =>
    rw [hOffer] at h
    cases fires with
    | false => exact Or.inl h
    | true =>
      cases hNew : g.generate d with
      | error e =>
        simp only [hNew] at h
        cases h
      | ok new =>
        simp only [hNew] at h
        cases hRecord : after.recordEmission g.id with
        | error e =>
          rw [hRecord] at h
          cases h
        | ok recorded =>
          rw [hRecord] at h
          exact Or.inr ⟨new, recorded, rfl, rfl, h⟩

/-- A generator that has written its file writes nothing more. -/
theorem run_of_emitted (hEmitted : l.emitted.contains g.id = true)
    (h : g.run types l written = .ok (s, l')) : s = written := by
  induction types generalizing l with
  | nil =>
    cases h
    rfl
  | cons d ds ih =>
    rw [← l.emitted_offer g d] at hEmitted
    rcases run_cons_eq_ok h with hPassed | ⟨new, recorded, -, hRecord, -⟩
    · exact ih hEmitted hPassed
    · -- Writing a second time is refused.
      rw [(Ledger.recordEmission_eq_ok_iff.1 hRecord).1] at hEmitted
      cases hEmitted

/-- **A generator writes at most one source in a run,** behind what it has written. -/
theorem run_eq_ok (h : g.run types l written = .ok (s, l')) : s = written ∨
    ∃ d ∈ types, ∃ new, g.generate d = .ok new ∧
      s = ⟨written.body ++ new.body, written.imports ++ new.imports⟩ := by
  induction types generalizing l with
  | nil =>
    cases h
    exact Or.inl rfl
  | cons d ds ih =>
    rcases run_cons_eq_ok h with hPassed | ⟨new, recorded, hNew, hRecord, hRest⟩
    · refine (ih hPassed).imp_right ?_
      rintro ⟨e, he, hWritten⟩
      exact ⟨e, List.mem_cons_of_mem d he, hWritten⟩
    · have hEmitted : recorded.emitted.contains g.id = true := by
        rw [(Ledger.recordEmission_eq_ok_iff.1 hRecord).2]
        simp
      exact Or.inr ⟨d, List.mem_cons_self, new, hNew, run_of_emitted hEmitted hRest⟩

end Generator

/-! ## Files -/

/-- The file is what the generator wrote: nothing, or its source for a type of the list, with the
imports of the source as they are. -/
def RenderedFile.WrittenBy (f : RenderedFile) (p : Package) (g : Generator)
    (types : List Declaration) : Prop :=
  f = p.generatedFile g {} ∨
    ∃ d ∈ types, ∃ s, g.generate d = .ok s ∧ f = p.generatedFile g s ∧ f.imports = s.imports

namespace Package

variable {p : Package} {types : List Declaration} {l l' : Ledger} {files : List RenderedFile}
  {f : RenderedFile}

theorem writtenBy_of_run {g : Generator} {s : Source} (h : g.run types l {} = .ok (s, l')) :
    (p.generatedFile g s).WrittenBy p g types := by
  rcases Generator.run_eq_ok h with rfl | ⟨d, hd, new, hNew, rfl⟩
  · exact Or.inl rfl
  · exact Or.inr ⟨d, hd, new, hNew, rfl, Generator.merge_imports hNew⟩

theorem writtenBy_of_renderGenerators {gs : List Generator}
    (h : p.renderGenerators types gs l = .ok (files, l')) (hf : f ∈ files) :
    ∃ g ∈ gs, f.WrittenBy p g types := by
  induction gs generalizing l l' files with
  | nil =>
    cases h
    cases hf
  | cons g gs ih =>
    rw [renderGenerators] at h
    split at h
    · cases h
    · next s after hRun =>
      split at h
      · cases h
      · next rest last hRest =>
        cases h
        rcases List.mem_cons.1 hf with rfl | hf
        · exact ⟨g, List.mem_cons_self, writtenBy_of_run hRun⟩
        · obtain ⟨g', hg', hWritten⟩ := ih hRest hf
          exact ⟨g', List.mem_cons_of_mem g hg', hWritten⟩

/-- A file of a package is its documentation or what one of its generators wrote. -/
theorem writtenBy_of_render (h : p.render types l = .ok (files, l')) (hf : f ∈ files) :
    (∃ text, p.documentation = some text ∧ f = p.docFile text) ∨
      ∃ g ∈ p.generators, f.WrittenBy p g types := by
  rw [render] at h
  split at h
  · cases h
  · next generated after hGenerated =>
    cases h
    rcases List.mem_append.1 hf with hDoc | hf
    · obtain ⟨text, hText, rfl⟩ := Option.map_eq_some_iff.1 (Option.mem_toList.1 hDoc)
      exact Or.inl ⟨text, hText, rfl⟩
    · exact Or.inr (writtenBy_of_renderGenerators hGenerated hf)

end Package

theorem Plan.exists_package_of_renderPackages {types : List Declaration} {ps : List Package}
    {l : Ledger} {files : List RenderedFile} (h : renderPackages types ps l = .ok files)
    {f : RenderedFile} (hf : f ∈ files) :
    ∃ p ∈ ps, (∃ text, p.documentation = some text ∧ f = p.docFile text) ∨
      ∃ g ∈ p.generators, f.WrittenBy p g types := by
  induction ps generalizing l files with
  | nil =>
    cases h
    cases hf
  | cons p ps ih =>
    rw [renderPackages] at h
    split at h
    · cases h
    · next own after hOwn =>
      obtain ⟨rest, hRest, rfl⟩ := map_eq_ok_iff.1 h
      rcases List.mem_append.1 hf with hf | hf
      · exact ⟨p, List.mem_cons_self, Package.writtenBy_of_render hOwn hf⟩
      · obtain ⟨q, hq, hWritten⟩ := ih hRest hf
        exact ⟨q, List.mem_cons_of_mem p hq, hWritten⟩

namespace ImportLine

/-- **Merging is joining sets of lines.** A merged list is strictly increasing, has the normal forms
of the entries that are not blank, and depends on nothing else of the entries. Joining merged lists
is commutative, associative and idempotent, and lists may be merged before they are joined. So what
a generator merged is not changed by merging it again, and a file of a plan has exactly the import
lines of the source that it was made of. -/
theorem merge_laws (xs ys zs : List Text) :
    (merge xs).Pairwise (· < ·) ∧
      (∀ line, line ∈ merge xs ↔ LineOf xs line) ∧
      (merge xs = merge ys ↔ ∀ line, LineOf xs line ↔ LineOf ys line) ∧
      merge (xs ++ ys) = merge (merge xs ++ merge ys) ∧
      merge (xs ++ ys) = merge (ys ++ xs) ∧
      merge (merge (xs ++ ys) ++ zs) = merge (xs ++ merge (ys ++ zs)) ∧
      merge (xs ++ xs) = merge xs ∧
      merge (merge xs) = merge xs ∧
      (∀ (g : Generator) marks d s, g.generateWith marks d = .ok s → merge s.imports = s.imports) ∧
      ∀ (p : Plan) files, p.render = .ok files → ∀ f ∈ files,
        ∃ q ∈ p.packages, (∃ text, q.documentation = some text ∧ f = q.docFile text) ∨
          ∃ g ∈ q.generators, f.WrittenBy q g p.types :=
  ⟨pairwise_merge xs, fun _ => mem_merge, merge_eq_iff, merge_append xs ys, merge_comm xs ys,
    merge_assoc xs ys zs, merge_self xs, merge_merge xs, fun _ _ _ _ => Generator.merge_imports,
    fun _ _ h _ hf => Plan.exists_package_of_renderPackages h hf⟩

/-- A generator with an entry that is given twice, and a blank one. -/
def handlerFile : Generator where
  id := ⟨"out/handler", "handler"⟩
  imports := [" net/http ", "", "\x22net/http\x22"]
  contextKey := some ("type" : Text)
  snippets := [⟨"body", "$type|raw$\n", [], []⟩]

/-- A plan with one type and the file of this generator. -/
def handlerPlan : Plan where
  outputPackage := "out"
  types := [{ name := ⟨"a/v1", "Pod"⟩ }]
  packages := [{
    kind := .middleware, name := "handler", path := "out/handler", generators := [handlerFile] }]

/-- The file of this plan has the two lines of its source. -/
theorem merge_laws_handlerPlan : ∃ s files,
    handlerFile.generateWith .dollar { name := ⟨"a/v1", "Pod"⟩ } = .ok s ∧
      handlerPlan.render = .ok files ∧
      s.imports = (["\x22a/v1\x22", "\x22net/http\x22"] : List Text) ∧
      merge s.imports = s.imports ∧ (∀ f ∈ files, f.imports = s.imports) ∧
      merge (handlerFile.imports ++ [quoted "a/v1"]) =
        merge ([quoted "a/v1"] ++ handlerFile.imports) := by
  have hSource : handlerFile.generate { name := ⟨"a/v1", "Pod"⟩ } =
      .ok ⟨"v1.Pod\n", ["\x22a/v1\x22", "\x22net/http\x22"]⟩ := by decide +kernel
  have hRender : handlerPlan.render = .ok [{
      packageName := "handler", packagePath := "out/handler", stem := "handler"
      imports := ["\x22a/v1\x22", "\x22net/http\x22"], body := "v1.Pod\n" }] := by decide +kernel
  obtain ⟨-, -, -, -, hComm, -, -, -, hSection, hFiles⟩ :=
    merge_laws handlerFile.imports [quoted "a/v1"] []
  refine ⟨_, _, hSource, hRender, rfl, hSection _ _ _ _ hSource, fun f hf => ?_, hComm⟩
  obtain ⟨q, hq, ⟨text, hText, -⟩ | ⟨g, hg, hWritten⟩⟩ := hFiles _ _ hRender f hf
  · rw [List.mem_singleton.1 hq] at hText
    cases hText
  · rw [List.mem_singleton.1 hq] at hg
    obtain rfl := List.mem_singleton.1 hg
    rcases hWritten with rfl | ⟨d, hd, s, hs, -, hImports⟩
    · exact absurd (List.mem_singleton.1 hf) (by simp [Package.generatedFile])
    · rw [List.mem_singleton.1 hd, hSource] at hs
      rw [hImports, ← Except.ok.inj hs]

end ImportLine

end RestScaffold
