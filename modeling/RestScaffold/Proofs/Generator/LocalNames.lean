import RestScaffold.Generator.Basic
import RestScaffold.Proofs.Template.LocalNames

/-!
# Raw names and imports of a file

A generator renders its snippets one after the other on one import table. The text that it writes
and the imports of the file come from different states of this table, but they agree: every raw name
in the text has the local name that the imports bind in the end.

* `Generator.renderingWith_registers`: the table of a file is that of the packages whose types its
  snippets write in raw form;
* `Generator.raw_names_agree_with_imports`: the text, the table and the imports of a source.
-/

namespace RestScaffold

open Text

namespace Generator

/-- The text of a generator's snippets when packages have these local names. -/
def fixedBody? (g : Generator) (marks : Delimiters) (d : Declaration) (names : TextMap Text) :
    Option Text :=
  concat? (g.snippets.map fun s =>
    (Block.ofText marks s.body).toOption.bind fun block =>
      block.fixed? g.scope names (g.bindings d) none)

/-- The packages that a generator's snippets need local names for, in the order in which they come
upon them. -/
def rawPackages (g : Generator) (marks : Delimiters) (d : Declaration) : List Text :=
  g.snippets.flatMap fun s =>
    (Block.ofText marks s.body).toOption.elim [] fun block =>
      block.rawPackages g.scope (g.bindings d) none

/-- The local names of a file. -/
def table (g : Generator) (marks : Delimiters) (d : Declaration) : ImportTable :=
  ({} : ImportTable).register (g.rawPackages marks d)

/-- **The table of a file has local names for the packages of its raw names.** -/
theorem renderingWith_registers (g : Generator) (marks : Delimiters) (d : Declaration) :
    (g.renderingWith marks d).Registers (g.rawPackages marks d) (g.fixedBody? marks d) := by
  refine Rendering.registers_concat fun s _ => ?_
  rw [renderText]
  cases Block.ofText marks s.body with
  | error e => exact Rendering.registers_fail _ _ _
  | ok block => exact block.render_registers g.scope (g.bindings d) none

/-- What a source is made of. -/
theorem generateWith_eq_ok_iff {g : Generator} {marks : Delimiters} {d : Declaration} {s : Source} :
    g.generateWith marks d = .ok s ↔ g.renderingWith marks d {} = (.ok s.body, g.table marks d) ∧
      s.imports = ImportLine.merge (g.imports ++ (g.table marks d).lines) := by
  obtain ⟨body, imports⟩ := s
  rw [generateWith]
  cases hRendering : g.renderingWith marks d {} with
  | mk result t =>
    cases result with
    | error e => simp
    | ok text =>
      obtain rfl : t = g.table marks d := (g.renderingWith_registers marks d _ _ _ hRendering).1
      simp only [Except.ok.injEq, Source.mk.injEq, Prod.mk.injEq, and_true]
      exact and_congr_right fun _ => eq_comm

/-- The text of a source is that of the snippets under the local names of the file. -/
theorem fixedBody?_of_generateWith {g : Generator} {marks : Delimiters} {d : Declaration}
    {s : Source} (h : g.generateWith marks d = .ok s) :
    g.fixedBody? marks d (g.table marks d).names = some s.body :=
  (g.renderingWith_registers marks d _ _ _ (generateWith_eq_ok_iff.1 h).1).2 _ fun _ _ hName => hName

end Generator

/-- **Raw names and imports agree.** When a generator writes a source, its text is what its snippets
give under the local names of the table in the end. No two paths have one name in this table, it has
names for exactly the packages that the snippets need one for, and the imports of the source are
those of the generator with a line for each of these packages. -/
theorem Generator.raw_names_agree_with_imports {g : Generator} {marks : Delimiters}
    {d : Declaration} {s : Source} (h : g.generateWith marks d = .ok s) :
    ∃ t : ImportTable, g.renderingWith marks d {} = (.ok s.body, t) ∧
      g.fixedBody? marks d t.names = some s.body ∧
      (∀ path path' name, t.names.get? path = some name → t.names.get? path' = some name →
        path = path') ∧
      (∀ path, t.names.contains path = true ↔ path ∈ g.rawPackages marks d) ∧
      s.imports = ImportLine.merge
        (g.imports ++ t.names.entries.map fun e => ImportLine.bind e.1 e.2) := by
  obtain ⟨hRendering, hImports⟩ := generateWith_eq_ok_iff.1 h
  refine ⟨g.table marks d, hRendering, ?_, ?_, fun path => ?_, hImports⟩
  · exact (g.renderingWith_registers marks d _ _ _ hRendering).2 _ fun _ _ hName => hName
  · exact (ImportTable.sound_empty.register _).injective
  · rw [table, ImportTable.contains_register]
    exact or_iff_left nofun

/-- A generator that lists types of several packages, each with the type at hand behind it. -/
def Generator.listing : Generator where
  id := ⟨"out/list", "list"⟩
  imports := ["fmt"]
  vars := TextMap.ofList [("types", .types [{ name := ⟨"a/v1", "Pod"⟩ },
    { name := ⟨"b/v1", "Node"⟩ }, { name := ⟨"out/list", "Own"⟩ }, { name := ⟨"", "string"⟩ }])]
  contextKey := some ("type" : Text)
  snippets := [
    ⟨"first", "$range types$$.|raw$ $range types$$.|private$$end$$type|raw$\n$end$", [], []⟩,
    ⟨"second", "$range types$$range types$$.|raw$;$end$$end$", [], []⟩]

/-- The types of two packages get local names, and so does the package of the type at hand. -/
theorem Generator.raw_names_agree_with_imports_listing : ∃ s t,
    Generator.listing.generateWith .dollar { name := ⟨"c/v1", "Job"⟩ } = .ok s ∧
      Generator.listing.renderingWith .dollar { name := ⟨"c/v1", "Job"⟩ } {} = (.ok s.body, t) ∧
      Generator.listing.fixedBody? .dollar { name := ⟨"c/v1", "Job"⟩ } t.names = some s.body ∧
      (∀ path ∈ (["a/v1", "b/v1", "c/v1"] : List Text), t.names.contains path = true) ∧
      s.imports = (["\"a/v1\"", "\"fmt\"", "bv1 \"b/v1\"", "cv1 \"c/v1\""] : List Text) := by
  have hSource : Generator.listing.generateWith .dollar { name := ⟨"c/v1", "Job"⟩ } = .ok
      ⟨"v1.Pod podnodeownstringcv1.Job\nbv1.Node podnodeownstringcv1.Job\n" ++
        "Own podnodeownstringcv1.Job\nstring podnodeownstringcv1.Job\n" ++
        "v1.Pod;bv1.Node;Own;string;v1.Pod;bv1.Node;Own;string;" ++
        "v1.Pod;bv1.Node;Own;string;v1.Pod;bv1.Node;Own;string;",
        ["\"a/v1\"", "\"fmt\"", "bv1 \"b/v1\"", "cv1 \"c/v1\""]⟩ := by decide +kernel
  obtain ⟨t, hRendering, hBody, -, hContains, -⟩ := raw_names_agree_with_imports hSource
  refine ⟨_, t, hSource, hRendering, hBody, fun path hPath => (hContains path).2 ?_, rfl⟩
  revert path
  decide +kernel

end RestScaffold
