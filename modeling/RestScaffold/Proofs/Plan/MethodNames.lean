import RestScaffold.Proofs.Plan.DistinctTargets
import RestScaffold.Proofs.Plan.Methods
import RestScaffold.Proofs.Text.Capital

/-!
# The names of the methods in a plan

The methods of a type are named after its public name, the base name with a capital first letter. A
plan is refused when two of its types have one lowercase form, for then their files have one place,
but nothing compares the public names. The two can fall apart: a name that begins with a long s has
a lowercase form of its own and the public name of one that begins with an `s`.

* `Scaffold.nodup_methodNames_iff`: methods are listed twice exactly for types that share their
  public name;
* `PlanConfig.exists_definitions`: the file of a type defines its four methods and no others;
* `PlanConfig.Admits.pairwise_publicName`: types that keep their lowercase form when capitalized do
  not share their public name;
* `Plan.methods_distinct`: what follows for whole plans.
-/

namespace RestScaffold

open Text

/-! ## Names of methods -/

/-- The name that the methods of a type have behind the verb. -/
def Declaration.publicName (d : Declaration) : Text := capitalize d.name.base

namespace ServiceMethod

/-- The name of a method for a type. -/
def nameFor (m : ServiceMethod) (d : Declaration) : Text := m.verb ++ d.publicName

/-- No two verbs begin with one letter. -/
theorem verb_head_inj (m m' : ServiceMethod) (h : m.verb.head? = m'.verb.head?) : m = m' := by
  cases m <;> cases m' <;> first | rfl | exact absurd h (by decide)

/-- The verb of a method can be told from what comes behind it. -/
theorem nameFor_inj {m m' : ServiceMethod} {d d' : Declaration} :
    m.nameFor d = m'.nameFor d' ↔ m = m' ∧ d.publicName = d'.publicName := by
  constructor
  · intro h
    have hLetter : m.verb.head? = m'.verb.head? := by
      have hHead := congrArg List.head? h
      cases m <;> cases m' <;> exact hHead
    obtain rfl : m = m' := verb_head_inj m m' hLetter
    exact ⟨rfl, List.append_cancel_left h⟩
  · rintro ⟨rfl, hName⟩
    rw [nameFor, nameFor, hName]

/-- A signature begins with the name of its method. -/
theorem nameFor_prefix_signature (m : ServiceMethod) (d : Declaration) (raw : Text) :
    (m.nameFor d ++ "(" : Text) <+: m.signature d.name raw := by
  unfold signature signatureOf
  cases m <;> simp only [nameFor, Declaration.publicName, id, List.append_assoc] <;>
    exact ⟨_, by simp only [List.append_assoc]; rfl⟩

end ServiceMethod

namespace Scaffold

/-- The names of the methods that the interface lists for some types, in order. -/
def methodNames (types : List Declaration) : List Text :=
  types.flatMap fun d => ServiceMethod.all.map (·.nameFor d)

/-- The methods of two types have different names unless the types share their public name. -/
theorem disjoint_nameFor_iff (d e : Declaration) :
    (ServiceMethod.all.map (·.nameFor d)).Disjoint (ServiceMethod.all.map (·.nameFor e)) ↔
      d.publicName ≠ e.publicName := by
  constructor
  · intro hDisjoint hName
    exact hDisjoint (List.mem_map_of_mem List.mem_cons_self)
      (List.mem_map.2 ⟨_, List.mem_cons_self, ServiceMethod.nameFor_inj.2 ⟨rfl, hName.symm⟩⟩)
  · intro hNe name hLeft hRight
    obtain ⟨m, -, rfl⟩ := List.mem_map.1 hLeft
    obtain ⟨m', -, hName⟩ := List.mem_map.1 hRight
    exact hNe (ServiceMethod.nameFor_inj.1 hName).2.symm

/-- **Methods are listed twice exactly for types that share their public name.** -/
theorem nodup_methodNames_iff {types : List Declaration} :
    (methodNames types).Nodup ↔ (types.map Declaration.publicName).Nodup := by
  have hEach : ∀ d ∈ types, (ServiceMethod.all.map (·.nameFor d)).Nodup := fun d _ =>
    (List.nodup_map_iff fun _ _ hName => (ServiceMethod.nameFor_inj.1 hName).1).2 (by decide)
  have hPairs : types.Pairwise (Function.onFun List.Disjoint fun d =>
      ServiceMethod.all.map (·.nameFor d)) ↔ (types.map Declaration.publicName).Nodup :=
    (List.Pairwise.iff disjoint_nameFor_iff).trans List.pairwise_map.symm
  rw [methodNames, List.nodup_flatMap]
  exact (and_iff_right hEach).trans hPairs

end Scaffold

/-! ## What a file defines -/

namespace ServiceMethod

/-- What the template of a method has around the definition. -/
structure Frame where
  front : List Symbol
  back : List Symbol
  deriving DecidableEq

/-- No function begins in the frame. -/
def Frame.Bare (f : Frame) : Prop :=
  ¬ Symbol.ofText "func " <:+: f.front ∧ ¬ Symbol.ofText "func " <:+: f.back

instance (f : Frame) : Decidable f.Bare := inferInstanceAs (Decidable (_ ∧ _))

/-- The symbols that define a method. -/
def definition (m : ServiceMethod) : List Symbol :=
  m.definitionOf Symbol.ofText [.form .pub] [.form .priv] [.form .raw]

/-- How symbols are split by the definition of a method. -/
def split (m : ServiceMethod) (symbols : List Symbol) (n : Nat) : Frame where
  front := symbols.take n
  back := symbols.drop (n + m.definition.length)

/-- **The template of a method defines this method and nothing else.** -/
theorem template_defines (m : ServiceMethod) : readsAs (fun block =>
    (block.symbols? (.named "type")).any fun symbols => ∃ n < symbols.length,
      symbols = (m.split symbols n).front ++ m.definition ++ (m.split symbols n).back ∧
        (m.split symbols n).Bare) m.template = true := by
  unfold template Scaffold.createMethod Scaffold.getMethod Scaffold.updateMethod
    Scaffold.deleteMethod split definition definitionOf signatureOf verb
  repeat rw [String.toList_ofList]
  cases m <;> decide +kernel

/-- The text of a method for a type, what its template has around the definition being given. -/
def textFor (m : ServiceMethod) (f : Frame) (scope : NameScope) (n : TypeName) (raw : Text) :
    Text :=
  Symbol.writeAll scope n raw f.front ++
    ("func (s *service) " ++ m.signature n raw ++ " \x7b") ++ Symbol.writeAll scope n raw f.back

/-- The frame is what stands around a method in the files of types. -/
def Frame.Surrounds (f : Frame) (m : ServiceMethod) : Prop :=
  ∀ (g : Generator) (d : Declaration), g.contextKey = some ("type" : Text) → g.CanCall d d.name →
    g.templateText? d m.template = some (m.textFor f g.scope d.name (g.rawText d d.name))

theorem exists_frame (m : ServiceMethod) : ∃ f : Frame, f.Bare ∧ f.Surrounds m := by
  obtain ⟨block, hBlock, hSplit⟩ := exists_of_readsAs m.template_defines
  obtain ⟨symbols, hSymbols, hFrame⟩ := (Option.any_eq_true _ _).1 hSplit
  obtain ⟨n, -, hEq, hBare⟩ := of_decide_eq_true hFrame
  refine ⟨m.split symbols n, hBare, fun g d hContext hCall => ?_⟩
  have hKey : KeyRef.lookup (g.bindings d) none (.named "type") = .ok (.type d) := by
    rw [Generator.bindings, hContext, KeyRef.lookup, TextMap.get?_insert, if_pos rfl]
  have hWritten : Symbol.writeAll g.scope d.name (g.rawText d d.name) symbols =
      m.textFor (m.split symbols n) g.scope d.name (g.rawText d d.name) := by
    -- The frame is cut from the symbols, so they are split on the left side only.
    conv_lhs => rw [hEq]
    rw [Symbol.writeAll_append, Symbol.writeAll_append, definition, write_definitionOf]
    rfl
  rw [Generator.templateText?, hBlock, ← hWritten]
  exact Block.fixed?_of_symbols hSymbols hKey hCall

end ServiceMethod

/-- **The file of a type has the texts of its four methods and nothing else.** -/
theorem Scaffold.body_typeService (s : Scaffold) {frame : ServiceMethod → ServiceMethod.Frame}
    (hFrame : ∀ m, (frame m).Surrounds m) {d e : Declaration} {g : Generator}
    (hg : g ∈ (s.typeService d).generators) {source : Source} (h : g.generate e = .ok source)
    (hCall : g.CanCall e e.name) :
    source.body = ServiceMethod.all.flatMap fun m =>
      m.textFor (frame m) g.scope e.name (g.rawText e e.name) := by
  have hBodies : g.snippets.map (·.body) = ServiceMethod.all.map (·.template) := by
    obtain rfl := List.mem_singleton.1 hg
    rfl
  have hContext : g.contextKey = some ("type" : Text) := by
    obtain rfl := List.mem_singleton.1 hg
    rfl
  rw [List.flatMap_def]
  refine Generator.body_of_texts h hBodies ?_
  rw [List.map_map, List.map_map]
  exact List.map_congr_left fun m _ => hFrame m g e hContext hCall

namespace PlanConfig

variable {c : PlanConfig} {u : Universe}

/-- The file of a type in the service defines the methods of this type. -/
theorem exists_definitions {frame : ServiceMethod → ServiceMethod.Frame}
    (hFrame : ∀ m, (frame m).Surrounds m) {d : Declaration} (hd : d ∈ (c.planOf u).types) :
    ∃ f ∈ (c.planOf u).packages.flatMap (·.files (c.planOf u).types),
      f.packagePath = c.sharedScaffold.path Scaffold.serviceDir ∧ f.stem = d.stem ∧
      ∃ scope raw, f.body = ServiceMethod.all.flatMap fun m =>
        m.textFor (frame m) scope d.name raw := by
  obtain ⟨t, ht, rfl, -, hq⟩ := exists_packages_of_type hd
  obtain ⟨g, hg, hStem, hTrigger⟩ : ∃ g ∈ (t.2.typeService t.1).generators,
      g.id.stem = t.1.stem ∧ g.trigger = .forType t.1.name := ⟨_, List.mem_cons_self, rfl, rfl⟩
  obtain ⟨e, -, hGenerate, hFires, hCalls⟩ := exists_calls hq hg
  have hName := name_eq_of_fires hTrigger hFires
  obtain ⟨hCall, -⟩ := hCalls e List.mem_cons_self
  refine ⟨_, generatedFile_mem hq hg, (path_of_mem_plannedTypes ht).1 _, hStem,
    g.scope, g.rawText e e.name, ?_⟩
  rw [← hName]
  exact t.2.body_typeService hFrame hg hGenerate hCall

/-! ## Public names -/

/-- **Types of a plan that keep their lowercase form when capitalized do not share their public
name,** since lowercase forms that are the same are refused. -/
theorem Admits.pairwise_publicName (h : c.Admits u) : (c.planOf u).types.Pairwise fun d e =>
    KeepsLower d.name.base → KeepsLower e.name.base → d.publicName ≠ e.publicName := by
  have hDirectories := List.pairwise_map.1 h.nodup_directories
  refine hDirectories.imp fun {d e} hNe hd he hName => hNe ?_
  show ImportPath.trimStart (lower d.name.base) = ImportPath.trimStart (lower e.name.base)
  rw [hd.lower_eq he hName]

theorem Admits.nodup_publicName (h : c.Admits u)
    (hKeeps : ∀ d ∈ (c.planOf u).types, KeepsLower d.name.base) :
    ((c.planOf u).types.map Declaration.publicName).Nodup :=
  List.pairwise_map.2 (h.pairwise_publicName.imp_of_mem fun {d e} hd he hNe =>
    hNe (hKeeps d hd) (hKeeps e he))

end PlanConfig

/-- **The methods in the files of a plan are different** as far as the names of its types keep
their lowercase form when they are capitalized, which those do that begin with an ASCII character or
with one that is its own capital form. The interface lists the methods of each type, in order, and
the file of a type defines these and no others. So two types with such names do not share a method;
and in general a method is there twice exactly when two types share their public name. -/
theorem Plan.methods_distinct {c : PlanConfig} {u : Universe} {p : Plan}
    (h : ofUniverse c u = .ok p) :
    (∃ files, p.render = .ok files ∧
      (p.types ≠ [] → ∃ f ∈ files,
        f.packagePath = c.sharedScaffold.path Scaffold.serviceDir ∧
        f.stem = ("interface" : Text) ∧
        ∃ rawOf, f.body = Scaffold.interfaceBody p.types rawOf ∧
          ∀ d ∈ p.types, ∀ m : ServiceMethod,
            (m.nameFor d ++ "(" : Text) <+: m.signature d.name (rawOf d)) ∧
      ∃ frame : ServiceMethod → ServiceMethod.Frame, (∀ m, (frame m).Bare) ∧
        ∀ d ∈ p.types, ∃ f ∈ files,
          f.packagePath = c.sharedScaffold.path Scaffold.serviceDir ∧ f.stem = d.stem ∧
          ∃ scope raw, f.body = (ServiceMethod.all.flatMap fun m =>
              m.textFor (frame m) scope d.name raw) ∧
            ∀ m : ServiceMethod, (m.nameFor d ++ "(" : Text) <+: m.signature d.name raw) ∧
    ((Scaffold.methodNames p.types).Nodup ↔ (p.types.map Declaration.publicName).Nodup) ∧
    (p.types.Pairwise fun d e => KeepsLower d.name.base → KeepsLower e.name.base →
      d.publicName ≠ e.publicName ∧ ∀ m m' : ServiceMethod, m.nameFor d ≠ m'.nameFor e) ∧
    ((∀ d ∈ p.types, KeepsLower d.name.base) → (Scaffold.methodNames p.types).Nodup) ∧
    ∀ d ∈ p.types, BeginsPlain d.name.base → KeepsLower d.name.base := by
  obtain ⟨-, hAdmits, rfl⟩ := PlanConfig.ofUniverse_eq_ok_iff_admits.1 h
  choose frame hBare hFrame using ServiceMethod.exists_frame
  refine ⟨⟨_, hAdmits.render_planOf, fun hTypes => ?_, frame, hBare, fun d hd => ?_⟩,
    Scaffold.nodup_methodNames_iff, ?_, fun hKeeps => ?_, fun d _ hPlain => hPlain.keepsLower⟩
  · obtain ⟨f, hf, hPath, hStem, rawOf, hBody, -⟩ := PlanConfig.exists_interfaceFile hTypes
    exact ⟨f, hf, hPath, hStem, rawOf, hBody, fun d _ m => m.nameFor_prefix_signature d _⟩
  · obtain ⟨f, hf, hPath, hStem, scope, raw, hBody⟩ := PlanConfig.exists_definitions hFrame hd
    exact ⟨f, hf, hPath, hStem, scope, raw, hBody, fun m => m.nameFor_prefix_signature d _⟩
  · refine hAdmits.pairwise_publicName.imp fun {d e} hNe hd he => ⟨hNe hd he, fun m m' hName => ?_⟩
    exact hNe hd he (ServiceMethod.nameFor_inj.1 hName).2
  · exact Scaffold.nodup_methodNames_iff.2 (hAdmits.nodup_publicName hKeeps)

/-- The methods for two types with plain names are different. -/
theorem Plan.methods_distinct_named : ∃ p,
    ofUniverse { outputPackage := "out" } (Universe.named ["Pod", "node"]) = .ok p ∧
      p.types ≠ [] ∧ (Scaffold.methodNames p.types).Nodup := by
  let c : PlanConfig := { outputPackage := "out" }
  let u := Universe.named ["Pod", "node"]
  have hPlan : ofUniverse c u = .ok (c.planOf u) :=
    PlanConfig.Admits.ofUniverse_eq (by decide +kernel) (by decide +kernel)
  have hPlain : ∀ d ∈ c.selectedIn u, BeginsPlain d.name.base := by decide +kernel
  obtain ⟨-, -, -, hNodup, hKeeps⟩ := methods_distinct hPlan
  refine ⟨_, hPlan, PlanConfig.types_planOf_ne_nil (by decide +kernel), hNodup fun d hd => ?_⟩
  exact hKeeps d hd (hPlain d (PlanConfig.mem_types_planOf.1 hd))

/-- **A long s gives a plan a method twice.** The lowercase forms of the two names differ and so do
the files, but both types have the public name `Set`. -/
theorem Plan.exists_repeated_method : ∃ p files f rawOf,
    ofUniverse { outputPackage := "out" } (Universe.named ["Set", "ſet"]) = .ok p ∧
      p.render = .ok files ∧ f ∈ files ∧ f.body = Scaffold.interfaceBody p.types rawOf ∧
      ¬ (p.types.map Declaration.publicName).Nodup ∧ ¬ (Scaffold.methodNames p.types).Nodup := by
  let c : PlanConfig := { outputPackage := "out" }
  let u := Universe.named ["Set", "ſet"]
  have hAdmits : c.Admits u := by decide +kernel
  have hShared : ¬ ((c.planOf u).types.map Declaration.publicName).Nodup := by
    -- Whether names are shared does not depend on the order that the plan gives its types.
    rw [((c.types_perm u).map Declaration.publicName).nodup_iff]
    decide +kernel
  obtain ⟨f, hf, -, -, rawOf, hBody, -⟩ := PlanConfig.exists_interfaceFile (c := c) (u := u)
    (PlanConfig.types_planOf_ne_nil (by decide +kernel))
  exact ⟨_, _, f, rawOf, hAdmits.ofUniverse_eq (by decide +kernel), hAdmits.render_planOf, hf,
    hBody, hShared, fun hNodup => hShared (Scaffold.nodup_methodNames_iff.1 hNodup)⟩

end RestScaffold
