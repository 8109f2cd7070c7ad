import Mathlib.Data.List.Induction
import RestScaffold.Proofs.Directive.Line

/-!
# What a comment block says

The lines of a block are read in order up to the first that is flawed. If there is none, the
directives of all lines are summed up: the last flag holds, lists of one kind are united, and the
others count when they stand anywhere in the block.

* `Directive.ofLines_of_sound` and `Directive.ofLines_of_flaw`: the directives of a block, or its
  first flaw;
* `DirectiveSet.generate_ofDirectives` and the lemmas behind it: what directives say together;
* `DirectiveSet.mem_supportedVerbs_iff`: the verbs that are left;
* `DirectiveSet.ofLines_meaning`: all of this of the lines themselves.
-/

namespace RestScaffold

open Text

/-! ## The last of a kind -/

section LastHas

variable {α β : Type} {p q p' q' : α → Prop} {xs : List α} {a : α}

/-- The list has a member with `p`, and the last such member has `q`. -/
def LastHas (p q : α → Prop) (xs : List α) : Prop :=
  ∃ front a back, xs = front ++ a :: back ∧ q a ∧ ∀ b ∈ back, ¬ p b

theorem not_lastHas_nil : ¬ LastHas p q [] := by
  rintro ⟨front, a, back, hNil, -⟩
  exact absurd hNil.symm (by simp)

/-- The last member decides if it has `p`. -/
theorem lastHas_concat_of_pos (h : p a) : LastHas p q (xs ++ [a]) ↔ q a := by
  constructor
  · rintro ⟨front, b, back, hEq, hb, hBack⟩
    rcases List.eq_nil_or_concat back with rfl | ⟨back, c, rfl⟩
    · rwa [(List.append_singleton_inj.1 hEq).2]
    · have hSplit : xs ++ [a] = (front ++ b :: back) ++ [c] := by simpa using hEq
      obtain rfl := (List.append_singleton_inj.1 hSplit).2
      exact absurd h (hBack a (by simp))
  · intro hq
    exact ⟨xs, a, [], rfl, hq, nofun⟩

/-- A last member without `p` does not matter. -/
theorem lastHas_concat_of_neg (hp : ¬ p a) (hq : ¬ q a) :
    LastHas p q (xs ++ [a]) ↔ LastHas p q xs := by
  constructor
  · rintro ⟨front, b, back, hEq, hb, hBack⟩
    rcases List.eq_nil_or_concat back with rfl | ⟨back, c, rfl⟩
    · rw [(List.append_singleton_inj.1 hEq).2] at hq
      exact absurd hb hq
    · have hSplit : xs ++ [a] = (front ++ b :: back) ++ [c] := by simpa using hEq
      exact ⟨front, b, back, (List.append_singleton_inj.1 hSplit).1, hb,
        fun d hd => hBack d (by simp [hd])⟩
  · rintro ⟨front, b, back, rfl, hb, hBack⟩
    refine ⟨front, b, back ++ [a], by simp, hb, fun d hd => ?_⟩
    rcases List.mem_append.1 hd with hOld | hNew
    · exact hBack d hOld
    · rw [List.mem_singleton.1 hNew]
      exact hp

theorem lastHas_congr (hp : ∀ x ∈ xs, p x ↔ p' x) (hq : ∀ x ∈ xs, q x ↔ q' x) :
    LastHas p q xs ↔ LastHas p' q' xs := by
  refine exists_congr fun front => exists_congr fun a => exists_congr fun back => ?_
  refine and_congr_right fun hEq => ?_
  subst hEq
  refine and_congr (hq a (by simp)) (forall₂_congr fun b hb => not_congr (hp b ?_))
  exact List.mem_append_right _ (List.mem_cons_of_mem a hb)

/-- The last of what a list is mapped to comes from the last member that is mapped to such. -/
theorem lastHas_filterMap {f : β → Option α} {ys : List β} : LastHas p q (ys.filterMap f) ↔
    LastHas (fun y => ∃ a, f y = some a ∧ p a) (fun y => ∃ a, f y = some a ∧ q a) ys := by
  constructor
  · rintro ⟨front, a, back, hEq, hq, hBack⟩
    obtain ⟨ys₁, rest, rfl, -, hRest⟩ := List.filterMap_eq_append_iff.1 hEq
    obtain ⟨ys₂, y, ys₃, rfl, -, hy, rfl⟩ := List.filterMap_eq_cons_iff.1 hRest
    refine ⟨ys₁ ++ ys₂, y, ys₃, (List.append_assoc _ _ _).symm, ⟨a, hy, hq⟩, ?_⟩
    rintro z hz ⟨b, hb, hp⟩
    exact hBack b (List.mem_filterMap.2 ⟨z, hz, hb⟩) hp
  · rintro ⟨front, y, back, rfl, ⟨a, hy, hq⟩, hBack⟩
    refine ⟨front.filterMap f, a, back.filterMap f, ?_, hq, fun b hb hp => ?_⟩
    · rw [List.filterMap_append, List.filterMap_cons_some hy]
    · obtain ⟨z, hz, hf⟩ := List.mem_filterMap.1 hb
      exact hBack z hz ⟨b, hf, hp⟩

end LastHas

/-! ## Directives of a block -/

namespace Directive

variable {line key : Text} {value : Option Text} {lines : List Text}

/-- What a line of a block says, if it says anything. -/
def ofLine? (line : Text) : Option Directive := (read (trim line)).toOption.join

theorem ofLine?_eq_some_iff {d : Directive} : ofLine? line = some d ↔ Says (trim line) d := by
  rw [← read_eq_ok_iff, ofLine?]
  cases read (trim line) <;> simp [Except.toOption]

theorem mem_ofLines {d : Directive} :
    d ∈ lines.filterMap ofLine? ↔ ∃ l ∈ lines, Says (trim l) d := by
  simp only [List.mem_filterMap, ofLine?_eq_some_iff]

theorem ofLines_cons_of_flaw {flaw : DirectiveFlaw} (h : HasFlaw (trim line) flaw)
    (lines : List Text) : ofLines (line :: lines) = .error (.malformed (trim line) flaw) := by
  rw [ofLines, read_eq_error_iff.2 h]

theorem ofLines_cons_of_sound (h : ¬ Flawed (trim line)) (lines : List Text) :
    ofLines (line :: lines) = (ofLines lines).map ((ofLine? line).toList ++ ·) := by
  rw [ofLines, ofLine?]
  cases hRead : read (trim line) with
  | error flaw => exact absurd (flawed_iff.2 ⟨flaw, hRead⟩) h
  | ok d? =>
    cases d? with
    | none => cases ofLines lines <;> rfl
    | some d => rfl

/-- **The directives of a block are those of its lines,** when no line is flawed. -/
theorem ofLines_of_sound (h : ∀ l ∈ lines, ¬ Flawed (trim l)) :
    ofLines lines = .ok (lines.filterMap ofLine?) := by
  induction lines with
  | nil => rfl
  | cons line lines ih =>
    obtain ⟨hLine, hLines⟩ := List.forall_mem_cons.1 h
    rw [ofLines_cons_of_sound hLine, ih hLines]
    cases hSays : ofLine? line with
    | none => rw [List.filterMap_cons_none hSays]; rfl
    | some d => rw [List.filterMap_cons_some hSays]; rfl

/-- **The error of a block is the flaw of the first flawed line.** -/
theorem ofLines_of_flaw {front back : List Text} {flaw : DirectiveFlaw}
    (hFront : ∀ l ∈ front, ¬ Flawed (trim l)) (h : HasFlaw (trim line) flaw) :
    ofLines (front ++ line :: back) = .error (.malformed (trim line) flaw) := by
  induction front with
  | nil => exact ofLines_cons_of_flaw h back
  | cons first front ih =>
    obtain ⟨hFirst, hRest⟩ := List.forall_mem_cons.1 hFront
    rw [List.cons_append, ofLines_cons_of_sound hFirst, ih hRest]
    rfl

/-- A block without a flawed line, or one up to its first flawed line. -/
theorem sound_or_first (lines : List Text) : (∀ l ∈ lines, ¬ Flawed (trim l)) ∨
    ∃ front line back flaw, lines = front ++ line :: back ∧
      (∀ l ∈ front, ¬ Flawed (trim l)) ∧ HasFlaw (trim line) flaw := by
  induction lines with
  | nil => exact Or.inl nofun
  | cons line lines ih =>
    by_cases hLine : Flawed (trim line)
    · obtain ⟨flaw, hFlaw⟩ := hLine
      exact Or.inr ⟨[], line, lines, flaw, rfl, nofun, hFlaw⟩
    · rcases ih with hSound | ⟨front, bad, back, flaw, rfl, hFront, hFlaw⟩
      · exact Or.inl (List.forall_mem_cons.2 ⟨hLine, hSound⟩)
      · exact Or.inr ⟨line :: front, bad, back, flaw, rfl,
          List.forall_mem_cons.2 ⟨hLine, hFront⟩, hFlaw⟩

/-! ## Lines without a flaw -/

/-- A sound line says nothing when it gives no key of the family. -/
theorem ofLine?_eq_none_iff (hSound : ¬ Flawed (trim line)) :
    ofLine? line = none ↔ ∀ key value, Gives (trim line) key value → ¬ InFamily key := by
  rw [← read_eq_none_iff hSound, ofLine?]
  cases hRead : read (trim line) with
  | error flaw => exact absurd (flawed_iff.2 ⟨flaw, hRead⟩) hSound
  | ok d? => simp [Except.toOption]

theorem Refuses.inFamily {flaw : DirectiveFlaw} (h : Refuses key value flaw) : InFamily key := by
  have hVerbs : TakesVerbs key → InFamily key := by
    rintro (rfl | rfl) <;> exact Or.inr ⟨_, rfl⟩
  cases flaw with
  | shape => exact h.elim
  | flagValue flag => exact Or.inl h.1
  | unexpectedValue k =>
    rcases h.1 with rfl | rfl <;> exact Or.inr ⟨_, rfl⟩
  | missingVerbs => exact hVerbs h.1
  | unknownVerb name => exact hVerbs h.1
  | unknownKey k =>
    obtain ⟨name, hKey, -⟩ := h.1
    exact Or.inr ⟨name, hKey⟩

theorem Gives.flawed (h : Gives line key value) (hRefused : ∃ flaw, Refuses key value flaw) :
    Flawed line := by
  obtain ⟨flaw, hRefuses⟩ := hRefused
  exact ⟨flaw, h.looksLike hRefuses.inFamily, Or.inr ⟨key, value, h, hRefuses⟩⟩

/-- A sound line that gives the flag enables or disables it. -/
theorem Gives.enables_or_disables (h : Gives line familyKey value) (hSound : ¬ Flawed line) :
    Enables value ∨ Disables value := by
  by_contra hNeither
  rw [not_or] at hNeither
  exact hSound (h.flawed ⟨.flagValue _, rfl, hNeither.1, hNeither.2, rfl⟩)

/-- A sound line gives no value to a key that takes none. -/
theorem Gives.value_eq_none (h : Gives line key value) (hKey : TakesNoValue key)
    (hSound : ¬ Flawed line) : value = none := by
  by_contra hSome
  have hValue : value.isSome = true := Option.isSome_iff_ne_none.2 hSome
  exact hSound (h.flawed ⟨.unexpectedValue _, hKey, hValue, rfl⟩)

/-- A sound line lists verbs for a key that takes a list. -/
theorem Gives.exists_verbs (h : Gives line key value) (hKey : TakesVerbs key)
    (hSound : ¬ Flawed line) : ∃ verbs : List Verb, listedNames value = verbs.map Verb.name := by
  cases hRead : readVerbs value with
  | error flaw => exact absurd (h.flawed ⟨flaw, refuses_of_readVerbs hKey hRead⟩) hSound
  | ok verbs => exact ⟨verbs, readVerbs_eq_ok_iff.1 hRead⟩

theorem mem_iff_name_mem {verbs : List Verb} (h : listedNames value = verbs.map Verb.name)
    (v : Verb) : v ∈ verbs ↔ v.name ∈ listedNames value := by
  rw [h, List.mem_map_of_injective Verb.name_injective]

theorem exists_says_generate_iff (hSound : ¬ Flawed line) :
    (∃ enabled, Says line (generate enabled)) ↔ ∃ value, Gives line familyKey value := by
  constructor
  · rintro ⟨_, value, hGives, -⟩
    exact ⟨value, hGives⟩
  · rintro ⟨value, hGives⟩
    rcases hGives.enables_or_disables hSound with hEnables | hDisables
    · exact ⟨true, value, hGives, hEnables⟩
    · exact ⟨false, value, hGives, hDisables⟩

/-- A sound line says a directive that takes no value when it gives the key. -/
theorem says_iff_of_noValue {d : Directive} (hd : d = nonNamespaced ∨ d = noVerbs)
    (hSound : ¬ Flawed line) : Says line d ↔ ∃ value, Gives line d.key value := by
  constructor
  · rintro ⟨value, hGives, -⟩
    exact ⟨value, hGives⟩
  · rintro ⟨value, hGives⟩
    rcases hd with rfl | rfl
    · exact ⟨value, hGives, hGives.value_eq_none (Or.inl rfl) hSound⟩
    · exact ⟨value, hGives, hGives.value_eq_none (Or.inr rfl) hSound⟩

/-- A sound line says a list with a verb when it gives the key a list with the verb's name. -/
theorem says_iff_of_verbs {list : List Verb → Directive} (hKey : TakesVerbs key)
    (hList : ∀ verbs, (list verbs).key = key ∧
      ∀ value, (list verbs).Fits value ↔ listedNames value = verbs.map Verb.name)
    (hSound : ¬ Flawed line) (v : Verb) : (∃ verbs, Says line (list verbs) ∧ v ∈ verbs) ↔
      ∃ value, Gives line key value ∧ v.name ∈ listedNames value := by
  constructor
  · rintro ⟨verbs, ⟨value, hGives, hFits⟩, hv⟩
    obtain ⟨hSame, hNames⟩ := hList verbs
    exact ⟨value, hSame ▸ hGives, (mem_iff_name_mem ((hNames value).1 hFits) v).1 hv⟩
  · rintro ⟨value, hGives, hv⟩
    obtain ⟨verbs, hVerbs⟩ := hGives.exists_verbs hKey hSound
    obtain ⟨hSame, hNames⟩ := hList verbs
    exact ⟨verbs, ⟨value, hSame.symm ▸ hGives, (hNames value).2 hVerbs⟩,
      (mem_iff_name_mem hVerbs v).2 hv⟩

end Directive

/-! ## Directives taken together -/

namespace DirectiveSet

open Directive

theorem ofDirectives_concat (ds : List Directive) (d : Directive) :
    ofDirectives (ds ++ [d]) = (ofDirectives ds).add d := by
  rw [ofDirectives, List.foldl_append]
  rfl

/-- The last flag holds. -/
theorem generate_ofDirectives (ds : List Directive) : (ofDirectives ds).generate = true ↔
    LastHas (fun d => ∃ enabled, d = .generate enabled) (· = .generate true) ds := by
  induction ds using List.reverseRecOn with
  | nil => exact iff_of_false nofun not_lastHas_nil
  | append_singleton ds d ih =>
    rw [ofDirectives_concat]
    cases d with
    | generate enabled =>
      rw [lastHas_concat_of_pos ⟨enabled, rfl⟩, Directive.generate.injEq]
      rfl
    | nonNamespaced => exact ih.trans (lastHas_concat_of_neg nofun nofun).symm
    | noVerbs => exact ih.trans (lastHas_concat_of_neg nofun nofun).symm
    | onlyVerbs verbs => exact ih.trans (lastHas_concat_of_neg nofun nofun).symm
    | skipVerbs verbs => exact ih.trans (lastHas_concat_of_neg nofun nofun).symm

theorem nonNamespaced_ofDirectives (ds : List Directive) :
    (ofDirectives ds).nonNamespaced = true ↔ .nonNamespaced ∈ ds := by
  induction ds using List.reverseRecOn with
  | nil => exact iff_of_false nofun nofun
  | append_singleton ds d ih =>
    rw [ofDirectives_concat, List.mem_append, List.mem_singleton, ← ih]
    cases d <;> simp [add]

theorem noVerbs_ofDirectives (ds : List Directive) :
    (ofDirectives ds).noVerbs = true ↔ .noVerbs ∈ ds := by
  induction ds using List.reverseRecOn with
  | nil => exact iff_of_false nofun nofun
  | append_singleton ds d ih =>
    rw [ofDirectives_concat, List.mem_append, List.mem_singleton, ← ih]
    cases d <;> simp [add]

theorem mem_onlyVerbs_ofDirectives (ds : List Directive) (v : Verb) :
    v ∈ (ofDirectives ds).onlyVerbs ↔ ∃ verbs, .onlyVerbs verbs ∈ ds ∧ v ∈ verbs := by
  induction ds using List.reverseRecOn with
  | nil => simp [ofDirectives]
  | append_singleton ds d ih =>
    rw [ofDirectives_concat]
    cases d <;> simp [add, VerbSet.mem_union, VerbSet.mem_ofList, ih, or_and_right, exists_or]

theorem mem_skipVerbs_ofDirectives (ds : List Directive) (v : Verb) :
    v ∈ (ofDirectives ds).skipVerbs ↔ ∃ verbs, .skipVerbs verbs ∈ ds ∧ v ∈ verbs := by
  induction ds using List.reverseRecOn with
  | nil => simp [ofDirectives]
  | append_singleton ds d ih =>
    rw [ofDirectives_concat]
    cases d <;> simp [add, VerbSet.mem_union, VerbSet.mem_ofList, ih, or_and_right, exists_or]

/-- **The verbs that are left:** those in the only-list, or all if it is empty, without those in the
skip-list. -/
theorem mem_supportedVerbs_iff (s : DirectiveSet) (v : Verb) : v ∈ s.supportedVerbs ↔
    s.noVerbs = false ∧ (s.onlyVerbs = [] ∨ v ∈ s.onlyVerbs) ∧ v ∉ s.skipVerbs := by
  unfold supportedVerbs
  by_cases hNone : s.noVerbs = true
  · simp [hNone]
  · rw [if_neg hNone, VerbSet.mem_diff, Bool.not_eq_true] at *
    by_cases hAll : s.onlyVerbs = []
    · simp [hNone, hAll, Verb.mem_all]
    · simp [hNone, hAll]

/-! ## The meaning of a block -/

variable {lines : List Text}

/-- Some line of the block gives the key. -/
def HasKey (lines : List Text) (key : Text) : Prop :=
  ∃ l ∈ lines, ∃ value, Gives (trim l) key value

/-- Some line of the block gives the key a list with the name of the verb. -/
def ListsVerb (lines : List Text) (key : Text) (v : Verb) : Prop :=
  ∃ l ∈ lines, ∃ value, Gives (trim l) key value ∧ v.name ∈ listedNames value

instance (lines : List Text) (key : Text) : Decidable (HasKey lines key) :=
  decidable_of_iff (∃ l ∈ lines, ((split? (trim l)).any (·.1 = key)) = true) <| by
    refine exists_congr fun l => and_congr_right fun _ => ?_
    rw [Option.any_eq_true]
    constructor
    · rintro ⟨parts, hSplit, hKey⟩
      exact ⟨parts.2, of_decide_eq_true hKey ▸ split?_eq_some_iff.1 hSplit⟩
    · rintro ⟨value, hGives⟩
      exact ⟨(key, value), split?_eq_some_iff.2 hGives, decide_eq_true rfl⟩

instance (lines : List Text) (key : Text) (v : Verb) : Decidable (ListsVerb lines key v) :=
  decidable_of_iff (∃ l ∈ lines,
      ((split? (trim l)).any fun parts => parts.1 = key && v.name ∈ listedNames parts.2) = true) <| by
    refine exists_congr fun l => and_congr_right fun _ => ?_
    simp only [Option.any_eq_true, Bool.and_eq_true, decide_eq_true_eq]
    constructor
    · rintro ⟨parts, hSplit, rfl, hName⟩
      exact ⟨parts.2, split?_eq_some_iff.1 hSplit, hName⟩
    · rintro ⟨value, hGives, hName⟩
      exact ⟨(key, value), split?_eq_some_iff.2 hGives, rfl, hName⟩

/-- The block has a flag, and the last one enables generation. -/
def LastFlagEnables (lines : List Text) : Prop :=
  LastHas (fun l => ∃ value, Gives (trim l) familyKey value)
    (fun l => ∃ value, Gives (trim l) familyKey value ∧ Enables value) lines

/-- No line of the block says anything when none gives a key of the family. -/
theorem filterMap_ofLine?_eq_nil_iff (hSound : ∀ l ∈ lines, ¬ Flawed (trim l)) :
    lines.filterMap ofLine? = [] ↔ ∀ key, InFamily key → ¬ HasKey lines key := by
  rw [List.filterMap_eq_nil_iff]
  constructor
  · rintro hNone key hKey ⟨l, hl, value, hGives⟩
    exact (ofLine?_eq_none_iff (hSound l hl)).1 (hNone l hl) key value hGives hKey
  · intro hNoKey l hl
    rw [ofLine?_eq_none_iff (hSound l hl)]
    intro key value hGives hKey
    exact hNoKey key hKey ⟨l, hl, value, hGives⟩

/-- What a block without a flawed line says. -/
theorem ofLines_of_sound (hSound : ∀ l ∈ lines, ¬ Flawed (trim l)) : ofLines lines =
    if lines.filterMap ofLine? = [] then .error .absent
    else .ok (ofDirectives (lines.filterMap ofLine?)) := by
  rw [ofLines, Directive.ofLines_of_sound hSound]
  cases lines.filterMap ofLine? with
  | nil => rfl
  | cons d ds => rfl

section Sound

variable (hSound : ∀ l ∈ lines, ¬ Flawed (trim l))
include hSound

theorem generate_iff : (ofDirectives (lines.filterMap ofLine?)).generate = true ↔
    LastFlagEnables lines := by
  rw [generate_ofDirectives, lastHas_filterMap]
  refine lastHas_congr (fun l hl => ?_) (fun l hl => ?_)
  · rw [← exists_says_generate_iff (hSound l hl)]
    simp only [ofLine?_eq_some_iff]
    constructor
    · rintro ⟨_, hSays, enabled, rfl⟩
      exact ⟨enabled, hSays⟩
    · rintro ⟨enabled, hSays⟩
      exact ⟨_, hSays, enabled, rfl⟩
  · simp only [ofLine?_eq_some_iff, exists_eq_right]
    exact Iff.rfl

/-- A directive that takes no value is among those of a block when a line gives its key. -/
theorem mem_iff_hasKey {d : Directive} (hd : d = .nonNamespaced ∨ d = .noVerbs) :
    d ∈ lines.filterMap ofLine? ↔ HasKey lines d.key := by
  rw [mem_ofLines]
  exact exists_congr fun l => and_congr_right fun hl => says_iff_of_noValue hd (hSound l hl)

/-- The verbs of the lists of one kind are those that lines list under its key. -/
theorem exists_mem_iff_listsVerb {key : Text} {list : List Verb → Directive}
    (hKey : TakesVerbs key) (hList : ∀ verbs, (list verbs).key = key ∧
      ∀ value, (list verbs).Fits value ↔ listedNames value = verbs.map Verb.name) (v : Verb) :
    (∃ verbs, list verbs ∈ lines.filterMap ofLine? ∧ v ∈ verbs) ↔ ListsVerb lines key v := by
  constructor
  · rintro ⟨verbs, hMem, hv⟩
    obtain ⟨l, hl, hSays⟩ := mem_ofLines.1 hMem
    exact ⟨l, hl, (says_iff_of_verbs hKey hList (hSound l hl) v).1 ⟨verbs, hSays, hv⟩⟩
  · rintro ⟨l, hl, hLists⟩
    obtain ⟨verbs, hSays, hv⟩ := (says_iff_of_verbs hKey hList (hSound l hl) v).2 hLists
    exact ⟨verbs, mem_ofLines.2 ⟨l, hl, hSays⟩, hv⟩

theorem mem_onlyVerbs_iff (v : Verb) : v ∈ (ofDirectives (lines.filterMap ofLine?)).onlyVerbs ↔
    ListsVerb lines (extensionKey "onlyVerbs") v := by
  rw [mem_onlyVerbs_ofDirectives]
  exact exists_mem_iff_listsVerb hSound (Or.inl rfl) (fun _ => ⟨rfl, fun _ => Iff.rfl⟩) v

theorem mem_skipVerbs_iff (v : Verb) : v ∈ (ofDirectives (lines.filterMap ofLine?)).skipVerbs ↔
    ListsVerb lines (extensionKey "skipVerbs") v := by
  rw [mem_skipVerbs_ofDirectives]
  exact exists_mem_iff_listsVerb hSound (Or.inr rfl) (fun _ => ⟨rfl, fun _ => Iff.rfl⟩) v

/-- An only-list is never empty, so the set of its verbs is empty when there is none. -/
theorem onlyVerbs_eq_nil_iff : (ofDirectives (lines.filterMap ofLine?)).onlyVerbs = [] ↔
    ¬ HasKey lines (extensionKey "onlyVerbs") := by
  rw [List.eq_nil_iff_forall_not_mem]
  simp only [mem_onlyVerbs_iff hSound]
  constructor
  · rintro hNone ⟨l, hl, value, hGives⟩
    obtain ⟨verbs, hVerbs⟩ := hGives.exists_verbs (Or.inl rfl) (hSound l hl)
    cases verbs with
    | nil => exact List.map_eq_nil_iff.not.2 (splitOn_ne_nil _ _) hVerbs
    | cons v verbs =>
      refine hNone v ⟨l, hl, value, hGives, ?_⟩
      rw [hVerbs]
      exact List.mem_cons_self
  · rintro hNoKey v ⟨l, hl, value, hGives, -⟩
    exact hNoKey ⟨l, hl, value, hGives⟩

end Sound

/-- The error of a block with a flawed line. -/
theorem ofLines_of_flaw {line : Text} {front back : List Text} {flaw : DirectiveFlaw}
    (hFront : ∀ l ∈ front, ¬ Flawed (trim l)) (h : HasFlaw (trim line) flaw) :
    ofLines (front ++ line :: back) = .error (.malformed (trim line) flaw) := by
  rw [ofLines, Directive.ofLines_of_flaw hFront h]

theorem ofLines_eq_malformed_iff {line : Text} {flaw : DirectiveFlaw} :
    ofLines lines = .error (.malformed line flaw) ↔
      ∃ front raw back, lines = front ++ raw :: back ∧ (∀ l ∈ front, ¬ Flawed (trim l)) ∧
        line = trim raw ∧ HasFlaw line flaw := by
  constructor
  · intro h
    rcases sound_or_first lines with hSound | ⟨front, raw, back, flaw', rfl, hFront, hFlaw⟩
    · rw [ofLines_of_sound hSound] at h
      split at h <;> cases h
    · rw [ofLines_of_flaw hFront hFlaw] at h
      cases h
      exact ⟨front, raw, back, rfl, hFront, rfl, hFlaw⟩
  · rintro ⟨front, raw, back, rfl, hFront, rfl, hFlaw⟩
    exact ofLines_of_flaw hFront hFlaw

theorem ofLines_eq_absent_iff : ofLines lines = .error .absent ↔
    (∀ l ∈ lines, ¬ Flawed (trim l)) ∧ ∀ key, InFamily key → ¬ HasKey lines key := by
  rcases sound_or_first lines with hSound | ⟨front, raw, back, flaw, rfl, hFront, hFlaw⟩
  · rw [ofLines_of_sound hSound, ← filterMap_ofLine?_eq_nil_iff hSound]
    split
    · next hNil => exact iff_of_true rfl ⟨hSound, hNil⟩
    · next hNe => exact iff_of_false nofun fun h => hNe h.2
  · rw [ofLines_of_flaw hFront hFlaw]
    exact iff_of_false nofun fun h => h.1 raw (by simp) ⟨flaw, hFlaw⟩

/-- **What a block of comment lines means.** It is refused for its first flawed line, and it has no
directives when no line gives a key of the family. Otherwise the last flag says whether the type is
generated, and a verb is supported when no line takes all verbs away, some only-list has it if there
is an only-list, and no skip-list has it. -/
theorem ofLines_meaning (lines : List Text) :
    (∀ line flaw, ofLines lines = .error (.malformed line flaw) ↔
      ∃ front raw back, lines = front ++ raw :: back ∧ (∀ l ∈ front, ¬ Flawed (trim l)) ∧
        line = trim raw ∧ HasFlaw line flaw) ∧
    (ofLines lines = .error .absent ↔
      (∀ l ∈ lines, ¬ Flawed (trim l)) ∧ ∀ key, InFamily key → ¬ HasKey lines key) ∧
    ((∀ l ∈ lines, ¬ Flawed (trim l)) → (∃ key, InFamily key ∧ HasKey lines key) →
      ∃ s, ofLines lines = .ok s ∧ (s.generate = true ↔ LastFlagEnables lines) ∧
        (s.nonNamespaced = true ↔ HasKey lines (extensionKey "nonNamespaced")) ∧
        ∀ v, v ∈ s.supportedVerbs ↔ ¬ HasKey lines (extensionKey "noVerbs") ∧
          (¬ HasKey lines (extensionKey "onlyVerbs") ∨
            ListsVerb lines (extensionKey "onlyVerbs") v) ∧
          ¬ ListsVerb lines (extensionKey "skipVerbs") v) := by
  refine ⟨fun line flaw => ofLines_eq_malformed_iff, ofLines_eq_absent_iff, ?_⟩
  rintro hSound ⟨key, hKey, hHas⟩
  have hNe : lines.filterMap ofLine? ≠ [] := by
    rw [ne_eq, filterMap_ofLine?_eq_nil_iff hSound]
    exact fun hNoKey => hNoKey key hKey hHas
  refine ⟨ofDirectives (lines.filterMap ofLine?), ?_, generate_iff hSound, ?_, fun v => ?_⟩
  · rw [ofLines_of_sound hSound, if_neg hNe]
  · rw [nonNamespaced_ofDirectives, mem_iff_hasKey hSound (Or.inl rfl)]
    rfl
  · have hNoVerbs : (ofDirectives (lines.filterMap ofLine?)).noVerbs = false ↔
        ¬ HasKey lines (extensionKey "noVerbs") := by
      rw [← Bool.not_eq_true, noVerbs_ofDirectives, mem_iff_hasKey hSound (Or.inr rfl)]
      rfl
    rw [mem_supportedVerbs_iff, hNoVerbs, onlyVerbs_eq_nil_iff hSound, mem_onlyVerbs_iff hSound,
      mem_skipVerbs_iff hSound]

/-- A block with two flags, two only-lists and a skip-list, and with lines of others. -/
def podComments : List Text :=
  ["Pod runs containers.", "+genclientset=true", "+genclient=false", "+genclient:onlyVerbs=get, list",
    "+genclient:skipVerbs=list", " +genclient= true ", "+genclient:onlyVerbs=watch"]

/-- The second flag holds, and of the listed verbs those are left that are not skipped. -/
theorem ofLines_meaning_podComments : (∀ l ∈ podComments, ¬ Flawed (trim l)) ∧
    HasKey podComments familyKey ∧ LastFlagEnables podComments ∧
    ∃ s, ofLines podComments = .ok s ∧ s.generate = true ∧ .get ∈ s.supportedVerbs ∧
      .watch ∈ s.supportedVerbs ∧ .list ∉ s.supportedVerbs ∧ .create ∉ s.supportedVerbs := by
  have hSound : ∀ l ∈ podComments, ¬ Flawed (trim l) := by decide +kernel
  have hHas : HasKey podComments familyKey := by decide +kernel
  have hLast : LastFlagEnables podComments := by
    refine ⟨podComments.take 5, " +genclient= true ", podComments.drop 6, rfl, ?_, ?_⟩
    · exact ⟨some " true", split?_eq_some_iff.1 (by decide +kernel), Or.inr (by decide +kernel)⟩
    · intro l hl hFlag
      have hNone : ¬ HasKey (podComments.drop 6) familyKey := by decide +kernel
      exact hNone ⟨l, hl, hFlag⟩
  obtain ⟨s, hLines, hGenerate, -, hVerbs⟩ :=
    (ofLines_meaning podComments).2.2 hSound ⟨familyKey, Or.inl rfl, hHas⟩
  refine ⟨hSound, hHas, hLast, s, hLines, hGenerate.2 hLast, ?_⟩
  simp only [hVerbs]
  decide +kernel

end DirectiveSet

end RestScaffold
