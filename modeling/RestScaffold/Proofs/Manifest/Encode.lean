import Mathlib.Data.List.Nodup
import RestScaffold.Manifest.Decode
import RestScaffold.Manifest.Encode
import RestScaffold.Proofs.TypeName

/-!
# Declarations written and read again

What is written for a declaration is read as this declaration, but for its type names, which are
read again. So a declaration that was read from a document is read back from what is written for it
exactly when its names are settled, and after another reading it stays as it is.

* `Decoder.Reads`: what is read of a node without following references;
* `Decoder.Ensures`: what holds of all that may be read;
* `Manifest.reads_encode`: what is read of a written declaration;
* `Manifest.ensures_declaration`: the names of a declaration that was read are names that were read;
* `Manifest.encode_reread`: when a declaration is read back.
-/

namespace RestScaffold

open Text

/-! ## Decoders -/

namespace Decoder

section Reads

variable {α β : Type} {x : Decoder α} {f : α → Decoder β} {a : α} {b : β}

/-- The decoder gives the value, in any document and without following a reference. -/
def Reads (x : Decoder α) (a : α) : Prop := ∀ d left, x d left = some (a, left)

theorem reads_pure (a : α) : Reads (pure a) a := fun _ _ => rfl

theorem Reads.bind (h : Reads x a) (hNext : Reads (f a) b) : Reads (x >>= f) b := by
  intro d left
  show ((x d left).bind fun p => f p.1 d p.2) = _
  rw [h d left]
  exact hNext d left

theorem reads_text (s : Text) : Reads (text (.ofText s)) s := fun _ _ => rfl

theorem reads_mapM {read : α → Decoder β} {value : α → β} {items : List α}
    (h : ∀ item ∈ items, Reads (read item) (value item)) :
    Reads (items.mapM read) (items.map value) := by
  induction items with
  | nil => exact reads_pure []
  | cons item items ih =>
    obtain ⟨hItem, hItems⟩ := List.forall_mem_cons.1 h
    rw [List.mapM_cons]
    exact hItem.bind ((ih hItems).bind (reads_pure _))

theorem reads_list {read : Node → Decoder β} {write : α → Node} {value : α → β} {items : List α}
    (h : ∀ item ∈ items, Reads (read (write item)) (value item)) :
    Reads (list read (.list (items.map write))) (items.map value) := by
  have hItems : Reads ((items.map write).mapM read) (items.map value) := by
    rw [List.mapM_map]
    exact reads_mapM h
  exact Reads.bind (fun _ _ => rfl : Reads (resolve (.list (items.map write))) _) hItems

/-- The value of an entry is put beside its field. -/
theorem reads_bindField {key : Text} {front : List (Text × Option Node)}
    (hNew : key ∉ front.map Prod.fst) (value : Node) (back : List (Text × Option Node)) :
    Reads (bindField key value (front ++ (key, none) :: back))
      (front ++ (key, some value) :: back) := by
  induction front with
  | nil =>
    rw [List.nil_append, List.nil_append, bindField, if_pos rfl]
    exact reads_pure _
  | cons first front ih =>
    rw [List.map_cons, List.mem_cons, not_or] at hNew
    rw [List.cons_append, bindField, if_neg (Ne.symm hNew.1)]
    exact (ih hNew.2).bind (reads_pure _)

/-- The values of a mapping are put beside their fields, when it has a value for each in order. -/
theorem reads_bindFields (done : List (Text × Node)) {rest : List (Text × Node)}
    (h : ((done ++ rest).map Prod.fst).Nodup) :
    Reads
      (bindFields (done.map (fun f => (f.1, some f.2)) ++ rest.map fun f => (f.1, none))
        (rest.map fun f => (.ofText f.1, f.2)))
      ((done ++ rest).map fun f => (f.1, some f.2)) := by
  induction rest generalizing done with
  | nil =>
    rw [List.map_nil, List.map_nil, List.append_nil, List.append_nil]
    exact reads_pure _
  | cons f rest ih =>
    have hNew : f.1 ∉ (done.map fun f => (f.1, some f.2)).map Prod.fst := by
      rw [List.map_append, List.nodup_append] at h
      rw [List.map_map]
      exact fun hMem => h.2.2 f.1 hMem f.1 List.mem_cons_self rfl
    have hNext := ih (done ++ [f]) (by simpa using h)
    rw [List.map_append, List.append_assoc, List.append_assoc] at hNext
    exact (reads_text f.1).bind ((reads_bindField hNew f.2 _).bind hNext)

/-- **A mapping with a value for each field is read as these values.** -/
theorem reads_record {names : List Text} (h : names.Nodup) {fields : List (Text × Node)}
    (hNames : fields.map Prod.fst = names) :
    Reads (record names (.ofFields fields)) (fields.map fun f => some f.2) := by
  subst hNames
  have hFields := reads_bindFields [] h
  rw [List.map_nil, List.nil_append, List.nil_append] at hFields
  have hEmpty : (fields.map Prod.fst).map (fun name => (name, (none : Option Node))) =
      fields.map fun f => (f.1, none) := List.map_map
  have hValues : (fields.map fun f => (f.1, some f.2)).map Prod.snd =
      fields.map fun f => some f.2 := List.map_map
  refine Reads.bind (fun _ _ => rfl : Reads (resolve (.ofFields fields)) _) ?_
  show Reads (bindFields _ _ >>= _) _
  rw [hEmpty, ← hValues]
  exact hFields.bind (reads_pure _)

end Reads

section Ensures

variable {α β : Type} {x : Decoder α} {f : α → Decoder β} {P : α → Prop} {Q : β → Prop}

/-- Whatever the decoder gives has the property. -/
def Ensures (x : Decoder α) (P : α → Prop) : Prop :=
  ∀ d left a left', x d left = some (a, left') → P a

theorem ensures_fail : Ensures fail P := nofun

theorem ensures_pure {a : α} (h : P a) : Ensures (pure a) P := by
  rintro d left b left' hRead
  cases hRead
  exact h

theorem Ensures.bind (h : Ensures x P) (hNext : ∀ a, P a → Ensures (f a) Q) :
    Ensures (x >>= f) Q := by
  intro d left b left' hRead
  obtain ⟨⟨a, between⟩, hFirst, hRest⟩ := Option.bind_eq_some_iff.1
    (show ((x d left).bind fun p => f p.1 d p.2) = some (b, left') from hRead)
  exact hNext a (h d left a between hFirst) d between b left' hRest

theorem ensures_true (x : Decoder α) : Ensures x fun _ => True := fun _ _ _ _ _ => trivial

theorem ensures_mapM {read : α → Decoder β} {items : List α}
    (h : ∀ item, Ensures (read item) Q) : Ensures (items.mapM read) fun bs => ∀ b ∈ bs, Q b := by
  induction items with
  | nil => exact ensures_pure nofun
  | cons item items ih =>
    rw [List.mapM_cons]
    exact (h item).bind fun b hb => ih.bind fun bs hbs =>
      ensures_pure (List.forall_mem_cons.2 ⟨hb, hbs⟩)

theorem ensures_list {read : Node → Decoder β} (h : ∀ n, Ensures (read n) Q) (n : Node) :
    Ensures (list read n) fun bs => ∀ b ∈ bs, Q b := by
  refine (ensures_true (resolve n)).bind fun n _ => ?_
  split
  · exact ensures_mapM h
  · exact ensures_pure nofun
  · exact ensures_fail

theorem ensures_optional {read : Node → Decoder β} {default : β} (hDefault : Q default)
    (h : ∀ n, Ensures (read n) Q) (n? : Option Node) : Ensures (optional read default n?) Q := by
  cases n? with
  | none => exact ensures_pure hDefault
  | some n => exact h n

end Ensures

end Decoder

theorem Document.decode?_of_reads {α : Type} {read : Node → Decoder α} {d : Document} {n : Node}
    {a : α} (hRoot : d.root = n) (h : Decoder.Reads (read n) a) : d.decode? read = some a := by
  rw [decode?, hRoot, h]
  rfl

theorem Document.of_decode? {α : Type} {read : Node → Decoder α} {P : α → Prop}
    (hRead : ∀ n, Decoder.Ensures (read n) P) {d : Document} {a : α} (h : d.decode? read = some a) :
    P a := by
  obtain ⟨⟨b, left⟩, hb, rfl⟩ := Option.map_eq_some_iff.1 h
  exact hRead d.root d d.maxReferences b left hb

/-! ## Names of declarations -/

namespace Declaration

/-- The name of the type and those of its members' types. -/
def typeNames (d : Declaration) : List TypeName := d.name :: d.members.map (·.type)

/-- The declaration with each of its type names changed. -/
def mapNames (f : TypeName → TypeName) (d : Declaration) : Declaration :=
  { d with name := f d.name, members := d.members.map fun m => { m with type := f m.type } }

theorem mapNames_congr {f g : TypeName → TypeName} {d : Declaration}
    (h : ∀ n ∈ d.typeNames, f n = g n) : d.mapNames f = d.mapNames g := by
  obtain ⟨hName, hMembers⟩ := List.forall_mem_cons.1 h
  have hTypes : ∀ m ∈ d.members, { m with type := f m.type } = { m with type := g m.type } :=
    fun m hm => by rw [hMembers m.type (List.mem_map_of_mem hm)]
  rw [mapNames, mapNames, hName, List.map_congr_left hTypes]

theorem mapNames_id (d : Declaration) : d.mapNames id = d := by
  rw [mapNames]
  exact congrArg (fun members => { d with members }) (List.map_id d.members)

theorem typeNames_mapNames (f : TypeName → TypeName) (d : Declaration) :
    (d.mapNames f).typeNames = d.typeNames.map f := by
  simp [typeNames, mapNames]

/-- A declaration stays as it is when its names do. -/
theorem mapNames_eq_iff {f : TypeName → TypeName} {d : Declaration} :
    d.mapNames f = d ↔ ∀ n ∈ d.typeNames, f n = n := by
  constructor
  · intro h n hn
    have hNames := congrArg typeNames h
    rw [typeNames_mapNames] at hNames
    exact List.map_eq_map_iff.1 (hNames.trans (List.map_id _).symm) n hn
  · intro h
    rw [mapNames_congr (g := id) h, mapNames_id]

end Declaration

/-! ## Written declarations -/

namespace Manifest

open Decoder RestScaffold.TypeName

variable {d : Declaration}

/-- A name as it is read from its written form. -/
def rereadName (n : TypeName) : TypeName := TypeName.ofText n.qualified

theorem reads_encodeMember (m : Member) :
    Reads (member (encodeMember m)) { m with type := rereadName m.type } := by
  have hFields : (["name", "type", "tags"] : List Text).Nodup := by decide
  refine (reads_record hFields rfl).bind ?_
  exact (reads_text m.name).bind ((reads_text m.type.qualified).bind
    ((reads_text m.tags).bind (reads_pure _)))

/-- **A written declaration is read as the same one with its names read again.** -/
theorem reads_encode (d : Declaration) :
    Reads (declaration TypeName.ofText (encode d)) (d.mapNames rereadName) := by
  have hTexts : ∀ lines : List Text, Reads (list text (.list (lines.map .ofText))) lines := by
    intro lines
    have hLines : Reads (list text (.list (lines.map .ofText))) (lines.map fun s => s) :=
      reads_list fun s _ => reads_text s
    rwa [List.map_id'] at hLines
  have hFields : (["name", "members", "comment_lines",
    "second_closest_comment_lines"] : List Text).Nodup := by decide
  refine (reads_record hFields rfl).bind ?_
  exact (reads_text d.name.qualified).bind
    ((reads_list fun m _ => reads_encodeMember m).bind
      ((hTexts d.comments).bind ((hTexts d.earlierComments).bind (reads_pure _))))

theorem ensures_member (n : Node) : Ensures (member n) fun m => ∃ s, m.type = TypeName.ofText s := by
  refine (ensures_true _).bind fun fields _ => ?_
  split
  · refine (ensures_true _).bind fun _ _ => (ensures_true _).bind fun s _ => ?_
    exact (ensures_true _).bind fun _ _ => ensures_pure ⟨s, rfl⟩
  · exact ensures_fail

/-- **The names of a declaration that was read are names that were read.** -/
theorem ensures_declaration (n : Node) : Ensures (declaration TypeName.ofText n) fun d =>
    ∀ n ∈ d.typeNames, ∃ s, n = TypeName.ofText s := by
  refine (ensures_true _).bind fun fields _ => ?_
  split
  · refine (ensures_true _).bind fun s _ => ?_
    refine (ensures_optional nofun (ensures_list ensures_member) _).bind fun members hMembers => ?_
    refine (ensures_true _).bind fun _ _ => (ensures_true _).bind fun _ _ => ensures_pure ?_
    refine List.forall_mem_cons.2 ⟨⟨s, rfl⟩, List.forall_mem_map.2 hMembers⟩
  · exact ensures_fail

/-- Of a declaration with names that were read, each is read back settled. -/
theorem mapNames_rereadName (h : ∀ n ∈ d.typeNames, ∃ s, n = TypeName.ofText s) :
    d.mapNames rereadName = d.mapNames settle :=
  Declaration.mapNames_congr fun n hn => by
    obtain ⟨s, rfl⟩ := h n hn
    exact ofText_qualified_ofText s

/-- **When type names and declarations are read back.** A name is read back from its written form
unless it was read from a text with a blank behind a first dot, and what it is read back as stays. A
declaration that was read from a document is read back from what is written for it, with its names
settled; so it is the same one exactly when they are. Written once more, it stays as it is. -/
theorem encode_reread (s : Text) (source : Document) (d : Declaration) :
    (TypeName.ofText (TypeName.ofText s).qualified = TypeName.ofText s ↔ ¬ DotBeforeBlank s) ∧
      rereadName (rereadName (TypeName.ofText s)) = rereadName (TypeName.ofText s) ∧
      (source.decode? (declaration TypeName.ofText) = some d →
        (∀ written : Document, written.root = encode d →
          written.decode? (declaration TypeName.ofText) = some (d.mapNames settle)) ∧
        (d.mapNames settle = d ↔ ∀ n ∈ d.typeNames, n.Settled) ∧
        ∀ written : Document, written.root = encode (d.mapNames settle) →
          written.decode? (declaration TypeName.ofText) = some (d.mapNames settle)) := by
  refine ⟨?_, ?_, fun hSource => ?_⟩
  · rw [ofText_qualified_ofText, settle_eq_iff, settled_ofText_iff]
  · have hSettled := settled_reread s
    rw [rereadName, rereadName, ofText_qualified_ofText]
    exact settle_eq_iff.2 hSettled
  · have hNames := Document.of_decode? ensures_declaration hSource
    have hRead : ∀ written : Document, written.root = encode d →
        written.decode? (declaration TypeName.ofText) = some (d.mapNames settle) := by
      intro written hRoot
      rw [Document.decode?_of_reads hRoot (reads_encode d), mapNames_rereadName hNames]
    refine ⟨hRead, ?_, fun written hRoot => ?_⟩
    · rw [Declaration.mapNames_eq_iff]
      exact forall₂_congr fun n _ => settle_eq_iff
    · -- What was read back is again a declaration that was read.
      have hAgain := Document.of_decode? ensures_declaration (hRead ⟨encode d, [], true, 0⟩ rfl)
      rw [Document.decode?_of_reads hRoot (reads_encode _), mapNames_rereadName hAgain]
      refine congrArg some (Declaration.mapNames_eq_iff.2 fun n hn => settle_eq_iff.2 ?_)
      rw [Declaration.typeNames_mapNames] at hn
      obtain ⟨n', -, rfl⟩ := List.mem_map.1 hn
      exact settled_settle n'

/-- A declaration whose member has a type with a blank behind a first dot. -/
def spacedSource : Document where
  root := .ofFields [
    ("name", .ofText " k8s.io/api/core/v1.Pod "),
    ("members", .list [
      .ofFields [("name", .ofText "Spec"), ("type", .ofText ". PodSpec")],
      .ofFields [("name", .ofText "Status"), ("type", .ofText "v1. PodStatus")]])]

/-- What is read of `spacedSource`. -/
def spaced : Declaration where
  name := ⟨"k8s.io/api/core/v1", "Pod"⟩
  members := [
    { name := "Spec", type := ⟨[], " PodSpec"⟩ },
    { name := "Status", type := ⟨"v1", " PodStatus"⟩ }]

/-- The blank is kept behind a package, and without one it is lost when the declaration is read
back. -/
theorem encode_reread_spaced :
    TypeName.ofText (TypeName.ofText "v1. PodStatus").qualified = ⟨"v1", " PodStatus"⟩ ∧
      spacedSource.decode? (declaration TypeName.ofText) = some spaced ∧
      Document.decode? ⟨encode spaced, [], true, 0⟩ (declaration TypeName.ofText) =
        some (spaced.mapNames settle) ∧
      (spaced.mapNames settle).members.map (·.type) = [⟨[], "PodSpec"⟩, ⟨"v1", " PodStatus"⟩] ∧
      spaced.mapNames settle ≠ spaced := by
  have hSource : spacedSource.decode? (declaration TypeName.ofText) = some spaced := by
    decide +kernel
  obtain ⟨hName, -, hReread⟩ := encode_reread "v1. PodStatus" spacedSource spaced
  obtain ⟨hBack, hSame, -⟩ := hReread hSource
  refine ⟨hName.2 ?_, hSource, hBack _ rfl, by decide, fun h => ?_⟩
  · rintro ⟨base, hCut, -⟩
    cases hCut
  · have hSettled := hSame.1 h ⟨[], " PodSpec"⟩ (by decide)
    exact absurd ((hSettled rfl).head ' ' rfl) (by decide)

/-- A name need not be read back from its written form. -/
theorem not_forall_ofText_qualified :
    ¬ ∀ s, TypeName.ofText (TypeName.ofText s).qualified = TypeName.ofText s := by
  intro h
  exact absurd (h ". X") (by decide)

end Manifest

end RestScaffold
