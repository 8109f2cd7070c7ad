import Mathlib.Logic.Relation
import RestScaffold.Proofs.File.Operations
import RestScaffold.Proofs.File.Path

/-!
# Runs on file trees

A program of file operations takes a tree to another one. A relation between the two that holds for
nothing at all and for one thing after the other holds for the whole program when it holds for its
operations, whatever their results are. The smallest such relation is that some operations succeed
one after the other.

* `FileTree.run_bind` and the equations below it: runs of programs and of operations;
* `FileTree.Within`: the relations that the runs of a program stay in;
* `FileTree.Operates` and `FileTree.Evolves`: one operation that succeeds, and several of them;
* `FileTree.within_makeDirectories`: making directories only adds them, on the way to the last.
-/

namespace RestScaffold

open Text

namespace FileTree

variable {α β : Type} {R : FileTree → FileTree → Prop}

/-! ## Runs of operations -/

/-- What an operation with this outcome gives in the tree. -/
def settle (t : FileTree) : Except FileError FileTree → Except FileError Unit × FileTree
  | .error e => (.error e, t)
  | .ok t' => (.ok (), t')

theorem run_bind (x : StateM FileTree α) (f : α → StateM FileTree β) (t : FileTree) :
    (x >>= f).run t = (f (x.run t).1).run (x.run t).2 := rfl

theorem run_update (f : FileTree → Except FileError FileTree) (t : FileTree) :
    (update f).run t = t.settle (f t) := by
  show (match f t with
    | .error e => (Except.error e, t)
    | .ok t => (Except.ok (), t)) = _
  cases f t <;> rfl

theorem run_isFile (path : Text) (t : FileTree) :
    (FileStore.isFile path : StateM FileTree Bool).run t = (t.isFile path, t) := rfl

theorem run_isPresent (path : Text) (t : FileTree) :
    (FileStore.isPresent path : StateM FileTree Bool).run t = (t.isPresent path, t) := rfl

theorem run_write (path : Text) (bytes : List UInt8) (t : FileTree) :
    (FileStore.write path bytes : StateM FileTree _).run t = t.settle (t.write path bytes) :=
  run_update _ t

theorem run_copy (source target : Text) (t : FileTree) :
    (FileStore.copy source target : StateM FileTree _).run t = t.settle (t.copy source target) :=
  run_update _ t

theorem run_move (source target : Text) (t : FileTree) :
    (FileStore.move source target : StateM FileTree _).run t = t.settle (t.move source target) :=
  run_update _ t

theorem run_remove (path : Text) (t : FileTree) :
    (FileStore.remove path : StateM FileTree _).run t = t.settle (t.remove path) :=
  run_update _ t

theorem run_makeDirectory (path : Text) (t : FileTree) :
    (FileStore.makeDirectory path : StateM FileTree _).run t = t.settle (t.makeDirectory path) :=
  run_update _ t

/-! ## Relations that runs stay in -/

/-- Every run of the program stays in the relation: the tree before it and the tree after it. -/
def Within (R : FileTree → FileTree → Prop) (x : StateM FileTree α) : Prop :=
  ∀ t, R t (x.run t).2

theorem Within.bind (hTrans : ∀ a b c, R a b → R b c → R a c) {x : StateM FileTree α}
    {f : α → StateM FileTree β} (hx : Within R x) (hf : ∀ a, Within R (f a)) :
    Within R (x >>= f) :=
  fun t => hTrans _ _ _ (hx t) (hf _ _)

theorem within_pure (hRefl : ∀ t, R t t) (a : α) : Within R (pure a : StateM FileTree α) := hRefl

/-- An operation stays in a relation that holds for nothing at all and for its success. -/
theorem settle_of_ok (hRefl : ∀ t, R t t) {t : FileTree} {outcome : Except FileError FileTree}
    (hOk : ∀ t', outcome = .ok t' → R t t') : R t (t.settle outcome).2 := by
  cases outcome with
  | error e => exact hRefl t
  | ok t' => exact hOk t' rfl

/-- Making the first directory of a list stays in a relation that making any of them stays in. -/
theorem within_makeFirst (hRefl : ∀ t, R t t) (hTrans : ∀ a b c, R a b → R b c → R a c)
    {paths : List Text}
    (hMake : ∀ path ∈ paths, Within R (FileStore.makeDirectory path : StateM FileTree _)) :
    Within R (FileStore.makeFirst paths : StateM FileTree _) := by
  induction paths with
  | nil => exact within_pure hRefl _
  | cons path paths ih =>
    obtain ⟨hHere, hPaths⟩ := List.forall_mem_cons.1 hMake
    have hPure : ∀ r : Except FileError Unit, Within R (pure r : StateM FileTree _) :=
      within_pure hRefl
    have hCheck : ∀ e : FileError, Within R
        (do return if ← FileStore.isDirectory path then .ok () else .error e :
          StateM FileTree (Except FileError Unit)) :=
      fun _ t => hRefl t
    unfold FileStore.makeFirst
    split
    · exact hPure _
    · refine hHere.bind hTrans fun r => ?_
      split
      · exact hPure _
      · refine (ih hPaths).bind hTrans fun r' => ?_
        cases r' with
        | error e => exact hPure _
        | ok _ =>
          refine hHere.bind hTrans fun r'' => ?_
          cases r'' with
          | error e => exact hCheck e
          | ok _ => exact hPure _
      · exact hCheck _

/-! ## Sequences of operations -/

/-- One operation that succeeds takes the first tree to the second. -/
inductive Operates (t t' : FileTree) : Prop
  | write {path : Text} {bytes : List UInt8} (h : t.write path bytes = .ok t')
  | remove {path : Text} (h : t.remove path = .ok t')
  | makeDirectory {path : Text} (h : t.makeDirectory path = .ok t')

/-- Operations that succeed, one after the other, take the first tree to the second. -/
def Evolves : FileTree → FileTree → Prop := Relation.ReflTransGen Operates

theorem Operates.workingDirectory {t t' : FileTree} (h : t.Operates t') :
    t'.workingDirectory = t.workingDirectory := by
  cases h with
  | write h => exact (directoriesKept_of_write h).1.workingDirectory
  | remove h => exact (directoriesKept_of_remove h).1.workingDirectory
  | makeDirectory h =>
    obtain ⟨-, -, rfl⟩ := makeDirectory_eq_ok_iff.1 h
    rfl

namespace Evolves

theorem refl (t : FileTree) : t.Evolves t := Relation.ReflTransGen.refl

theorem trans (a b c : FileTree) (h : a.Evolves b) (h' : b.Evolves c) : a.Evolves c :=
  Relation.ReflTransGen.trans h h'

theorem of_operates {t t' : FileTree} (h : t.Operates t') : t.Evolves t' :=
  Relation.ReflTransGen.single h

theorem pure (a : α) : Within Evolves (Pure.pure a : StateM FileTree α) := within_pure refl a

theorem bind {x : StateM FileTree α} {f : α → StateM FileTree β} (hx : Within Evolves x)
    (hf : ∀ a, Within Evolves (f a)) : Within Evolves (x >>= f) := hx.bind trans hf

/-- Paths lead to the same places after any operations. -/
theorem workingDirectory {t t' : FileTree} (h : t.Evolves t') :
    t'.workingDirectory = t.workingDirectory := by
  induction h with
  | refl => rfl
  | tail _ hStep ih => exact hStep.workingDirectory.trans ih

theorem write (path : Text) (bytes : List UInt8) :
    Within Evolves (FileStore.write path bytes : StateM FileTree _) := by
  intro t
  rw [run_write]
  exact settle_of_ok refl fun t' h => of_operates (.write h)

theorem copy (source target : Text) :
    Within Evolves (FileStore.copy source target : StateM FileTree _) := by
  intro t
  rw [run_copy]
  refine settle_of_ok refl fun t' h => ?_
  obtain ⟨bytes, -, hWrite⟩ := copy_eq_ok_iff.1 h
  exact of_operates (.write hWrite)

theorem remove (path : Text) : Within Evolves (FileStore.remove path : StateM FileTree _) := by
  intro t
  rw [run_remove]
  exact settle_of_ok refl fun t' h => of_operates (.remove h)

/-- A file that is moved is removed and then written. -/
theorem move (source target : Text) :
    Within Evolves (FileStore.move source target : StateM FileTree _) := by
  intro t
  rw [run_move]
  refine settle_of_ok refl fun t' h => ?_
  obtain ⟨bytes, hRead, hWrite⟩ := move_eq_ok_iff.1 h
  have hRemove : t.remove source = .ok (t.erase (t.place source)) :=
    remove_eq_ok_iff.2 ⟨⟨bytes, hRead⟩, rfl⟩
  exact trans _ _ _ (of_operates (.remove hRemove)) (of_operates (.write hWrite))

theorem makeDirectory (path : Text) :
    Within Evolves (FileStore.makeDirectory path : StateM FileTree _) := by
  intro t
  rw [run_makeDirectory]
  exact settle_of_ok refl fun t' h => of_operates (.makeDirectory h)

theorem makeDirectories (path : Text) :
    Within Evolves (FileStore.makeDirectories path : StateM FileTree _) :=
  within_makeFirst refl trans fun path _ => makeDirectory path

end Evolves

/-! ## Making directories -/

theorem within_makeDirectory {path : Text} {paths : List Text} (hPath : path ∈ paths) :
    Within (DirectoriesAdded paths) (FileStore.makeDirectory path : StateM FileTree _) := by
  intro t
  rw [run_makeDirectory]
  refine settle_of_ok (DirectoriesAdded.refl paths) fun t' ht' => ?_
  obtain ⟨-, hNone, rfl⟩ := makeDirectory_eq_ok_iff.1 ht'
  refine ⟨rfl, fun l => ?_⟩
  rw [get?_put (ne_nil_of_get? (by rw [hNone]; nofun))]
  by_cases hPlace : l = t.place path
  · rw [if_pos hPlace]
    exact Or.inr ⟨⟨path, hPath, hPlace⟩, hPlace ▸ hNone, rfl⟩
  · rw [if_neg hPlace]
    exact Or.inl rfl

/-- **Making a directory adds directories on the way to it only.** -/
theorem within_makeDirectories (path : Text) : Within (DirectoriesAdded (FilePath.ancestors path))
    (FileStore.makeDirectories path : StateM FileTree _) :=
  within_makeFirst (DirectoriesAdded.refl _) (fun _ _ _ h h' => h.trans h')
    fun _ hPath => within_makeDirectory hPath

/-- Where a directory is there is nothing to make. -/
theorem run_makeDirectories_of_present {path : Text} {t : FileTree}
    (h : path = [] ∨ t.isDirectory path = true) :
    (FileStore.makeDirectories path : StateM FileTree _).run t = (.ok (), t) := by
  have hAncestors : ∃ rest, FilePath.ancestors path = path :: rest := by
    rw [FilePath.ancestors]
    exact ⟨_, rfl⟩
  obtain ⟨rest, hRest⟩ := hAncestors
  rw [FileStore.makeDirectories, hRest, FileStore.makeFirst]
  by_cases hNil : path = []
  · rw [if_pos hNil]
    rfl
  · have hPresent : t.isDirectory path = true := h.resolve_left hNil
    have hMake : t.makeDirectory path = .error .alreadyExists := by
      unfold isDirectory lookup at hPresent
      unfold makeDirectory
      cases hLocate : t.locate path with
      | error e =>
        rw [hLocate] at hPresent
        cases hPresent
      | ok l =>
        rw [hLocate] at hPresent
        dsimp only at hPresent ⊢
        cases hEntry : t.get? l with
        | none =>
          rw [hEntry] at hPresent
          cases hPresent
        | some e => rfl
    rw [if_neg hNil, run_bind, run_makeDirectory, hMake]
    show ((if t.isDirectory path = true then Except.ok () else Except.error FileError.alreadyExists),
      t) = (Except.ok (), t)
    rw [if_pos hPresent]

end FileTree

end RestScaffold
