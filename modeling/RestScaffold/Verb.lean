import RestScaffold.Text.Basic

/-!
# Verbs

The operations that a generated client may offer. A set of verbs is the list of its members in the
order of `Verb.all`, so equal sets are equal lists.
-/

namespace RestScaffold

/-- An operation on objects of a type. -/
inductive Verb where
  | create
  | update
  | delete
  | get
  | list
  | watch
  | patch
  deriving DecidableEq

namespace Verb

/-- Every verb, in the order in which verb sets are listed. -/
def all : List Verb := [create, update, delete, get, list, watch, patch]

/-- How a directive writes the verb. -/
def name : Verb → Text
  | create => "create"
  | update => "update"
  | delete => "delete"
  | get => "get"
  | list => "list"
  | watch => "watch"
  | patch => "patch"

/-- The verb that a text names, blanks around it aside. -/
def ofText? (s : Text) : Option Verb := all.find? (·.name = Text.trim s)

/-- What to say of a text that names no verb. -/
def unknownMessage (s : Text) : Text := "unknown verb '" ++ Text.trim s ++ "'"

theorem mem_all (v : Verb) : v ∈ all := by cases v <;> decide

theorem ofText?_name (v : Verb) : ofText? v.name = some v := by cases v <;> decide

end Verb

/-- A set of verbs as the list of its members in the order of `Verb.all`. -/
abbrev VerbSet := List Verb

namespace VerbSet

/-- The set of the verbs in a list. -/
def ofList (verbs : List Verb) : VerbSet := Verb.all.filter (· ∈ verbs)

/-- The verbs in either set. -/
def union (a b : VerbSet) : VerbSet := Verb.all.filter fun v => v ∈ a || v ∈ b

/-- The verbs in `a` that are not in `b`. -/
def diff (a b : VerbSet) : VerbSet := Verb.all.filter fun v => v ∈ a && !(v ∈ b)

theorem mem_ofList {verbs : List Verb} {v : Verb} : v ∈ ofList verbs ↔ v ∈ verbs := by
  simp [ofList, Verb.mem_all]

theorem mem_union {a b : VerbSet} {v : Verb} : v ∈ union a b ↔ v ∈ a ∨ v ∈ b := by
  simp [union, Verb.mem_all]

theorem mem_diff {a b : VerbSet} {v : Verb} : v ∈ diff a b ↔ v ∈ a ∧ v ∉ b := by
  simp [diff, Verb.mem_all]

end VerbSet

end RestScaffold
