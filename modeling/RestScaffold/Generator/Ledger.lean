import RestScaffold.ScaffoldError

/-!
# Emission ledgers

A ledger is what a run remembers of its generators: those that have had their only chance to fire,
and those that have written their file. Generators themselves never change, so a plan can be
rendered any number of times.
-/

namespace RestScaffold

/-- The record of a run. -/
structure Ledger where
  /-- The generators that fire once and have been offered a declaration. -/
  latched : List GeneratorId := []
  /-- The generators that have written their file. -/
  emitted : List GeneratorId := []
  deriving DecidableEq

namespace Ledger

/-- Whether a generator has had its only chance to fire. -/
def isLatched (l : Ledger) (id : GeneratorId) : Bool := l.latched.contains id

/-- Offers a declaration to a generator: whether the generator fires, and the ledger afterwards. -/
def offer (l : Ledger) (g : Generator) (d : Declaration) : Bool × Ledger :=
  match g.trigger with
  | .forType name => (d.name = name, l)
  | .once => if l.isLatched g.id then (false, l) else (true, { l with latched := g.id :: l.latched })

/-- Records that a generator has written its file, which it may do once. -/
def recordEmission (l : Ledger) (id : GeneratorId) : Except ScaffoldError Ledger :=
  if l.emitted.contains id then .error (.emittedTwice id)
  else .ok { l with emitted := id :: l.emitted }

/-- How many generators have written their file. -/
def emissionCount (l : Ledger) : Nat := l.emitted.length

end Ledger

end RestScaffold
