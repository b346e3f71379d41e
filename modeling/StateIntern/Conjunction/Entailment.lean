import StateIntern.Conjunction.System
import StateIntern.Conjunction.Text

/-! Whether a conjunction forces two of its variables to be equal. -/
namespace StateIntern

def Constraint.equality? : Constraint → Option (Var × Var)
  | .same x y => some (x, y)
  | _ => none

def Constraint.bound? : Constraint → Option (Var × Interval)
  | .atLeast x n => some (x, ⟨some n, none⟩)
  | .atMost x n => some (x, ⟨none, some n⟩)
  | .equals x n => some (x, ⟨some n, some n⟩)
  | .same _ _ => none

namespace Conjunction

def resolveEquality (s : Conjunction) (e : Var × Var) :
    Except StateError (Fin s.env.length × Fin s.env.length) := do
  let x ← s.resolve e.1
  let y ← s.resolve e.2
  return (x, y)

def resolveBound (s : Conjunction) (b : Var × Interval) :
    Except StateError (Fin s.env.length × Interval) := do
  let x ← s.resolve b.1
  return (x, b.2)

/-- The constraints over places of the environment. Equalities are resolved before bounds. -/
def system (s : Conjunction) : Except StateError (System s.env.length) := do
  let equalities ← (s.constraints.filterMap Constraint.equality?).mapM s.resolveEquality
  let bounds ← (s.constraints.filterMap Constraint.bound?).mapM s.resolveBound
  return ⟨equalities, bounds⟩

/-- Every variable of every constraint has to be declared, whether the answer depends on it or
not. -/
def entailsEquality (s : Conjunction) (a b : Var) : Except StateError Bool := do
  let i ← s.resolve a
  let j ← s.resolve b
  if s.env[i].kind ≠ s.env[j].kind then throw (.kindMismatch a b)
  let system ← s.system
  return system.forcesEqual i j

end Conjunction

end StateIntern
