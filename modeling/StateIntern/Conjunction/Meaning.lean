import StateIntern.Conjunction.Basic

/-! What a conjunction says about the numbers that its variables stand for, which may be integers
or fractions. -/
namespace StateIntern

variable {Number : Type} [LE Number] [IntCast Number]

def Constraint.Holds (value : Var → Number) : Constraint → Prop
  | .atLeast x n => (n : Number) ≤ value x
  | .atMost x n => value x ≤ (n : Number)
  | .equals x n => value x = (n : Number)
  | .same x y => value x = value y

def Conjunction.Holds (value : Var → Number) (s : Conjunction) : Prop :=
  ∀ c ∈ s.constraints, c.Holds value

end StateIntern
