import StateIntern.Variable

/-! States given by a typed environment and a conjunction of bounds and equalities over it. -/
namespace StateIntern

inductive Constraint where
  | atLeast (x : Var) (bound : Int)
  | atMost (x : Var) (bound : Int)
  | equals (x : Var) (value : Int)
  | same (x y : Var)
  deriving DecidableEq, Repr

def Constraint.vars : Constraint → List Var
  | .atLeast x _ | .atMost x _ | .equals x _ => [x]
  | .same x y => [x, y]

def Constraint.text : Constraint → String
  | .atLeast x n => x.name ++ " >= " ++ n.repr
  | .atMost x n => x.name ++ " <= " ++ n.repr
  | .equals x n => x.name ++ " = " ++ n.repr
  | .same x y => x.name ++ " = " ++ y.name

/-- Both lists keep the order in which their items came; each name is declared once. -/
structure Conjunction where
  env : List TypedVar
  constraints : List Constraint
  distinct : (env.map (·.var)).Nodup
  deriving DecidableEq

namespace Conjunction

/-- No variables and no constraints. -/
def top : Conjunction := ⟨[], [], .nil⟩

instance : Inhabited Conjunction := ⟨top⟩

/-- A name that is declared again keeps its first kind. -/
def declare (s : Conjunction) (d : TypedVar) : Conjunction :=
  if known : d.var ∈ s.env.map (·.var) then s
  else
    { s with
      env := s.env ++ [d]
      distinct := by
        rw [List.map_append, List.nodup_append]
        exact ⟨s.distinct, by simp, fun a ha b hb same => known (by simp_all)⟩ }

def conjoin (s : Conjunction) (c : Constraint) : Conjunction :=
  { s with constraints := s.constraints ++ [c] }

/-- Adds a constraint unless it is there already. -/
def conjoinNew (s : Conjunction) (c : Constraint) : Conjunction :=
  if c ∈ s.constraints then s else s.conjoin c

def ofLists (env : List TypedVar) (constraints : List Constraint) : Conjunction :=
  constraints.foldl conjoin (env.foldl declare top)

/-- Both environments and both conjunctions, with the items of `s` first. Where the kinds of a name
differ, `s` decides. -/
def meet (s t : Conjunction) : Conjunction :=
  t.constraints.foldl conjoinNew (t.env.foldl declare s)

end Conjunction

end StateIntern
