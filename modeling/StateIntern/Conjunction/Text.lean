import StateIntern.Conjunction.Basic

/-! The printed form of a conjunction, and what keeps one from being printed. -/
namespace StateIntern

inductive StateError where
  | unknownVariable (v : Var)
  | kindMismatch (a b : Var)
  | emptyName
  | reservedCharacter (v : Var)
  deriving DecidableEq, Repr

def StateError.message : StateError → String
  | .unknownVariable v => "variable `" ++ v.name ++ "` is not declared in the environment"
  | .kindMismatch a b =>
    "cannot compare `" ++ a.name ++ "` with `" ++ b.name ++ "`: dimensions have different kinds"
  | .emptyName => "variable names must be non-empty"
  | .reservedCharacter v => "variable `" ++ v.name ++ "` contains the reserved character `#`"

def Var.fault? (v : Var) : Option StateError :=
  if v.name = "" then some .emptyName
  else if !v.isPrintable then some (.reservedCharacter v)
  else none

namespace Conjunction

/-- The place of a variable in the environment. -/
def resolve (s : Conjunction) (v : Var) : Except StateError (Fin s.env.length) :=
  match s.env.findFinIdx? (·.var == v) with
  | some i => .ok i
  | none => .error (.unknownVariable v)

def undeclared? (s : Conjunction) (v : Var) : Option StateError :=
  if v ∈ s.env.map (·.var) then none else some (.unknownVariable v)

/-- Declared names are checked before the variables of constraints. -/
def printFault? (s : Conjunction) : Option StateError :=
  (s.env.findSome? (·.var.fault?)).or
    (s.constraints.findSome? fun c => c.vars.findSome? s.undeclared?)

def text (s : Conjunction) : String :=
  if s.constraints = [] then "top" else " /\\ ".intercalate (s.constraints.map Constraint.text)

def print (s : Conjunction) : Except StateError String :=
  match s.printFault? with
  | some fault => .error fault
  | none => .ok s.text

end Conjunction

end StateIntern
