import StateIntern.Tag.Scheme
import StateIntern.Variable

/-! The two copies of a variable. Of several copies on one side the first declared one counts. -/
namespace StateIntern

structure Copies where
  base : Var
  left : Option TypedVar
  right : Option TypedVar
  deriving DecidableEq, Repr

/-- Two copies that can be compared. -/
structure Pair where
  base : Var
  left : Var
  right : Var
  deriving DecidableEq, Repr

namespace Copies

def none (base : Var) : Copies := ⟨base, .none, .none⟩

def add (c : Copies) (side : Side) (d : TypedVar) : Copies :=
  match side with
  | .left => { c with left := c.left.or (some d) }
  | .right => { c with right := c.right.or (some d) }

/-- Both sides are declared, with one kind. -/
def pair? (c : Copies) : Option Pair :=
  match c.left, c.right with
  | some left, some right =>
    if left.kind = right.kind then some ⟨c.base, left.var, right.var⟩ else .none
  | _, _ => .none

/-- Bases are kept in ascending order. -/
def insert (base : Var) (side : Side) (d : TypedVar) : List Copies → List Copies
  | [] => [(none base).add side d]
  | c :: rest =>
    if base < c.base then (none base).add side d :: c :: rest
    else if base = c.base then c.add side d :: rest
    else c :: insert base side d rest

end Copies

def Scheme.copies (s : Scheme) (declared : List TypedVar) : List Copies :=
  declared.foldl (fun copies d =>
    match s.split? d.var.name with
    | some (base, side) => Copies.insert ⟨base⟩ side d copies
    | none => copies) []

/-- The variables of which both copies are declared with one kind, in ascending order. -/
def Scheme.pairs (s : Scheme) (declared : List TypedVar) : List Pair :=
  (s.copies declared).filterMap Copies.pair?

end StateIntern
