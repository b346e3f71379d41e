import StateIntern.Forest

/-! Equalities and bounds over numbered unknowns, and whether they force two unknowns to be
equal. -/
namespace StateIntern

/-- The numbers between two bounds. A bound that is `none` leaves its side open. -/
structure Interval where
  lower : Option Int
  upper : Option Int
  deriving DecidableEq, Repr

namespace Interval

def full : Interval := ⟨none, none⟩

def meet (a b : Interval) : Interval :=
  ⟨Option.merge max a.lower b.lower, Option.merge min a.upper b.upper⟩

def isEmpty : Interval → Bool
  | ⟨some lower, some upper⟩ => upper < lower
  | _ => false

/-- The only number left. -/
def value? : Interval → Option Int
  | ⟨some lower, some upper⟩ => if lower = upper then some lower else none
  | _ => none

end Interval

structure System (n : Nat) where
  equalities : List (Fin n × Fin n)
  bounds : List (Fin n × Interval)
  deriving Repr

namespace System

def classes (s : System n) : Forest n :=
  s.equalities.foldl (fun forest e => forest.union e.1 e.2) (.discrete n)

/-- What the bounds leave to each class, kept at its root. -/
def ranges (s : System n) (root : Fin n → Fin n) : Vector Interval n :=
  s.bounds.foldl (fun ranges b => ranges.set (root b.1) (ranges[root b.1].meet b.2))
    (Vector.replicate n .full)

/-- A system without solutions forces everything. Otherwise two unknowns are equal if they are in
one class, or if each can have one value only and it is the same. -/
def forcesEqual (s : System n) (i j : Fin n) : Bool :=
  let root := s.classes.root
  let ranges := s.ranges root
  ranges.any Interval.isEmpty || root i == root j ||
    match ranges[root i].value?, ranges[root j].value? with
    | some a, some b => a == b
    | _, _ => false

end System

end StateIntern
