import StateIntern.Engine.Basic

/-! States that are given by the answers to be made about them. -/
namespace StateIntern

structure Listing where
  text : String
  declared : List TypedVar
  /-- The ordered pairs that are forced to be equal. -/
  equalities : List (Var × Var)
  deriving DecidableEq, Repr

def Listing.engine : Engine World Listing Fault :=
  .ofPure (fun s => .ok s.text) (fun s => .ok s.declared)
    (fun s a b => .ok (decide ((a, b) ∈ s.equalities)))

end StateIntern
