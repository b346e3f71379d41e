import StateIntern.Variable

/-! What a library of abstract states has to answer. An engine may fail, and it may change with
every call, so each call takes its world and gives the next one. -/
namespace StateIntern

structure Engine (World State Fault : Type) where
  print : State → World → Except Fault String × World
  /-- The environment of the state. -/
  declared : State → World → Except Fault (List TypedVar) × World
  /-- Whether the state forces both variables to be equal. -/
  entailsEquality : State → Var → Var → World → Except Fault Bool × World

namespace Engine

variable {World State State' Fault : Type}

/-- An engine that always answers in the same way. -/
def ofPure (print : State → Except Fault String) (declared : State → Except Fault (List TypedVar))
    (entailsEquality : State → Var → Var → Except Fault Bool) : Engine World State Fault where
  print state world := (print state, world)
  declared state world := (declared state, world)
  entailsEquality state a b world := (entailsEquality state a b, world)

/-- States of two kinds, each asked of its own engine. -/
def sum (left : Engine World State Fault) (right : Engine World State' Fault) :
    Engine World (State ⊕ State') Fault where
  print
    | .inl state => left.print state
    | .inr state => right.print state
  declared
    | .inl state => left.declared state
    | .inr state => right.declared state
  entailsEquality
    | .inl state => left.entailsEquality state
    | .inr state => right.entailsEquality state

end Engine

end StateIntern
