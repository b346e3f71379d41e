import StateIntern.Conjunction.Entailment
import StateIntern.Engine.Basic

/-! Conjunctions as states of an engine. -/
namespace StateIntern

def Conjunction.engine : Engine World Conjunction StateError :=
  .ofPure Conjunction.print (fun s => .ok s.env) Conjunction.entailsEquality

end StateIntern
