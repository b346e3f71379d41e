import StateIntern.Engine.Basic

/-! An engine that can be told to fail, for trying out what happens then. -/
namespace StateIntern

/-- The next `after` calls are answered as usual; every later one fails. -/
structure Failure where
  after : Nat
  message : String
  deriving DecidableEq, Repr

inductive Method where
  | print
  | declared
  | entails
  deriving DecidableEq, Repr

/-- What is planned for each method, and the world of the engine that answers otherwise. -/
structure Faults (World : Type) where
  print : Option Failure
  declared : Option Failure
  entails : Option Failure
  world : World
  deriving DecidableEq, Repr

/-- A fault of the engine's own, or one that was planned. -/
inductive Planned (Fault : Type) where
  | own (fault : Fault)
  | injected (message : String)
  deriving DecidableEq, Repr

namespace Faults

def none (world : World) : Faults World := ⟨.none, .none, .none, world⟩

def plan (f : Faults World) : Method → Option Failure
  | .print => f.print
  | .declared => f.declared
  | .entails => f.entails

def setPlan (f : Faults World) (method : Method) (plan : Option Failure) : Faults World :=
  match method with
  | .print => { f with print := plan }
  | .declared => { f with declared := plan }
  | .entails => { f with entails := plan }

def usual (ask : World → Except Fault α × World) (f : Faults World) :
    Except (Planned Fault) α × Faults World :=
  let (answer, world) := ask f.world
  (answer.mapError .own, { f with world })

def attempt (method : Method) (ask : World → Except Fault α × World) (f : Faults World) :
    Except (Planned Fault) α × Faults World :=
  match f.plan method with
  | .none => usual ask f
  | some ⟨0, message⟩ => (.error (.injected message), f)
  | some ⟨after + 1, message⟩ => usual ask (f.setPlan method (some ⟨after, message⟩))

end Faults

def Engine.faulty (engine : Engine World State Fault) :
    Engine (Faults World) State (Planned Fault) where
  print state := Faults.attempt .print (engine.print state)
  declared state := Faults.attempt .declared (engine.declared state)
  entailsEquality state a b := Faults.attempt .entails (engine.entailsEquality state a b)

end StateIntern
