import StateIntern.Engine.Basic

/-! An engine that keeps a list of the calls made to it. -/
namespace StateIntern

inductive Call where
  | print
  | declared
  | entails (a b : Var)
  deriving DecidableEq, Repr

def Call.text : Call → String
  | .print => "print"
  | .declared => "variables"
  | .entails a b => "entails " ++ a.name ++ " " ++ b.name

/-- The calls so far, the latest last, and the world of the engine that answers them. -/
structure Recorded (World : Type) where
  calls : List Call
  world : World
  deriving DecidableEq, Repr

def Recorded.note (call : Call) (ask : World → α × World) (r : Recorded World) :
    α × Recorded World :=
  let (answer, world) := ask r.world
  (answer, ⟨r.calls ++ [call], world⟩)

/-- A call is recorded whether it fails or not. -/
def Engine.recorded (engine : Engine World State Fault) :
    Engine (Recorded World) State Fault where
  print state := Recorded.note .print (engine.print state)
  declared state := Recorded.note .declared (engine.declared state)
  entailsEquality state a b := Recorded.note (.entails a b) (engine.entailsEquality state a b)

end StateIntern
