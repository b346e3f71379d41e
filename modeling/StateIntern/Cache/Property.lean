import StateIntern.Engine.Basic
import StateIntern.Registry
import StateIntern.Tag.Copies
import StateIntern.VarSet

/-! Properties derived from a stored state, as they follow from the state alone. -/
namespace StateIntern

inductive Property where
  /-- The canonical text. -/
  | text
  /-- The variables that have both copies. -/
  | common
  /-- The common variables whose copies may differ. -/
  | divergent
  deriving DecidableEq, Repr

abbrev Property.Value : Property → Type
  | .text => String
  | .common => VarSet
  | .divergent => VarSet

namespace Engine

variable {World State Fault : Type}

/-- The bases of the pairs that the state does not force to be equal. The first failing call ends
the search. -/
def differing (engine : Engine World State Fault) (state : State) :
    List Pair → World → Except Fault (List Var) × World
  | [], world => (.ok [], world)
  | pair :: rest, world =>
    match engine.entailsEquality state pair.left pair.right world with
    | (.error fault, world) => (.error fault, world)
    | (.ok equal, world) =>
      match engine.differing state rest world with
      | (.error fault, world) => (.error fault, world)
      | (.ok vars, world) => (.ok (if equal then vars else pair.base :: vars), world)

def pairsOf (engine : Engine World State Fault) (scheme : Scheme) (state : State) (world : World) :
    Except Fault (List Pair) × World :=
  match engine.declared state world with
  | (.error fault, world) => (.error fault, world)
  | (.ok declared, world) => (.ok (scheme.pairs declared), world)

def commonVars (engine : Engine World State Fault) (scheme : Scheme) (state : State)
    (world : World) : Except Fault VarSet × World :=
  match engine.pairsOf scheme state world with
  | (.error fault, world) => (.error fault, world)
  | (.ok pairs, world) => (.ok (.ofList (pairs.map (·.base))), world)

def divergentVars (engine : Engine World State Fault) (scheme : Scheme) (state : State)
    (world : World) : Except Fault VarSet × World :=
  match engine.pairsOf scheme state world with
  | (.error fault, world) => (.error fault, world)
  | (.ok pairs, world) =>
    match engine.differing state pairs world with
    | (.error fault, world) => (.error fault, world)
    | (.ok vars, world) => (.ok (.ofList vars), world)

end Engine

/-- The key is the canonical text, so the engine is not asked to print again. -/
def Property.derive (engine : Engine World State Fault) (scheme : Scheme) (entry : Entry State) :
    (property : Property) → World → Except Fault property.Value × World
  | .text, world => (.ok entry.key, world)
  | .common, world => engine.commonVars scheme entry.state world
  | .divergent, world => engine.divergentVars scheme entry.state world

end StateIntern
