import StateIntern.Cache.Operation

/-! Caches that are used side by side. -/
namespace StateIntern

/-- The cache at position `i` is the owner with number `i`. -/
structure Workspace (World State : Type) where
  caches : Array (Cache World State)

namespace Workspace

variable {World State Fault : Type}

def empty : Workspace World State := ⟨#[]⟩

def add (w : Workspace World State) (scheme : Scheme) (world : World) : Workspace World State :=
  ⟨w.caches.push (.new w.caches.size scheme world)⟩

def addOfBits (w : Workspace World State) (scheme : Scheme) (world : World) (bits : Nat) :
    Except CapacityError (Workspace World State) :=
  (Cache.ofBits w.caches.size scheme world bits).map fun cache => ⟨w.caches.push cache⟩

def get? (w : Workspace World State) (i : Nat) : Option (Cache World State) := w.caches[i]?

/-- Changes the world that a cache asks its engine in. -/
def modifyWorld (w : Workspace World State) (i : Nat) (f : World → World) :
    Workspace World State :=
  ⟨w.caches.modify i fun c => { c with world := f c.world }⟩

/-- Performs an operation on one cache and leaves the others alone. -/
def perform (engine : Engine World State Fault) (w : Workspace World State) (i : Nat)
    (operation : Operation State) :
    Option (Answer State Fault × List Event × Workspace World State) :=
  (w.get? i).map fun cache =>
    let outcome := cache.perform engine operation
    (outcome.answer, outcome.events, ⟨w.caches.setIfInBounds i outcome.cache⟩)

end Workspace

end StateIntern
