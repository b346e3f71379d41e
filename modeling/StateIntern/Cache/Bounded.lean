import StateIntern.Cache.Operation

/-! Caches whose entries have numbers of 32 bits. An operation that needs one more number breaks
off, and the run with it. -/
namespace StateIntern.Cache

variable {World State Fault : Type}

def tryIntern (engine : Engine World State Fault) (c : Cache World State) (state : State) :
    Except CapacityError (Outcome World State (Except (CacheError Fault) (Handle State))) :=
  match c.canonicalize engine state with
  | ⟨.error fault, c, events⟩ => .ok ⟨.error fault, c, events⟩
  | ⟨.ok key, c, events⟩ => (c.registry.tryPut key state).map (c.accept key events)

def tryInternAll (engine : Engine World State Fault) (c : Cache World State) :
    List State →
      Except CapacityError (Outcome World State (Except (CacheError Fault) (List (Handle State))))
  | [] => .ok ⟨.ok [], c, []⟩
  | state :: rest => do
    match ← c.tryIntern engine state with
    | ⟨.error fault, c, events⟩ => .ok ⟨.error fault, c, events⟩
    | ⟨.ok handle, c, events⟩ =>
      (c.tryInternAll engine rest).map fun others =>
        ⟨others.answer.map (handle :: ·), others.cache, events ++ others.events⟩

/-- Only what is interned needs numbers. -/
def tryPerform (engine : Engine World State Fault) (c : Cache World State) :
    Operation State → Except CapacityError (Outcome World State (Answer State Fault))
  | .intern state => (c.tryIntern engine state).map (·.map (.ofExcept .handle))
  | .internAll states => (c.tryInternAll engine states).map (·.map (.ofExcept .handles))
  | operation => .ok (c.perform engine operation)

def tryRun (engine : Engine World State Fault) (c : Cache World State) :
    List (Operation State) →
      Except CapacityError (Outcome World State (List (Answer State Fault)))
  | [] => .ok ⟨[], c, []⟩
  | operation :: rest => do
    let first ← c.tryPerform engine operation
    (first.cache.tryRun engine rest).map fun others =>
      ⟨first.answer :: others.answer, others.cache, first.events ++ others.events⟩

end StateIntern.Cache
