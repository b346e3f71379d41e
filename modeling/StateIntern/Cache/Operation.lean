import StateIntern.Cache.Report

/-! Operations as data, and their runs on a cache. -/
namespace StateIntern

inductive Operation (State : Type) where
  | intern (state : State)
  | internAll (states : List State)
  | canonicalize (state : State)
  | lookup (text : String)
  | get (id : StateId)
  | handles
  | size
  | stats
  | dump
  | query (property : Property) (h : Handle State)

inductive Answer (State Fault : Type) where
  | handle (h : Handle State)
  | found (h? : Option (Handle State))
  | handles (hs : List (Handle State))
  | key (text : String)
  | size (n : Nat)
  | stats (s : CacheStats)
  | dump (d : Dump)
  | value (property : Property) (value : property.Value)
  | failed (error : CacheError Fault)

def Answer.ofExcept (answer : α → Answer State Fault) :
    Except (CacheError Fault) α → Answer State Fault
  | .ok result => answer result
  | .error fault => .failed fault

def Outcome.map (f : α → β) (o : Outcome World State α) : Outcome World State β :=
  ⟨f o.answer, o.cache, o.events⟩

namespace Cache

variable {World State Fault : Type}

def perform (engine : Engine World State Fault) (c : Cache World State) :
    Operation State → Outcome World State (Answer State Fault)
  | .intern state => (c.intern engine state).map (.ofExcept .handle)
  | .internAll states => (c.internAll engine states).map (.ofExcept .handles)
  | .canonicalize state => (c.canonicalize engine state).map (.ofExcept .key)
  | .lookup text => (c.lookup text).map .found
  | .get id => ⟨.found (c.get? id), c, []⟩
  | .handles => ⟨.handles c.handles, c, []⟩
  | .size => ⟨.size c.size, c, []⟩
  | .stats => ⟨.stats c.stats, c, []⟩
  | .dump => ⟨.dump c.dump, c, []⟩
  | .query property h => (c.query engine property h).map (.ofExcept (.value property))

/-- All answers and events in order, and the cache after the last operation. -/
def run (engine : Engine World State Fault) (c : Cache World State) :
    List (Operation State) → Outcome World State (List (Answer State Fault))
  | [] => ⟨[], c, []⟩
  | operation :: rest =>
    let first := c.perform engine operation
    let others := first.cache.run engine rest
    ⟨first.answer :: others.answer, others.cache, first.events ++ others.events⟩

end Cache

end StateIntern
