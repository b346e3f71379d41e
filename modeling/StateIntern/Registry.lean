import Std.Data.TreeMap
import StateIntern.Capacity

/-! States stored once per key, and numbered in the order in which their keys first came. -/
namespace StateIntern

/-- Numbers start at one; zero names no state. -/
structure StateId where
  number : Nat
  deriving DecidableEq, Repr

namespace StateId

def none : StateId := ⟨0⟩

def isNone (id : StateId) : Bool := id.number == 0

def text (id : StateId) : String := "@" ++ id.number.repr

instance : Ord StateId := ⟨compareOn number⟩

instance : Std.TransOrd StateId := inferInstanceAs (Std.TransCmp (compareOn number))

instance : Std.LawfulEqOrd StateId where
  compare_self := Nat.compare_eq_eq.2 rfl
  eq_of_compare {a b} h := by
    cases a; cases b
    exact congrArg mk (Nat.compare_eq_eq.1 h)

end StateId

structure Entry (State : Type) where
  id : StateId
  key : String
  state : State
  deriving DecidableEq, Repr

/-- Entry number `i + 1` is at position `i`. -/
structure Registry (State : Type) where
  entries : Array (Entry State)
  index : Std.TreeMap String StateId

namespace Registry

variable {State : Type}

def empty : Registry State := ⟨#[], {}⟩

def ofBits (bits : Nat) : Except CapacityError (Registry State) := sized .registry bits empty

def size (r : Registry State) : Nat := r.entries.size

def isEmpty (r : Registry State) : Bool := r.size == 0

def get? (r : Registry State) (id : StateId) : Option (Entry State) :=
  match id.number with
  | 0 => none
  | i + 1 => r.entries[i]?

def find? (r : Registry State) (key : String) : Option (Entry State) :=
  r.index[key]?.bind r.get?

/-- All entries, in the order of their numbers. -/
def toList (r : Registry State) : List (Entry State) := r.entries.toList

/-- The entry that a key ended up with, and whether it was made for the occasion. -/
structure Placement (State : Type) where
  entry : Entry State
  isNew : Bool
  registry : Registry State

/-- The first state under a key stays; a later one is dropped. There is always one more number. -/
def put (r : Registry State) (key : String) (state : State) : Placement State :=
  match r.find? key with
  | some entry => ⟨entry, false, r⟩
  | none =>
    let entry : Entry State := ⟨⟨r.size + 1⟩, key, state⟩
    ⟨entry, true, ⟨r.entries.push entry, r.index.insert key entry.id⟩⟩

/-- A placement with numbers of 32 bits, where a new entry that would get none is refused. -/
def tryPut (r : Registry State) (key : String) (state : State) :
    Except CapacityError (Placement State) :=
  let placed := r.put key state
  if placed.isNew ∧ UInt32.size ≤ placed.entry.id.number then .error .full else .ok placed

end Registry

end StateIntern
