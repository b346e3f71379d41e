import StateIntern.Registry

/-! A registry as plain slots beside the index of its keys. The slot in front stays empty, so that
the place of an entry is its number. -/
namespace StateIntern

structure Slots (State : Type) where
  data : Array (Option (Entry State))
  index : Std.TreeMap String StateId

namespace Slots

variable {State : Type}

def empty : Slots State := ⟨#[none], {}⟩

def size (t : Slots State) : Nat := t.index.size

def isEmpty (t : Slots State) : Bool := t.index.isEmpty

def get? (t : Slots State) (id : StateId) : Option (Entry State) := t.data[id.number]?.join

def find? (t : Slots State) (key : String) : Option (Entry State) := t.index[key]?.bind t.get?

def toList (t : Slots State) : List (Entry State) := t.data.toList.filterMap id

/-- As in a registry, except that a number has 32 bits: without one there is no placement. -/
def put? (t : Slots State) (key : String) (state : State) :
    Option (Entry State × Bool × Slots State) :=
  match t.find? key with
  | some entry => some (entry, false, t)
  | none =>
    if t.data.size < UInt32.size then
      let entry : Entry State := ⟨⟨t.data.size⟩, key, state⟩
      some (entry, true, ⟨t.data.push (some entry), t.index.insert key entry.id⟩)
    else none

/-- Offers keyed states one after the other. -/
def fill? (t : Slots State) : List (String × State) → Option (Slots State)
  | [] => some t
  | offer :: rest => (t.put? offer.1 offer.2).bind fun (_, _, next) => next.fill? rest

end Slots

/-- The slots of the entries of a registry. -/
def Registry.slots (r : Registry State) : Slots State := ⟨#[none] ++ r.entries.map some, r.index⟩

end StateIntern
