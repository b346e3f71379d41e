import Std.Data.TreeMap
import StateIntern.Capacity

/-! Memo tables. An answer is written once and kept; asking for it is counted. -/
namespace StateIntern

structure Memo (Key Value : Type) [Ord Key] where
  answers : Std.TreeMap Key Value
  hits : Nat
  misses : Nat

namespace Memo

variable {Key Value : Type} [Ord Key]

def empty : Memo Key Value := ⟨{}, 0, 0⟩

def ofBits (bits : Nat) : Except CapacityError (Memo Key Value) := sized .memo bits empty

def size (m : Memo Key Value) : Nat := m.answers.size

def isEmpty (m : Memo Key Value) : Bool := m.answers.isEmpty

/-- Looks an answer up and counts a hit or a miss. -/
def ask (m : Memo Key Value) (key : Key) : Option Value × Memo Key Value :=
  match m.answers[key]? with
  | some value => (some value, { m with hits := m.hits + 1 })
  | none => (none, { m with misses := m.misses + 1 })

/-- The answer that ends up stored: the first one given for the key. -/
def store (m : Memo Key Value) (key : Key) (value : Value) : Value × Memo Key Value :=
  match m.answers[key]? with
  | some first => (first, m)
  | none => (value, { m with answers := m.answers.insert key value })

end Memo

end StateIntern
