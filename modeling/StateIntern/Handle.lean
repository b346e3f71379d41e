import StateIntern.Registry
import StateIntern.Text.Bytes
import StateIntern.Text.Quoted

/-! References to stored states. Handles compare by key alone, while `same` tells whether two of
them refer to the same stored instance. -/
namespace StateIntern

/-- A handle that is held remembers the number of the cache that gave it out. -/
inductive Handle (State : Type) where
  | empty
  | held (owner : Nat) (entry : Entry State)
  deriving DecidableEq, Repr

namespace Handle

variable {State : Type}

def stored? : Handle State → Option (Entry State)
  | .empty => none
  | .held _ entry => some entry

def isEmpty (h : Handle State) : Bool := h.stored?.isNone

def id (h : Handle State) : StateId := (h.stored?.map (·.id)).getD .none

def key? (h : Handle State) : Option String := h.stored?.map (·.key)

/-- An instance is known by its cache and its number there. -/
def same : Handle State → Handle State → Bool
  | .empty, .empty => true
  | .held owner entry, .held owner' entry' => owner == owner' && entry.id == entry'.id
  | _, _ => false

def equal (g h : Handle State) : Bool := g.key? == h.key?

/-- The empty handle comes first. -/
def order (g h : Handle State) : Ordering :=
  match g.key?, h.key? with
  | none, none => .eq
  | none, some _ => .lt
  | some _, none => .gt
  | some k, some l => compare k l

/-- What is hashed: whether there is a key, as a machine word, and then the key and the byte that
ends a text. -/
def hashed (h : Handle State) : List UInt8 :=
  match h.key? with
  | none => List.replicate 8 0
  | some key => 1 :: List.replicate 7 0 ++ Text.bytes key ++ [255]

def sort (handles : List (Handle State)) : List (Handle State) :=
  handles.mergeSort fun g h => (g.order h).isLE

def text (h : Handle State) : String := h.key?.getD "<empty>"

/-- Number and quoted key, as shown when looking for faults. -/
def description : Handle State → String
  | .empty => "Handle(<empty>)"
  | .held _ entry => "Handle(" ++ entry.id.text ++ ", " ++ Text.quoted entry.key ++ ")"

end Handle

/-- How often each key came up, in the order of keys. The first handle stands for its key. -/
abbrev Tally (State : Type) := List (Handle State × Nat)

def Tally.add (h : Handle State) : Tally State → Tally State
  | [] => [(h, 1)]
  | (g, count) :: rest =>
    match h.order g with
    | .lt => (h, 1) :: (g, count) :: rest
    | .eq => (g, count + 1) :: rest
    | .gt => (g, count) :: Tally.add h rest

def Tally.ofList (handles : List (Handle State)) : Tally State :=
  handles.foldl (fun tally h => Tally.add h tally) []

end StateIntern
