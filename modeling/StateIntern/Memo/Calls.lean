import StateIntern.Memo

/-! Sequences of calls on a memo table, and what they have to give back if the value that is stored
first under a key is the one that counts. -/
namespace StateIntern.Memo

inductive Call (Key Value : Type) where
  | ask (key : Key)
  | store (key : Key) (value : Value)
  deriving DecidableEq, Repr

inductive Reply (Value : Type) where
  | asked (answer : Option Value)
  | stored (value : Value)
  deriving DecidableEq, Repr

/-- Something was asked for and is there. -/
def Reply.isHit : Reply Value → Bool
  | .asked answer => answer.isSome
  | .stored _ => false

/-- Something was asked for and is not there. -/
def Reply.isMiss : Reply Value → Bool
  | .asked answer => answer.isNone
  | .stored _ => false

section Run

variable {Key Value : Type} [Ord Key]

def perform (m : Memo Key Value) : Call Key Value → Reply Value × Memo Key Value
  | .ask key =>
    let (answer, m) := m.ask key
    (.asked answer, m)
  | .store key value =>
    let (kept, m) := m.store key value
    (.stored kept, m)

def run (m : Memo Key Value) : List (Call Key Value) → List (Reply Value) × Memo Key Value
  | [] => ([], m)
  | call :: rest =>
    let (reply, m) := m.perform call
    let (replies, m) := m.run rest
    (reply :: replies, m)

end Run

section First

variable {Key Value : Type}

/-- The keys that something was stored under, as often as this was done. -/
def storedKeys (calls : List (Call Key Value)) : List Key :=
  calls.filterMap fun
    | .ask _ => none
    | .store key _ => some key

variable [DecidableEq Key]

/-- The value that was stored first under a key. -/
def firstStored (calls : List (Call Key Value)) (key : Key) : Option Value :=
  calls.findSome? fun
    | .ask _ => none
    | .store other value => if other = key then some value else none

/-- What a call has to give back after those before it. -/
def Call.due (before : List (Call Key Value)) : Call Key Value → Reply Value
  | .ask key => .asked (firstStored before key)
  | .store key value => .stored ((firstStored before key).getD value)

end First

end StateIntern.Memo
