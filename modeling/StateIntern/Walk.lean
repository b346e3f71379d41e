import StateIntern.Cache.Bounded
import StateIntern.Conjunction.Engine

/-! The traffic of an analysis that comes by the same program points again and again. Every step
makes a state of its own, in one of two tag conventions, so most states are known already. -/
namespace StateIntern

structure Walk where
  states : Nat := 1000
  distinct : Nat := 10
  scheme : Scheme := .standard

namespace Walk

/-- The schemes that a walk can be asked to use, by name. -/
def scheme? : String → Option Scheme
  | "standard" => some .standard
  | "left-right" => some .leftRight
  | "versions" => some .versions
  | _ => none

/-- The markers of the left and of the right copy. -/
structure Tags where
  left : String
  right : String
  deriving DecidableEq, Repr

/-- The two conventions take turns. -/
def tagsAt (step : Nat) : Tags :=
  if step % 2 = 0 then ⟨"_L", "_R"⟩ else ⟨"_A", "_B"⟩

def pointAt (w : Walk) (step : Nat) : Nat := step % max w.distinct 1

/-- An index with a bound, and a length that both versions agree on. At every third point they
agree on the index too. -/
def stateAt (point : Nat) (tags : Tags) : Conjunction :=
  let leftIndex : Var := ⟨"i" ++ tags.left⟩
  let rightIndex : Var := ⟨"i" ++ tags.right⟩
  let leftLength : Var := ⟨"n" ++ tags.left⟩
  let rightLength : Var := ⟨"n" ++ tags.right⟩
  let last : Constraint :=
    if point % 3 = 0 then .same leftIndex rightIndex else .atMost rightIndex (point + 1)
  .ofLists ([leftIndex, rightIndex, leftLength, rightLength].map (⟨·, .int⟩))
    [.atLeast leftIndex 0, .atMost leftIndex point, .same leftLength rightLength, last]

def stream (w : Walk) : List Conjunction :=
  (List.range w.states).map fun step => stateAt (w.pointAt step) (tagsAt step)

/-- What is shown of a stored state. -/
structure Row where
  id : StateId
  key : String
  visits : Nat
  common : VarSet
  divergent : VarSet

def Row.lines (r : Row) : List String :=
  [r.id.text ++ " x" ++ r.visits.repr ++ ": " ++ r.key,
    "    common = " ++ r.common.text,
    "    non-equivalent = [" ++ ", ".intercalate (r.divergent.toList.map (·.name)) ++ "]"]

structure Report where
  rows : List Row
  stats : CacheStats

def Report.lines (r : Report) : List String := r.rows.flatMap Row.lines ++ r.stats.lines

abbrev Store := Cache Unit Conjunction

/-- Asks for the properties of every visited state, in the order of the tally. -/
def describe (c : Store) : Tally Conjunction → Except (CacheError StateError) (List Row × Store)
  | [] => .ok ([], c)
  | (h, visits) :: rest => do
    let first := c.query Conjunction.engine .divergent h
    let divergent ← first.answer
    let second := first.cache.query Conjunction.engine .common h
    let common ← second.answer
    let (rows, last) ← describe second.cache rest
    return (⟨h.id, h.text, visits, common, divergent⟩ :: rows, last)

/-- Why a walk shows nothing. -/
inductive Failure where
  /-- The cache answered with an error. -/
  | refused (error : CacheError StateError)
  /-- The walk broke off for want of numbers. -/
  | exhausted (error : CapacityError)
  deriving DecidableEq, Repr

namespace Failure

def message : Failure → String
  | .refused error => error.message StateError.message
  | .exhausted error => error.message

/-- The exit status of the program. -/
def status : Failure → UInt32
  | .refused _ => 1
  | .exhausted _ => 101

end Failure

def run (w : Walk) : Except Failure Report := do
  let interned ← ((Cache.new 0 w.scheme ()).tryInternAll Conjunction.engine w.stream).mapError
    .exhausted
  let handles ← interned.answer.mapError .refused
  let (rows, last) ← (describe interned.cache (.ofList handles)).mapError .refused
  return ⟨rows, last.stats⟩

end Walk

end StateIntern
