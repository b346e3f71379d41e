import StateIntern.Forest

/-! Sequences of calls on a partition, and the same calls on plain links by number. There a call
stops at a position that has no link, and it ends only if its loops do. -/
namespace StateIntern.Forest

inductive Call (n : Nat) where
  | find (i : Fin n)
  | union (a b : Fin n)
  deriving DecidableEq, Repr

/-- The forest that a call leaves behind. -/
def perform (f : Forest n) : Call n → Forest n
  | .find i => (f.find i).2
  | .union a b => f.union a b

def run (f : Forest n) (calls : List (Call n)) : Forest n := calls.foldl perform f

/-- The pairs that were united. -/
def united (calls : List (Call n)) : List (Fin n × Fin n) :=
  calls.filterMap fun
    | .find _ => none
    | .union a b => some (a, b)

/-- The link of every position, by number. -/
def links (f : Forest n) : List Nat := f.parent.toList.map Fin.val

/-- From a position, the loop that climbs by grandparents touches these positions, ends at the last
position and leaves these links behind. -/
inductive Climbs : List Nat → Nat → List Nat → Nat → List Nat → Prop where
  | root : parents[i]? = some i → Climbs parents i [i] i parents
  | link : parents[i]? = some p → p ≠ i → parents[p]? = some q →
      Climbs (parents.set i q) q touched r after → Climbs parents i (i :: p :: touched) r after

/-- A call on plain links, with the positions that it touches. -/
inductive Performs : List Nat → Call n → List Nat → List Nat → Prop where
  | find : Climbs parents i.val touched r after → Performs parents (.find i) touched after
  | together : Climbs parents a.val first r middle → Climbs middle b.val second r after →
      Performs parents (.union a b) (first ++ second) after
  | joined : Climbs parents a.val first r middle → Climbs middle b.val second q after → r ≠ q →
      Performs parents (.union a b) (first ++ second ++ [q]) (after.set q r)

inductive Runs : List Nat → List (Call n) → List Nat → List Nat → Prop where
  | nil : Runs parents [] [] parents
  | cons : Performs parents call first middle → Runs middle rest others after →
      Runs parents (call :: rest) (first ++ others) after

end StateIntern.Forest
