/-! Partitions of the positions below `n`, as forests of parent links. A root is its own parent and
stands for its class. -/
namespace StateIntern

structure Forest (n : Nat) where
  parent : Vector (Fin n) n
  deriving DecidableEq, Repr

namespace Forest

/-- Every position is alone. -/
def discrete (n : Nat) : Forest n := ⟨Vector.ofFn id⟩

/-- Climbs by grandparents and shortens the path on the way. -/
def climb : Nat → Forest n → Fin n → Fin n × Forest n
  | 0, forest, i => (i, forest)
  | steps + 1, forest, i =>
    let above := forest.parent[forest.parent[i]]
    if forest.parent[i] = i then (i, forest)
    else climb steps ⟨forest.parent.set i above⟩ above

/-- The root above `i`. A path without a cycle has fewer links than there are positions. -/
def find (forest : Forest n) (i : Fin n) : Fin n × Forest n := forest.climb n i

/-- Joins two classes under the root of the first. -/
def union (forest : Forest n) (a b : Fin n) : Forest n :=
  let (rootA, forest) := forest.find a
  let (rootB, forest) := forest.find b
  if rootA = rootB then forest else ⟨forest.parent.set rootB rootA⟩

def root (forest : Forest n) (i : Fin n) : Fin n := (forest.find i).1

end Forest

end StateIntern
