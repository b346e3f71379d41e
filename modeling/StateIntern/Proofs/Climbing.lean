import StateIntern.Proofs.Forest

/-! Calls on plain links. From single positions, no sequence of searches and unions makes a cycle,
so every loop of every call ends, and it touches no position that has no link. Whatever has been
called, a search answers with a root, and it moves no position to another root. -/
namespace StateIntern.Forest

variable {n : Nat} {f : Forest n}

theorem Climbs.unique {parents : List Nat} {i : Nat} {touched touched' : List Nat} {r r' : Nat}
    {after after' : List Nat} (first : Climbs parents i touched r after)
    (second : Climbs parents i touched' r' after') :
    touched = touched' ∧ r = r' ∧ after = after' := by
  induction first generalizing touched' with
  | root isRoot =>
    cases second with
    | root => exact ⟨rfl, rfl, rfl⟩
    | link above differ =>
      rw [isRoot] at above
      exact absurd (Option.some.inj above).symm differ
  | link above differ next _ ih =>
    cases second with
    | root isRoot =>
      rw [isRoot] at above
      exact absurd (Option.some.inj above).symm differ
    | link above' _ next' rest =>
      cases above.symm.trans above'
      cases next.symm.trans next'
      obtain ⟨rfl, rfl, rfl⟩ := ih rest
      exact ⟨rfl, rfl, rfl⟩

theorem Acyclic.climbs (acyclic : f.Acyclic) (i : Fin n) :
    ∃ touched, Climbs f.links i touched (f.root i) (f.find i).2.links ∧ ∀ p ∈ touched, p < n := by
  obtain ⟨rank, rises⟩ := acyclic
  exact (find_finds rises i).climbs

/-- The call does on plain links what it does to the forest. -/
theorem Acyclic.performs (acyclic : f.Acyclic) (call : Call n) :
    ∃ touched, Performs f.links call touched (f.perform call).links ∧ ∀ p ∈ touched, p < n := by
  cases call with
  | find i =>
    obtain ⟨touched, climbs, inside⟩ := acyclic.climbs i
    exact ⟨touched, .find climbs, inside⟩
  | union a b =>
    obtain ⟨first, climbsA, insideA⟩ := acyclic.climbs a
    obtain ⟨second, climbsB, insideB⟩ := (acyclic.find a).climbs b
    rw [acyclic.root_find] at climbsB
    have inside : ∀ p ∈ first ++ second, p < n := fun p member =>
      (List.mem_append.1 member).elim (insideA p) (insideB p)
    rw [Forest.perform, acyclic.union_eq]
    split
    next same =>
      rw [← same] at climbsB
      exact ⟨_, .together climbsA climbsB, inside⟩
    next differ =>
      rw [links_relink]
      refine ⟨_, .joined climbsA climbsB (Fin.val_ne_of_ne differ), fun p member => ?_⟩
      rcases List.mem_append.1 member with searched | linked
      · exact inside p searched
      · rw [List.mem_singleton.1 linked]
        exact (f.root b).isLt

theorem Acyclic.runs (acyclic : f.Acyclic) (calls : List (Call n)) :
    ∃ touched, Runs f.links calls touched (f.run calls).links ∧ ∀ p ∈ touched, p < n := by
  induction calls generalizing f with
  | nil => exact ⟨[], .nil, by simp⟩
  | cons call rest ih =>
    obtain ⟨first, performs, inside⟩ := acyclic.performs call
    obtain ⟨others, runs, insideRest⟩ := ih (acyclic.perform call)
    exact ⟨first ++ others, .cons performs runs, fun p member =>
      (List.mem_append.1 member).elim (inside p) (insideRest p)⟩

/-- A link that is not that of a root. -/
def Link (f : Forest n) (p q : Fin n) : Prop := f.up p = q ∧ p ≠ q

theorem Acyclic.not_cycle (acyclic : f.Acyclic) (i : Fin n) :
    ¬Relation.TransGen f.Link i i := by
  obtain ⟨rank, rises⟩ := acyclic
  have higher {p q : Fin n} (path : Relation.TransGen f.Link p q) : rank p < rank q := by
    induction path with
    | single link =>
      obtain ⟨rfl, differ⟩ := link
      exact rises _ differ.symm
    | tail _ link ih =>
      obtain ⟨rfl, differ⟩ := link
      exact ih.trans (rises _ differ.symm)
  exact fun cycle => lt_irrefl _ (higher cycle)

/-- Any searches and unions, from single positions. On plain links all their loops end, without
leaving the `n` positions. A search then has one outcome: a position that is its own parent, and one
for two positions exactly if the united pairs connect them. The links that it has changed lead every
position to the root it had, and neither they nor the links before make a cycle. -/
theorem run_calls (n : Nat) (calls : List (Call n)) :
    let f := (discrete n).run calls
    (∃ touched, Runs (List.range n) calls touched f.links ∧ ∀ p ∈ touched, p < n) ∧
    ∀ i, let (r, after) := f.find i
      (∃ touched, (∀ visited s left, Climbs f.links i visited s left ↔
        visited = touched ∧ s = r ∧ left = after.links) ∧ ∀ p ∈ touched, p < n) ∧
      f.up r = r ∧ after.up r = r ∧
      (∀ j, (after.find j).1 = r ↔ Relation.EqvGen (fun x y => (x, y) ∈ united calls) i j) ∧
      (∀ j, (after.find j).1 = (f.find j).1) ∧
      ∀ j, ¬Relation.TransGen f.Link j j ∧ ¬Relation.TransGen after.Link j j := by
  intro f
  have acyclic : f.Acyclic := (acyclic_discrete.run calls).1
  refine ⟨?_, fun i => ⟨?_, ?_, ?_, fun j => ?_, acyclic.root_find i, fun j => ?_⟩⟩
  · rw [← links_discrete]
    exact acyclic_discrete.runs calls
  · obtain ⟨touched, climbs, inside⟩ := acyclic.climbs i
    refine ⟨touched, fun visited s left => ⟨fun other => other.unique climbs, ?_⟩, inside⟩
    rintro ⟨rfl, rfl, rfl⟩
    exact climbs
  · exact (acyclic.leads_root i).isRoot
  · have root := ((acyclic.find i).leads_root i).isRoot
    rwa [acyclic.root_find] at root
  · have connected := root_run_eq_iff calls i j
    rw [eq_comm] at connected
    show (f.find i).2.root j = f.root i ↔ _
    rwa [acyclic.root_find]
  · exact ⟨acyclic.not_cycle j, (acyclic.find i).not_cycle j⟩

end StateIntern.Forest
