import Mathlib.Data.Fintype.Card
import Mathlib.Data.Setoid.Basic
import StateIntern.Forest.Calls

/-! Forests without cycles. Finding a root changes no root, and a union joins two classes and
leaves the others; so after any unions, two positions have one root exactly when the united pairs
connect them. -/
namespace StateIntern.Forest

variable {n : Nat} {f : Forest n}

/-- The position that the link of `i` points to. -/
def up (f : Forest n) (i : Fin n) : Fin n := f.parent.get i

/-- The links from the first position end at the second. -/
inductive Leads (f : Forest n) : Fin n → Fin n → Prop where
  | root : f.up r = r → f.Leads r r
  | link : f.up i ≠ i → f.Leads (f.up i) r → f.Leads i r

/-- Every link goes up in rank. -/
def Rises (rank : Fin n → Nat) (f : Forest n) : Prop := ∀ i, f.up i ≠ i → rank i < rank (f.up i)

def Acyclic (f : Forest n) : Prop := ∃ rank, Rises rank f

theorem Leads.isRoot {i r : Fin n} (leads : f.Leads i r) : f.up r = r := by
  induction leads with
  | root isRoot => exact isRoot
  | link _ _ ih => exact ih

theorem Leads.unique {i r s : Fin n} (first : f.Leads i r) (second : f.Leads i s) : r = s := by
  induction first with
  | root isRoot =>
    cases second with
    | root => rfl
    | link isLink => exact absurd isRoot isLink
  | link isLink _ ih =>
    cases second with
    | root isRoot => exact absurd isRoot isLink
    | link _ rest => exact ih rest

/-- How many positions are left for the path above `i`. -/
def room (rank : Fin n → Nat) (i : Fin n) : Nat := (Finset.univ.filter (rank i < rank ·)).card

theorem room_lt (rank : Fin n → Nat) (i : Fin n) : room rank i < n := by
  have proper : Finset.univ.filter (rank i < rank ·) ⊂ Finset.univ := by
    refine Finset.ssubset_univ_iff.2 fun full => ?_
    have member := full ▸ Finset.mem_univ i
    simp at member
  calc room rank i < (Finset.univ : Finset (Fin n)).card := Finset.card_lt_card proper
    _ = n := by simp

theorem room_lt_room {rank : Fin n → Nat} {i j : Fin n} (above : rank i < rank j) :
    room rank j < room rank i := by
  refine Finset.card_lt_card (Finset.ssubset_iff_subset_ne.2 ⟨fun k higher => ?_, fun same => ?_⟩)
  · simp only [Finset.mem_filter, Finset.mem_univ, true_and] at higher ⊢
    omega
  · have member : j ∈ Finset.univ.filter (rank i < rank ·) := by simp [above]
    rw [← same] at member
    simp at member

theorem Rises.exists_leads {rank : Fin n → Nat} (rises : Rises rank f) (i : Fin n) :
    ∃ r, f.Leads i r := by
  generalize size : room rank i = left
  induction left using Nat.strongRecOn generalizing i with
  | ind left ih =>
    by_cases isRoot : f.up i = i
    · exact ⟨i, .root isRoot⟩
    · have less := room_lt_room (rises i isRoot)
      obtain ⟨r, leads⟩ := ih _ (size ▸ less) (f.up i) rfl
      exact ⟨r, .link isRoot leads⟩

/-- A forest with one link changed. -/
def relink (f : Forest n) (i target : Fin n) : Forest n := ⟨f.parent.set i target i.isLt⟩

theorem up_relink (i target j : Fin n) :
    (f.relink i target).up j = if j = i then target else f.up j := by
  show (f.parent.set i target)[j.val] = if j = i then target else f.parent[j.val]
  simp only [Vector.getElem_set, Fin.ext_iff, eq_comm]

/-- Two links of a path become one. -/
def shorten (f : Forest n) (i : Fin n) : Forest n := f.relink i (f.up (f.up i))

theorem up_shorten (i j : Fin n) :
    (f.shorten i).up j = if j = i then f.up (f.up i) else f.up j := up_relink i _ j

theorem Rises.shorten {rank : Fin n → Nat} (rises : Rises rank f) (i : Fin n) :
    Rises rank (f.shorten i) := by
  intro j isLink
  rw [up_shorten] at isLink ⊢
  by_cases same : j = i
  · subst same
    rw [if_pos rfl] at isLink ⊢
    by_cases first : f.up j = j
    · exact absurd (by rw [first, first]) isLink
    · have once := rises j first
      by_cases second : f.up (f.up j) = f.up j
      · rwa [second]
      · exact once.trans (rises _ second)
  · rw [if_neg same] at isLink ⊢
    exact rises j isLink

theorem Leads.up_up {i r : Fin n} (leads : f.Leads i r) : f.Leads (f.up i) r := by
  cases leads with
  | root isRoot => exact isRoot.symm ▸ .root isRoot
  | link _ rest => exact rest

theorem Leads.shorten {j r : Fin n} (leads : f.Leads j r) (i : Fin n) :
    (f.shorten i).Leads j r := by
  induction leads with
  | @root r isRoot =>
    refine .root ?_
    rw [up_shorten]
    split
    next same => rw [← same, isRoot, isRoot]
    next => exact isRoot
  | @link j r isLink rest ih =>
    by_cases same : j = i
    · subst same
      have skipped : (f.shorten j).Leads (f.up (f.up j)) r := by
        have next := ih.up_up
        rwa [up_shorten, if_neg isLink] at next
      by_cases back : f.up (f.up j) = j
      · rwa [back] at skipped
      · refine .link ?_ ?_ <;> rw [up_shorten, if_pos rfl]
        · exact back
        · exact skipped
    · refine .link ?_ ?_ <;> rw [up_shorten, if_neg same]
      · exact isLink
      · exact ih

section Links

theorem getElem?_links (f : Forest n) (i : Fin n) : f.links[i.val]? = some (f.up i).val := by
  simp only [links, List.getElem?_map, Vector.getElem?_toList, Vector.getElem?_eq_getElem i.isLt,
    Option.map_some]
  rfl

theorem links_relink (f : Forest n) (i target : Fin n) :
    (f.relink i target).links = f.links.set i target := by
  simp [links, relink, Vector.toList_set, List.map_set]

theorem links_discrete (n : Nat) : (discrete n).links = List.range n := by
  simp only [links, discrete, Vector.toList_ofFn]
  exact List.map_coe_finRange_eq_range

end Links

/-- What a search finds, and what it leaves behind. On plain links it is done by the loop, which
touches no position that has no link. -/
structure Finds (rank : Fin n → Nat) (f : Forest n) (i : Fin n) (found : Fin n × Forest n) :
    Prop where
  leads : f.Leads i found.1
  rises : Rises rank found.2
  keeps : ∀ j r, f.Leads j r → found.2.Leads j r
  climbs : ∃ touched, Climbs f.links i touched found.1 found.2.links ∧ ∀ p ∈ touched, p < n

theorem climb_succ (f : Forest n) (steps : Nat) (i : Fin n) : f.climb (steps + 1) i =
    if f.up i = i then (i, f) else (f.shorten i).climb steps (f.up (f.up i)) := by
  cases steps <;> rfl

theorem climb_finds {rank : Fin n → Nat} (rises : Rises rank f) {steps : Nat} {i : Fin n}
    (enough : room rank i < steps) : Finds rank f i (f.climb steps i) := by
  induction steps generalizing f i with
  | zero => exact absurd enough (Nat.not_lt_zero _)
  | succ steps ih =>
    rw [climb_succ]
    split
    next isRoot =>
      have own : f.links[i.val]? = some i.val := by rw [getElem?_links, isRoot]
      exact ⟨.root isRoot, rises, fun _ _ leads => leads, [i], .root own, by simp⟩
    next isLink =>
      have once : room rank (f.up i) < room rank i := room_lt_room (rises i isLink)
      have twice : room rank (f.up (f.up i)) ≤ room rank (f.up i) := by
        by_cases second : f.up (f.up i) = f.up i
        · rw [second]
        · exact (room_lt_room (rises _ second)).le
      have found : Finds rank (f.shorten i) (f.up (f.up i)) _ := ih (rises.shorten i) (by omega)
      obtain ⟨r, leads⟩ := rises.exists_leads i
      have same : r = _ := (leads.up_up.up_up.shorten i).unique found.leads
      refine ⟨same ▸ leads, found.rises, fun j s leads => found.keeps j s (leads.shorten i), ?_⟩
      obtain ⟨touched, climbs, inside⟩ := found.climbs
      rw [shorten, links_relink] at climbs
      refine ⟨i :: f.up i :: touched, ?_, by simpa using inside⟩
      exact .link (f.getElem?_links i) (Fin.val_ne_of_ne isLink) (f.getElem?_links _) climbs

theorem find_finds {rank : Fin n → Nat} (rises : Rises rank f) (i : Fin n) :
    Finds rank f i (f.find i) :=
  climb_finds rises (room_lt rank i)

theorem Acyclic.leads_root (acyclic : f.Acyclic) (i : Fin n) : f.Leads i (f.root i) := by
  obtain ⟨rank, rises⟩ := acyclic
  exact (find_finds rises i).leads

theorem Acyclic.root_eq {i r : Fin n} (acyclic : f.Acyclic) (leads : f.Leads i r) : f.root i = r :=
  (acyclic.leads_root i).unique leads

theorem Acyclic.find (acyclic : f.Acyclic) (i : Fin n) : (f.find i).2.Acyclic := by
  obtain ⟨rank, rises⟩ := acyclic
  exact ⟨rank, (find_finds rises i).rises⟩

/-- A search moves no position to another root. -/
theorem Acyclic.root_find (acyclic : f.Acyclic) (i j : Fin n) :
    (f.find i).2.root j = f.root j := by
  obtain ⟨rank, rises⟩ := acyclic
  have found := find_finds rises i
  exact Acyclic.root_eq ⟨rank, found.rises⟩ (found.keeps _ _ (Acyclic.leads_root ⟨rank, rises⟩ j))

theorem Acyclic.root_root (acyclic : f.Acyclic) (i : Fin n) : f.root (f.root i) = f.root i :=
  acyclic.root_eq (.root (acyclic.leads_root i).isRoot)

theorem up_discrete (i : Fin n) : (discrete n).up i = i := by
  show (Vector.ofFn id)[i.val] = i
  simp

theorem acyclic_discrete : (discrete n).Acyclic :=
  ⟨fun _ => 0, fun i isLink => absurd (up_discrete i) isLink⟩

theorem root_discrete (i : Fin n) : (discrete n).root i = i :=
  acyclic_discrete.root_eq (.root (up_discrete i))

section Graft

variable {a b : Fin n}

/-- A root linked to another root rises above nothing that it was above. -/
theorem Acyclic.relink_root (acyclic : f.Acyclic) (rootA : f.up a = a) (rootB : f.up b = b)
    (differ : a ≠ b) : (f.relink b a).Acyclic := by
  obtain ⟨rank, rises⟩ := acyclic
  refine ⟨fun i => if i = a then rank a + rank b + 1 else rank i, fun i isLink => ?_⟩
  rw [up_relink] at isLink ⊢
  dsimp only
  by_cases grafted : i = b
  · subst grafted
    rw [if_pos rfl, if_neg (Ne.symm differ), if_pos rfl]
    omega
  · rw [if_neg grafted] at isLink ⊢
    have once := rises i isLink
    have below : i ≠ a := fun same => isLink (by rw [same, rootA])
    rw [if_neg below]
    split
    next top =>
      rw [top] at once
      omega
    next => exact once

theorem Leads.relink_root {i r : Fin n} (leads : f.Leads i r) (rootA : f.up a = a)
    (rootB : f.up b = b) (differ : a ≠ b) :
    (f.relink b a).Leads i (if r = b then a else r) := by
  have topA : (f.relink b a).Leads a a := .root (by rw [up_relink, if_neg differ, rootA])
  induction leads with
  | @root r isRoot =>
    split
    next same =>
      subst same
      refine .link ?_ ?_ <;> rw [up_relink, if_pos rfl]
      · exact differ
      · exact topA
    next other => exact .root (by rw [up_relink, if_neg other, isRoot])
  | @link i r isLink _ ih =>
    have other : i ≠ b := fun same => isLink (by rw [same, rootB])
    refine .link ?_ ?_ <;> rw [up_relink, if_neg other]
    · exact isLink
    · exact ih

end Graft

/-- Two searches, and then one link between the roots. -/
theorem Acyclic.union_eq (acyclic : f.Acyclic) (a b : Fin n) : f.union a b =
    if f.root a = f.root b then ((f.find a).2.find b).2
    else ((f.find a).2.find b).2.relink (f.root b) (f.root a) := by
  have foundB : ((f.find a).2.find b).1 = f.root b := acyclic.root_find a b
  rw [← foundB]
  rfl

/-- All that a union does: the class of `b` moves to the root of `a`. -/
theorem Acyclic.union (acyclic : f.Acyclic) (a b : Fin n) :
    (f.union a b).Acyclic ∧
      ∀ i, (f.union a b).root i = if f.root i = f.root b then f.root a else f.root i := by
  have once := acyclic.find a
  have twice := once.find b
  have roots (i : Fin n) : ((f.find a).2.find b).2.root i = f.root i := by
    rw [once.root_find, acyclic.root_find]
  have isRoot (i : Fin n) : ((f.find a).2.find b).2.up (f.root i) = f.root i := by
    rw [← roots]
    exact (twice.leads_root i).isRoot
  rw [acyclic.union_eq]
  split
  next same =>
    refine ⟨twice, fun i => ?_⟩
    rw [roots]
    split
    next inB => rw [inB, same]
    next => rfl
  next differ =>
    have grafted := twice.relink_root (isRoot a) (isRoot b) differ
    refine ⟨grafted, fun i => grafted.root_eq ?_⟩
    have leads := (twice.leads_root i).relink_root (isRoot a) (isRoot b) differ
    rwa [roots] at leads

/-- One more pair joins what it connects. -/
theorem Acyclic.eqvGen_union (acyclic : f.Acyclic) (a b : Fin n) (rest : List (Fin n × Fin n)) :
    Relation.EqvGen (fun x y => (f.union a b).root x = (f.union a b).root y ∨ (x, y) ∈ rest) =
      Relation.EqvGen (fun x y => f.root x = f.root y ∨ (x, y) ∈ (a, b) :: rest) := by
  have roots := (acyclic.union a b).2
  apply le_antisymm
  · refine Relation.EqvGen.eqvGen_le fun x y step => ?_
    have edge : Relation.EqvGen (fun x y => f.root x = f.root y ∨ (x, y) ∈ (a, b) :: rest) a b :=
      .rel _ _ (.inr List.mem_cons_self)
    have moved (x : Fin n) : Relation.EqvGen
        (fun x y => f.root x = f.root y ∨ (x, y) ∈ (a, b) :: rest) x ((f.union a b).root x) := by
      rw [roots]
      split
      next inB =>
        refine .trans _ b _ (.rel _ _ (.inl inB)) (.trans _ a _ (edge.symm _ _) ?_)
        exact .rel _ _ (.inl (acyclic.root_root a).symm)
      next => exact .rel _ _ (.inl (acyclic.root_root x).symm)
    rcases step with same | member
    · exact (moved x).trans _ _ _ (same ▸ (moved y).symm _ _)
    · exact .rel _ _ (.inr (List.mem_cons_of_mem _ member))
  · refine Relation.EqvGen.eqvGen_le fun x y step => ?_
    rcases step with same | member
    · exact .rel _ _ (.inl (by rw [roots, roots, same]))
    · rcases List.mem_cons.1 member with first | later
      · cases first
        refine .rel _ _ (.inl ?_)
        rw [roots, roots, if_pos rfl]
        split <;> rfl
      · exact .rel _ _ (.inr later)

theorem Acyclic.perform (acyclic : f.Acyclic) (call : Call n) : (f.perform call).Acyclic := by
  cases call with
  | find i => exact acyclic.find i
  | union a b => exact (acyclic.union a b).1

/-- Calls connect what they unite, and nothing else. -/
theorem Acyclic.run (acyclic : f.Acyclic) (calls : List (Call n)) :
    (f.run calls).Acyclic ∧ ∀ i j, (f.run calls).root i = (f.run calls).root j ↔
      Relation.EqvGen (fun x y => f.root x = f.root y ∨ (x, y) ∈ united calls) i j := by
  induction calls generalizing f with
  | nil =>
    refine ⟨acyclic, fun i j => ?_⟩
    simp only [united, List.filterMap_nil, List.not_mem_nil, or_false]
    exact (Setoid.ker f.root).iseqv.eqvGen_iff.symm
  | cons call rest ih =>
    obtain ⟨last, connected⟩ := ih (acyclic.perform call)
    refine ⟨last, fun i j => (connected i j).trans ?_⟩
    cases call with
    | find k => simp only [Forest.perform, acyclic.root_find, united, List.filterMap_cons]
    | union a b => rw [Forest.perform, acyclic.eqvGen_union]; rfl

/-- From single positions, the united pairs alone decide. -/
theorem root_run_eq_iff (calls : List (Call n)) (i j : Fin n) :
    ((discrete n).run calls).root i = ((discrete n).run calls).root j ↔
      Relation.EqvGen (fun x y => (x, y) ∈ united calls) i j := by
  rw [(acyclic_discrete.run calls).2]
  simp only [root_discrete]
  constructor
  · refine Relation.EqvGen.eqvGen_le ?_ i j
    rintro x y (rfl | member)
    · exact .refl x
    · exact .rel _ _ member
  · exact Relation.EqvGen.mono (fun _ _ => .inr) i j

def unions (f : Forest n) (pairs : List (Fin n × Fin n)) : Forest n :=
  pairs.foldl (fun forest e => forest.union e.1 e.2) f

theorem unions_eq_run (f : Forest n) (pairs : List (Fin n × Fin n)) :
    f.unions pairs = f.run (pairs.map fun e => .union e.1 e.2) := by
  rw [run, List.foldl_map]
  rfl

theorem united_unions (pairs : List (Fin n × Fin n)) :
    united (pairs.map fun e => .union e.1 e.2) = pairs := by
  simp [united, List.filterMap_map]

theorem Acyclic.unions (acyclic : f.Acyclic) (pairs : List (Fin n × Fin n)) :
    (f.unions pairs).Acyclic := by
  rw [unions_eq_run]
  exact (acyclic.run _).1

theorem root_unions_eq_iff (pairs : List (Fin n × Fin n)) (i j : Fin n) :
    ((discrete n).unions pairs).root i = ((discrete n).unions pairs).root j ↔
      Relation.EqvGen (fun x y => (x, y) ∈ pairs) i j := by
  rw [unions_eq_run, root_run_eq_iff, united_unions]

end StateIntern.Forest
