import Mathlib.Data.List.Induction
import StateIntern.Tag.Copies
import StateIntern.VarSet

/-! Which copies are paired. The table of copies is ordered by base and keeps on each side the
copy that was declared first, so a base has a pair exactly when its two first copies have one
kind. -/
namespace StateIntern

/-- The copy of `base` on one side that is declared first. -/
def Scheme.firstCopy? (s : Scheme) (declared : List TypedVar) (base : Var) (side : Side) :
    Option TypedVar :=
  declared.find? fun d => s.split? d.var.name == some (base.name, side)

namespace Copies

/-- The copies of a base in a table, none if it is not listed. -/
def ofBase (base : Var) : List Copies → Copies
  | [] => none base
  | c :: rest => if c.base = base then c else ofBase base rest

theorem ofBase_eq_none {base : Var} {table : List Copies} (absent : ∀ c ∈ table, c.base ≠ base) :
    ofBase base table = none base := by
  induction table with
  | nil => rfl
  | cons c rest ih =>
    rw [List.forall_mem_cons] at absent
    rw [ofBase, if_neg absent.1, ih absent.2]

@[simp] theorem base_none (base : Var) : (none base).base = base := rfl

@[simp] theorem base_add (c : Copies) (side : Side) (d : TypedVar) :
    (c.add side d).base = c.base := by
  cases side <;> rfl

theorem bases_insert (base : Var) (side : Side) (d : TypedVar) (table : List Copies) :
    (insert base side d table).map (·.base) = VarSet.insertOrdered base (table.map (·.base)) := by
  induction table with
  | nil => simp [insert, VarSet.insertOrdered]
  | cons c rest ih =>
    simp only [insert, List.map_cons, VarSet.insertOrdered]
    split
    next => simp
    next =>
      split
      next same => simp
      next => rw [List.map_cons, ih]

/-- A table in which the bases ascend. -/
def Ordered (table : List Copies) : Prop := (table.map (·.base)).Pairwise (· < ·)

theorem Ordered.insert {table : List Copies} (ordered : Ordered table) (base : Var) (side : Side)
    (d : TypedVar) : Ordered (Copies.insert base side d table) := by
  rw [Ordered, bases_insert]
  exact VarSet.insertOrdered_ascending ordered

theorem ofBase_insert {table : List Copies} (ordered : Ordered table) (base : Var) (side : Side)
    (d : TypedVar) (b : Var) : ofBase b (insert base side d table) =
      if b = base then (ofBase base table).add side d else ofBase b table := by
  induction table with
  | nil => simp [insert, ofBase, eq_comm]
  | cons c rest ih =>
    obtain ⟨lowest, tail⟩ := List.pairwise_cons.1 ordered
    simp only [insert]
    split
    next below =>
      have absent : ∀ e ∈ c :: rest, e.base ≠ base := by
        intro e member same
        rcases List.mem_cons.1 member with rfl | later
        · exact Var.lt_irrefl _ (same ▸ below)
        · have above := lowest e.base (List.mem_map_of_mem later)
          exact Var.lt_irrefl _ (same ▸ Var.lt_trans below above)
      rw [ofBase_eq_none absent, ofBase]
      simp [eq_comm]
    next =>
      split
      next same =>
        subst same
        simp only [ofBase, base_add, if_true]
        split
        next here => simp [here]
        next there => simp [Ne.symm there]
      next other =>
        simp only [ofBase, ih tail]
        by_cases here : c.base = b
        · subst here
          simp [Ne.symm other]
        · simp [here, Ne.symm other]

theorem ofBase_of_mem {table : List Copies} (ordered : Ordered table) {c : Copies}
    (member : c ∈ table) : ofBase c.base table = c := by
  induction table with
  | nil => contradiction
  | cons first rest ih =>
    obtain ⟨lowest, tail⟩ := List.pairwise_cons.1 ordered
    rcases List.mem_cons.1 member with rfl | later
    · simp [ofBase]
    · have differ : first.base ≠ c.base := fun same =>
        Var.lt_irrefl _ (same ▸ lowest c.base (List.mem_map_of_mem later))
      rw [ofBase, if_neg differ, ih tail later]

theorem mem_of_ofBase {table : List Copies} {base : Var} {p : Pair}
    (paired : (ofBase base table).pair? = some p) :
    ofBase base table ∈ table ∧ (ofBase base table).base = base := by
  induction table with
  | nil => contradiction
  | cons c rest ih =>
    rw [ofBase] at paired ⊢
    split
    next here => exact ⟨List.mem_cons_self, here⟩
    next there =>
      rw [if_neg there] at paired
      obtain ⟨member, named⟩ := ih paired
      exact ⟨List.mem_cons_of_mem _ member, named⟩

theorem pair?_eq_some_iff {c : Copies} {p : Pair} : c.pair? = some p ↔
    ∃ l r, c.left = some l ∧ c.right = some r ∧ l.kind = r.kind ∧ p = ⟨c.base, l.var, r.var⟩ := by
  obtain ⟨base, _ | l, _ | r⟩ := c <;> simp [pair?, eq_comm]

end Copies

namespace Scheme

variable {s : Scheme} {declared : List TypedVar}

theorem copies_append_singleton (d : TypedVar) : s.copies (declared ++ [d]) =
    match s.split? d.var.name with
    | some (base, side) => Copies.insert ⟨base⟩ side d (s.copies declared)
    | none => s.copies declared := by
  rw [copies, List.foldl_append]
  rfl

theorem ordered_copies : Copies.Ordered (s.copies declared) := by
  induction declared using List.reverseRecOn with
  | nil => exact .nil
  | append_singleton before d ih =>
    rw [copies_append_singleton]
    split
    next base side _ => exact ih.insert ⟨base⟩ side d
    next => exact ih

/-- The table holds the first copies of every base. -/
theorem ofBase_copies (base : Var) : Copies.ofBase base (s.copies declared) =
    ⟨base, s.firstCopy? declared base .left, s.firstCopy? declared base .right⟩ := by
  induction declared using List.reverseRecOn with
  | nil => rfl
  | append_singleton before d ih =>
    have last (side : Side) : s.firstCopy? (before ++ [d]) base side =
        (s.firstCopy? before base side).or
          (if s.split? d.var.name = some (base.name, side) then some d else none) := by
      simp [firstCopy?, List.find?_append, List.find?_singleton]
    rw [copies_append_singleton, last, last]
    split
    next name side tagged =>
      rw [Copies.ofBase_insert ordered_copies, tagged]
      by_cases here : base = ⟨name⟩
      · subst here
        cases side <;> simp [ih, Copies.add]
      · have other : name ≠ base.name := fun same => here (by rw [same])
        simp [here, other, ih]
    next untagged => simp [untagged, ih]

/-- A pair is made of the two first copies of its base, which have one kind. -/
theorem mem_pairs_iff {p : Pair} : p ∈ s.pairs declared ↔
    ∃ l r, s.firstCopy? declared p.base .left = some l ∧
      s.firstCopy? declared p.base .right = some r ∧ l.kind = r.kind ∧
      p.left = l.var ∧ p.right = r.var := by
  have listed : p ∈ s.pairs declared ↔
      (Copies.ofBase p.base (s.copies declared)).pair? = some p := by
    rw [pairs, List.mem_filterMap]
    constructor
    · rintro ⟨c, member, paired⟩
      obtain ⟨l, r, -, -, -, rfl⟩ := Copies.pair?_eq_some_iff.1 paired
      rwa [Copies.ofBase_of_mem ordered_copies member]
    · intro paired
      exact ⟨_, (Copies.mem_of_ofBase paired).1, paired⟩
  obtain ⟨base, left, right⟩ := p
  rw [listed, ofBase_copies, Copies.pair?_eq_some_iff]
  simp only [Pair.mk.injEq, true_and]

/-- Pairs are listed by base. -/
theorem pairs_ascending : ((s.pairs declared).map (·.base)).Pairwise (· < ·) := by
  rw [List.pairwise_map, pairs, List.pairwise_filterMap]
  refine (List.pairwise_map.1 ordered_copies).imp fun {a b} less p first q second => ?_
  obtain ⟨_, _, -, -, -, rfl⟩ := Copies.pair?_eq_some_iff.1 first
  obtain ⟨_, _, -, -, -, rfl⟩ := Copies.pair?_eq_some_iff.1 second
  exact less

theorem firstCopy?_eq_some {base : Var} {side : Side} {d : TypedVar}
    (first : s.firstCopy? declared base side = some d) :
    d ∈ declared ∧ s.split? d.var.name = some (base.name, side) :=
  ⟨List.mem_of_find?_eq_some first, by simpa using List.find?_some first⟩

end Scheme

end StateIntern
