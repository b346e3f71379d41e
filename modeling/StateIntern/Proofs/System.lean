import Mathlib.Algebra.Order.Ring.Cast
import StateIntern.Conjunction.System
import StateIntern.Proofs.Forest

/-! Systems and their solutions, which may be integers or fractions. If a system forces two
unknowns to be equal, then every solution makes them so; if it does not, then integers solve it that
differ there. -/
namespace StateIntern

variable {Number : Type} [Ring Number] [LinearOrder Number]

namespace Interval

/-- The number lies between the bounds. -/
def Contains (a : Interval) (v : Number) : Prop :=
  (∀ lower ∈ a.lower, (lower : Number) ≤ v) ∧ ∀ upper ∈ a.upper, v ≤ (upper : Number)

theorem contains_full (v : Number) : full.Contains v := by simp [Contains, full]

theorem eq_of_value? {a : Interval} {k : Int} (single : a.value? = some k) {v : Number}
    (contains : a.Contains v) : v = k := by
  obtain ⟨above, below⟩ := contains
  obtain ⟨_ | lower, _ | upper⟩ := a <;> simp only [value?, reduceCtorEq] at single
  split at single
  next same =>
    cases single
    subst same
    exact le_antisymm (below _ rfl) (above _ rfl)
  next => contradiction

variable [IsStrictOrderedRing Number]

theorem contains_meet_iff {a b : Interval} {v : Number} :
    (a.meet b).Contains v ↔ a.Contains v ∧ b.Contains v := by
  obtain ⟨lowerA, upperA⟩ := a
  obtain ⟨lowerB, upperB⟩ := b
  cases lowerA <;> cases lowerB <;> cases upperA <;> cases upperB <;>
    simp [Contains, meet, Int.cast_max, Int.cast_min] <;> tauto

theorem not_contains_of_isEmpty {a : Interval} (isEmpty : a.isEmpty = true) (v : Number) :
    ¬a.Contains v := by
  rintro ⟨above, below⟩
  obtain ⟨_ | lower, _ | upper⟩ := a <;> simp only [Interval.isEmpty, decide_eq_true_eq,
    Bool.false_eq_true] at isEmpty
  have order : (lower : Number) ≤ upper := (above lower rfl).trans (below upper rfl)
  have order := Int.cast_le.1 order
  omega

theorem exists_contains {a : Interval} (filled : a.isEmpty = false) :
    ∃ v : Int, a.Contains v := by
  refine ⟨(a.lower.or a.upper).getD 0, ?_⟩
  obtain ⟨_ | lower, _ | upper⟩ := a <;> simp_all [Contains, isEmpty]

/-- A number can be avoided unless it is the only one left. -/
theorem exists_contains_ne {a : Interval} {k : Int} (contains : a.Contains k)
    (free : a.value? ≠ some k) : ∃ v : Int, a.Contains v ∧ v ≠ k := by
  by_contra stuck
  have next : ¬a.Contains (k + 1) := fun inside => stuck ⟨_, inside, by omega⟩
  have previous : ¬a.Contains (k - 1) := fun inside => stuck ⟨_, inside, by omega⟩
  obtain ⟨_ | lower, _ | upper⟩ := a <;>
    simp [Contains, value?] at contains free next previous <;> omega

theorem exists_ne {a b : Interval} (filledA : a.isEmpty = false) (filledB : b.isEmpty = false)
    (apart : ∀ k, a.value? = some k → b.value? ≠ some k) :
    ∃ v w : Int, a.Contains v ∧ b.Contains w ∧ v ≠ w := by
  obtain ⟨v, inA⟩ := exists_contains filledA
  obtain ⟨w, inB⟩ := exists_contains filledB
  by_cases same : v = w
  · subst same
    by_cases pinned : a.value? = some v
    · obtain ⟨w, inB, differ⟩ := exists_contains_ne inB (apart v pinned)
      exact ⟨v, w, inA, inB, differ.symm⟩
    · obtain ⟨w, inA, differ⟩ := exists_contains_ne inA pinned
      exact ⟨w, v, inA, inB, differ⟩
  · exact ⟨v, w, inA, inB, same⟩

end Interval

namespace System

variable {n : Nat} {s : System n} {i j : Fin n}

/-- The numbers solve the system. -/
structure Holds (s : System n) (value : Fin n → Number) : Prop where
  equalities : ∀ e ∈ s.equalities, value e.1 = value e.2
  bounds : ∀ b ∈ s.bounds, b.2.Contains (value b.1)

theorem classes_root_eq_iff : s.classes.root i = s.classes.root j ↔
    Relation.EqvGen (fun x y => (x, y) ∈ s.equalities) i j :=
  Forest.root_unions_eq_iff s.equalities i j

theorem Holds.eq_of_root_eq {value : Fin n → Number} (holds : s.Holds value)
    (same : s.classes.root i = s.classes.root j) : value i = value j := by
  have connected := classes_root_eq_iff.1 same
  clear same
  induction connected with
  | rel x y member => exact holds.equalities (x, y) member
  | refl x => rfl
  | symm x y _ ih => exact ih.symm
  | trans x y z _ _ first second => exact first.trans second

variable [IsStrictOrderedRing Number]

theorem contains_ranges_iff (root : Fin n → Fin n) (r : Fin n) (v : Number) :
    ((s.ranges root).get r).Contains v ↔ ∀ b ∈ s.bounds, root b.1 = r → b.2.Contains v := by
  have general (bounds : List (Fin n × Interval)) (ranges : Vector Interval n) :
      ((bounds.foldl (fun ranges b => ranges.set (root b.1) (ranges[root b.1].meet b.2))
        ranges)[r.val]).Contains v ↔
      ranges[r.val].Contains v ∧ ∀ b ∈ bounds, root b.1 = r → b.2.Contains v := by
    induction bounds generalizing ranges with
    | nil => simp
    | cons b rest ih =>
      rw [List.foldl_cons, ih, List.forall_mem_cons, ← and_assoc]
      refine and_congr_left fun _ => ?_
      simp only [Fin.getElem_fin, Vector.getElem_set, ← Fin.ext_iff]
      split
      next here => simp [here, Interval.contains_meet_iff]
      next elsewhere => simp [elsewhere]
  show (s.ranges root)[r.val].Contains v ↔ _
  rw [ranges, general]
  simp [Interval.contains_full]

/-- What the bounds leave to the class with root `r`. Nothing is taken from other positions. -/
def remaining (s : System n) (r : Fin n) : Interval := (s.ranges s.classes.root).get r

theorem classes_root_root (i : Fin n) : s.classes.root (s.classes.root i) = s.classes.root i :=
  (Forest.acyclic_discrete.unions s.equalities).root_root i

theorem Holds.contains_remaining {value : Fin n → Number} (holds : s.Holds value) (r : Fin n) :
    (s.remaining r).Contains (value r) := by
  rw [remaining, contains_ranges_iff]
  intro b member same
  have equal : value b.1 = value r := holds.eq_of_root_eq (by rw [← same, classes_root_root])
  exact equal ▸ holds.bounds b member

theorem Holds.contains_class {value : Fin n → Number} (holds : s.Holds value) (i : Fin n) :
    (s.remaining (s.classes.root i)).Contains (value i) := by
  have equal : value (s.classes.root i) = value i := holds.eq_of_root_eq (classes_root_root i)
  exact equal ▸ holds.contains_remaining (s.classes.root i)

/-- When equality is forced: by a contradiction, by the classes, or by two equal numbers. -/
theorem forcesEqual_iff : s.forcesEqual i j = true ↔
    (∃ r, (s.remaining r).isEmpty = true) ∨ s.classes.root i = s.classes.root j ∨
      ∃ v, (s.remaining (s.classes.root i)).value? = some v ∧
        (s.remaining (s.classes.root j)).value? = some v := by
  have empty : (s.ranges s.classes.root).any Interval.isEmpty = true ↔
      ∃ r, (s.remaining r).isEmpty = true := by
    simp only [Vector.any_eq_true, Fin.exists_iff]
    rfl
  unfold forcesEqual
  simp only [Bool.or_eq_true, beq_iff_eq, empty, or_assoc]
  refine or_congr_right (or_congr_right ?_)
  split
  next v w left right =>
    have left : (s.remaining (s.classes.root i)).value? = some v := left
    have right : (s.remaining (s.classes.root j)).value? = some w := right
    simp only [left, right, Option.some.injEq, beq_iff_eq]
    exact ⟨fun same => ⟨v, rfl, same.symm⟩, fun ⟨_, here, there⟩ => here.trans there.symm⟩
  next missing =>
    simp only [Bool.false_eq_true, false_iff, not_exists, not_and]
    exact fun v left right => missing v v left right

theorem Holds.eq_of_forcesEqual {value : Fin n → Number} (holds : s.Holds value)
    (forced : s.forcesEqual i j = true) : value i = value j := by
  rcases forcesEqual_iff.1 forced with ⟨r, isEmpty⟩ | same | ⟨v, left, right⟩
  · exact absurd (holds.contains_remaining r) (Interval.not_contains_of_isEmpty isEmpty _)
  · exact holds.eq_of_root_eq same
  · rw [Interval.eq_of_value? left (holds.contains_class i),
      Interval.eq_of_value? right (holds.contains_class j)]

/-- A number for each class that its bounds allow solves the system. -/
theorem holds_of_contains_remaining {number : Fin n → Int}
    (allowed : ∀ r, (s.remaining r).Contains (number r)) :
    s.Holds fun i => number (s.classes.root i) where
  equalities e member := by
    have same : s.classes.root e.1 = s.classes.root e.2 := classes_root_eq_iff.2 (.rel _ _ member)
    exact congrArg number same
  bounds b member := (contains_ranges_iff _ _ _).1 (allowed (s.classes.root b.1)) b member rfl

theorem exists_holds_ne (free : s.forcesEqual i j = false) :
    ∃ value : Fin n → Int, s.Holds value ∧ value i ≠ value j := by
  have kept := mt forcesEqual_iff.2 (Bool.eq_false_iff.1 free)
  simp only [not_or, not_exists, Bool.not_eq_true, not_and] at kept
  obtain ⟨filled, differ, apart⟩ := kept
  choose number inside using fun r => Interval.exists_contains (filled r)
  obtain ⟨v, w, inI, inJ, distinct⟩ :=
    Interval.exists_ne (filled (s.classes.root i)) (filled (s.classes.root j)) apart
  let chosen (r : Fin n) : Int :=
    if r = s.classes.root i then v else if r = s.classes.root j then w else number r
  have allowed (r : Fin n) : (s.remaining r).Contains (chosen r) := by
    simp only [chosen]
    split
    next here => exact here ▸ inI
    next =>
      split
      next here => exact here ▸ inJ
      next => exact inside r
  refine ⟨_, holds_of_contains_remaining allowed, ?_⟩
  simpa [chosen, Ne.symm differ] using distinct

end System

end StateIntern
