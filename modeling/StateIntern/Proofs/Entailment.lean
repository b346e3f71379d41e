import Mathlib.Algebra.Order.Ring.Rat
import Mathlib.Data.Int.Cast.Lemmas
import StateIntern.Conjunction.Entailment
import StateIntern.Conjunction.Meaning
import StateIntern.Proofs.System

/-! Forced equality of variables. Where every variable of every constraint is declared, two
variables of one kind are compared, and the answer is the right one. -/
namespace StateIntern

section

variable {Number : Type} [Ring Number] [LinearOrder Number]

theorem Constraint.holds_iff (c : Constraint) (value : Var → Number) :
    c.Holds value ↔ (∀ e, c.equality? = some e → value e.1 = value e.2) ∧
      ∀ b, c.bound? = some b → b.2.Contains (value b.1) := by
  cases c with
  | equals x n =>
    rw [Holds, le_antisymm_iff, and_comm]
    simp [equality?, bound?, Interval.Contains]
  | _ => simp [Holds, equality?, bound?, Interval.Contains]

theorem Constraint.holds_intCast_iff [IsStrictOrderedRing Number] (c : Constraint)
    (value : Var → Int) : c.Holds (fun v => (value v : Number)) ↔ c.Holds value := by
  cases c <;> simp [Holds]

end

namespace Conjunction

variable {s : Conjunction}

/-- Every variable of every constraint is declared. -/
def Closed (s : Conjunction) : Prop := ∀ c ∈ s.constraints, ∀ v ∈ c.vars, v ∈ s.env.map (·.var)

theorem resolve_var (i : Fin s.env.length) : s.resolve (s.env.get i).var = .ok i := by
  have found : s.env.findFinIdx? (·.var == (s.env.get i).var) = some i := by
    refine List.findFinIdx?_eq_some_iff.2 ⟨by simp, fun j before same => ?_⟩
    have differ := List.pairwise_iff_getElem.1 s.distinct j i (by simp) (by simp) before
    exact differ (by simpa using same)
  rw [resolve, found]

theorem exists_place {v : Var} (declared : v ∈ s.env.map (·.var)) :
    ∃ i : Fin s.env.length, (s.env.get i).var = v ∧ s.resolve v = .ok i := by
  obtain ⟨d, member, rfl⟩ := List.mem_map.1 declared
  obtain ⟨i, rfl⟩ := List.mem_iff_get.1 member
  exact ⟨i, rfl, s.resolve_var i⟩

theorem exists_mapM_eq_ok {α β ε : Type} {f : α → Except ε β} {back : β → α} {items : List α}
    (each : ∀ a ∈ items, ∃ b, f a = .ok b ∧ back b = a) :
    ∃ results, items.mapM f = .ok results ∧ results.map back = items := by
  induction items with
  | nil => exact ⟨[], rfl, rfl⟩
  | cons a rest ih =>
    rw [List.forall_mem_cons] at each
    obtain ⟨b, first, same⟩ := each.1
    obtain ⟨results, others, restored⟩ := ih each.2
    refine ⟨b :: results, ?_, by rw [List.map_cons, same, restored]⟩
    rw [List.mapM_cons, first, others]
    rfl

/-- The system has the constraints of the conjunction, over places for names. -/
structure Resolved (s : Conjunction) (system : System s.env.length) : Prop where
  equalities : system.equalities.map (fun e => ((s.env.get e.1).var, (s.env.get e.2).var)) =
    s.constraints.filterMap Constraint.equality?
  bounds : system.bounds.map (fun b => ((s.env.get b.1).var, b.2)) =
    s.constraints.filterMap Constraint.bound?

theorem Closed.exists_system (closed : s.Closed) :
    ∃ system, s.system = .ok system ∧ s.Resolved system := by
  have equalities : ∀ e ∈ s.constraints.filterMap Constraint.equality?,
      ∃ x, s.resolveEquality e = .ok x ∧ ((s.env.get x.1).var, (s.env.get x.2).var) = e := by
    intro e member
    obtain ⟨c, inside, equality⟩ := List.mem_filterMap.1 member
    cases c <;> simp only [Constraint.equality?, reduceCtorEq, Option.some.injEq] at equality
    subst equality
    obtain ⟨i, nameI, placeI⟩ := exists_place (closed _ inside _ (.head _))
    obtain ⟨j, nameJ, placeJ⟩ := exists_place (closed _ inside _ (.tail _ (.head _)))
    refine ⟨(i, j), ?_, by rw [nameI, nameJ]⟩
    simp only [resolveEquality, placeI, placeJ]
    rfl
  have bounds : ∀ b ∈ s.constraints.filterMap Constraint.bound?,
      ∃ x, s.resolveBound b = .ok x ∧ ((s.env.get x.1).var, x.2) = b := by
    intro b member
    obtain ⟨c, inside, bound⟩ := List.mem_filterMap.1 member
    have subject : b.1 ∈ c.vars := by
      cases c <;> simp only [Constraint.bound?, reduceCtorEq, Option.some.injEq] at bound <;>
        subst bound <;> exact .head _
    obtain ⟨i, name, place⟩ := exists_place (closed c inside b.1 subject)
    refine ⟨(i, b.2), ?_, by rw [name]⟩
    simp only [resolveBound, place]
    rfl
  obtain ⟨places, resolved, restored⟩ := exists_mapM_eq_ok equalities
  obtain ⟨ranges, resolved', restored'⟩ := exists_mapM_eq_ok bounds
  refine ⟨⟨places, ranges⟩, ?_, restored, restored'⟩
  simp only [system, resolved, resolved']
  rfl

section Meaning

variable {Number : Type} [Ring Number] [LinearOrder Number]

theorem Resolved.holds_iff {system : System s.env.length} (resolved : s.Resolved system)
    (value : Var → Number) :
    system.Holds (fun i => value (s.env.get i).var) ↔ s.Holds value := by
  have equalities :
      (∀ e ∈ system.equalities, value (s.env.get e.1).var = value (s.env.get e.2).var) ↔
      ∀ c ∈ s.constraints, ∀ e, c.equality? = some e → value e.1 = value e.2 := by
    rw [← List.forall_mem_filterMap, ← resolved.equalities, List.forall_mem_map]
  have bounds : (∀ b ∈ system.bounds, b.2.Contains (value (s.env.get b.1).var)) ↔
      ∀ c ∈ s.constraints, ∀ b, c.bound? = some b → b.2.Contains (value b.1) := by
    rw [← List.forall_mem_filterMap, ← resolved.bounds, List.forall_mem_map]
  simp only [Holds, Constraint.holds_iff, forall_and, ← equalities, ← bounds]
  exact ⟨fun holds => ⟨holds.equalities, holds.bounds⟩, fun holds => ⟨holds.1, holds.2⟩⟩

end Meaning

theorem Closed.entailsEquality_eq_ok (closed : s.Closed) {x y : TypedVar} (memberX : x ∈ s.env)
    (memberY : y ∈ s.env) (kinds : x.kind = y.kind) :
    ∃ system i j, s.Resolved system ∧ s.env.get i = x ∧ s.env.get j = y ∧
      s.entailsEquality x.var y.var = .ok (system.forcesEqual i j) := by
  obtain ⟨i, rfl⟩ := List.mem_iff_get.1 memberX
  obtain ⟨j, rfl⟩ := List.mem_iff_get.1 memberY
  obtain ⟨system, resolution, resolved⟩ := closed.exists_system
  have kinds : s.env[i].kind = s.env[j].kind := kinds
  refine ⟨system, i, j, resolved, rfl, rfl, ?_⟩
  simp only [entailsEquality, resolve_var, resolution, bind, Except.bind, kinds, ne_eq,
    not_true_eq_false, if_false, pure, Except.pure]

/-- Numbers for the variables, from numbers for their places. -/
def valueOf (s : Conjunction) (value : Fin s.env.length → Int) (v : Var) : Int :=
  match s.resolve v with
  | .ok i => value i
  | .error _ => 0

theorem valueOf_var (value : Fin s.env.length → Int) (i : Fin s.env.length) :
    s.valueOf value (s.env.get i).var = value i := by
  rw [valueOf, resolve_var]

theorem Closed.entailsEquality_decides (closed : s.Closed) {x y : TypedVar} (memberX : x ∈ s.env)
    (memberY : y ∈ s.env) (kinds : x.kind = y.kind) :
    ∃ equal, s.entailsEquality x.var y.var = .ok equal ∧
      (equal = false ↔ ∃ value : Var → Int, s.Holds value ∧ value x.var ≠ value y.var) := by
  obtain ⟨system, i, j, resolved, rfl, rfl, answer⟩ :=
    closed.entailsEquality_eq_ok memberX memberY kinds
  refine ⟨_, answer, ?_⟩
  constructor
  · intro free
    obtain ⟨number, holds, differ⟩ := System.exists_holds_ne free
    refine ⟨s.valueOf number, (resolved.holds_iff _).1 ?_, ?_⟩
    · simpa only [valueOf_var] using holds
    · simpa only [valueOf_var] using differ
  · rintro ⟨value, holds, differ⟩
    by_contra forced
    exact differ (((resolved.holds_iff value).2 holds).eq_of_forcesEqual (by simpa using forced))

theorem Closed.entailsEquality_eq_true_iff {Number : Type} [Ring Number] [LinearOrder Number]
    [IsStrictOrderedRing Number] (closed : s.Closed) {x y : TypedVar} (memberX : x ∈ s.env)
    (memberY : y ∈ s.env) (kinds : x.kind = y.kind) :
    s.entailsEquality x.var y.var = .ok true ↔
      ∀ value : Var → Number, s.Holds value → value x.var = value y.var := by
  constructor
  · intro found value holds
    obtain ⟨system, i, j, resolved, rfl, rfl, answer⟩ :=
      closed.entailsEquality_eq_ok memberX memberY kinds
    rw [answer] at found
    exact ((resolved.holds_iff value).2 holds).eq_of_forcesEqual (Except.ok.inj found)
  · intro forced
    obtain ⟨equal, answer, decides⟩ := closed.entailsEquality_decides memberX memberY kinds
    cases equal with
    | true => exact answer
    | false =>
      obtain ⟨value, holds, differ⟩ := decides.1 rfl
      have holds : s.Holds fun v => (value v : Number) := fun c member =>
        (c.holds_intCast_iff value).2 (holds c member)
      exact absurd (Int.cast_injective (forced _ holds)) differ

/-- The comparison of two declared variables of one kind is answered. They are found equal exactly
where all fractions that satisfy the conjunction make them so, which includes the case that none
do, and otherwise there are integers that satisfy it and differ. -/
theorem Closed.entailsEquality_iff_forall_rat (closed : s.Closed) {x y : TypedVar}
    (memberX : x ∈ s.env) (memberY : y ∈ s.env) (kinds : x.kind = y.kind) :
    (∃ equal, s.entailsEquality x.var y.var = .ok equal) ∧
    (s.entailsEquality x.var y.var = .ok true ↔
      ∀ value : Var → ℚ, s.Holds value → value x.var = value y.var) ∧
    (s.entailsEquality x.var y.var = .ok false ↔
      ∃ value : Var → Int, s.Holds value ∧ value x.var ≠ value y.var) := by
  obtain ⟨equal, answer, decides⟩ := closed.entailsEquality_decides memberX memberY kinds
  refine ⟨⟨equal, answer⟩, closed.entailsEquality_eq_true_iff memberX memberY kinds, ?_⟩
  rw [answer, Except.ok.injEq]
  exact decides

/-- Two bounds pin one variable, an equality with a constant another one. A third variable with one
of the bounds is free. -/
theorem Closed.entailsEquality_pinned :
    let s : Conjunction := .ofLists [⟨⟨"x"⟩, .int⟩, ⟨⟨"y"⟩, .int⟩, ⟨⟨"z"⟩, .int⟩]
      [.atLeast ⟨"x"⟩ 1, .equals ⟨"y"⟩ 1, .atMost ⟨"x"⟩ 1, .atMost ⟨"z"⟩ 1]
    s.Closed ∧
    (∀ value : Var → ℚ, s.Holds value → value ⟨"x"⟩ = value ⟨"y"⟩) ∧
    ∃ value : Var → Int, s.Holds value ∧ value ⟨"x"⟩ ≠ value ⟨"z"⟩ := by
  intro s
  have closed : s.Closed := by
    unfold Closed
    decide +kernel
  have x : (⟨⟨"x"⟩, .int⟩ : TypedVar) ∈ s.env := by decide +kernel
  have y : (⟨⟨"y"⟩, .int⟩ : TypedVar) ∈ s.env := by decide +kernel
  have z : (⟨⟨"z"⟩, .int⟩ : TypedVar) ∈ s.env := by decide +kernel
  obtain ⟨-, pinned, -⟩ := closed.entailsEquality_iff_forall_rat x y rfl
  obtain ⟨-, -, free⟩ := closed.entailsEquality_iff_forall_rat x z rfl
  have same : s.entailsEquality ⟨"x"⟩ ⟨"y"⟩ = .ok true := by decide +kernel
  have apart : s.entailsEquality ⟨"x"⟩ ⟨"z"⟩ = .ok false := by decide +kernel
  exact ⟨closed, pinned.1 same, free.1 apart⟩

end Conjunction

end StateIntern
