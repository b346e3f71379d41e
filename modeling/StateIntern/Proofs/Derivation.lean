import StateIntern.Cache.Property
import StateIntern.Engine.Faults
import StateIntern.Engine.Listing

/-! How a property comes about: which calls an engine has answered on the way to it, and which call
it has failed in. An engine that never changes its mind gives each state one value for each
property, however often its calls fail in between. -/
namespace StateIntern

variable {World State Fault : Type}

namespace Engine

/-- The pairs are compared in their order, every comparison is answered, and the calls lead from
one world to the other. -/
inductive Compares (engine : Engine World State Fault) (state : State) :
    List Pair → List Bool → World → World → Prop where
  | nil : engine.Compares state [] [] world world
  | cons : engine.entailsEquality state p.left p.right world = (.ok equal, middle) →
      engine.Compares state rest answers middle after →
      engine.Compares state (p :: rest) (equal :: answers) world after

/-- Calls that succeed give these answers in every world. Any call may fail at any time. -/
structure Answers (engine : Engine World State Fault) (env : State → List TypedVar)
    (equal : State → Var → Var → Bool) : Prop where
  declares : ∀ state world answer,
    (engine.declared state world).1 = .ok answer → answer = env state
  decides : ∀ state a b world answer,
    (engine.entailsEquality state a b world).1 = .ok answer → answer = equal state a b

def unequal (pairs : List Pair) (answers : List Bool) : List Var :=
  ((pairs.zip answers).filter (!·.2)).map (·.1.base)

end Engine

/-- The value of a property as it follows from the key, the environment and the forced equalities
alone. -/
def Property.direct (scheme : Scheme) (key : String) (env : List TypedVar)
    (equal : Var → Var → Bool) : (property : Property) → property.Value
  | .text => key
  | .common => .ofList ((scheme.pairs env).map (·.base))
  | .divergent => .ofList (((scheme.pairs env).filter fun p => !equal p.left p.right).map (·.base))

variable {engine : Engine World State Fault} {scheme : Scheme} {state : State}
  {entry : Entry State} {property : Property} {world middle after : World} {cause : Fault}

namespace Engine

variable {pairs before rest : List Pair} {p : Pair} {answers : List Bool}

theorem differing_of_compares (compares : engine.Compares state pairs answers world after) :
    engine.differing state pairs world = (.ok (unequal pairs answers), after) := by
  induction compares with
  | nil => rfl
  | @cons world middle equal rest answers after p call _ ih =>
    simp only [differing, call, ih]
    cases equal <;> rfl

theorem differing_of_failure (compares : engine.Compares state before answers world middle)
    (failure : engine.entailsEquality state p.left p.right middle = (.error cause, after)) :
    engine.differing state (before ++ p :: rest) world = (.error cause, after) := by
  induction compares with
  | nil => simp only [List.nil_append, differing, failure]
  | cons call _ ih => simp only [List.cons_append, differing, call, ih failure]

theorem compares_or_fails (engine : Engine World State Fault) (state : State) (pairs : List Pair)
    (world : World) :
    (∃ answers after, engine.Compares state pairs answers world after) ∨
    (∃ before p rest answers middle cause after, pairs = before ++ p :: rest ∧
      engine.Compares state before answers world middle ∧
      engine.entailsEquality state p.left p.right middle = (.error cause, after)) := by
  induction pairs generalizing world with
  | nil => exact .inl ⟨[], world, .nil⟩
  | cons p rest ih =>
    rcases call : engine.entailsEquality state p.left p.right world with ⟨cause | equal, middle⟩
    · exact .inr ⟨[], p, rest, [], world, cause, middle, rfl, .nil, call⟩
    · obtain ⟨answers, after, compares⟩ |
        ⟨before, q, rest, answers, last, cause, after, rfl, compares, failure⟩ := ih middle
      · exact .inl ⟨equal :: answers, after, .cons call compares⟩
      · exact .inr ⟨p :: before, q, rest, equal :: answers, last, cause, after, rfl,
          .cons call compares, failure⟩

end Engine

open Engine

namespace Faults

variable {α : Type} {method : Method} {ask : World → Except Fault α × World} {f : Faults World}
  {answer : α}

theorem answer_of_usual (given : (usual ask f).1 = .ok answer) : (ask f.world).1 = .ok answer := by
  simp only [usual] at given
  rcases call : ask f.world with ⟨fault | found, next⟩ <;> rw [call] at given <;> cases given
  rfl

theorem exists_of_attempt (given : (attempt method ask f).1 = .ok answer) :
    ∃ world, (ask world).1 = .ok answer := by
  unfold attempt at given
  split at given
  · exact ⟨_, answer_of_usual given⟩
  · contradiction
  · exact ⟨_, answer_of_usual given⟩

end Faults

namespace Engine.Answers

variable {env : State → List TypedVar} {equal : State → Var → Var → Bool}

theorem unequal (answers : engine.Answers env equal) {pairs : List Pair} {found : List Bool}
    (compares : engine.Compares state pairs found world after) :
    Engine.unequal pairs found =
      (pairs.filter fun p => !equal state p.left p.right).map (·.base) := by
  induction compares with
  | nil => rfl
  | @cons world middle verdict rest found after p call _ ih =>
    have same := answers.decides state p.left p.right world verdict (by rw [call])
    simp only [Engine.unequal] at ih
    rw [Engine.unequal, List.zip_cons_cons, List.filter_cons, List.filter_cons, ← same]
    cases verdict <;> simp [ih]

theorem derive (answers : engine.Answers env equal) {value : property.Value}
    (derived : (property.derive engine scheme entry world).1 = .ok value) :
    value = property.direct scheme entry.key (env entry.state) (equal entry.state) := by
  cases property with
  | text => exact (Except.ok.inj derived).symm
  | common =>
    simp only [Property.derive, commonVars, pairsOf] at derived
    rcases call : engine.declared entry.state world with ⟨fault | found, next⟩ <;>
      rw [call] at derived <;> cases derived
    rw [answers.declares entry.state world found (by rw [call])]
    rfl
  | divergent =>
    simp only [Property.derive, divergentVars, pairsOf] at derived
    rcases call : engine.declared entry.state world with ⟨fault | found, next⟩ <;>
      simp only [call] at derived
    · contradiction
    · obtain ⟨comparisons, last, compares⟩ |
        ⟨before, p, rest, comparisons, middle, fault, last, split, compares, failure⟩ :=
        engine.compares_or_fails entry.state (scheme.pairs found) next
      · rw [differing_of_compares compares] at derived
        cases derived
        rw [answers.unequal compares, answers.declares entry.state world found (by rw [call])]
        rfl
      · rw [split, differing_of_failure compares failure] at derived
        contradiction

theorem faulty (answers : engine.Answers env equal) : engine.faulty.Answers env equal where
  declares state _ answer given :=
    have ⟨world, answered⟩ := Faults.exists_of_attempt given
    answers.declares state world answer answered
  decides state a b _ answer given :=
    have ⟨world, answered⟩ := Faults.exists_of_attempt given
    answers.decides state a b world answer answered

end Engine.Answers

theorem Listing.engine_answers :
    (Listing.engine : Engine World Listing Fault).Answers (·.declared)
      fun s a b => decide ((a, b) ∈ s.equalities) where
  declares _ _ _ answered := (Except.ok.inj answered).symm
  decides _ _ _ _ _ answered := (Except.ok.inj answered).symm

end StateIntern
