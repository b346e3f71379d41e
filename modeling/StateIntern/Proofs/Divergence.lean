import StateIntern.Conjunction.Engine
import StateIntern.Proofs.Copies
import StateIntern.Proofs.Entailment
import StateIntern.Proofs.Interning
import StateIntern.Proofs.Key
import StateIntern.Proofs.Soundness

/-! Which variables diverge. A conjunction that has been stored could be printed, so all its
variables are declared and no query on it fails; the divergent variables are the bases of the pairs
that some integers tell apart. -/
namespace StateIntern

namespace Engine

variable {World State Fault : Type} {engine : Engine World State Fault} {state : State}

theorem differing_eq_ok {pairs : List Pair} {Differs : Pair → Prop}
    (decided : ∀ p ∈ pairs, ∃ equal,
      (∀ world, (engine.entailsEquality state p.left p.right world).1 = .ok equal) ∧
        (equal = false ↔ Differs p)) :
    ∃ vars, (∀ world, (engine.differing state pairs world).1 = .ok vars) ∧
      ∀ b, b ∈ vars ↔ ∃ p ∈ pairs, p.base = b ∧ Differs p := by
  induction pairs with
  | nil => exact ⟨[], fun _ => rfl, by simp⟩
  | cons p rest ih =>
    rw [List.forall_mem_cons] at decided
    obtain ⟨equal, answers, differs⟩ := decided.1
    obtain ⟨vars, others, members⟩ := ih decided.2
    refine ⟨if equal then vars else p.base :: vars, fun world => ?_, fun b => ?_⟩
    · have first := answers world
      unfold differing
      rcases call : engine.entailsEquality state p.left p.right world with ⟨answer, after⟩
      have second := others after
      rcases tail : engine.differing state rest after with ⟨found, last⟩
      rw [call] at first
      rw [tail] at second
      subst first second
      simp only [tail]
    · cases equal <;> simp [← differs, members, eq_comm]

theorem divergentVars_eq_ok {scheme : Scheme} {declared : List TypedVar} {vars : List Var}
    (declares : ∀ world, (engine.declared state world).1 = .ok declared)
    (answers : ∀ world, (engine.differing state (scheme.pairs declared) world).1 = .ok vars)
    (world : World) : (engine.divergentVars scheme state world).1 = .ok (.ofList vars) := by
  have first := declares world
  unfold divergentVars pairsOf
  rcases call : engine.declared state world with ⟨answer, after⟩
  have second := answers after
  rcases search : engine.differing state (scheme.pairs declared) after with ⟨found, last⟩
  rw [call] at first
  rw [search] at second
  subst first second
  simp only [search]

end Engine

namespace Conjunction

variable {s : Conjunction}

theorem closed_of_printable (printable : s.printFault? = none) : s.Closed :=
  (printFault?_eq_none_iff.1 printable).2

/-- The first copies of the base are declared on both sides, with one kind, and integers that
satisfy the conjunction tell them apart. -/
def Diverges (scheme : Scheme) (s : Conjunction) (base : Var) : Prop :=
  ∃ l r, scheme.firstCopy? s.env base .left = some l ∧
    scheme.firstCopy? s.env base .right = some r ∧ l.kind = r.kind ∧
    ∃ value : Var → Int, s.Holds value ∧ value l.var ≠ value r.var

theorem diverges_iff_exists_pair {scheme : Scheme} {base : Var} : s.Diverges scheme base ↔
    ∃ p ∈ scheme.pairs s.env, p.base = base ∧
      ∃ value : Var → Int, s.Holds value ∧ value p.left ≠ value p.right := by
  constructor
  · rintro ⟨l, r, left, right, kinds, value, holds, differ⟩
    exact ⟨⟨base, l.var, r.var⟩, Scheme.mem_pairs_iff.2 ⟨l, r, left, right, kinds, rfl, rfl⟩, rfl,
      value, holds, differ⟩
  · rintro ⟨p, member, rfl, value, holds, differ⟩
    obtain ⟨l, r, left, right, kinds, nameL, nameR⟩ := Scheme.mem_pairs_iff.1 member
    exact ⟨l, r, left, right, kinds, value, holds, by rwa [← nameL, ← nameR]⟩

theorem Closed.divergentVars_eq_ok (closed : s.Closed) (World : Type) (scheme : Scheme) :
    ∃ vars, (∀ world : World, (engine.divergentVars scheme s world).1 = .ok vars) ∧
      ∀ b, b ∈ vars ↔ s.Diverges scheme b := by
  have decided : ∀ p ∈ scheme.pairs s.env, ∃ equal,
      (∀ world : World, (engine.entailsEquality s p.left p.right world).1 = .ok equal) ∧
        (equal = false ↔ ∃ value : Var → Int, s.Holds value ∧ value p.left ≠ value p.right) := by
    intro p member
    obtain ⟨l, r, left, right, kinds, nameL, nameR⟩ := Scheme.mem_pairs_iff.1 member
    obtain ⟨equal, answer, decides⟩ := closed.entailsEquality_decides
      (Scheme.firstCopy?_eq_some left).1 (Scheme.firstCopy?_eq_some right).1 kinds
    rw [nameL, nameR]
    exact ⟨equal, fun _ => answer, decides⟩
  obtain ⟨vars, answers, members⟩ := Engine.differing_eq_ok decided
  refine ⟨.ofList vars, Engine.divergentVars_eq_ok (fun _ => rfl) answers, fun b => ?_⟩
  rw [VarSet.mem_ofList, members, diverges_iff_exists_pair]

end Conjunction

namespace Cache

variable {World : Type}

/-- No query on an interned conjunction fails, and the divergent variables are those whose copies
are told apart by integers that satisfy it. -/
theorem run_divergent_iff (owner : Nat) (scheme : Scheme) (world : World)
    (operations : List (Operation Conjunction)) (x : Interning Conjunction)
    (interned : x ∈ (new owner scheme world).history Conjunction.engine operations) :
    let last := ((new owner scheme world).run Conjunction.engine operations).cache
    ∃ entry common divergent, x.handle.stored? = some entry ∧
      (last.query Conjunction.engine .common x.handle).answer = .ok common ∧
      (last.query Conjunction.engine .divergent x.handle).answer = .ok divergent ∧
      ∀ b, b ∈ divergent ↔ entry.state.Diverges scheme b := by
  intro last
  have start : Sound Conjunction.engine (new owner scheme world) := new_sound owner scheme world
  have sound : Sound Conjunction.engine last := start.run operations
  have placed : Placed _ _ last := run_placed start.valid operations
  obtain ⟨entry, held, -, found⟩ := placed.handles x interned
  have owned : last.owner = owner := placed.owner
  have schemed : last.scheme = scheme := run_scheme _ _ _
  have resolved : last.Resolves x.handle entry := ⟨entry, by rw [held, owned]; rfl, found⟩
  obtain ⟨_, text, printed, -⟩ := sound.keyed entry (Registry.mem_toList_of_get? found)
  have closed := Conjunction.closed_of_printable (Conjunction.print_eq_ok_iff.1 printed).1
  obtain ⟨divergent, derives, diverges⟩ := closed.divergentVars_eq_ok World scheme
  refine ⟨entry, _, divergent, by rw [held]; rfl, sound.query_answer resolved fun _ => rfl,
    sound.query_answer resolved ?_, diverges⟩
  rw [schemed]
  exact derives

theorem run_divergent_shared_bound :
    let bounded : Conjunction := .ofLists [⟨⟨"x_L"⟩, .int⟩, ⟨⟨"x_R"⟩, .int⟩] [.atLeast ⟨"x_L"⟩ 0]
    let x : Interning Conjunction :=
      ⟨bounded, "x#0 >= 0", .held 0 ⟨⟨1⟩, "x#0 >= 0", bounded⟩⟩
    let start : Cache Unit Conjunction := new 0 .standard ()
    let last := (start.run Conjunction.engine [.intern bounded]).cache
    x ∈ start.history Conjunction.engine [.intern bounded] ∧
    ∃ divergent, (last.query Conjunction.engine .divergent x.handle).answer = .ok divergent ∧
      ⟨"x"⟩ ∈ divergent := by
  intro bounded x start last
  have printable : bounded.printFault? = none := by decide +kernel
  have key : start.scheme.normalize bounded.text = "x#0 >= 0" := by decide +kernel
  have canonical := start.canonicalize_printable printable
  rw [key] at canonical
  have interned : x ∈ start.history Conjunction.engine [.intern bounded] := by
    rw [history, interningsOf, interningsAll_of_ok canonical]
    exact List.mem_cons_self
  obtain ⟨entry, common, divergent, stored, -, answer, diverges⟩ :=
    run_divergent_iff 0 .standard () [.intern bounded] x interned
  refine ⟨interned, divergent, answer, (diverges _).2 ?_⟩
  cases stored
  refine ⟨⟨⟨"x_L"⟩, .int⟩, ⟨⟨"x_R"⟩, .int⟩, by decide +kernel, by decide +kernel, rfl,
    fun v => if v = ⟨"x_L"⟩ then 1 else 0, ?_, by decide⟩
  have constraints : bounded.constraints = [.atLeast ⟨"x_L"⟩ 0] := by decide +kernel
  simp [Conjunction.Holds, constraints, Constraint.Holds]

end Cache

end StateIntern
