import StateIntern.Proofs.Shape
import StateIntern.Proofs.Sharing

/-! Solutions of states under one key. What diverges is known from the environment and the
solutions. The constraints of such states differ only in which variable of one form stands at a
place, so the solutions are the same if both states make the variables of each place equal. -/
namespace StateIntern

open Text

variable {a b : Conjunction} {scheme : Scheme}

namespace Constraint.Matches

variable {R : Var → Var → Prop} {c d : Constraint}

theorem length_vars_eq (matched : c.Matches R d) : c.vars.length = d.vars.length := by
  cases c <;> cases d <;> first | rfl | contradiction

theorem holds_iff (matched : c.Matches R d) {value : Var → Int}
    (equal : ∀ p ∈ c.vars.zip d.vars, value p.1 = value p.2) : c.Holds value ↔ d.Holds value := by
  cases c <;> cases d <;> simp only [Matches] at matched <;>
    simp only [vars, List.zip_cons_cons, List.zip_nil_left, List.forall_mem_cons] at equal <;>
    simp only [Holds, equal, matched]

end Constraint.Matches

namespace Conjunction

theorem holds_iff_of_matches {value : Var → Int}
    (matched : List.Forall₂ (Constraint.Matches scheme.SameForm) a.constraints b.constraints)
    (equal : ∀ p ∈ a.vars.zip b.vars, value p.1 = value p.2) : a.Holds value ↔ b.Holds value := by
  unfold Conjunction.vars at equal
  unfold Holds
  generalize a.constraints = cs at matched equal
  generalize b.constraints = ds at matched equal
  induction matched with
  | nil => simp
  | @cons c d cs ds first _ ih =>
    rw [List.flatMap_cons, List.flatMap_cons, List.zip_append first.length_vars_eq,
      List.forall_mem_append] at equal
    rw [List.forall_mem_cons, List.forall_mem_cons]
    exact and_congr (first.holds_iff equal.1) (ih equal.2)

theorem diverges_iff_of_solutions (envs : a.env = b.env)
    (solutions : ∀ value : Var → Int, a.Holds value ↔ b.Holds value) (base : Var) :
    a.Diverges scheme base ↔ b.Diverges scheme base := by
  simp only [Diverges, envs, solutions]

end Conjunction

namespace Cache

variable {World : Type}

/-- Sharing is right about the divergent variables of states with one environment if each of them
makes the variables equal that stand at one place of both. -/
theorem run_divergent_of_equal_copies (owner : Nat) (world : World) {key : String}
    (envs : a.env = b.env)
    (keyA : ((new owner .standard world : Cache World Conjunction).canonicalize
      Conjunction.engine a).answer = .ok key)
    (keyB : ((new owner .standard world : Cache World Conjunction).canonicalize
      Conjunction.engine b).answer = .ok key)
    (readA : ∀ v ∈ a.vars, Scheme.standard.Readable v)
    (readB : ∀ v ∈ b.vars, Scheme.standard.Readable v)
    (equal : ∀ value : Var → Int, a.Holds value ∨ b.Holds value →
      ∀ p ∈ a.vars.zip b.vars, value p.1 = value p.2) :
    let start : Cache World Conjunction := new owner .standard world
    ∃ divergent, start.internAndQuery Conjunction.engine .divergent a = .ok divergent ∧
      start.internAndQuery Conjunction.engine .divergent b = .ok divergent ∧
      (∀ base, base ∈ divergent ↔ b.Diverges .standard base) ∧
      ∀ operations, (∀ first ∈ Interning.first? (start.history Conjunction.engine operations) key,
          first = a ∨ first = b) →
        ∀ s, s = a ∨ s = b → (start.run Conjunction.engine operations).cache.internAndQuery
          Conjunction.engine .divergent s = .ok divergent := by
  intro start
  have matched : List.Forall₂ (Constraint.Matches Scheme.standard.SameForm)
      a.constraints b.constraints := by
    obtain ⟨-, normalA⟩ := start.canonicalize_conjunction_iff.1 keyA
    obtain ⟨-, normalB⟩ := start.canonicalize_conjunction_iff.1 keyB
    exact Conjunction.matches_of_normalize_text_eq Scheme.standard_keepsNumbers.separatesNumbers
      readA readB (normalA.trans normalB.symm)
  have solutions (value : Var → Int) : a.Holds value ↔ b.Holds value := by
    constructor
    · intro holds
      exact (Conjunction.holds_iff_of_matches matched (equal value (.inl holds))).1 holds
    · intro holds
      exact (Conjunction.holds_iff_of_matches matched (equal value (.inr holds))).2 holds
  obtain ⟨divergent, members, agree⟩ := run_agrees owner .standard world
    (Conjunction.Diverges .standard)
    (fun operations _ => run_divergent owner .standard world operations) keyA keyB
    (Conjunction.diverges_iff_of_solutions envs solutions)
  have fresh := agree [] fun first came => absurd came (Option.not_mem_none first)
  exact ⟨divergent, fresh a (.inl rfl), fresh b (.inr rfl), members, agree⟩

/-- The second state bounds the other of two copies that both states make equal. -/
theorem run_divergent_equal_left_copies :
    let env : List TypedVar := [⟨⟨"x_L"⟩, .int⟩, ⟨⟨"x_A"⟩, .int⟩, ⟨⟨"x_R"⟩, .int⟩]
    let a : Conjunction := .ofLists env [.same ⟨"x_L"⟩ ⟨"x_A"⟩, .atLeast ⟨"x_L"⟩ 0]
    let b : Conjunction := .ofLists env [.same ⟨"x_L"⟩ ⟨"x_A"⟩, .atLeast ⟨"x_A"⟩ 0]
    let start : Cache Unit Conjunction := new 0 .standard ()
    let last := (start.run Conjunction.engine [.intern a]).cache
    a.env = b.env ∧
    (start.canonicalize Conjunction.engine a).answer = .ok "x#0 = x#0 /\\ x#0 >= 0" ∧
    (start.canonicalize Conjunction.engine b).answer = .ok "x#0 = x#0 /\\ x#0 >= 0" ∧
    ∃ divergent, ⟨"x"⟩ ∈ divergent ∧
      start.internAndQuery Conjunction.engine .divergent a = .ok divergent ∧
      start.internAndQuery Conjunction.engine .divergent b = .ok divergent ∧
      last.internAndQuery Conjunction.engine .divergent b = .ok divergent := by
  intro env a b start last
  have envs : a.env = b.env := by decide +kernel
  have keyA : (start.canonicalize Conjunction.engine a).answer =
      .ok "x#0 = x#0 /\\ x#0 >= 0" := by decide +kernel
  have keyB : (start.canonicalize Conjunction.engine b).answer =
      .ok "x#0 = x#0 /\\ x#0 >= 0" := by decide +kernel
  have first : Interning.first? (start.history Conjunction.engine [.intern a])
      "x#0 = x#0 /\\ x#0 >= 0" = some a := by decide +kernel
  have varsA : a.vars = [⟨"x_L"⟩, ⟨"x_A"⟩, ⟨"x_L"⟩] := by decide +kernel
  have varsB : b.vars = [⟨"x_L"⟩, ⟨"x_A"⟩, ⟨"x_A"⟩] := by decide +kernel
  have constraintsA : a.constraints = [.same ⟨"x_L"⟩ ⟨"x_A"⟩, .atLeast ⟨"x_L"⟩ 0] := by
    decide +kernel
  have constraintsB : b.constraints = [.same ⟨"x_L"⟩ ⟨"x_A"⟩, .atLeast ⟨"x_A"⟩ 0] := by
    decide +kernel
  have readA : ∀ v ∈ a.vars, Scheme.standard.Readable v := by
    have plain : ∀ v ∈ a.vars, SignFree v.name.toList ∧
        v.name.toList.any (fun c => c != '-' && !c.isDigit) = true := by decide +kernel
    exact fun v member => Scheme.standard_keepsNumbers.readable_of_any (plain v member)
  have readB : ∀ v ∈ b.vars, Scheme.standard.Readable v := by
    have plain : ∀ v ∈ b.vars, SignFree v.name.toList ∧
        v.name.toList.any (fun c => c != '-' && !c.isDigit) = true := by decide +kernel
    exact fun v member => Scheme.standard_keepsNumbers.readable_of_any (plain v member)
  have equal (value : Var → Int) (holds : a.Holds value ∨ b.Holds value) :
      ∀ p ∈ a.vars.zip b.vars, value p.1 = value p.2 := by
    have copies : value ⟨"x_L"⟩ = value ⟨"x_A"⟩ := by
      rcases holds with holds | holds
      · exact holds (.same ⟨"x_L"⟩ ⟨"x_A"⟩) (constraintsA ▸ .head _)
      · exact holds (.same ⟨"x_L"⟩ ⟨"x_A"⟩) (constraintsB ▸ .head _)
    simp [varsA, varsB, copies]
  obtain ⟨divergent, answerA, answerB, diverges, agree⟩ :=
    run_divergent_of_equal_copies 0 () envs keyA keyB readA readB equal
  have shared := agree [.intern a]
    (fun other came => .inl (Option.some.inj (came.symm.trans first))) b (.inr rfl)
  refine ⟨envs, keyA, keyB, divergent, (diverges _).2 ?_, answerA, answerB, shared⟩
  refine ⟨⟨⟨"x_L"⟩, .int⟩, ⟨⟨"x_R"⟩, .int⟩, by decide +kernel, by decide +kernel, rfl,
    fun v => if v = ⟨"x_R"⟩ then 1 else 0, ?_, by decide⟩
  simp [Conjunction.Holds, constraintsB, Constraint.Holds]

/-- Otherwise the key hides which copy a state is about, or a name is taken for a number or for
constraints. -/
theorem divergent_of_unlike_solutions :
    let copies : List TypedVar := [⟨⟨"x_L"⟩, .int⟩, ⟨⟨"x_A"⟩, .int⟩, ⟨⟨"x_R"⟩, .int⟩]
    let a : Conjunction := .ofLists copies [.same ⟨"x_L"⟩ ⟨"x_R"⟩]
    let b : Conjunction := .ofLists copies [.same ⟨"x_A"⟩ ⟨"x_R"⟩]
    let numbers : List TypedVar := [⟨⟨"x_L"⟩, .int⟩, ⟨⟨"x_R"⟩, .int⟩, ⟨⟨"3"⟩, .int⟩]
    let valued : Conjunction := .ofLists numbers [.equals ⟨"x_L"⟩ 3, .equals ⟨"x_R"⟩ 3]
    let named : Conjunction := .ofLists numbers [.equals ⟨"x_L"⟩ 3, .same ⟨"x_R"⟩ ⟨"3"⟩]
    let signs : List TypedVar :=
      [⟨⟨"x_L"⟩, .int⟩, ⟨⟨"x_R"⟩, .int⟩, ⟨⟨"y"⟩, .int⟩, ⟨⟨"x_R /\\ y >= 0"⟩, .int⟩]
    let plain : Conjunction := .ofLists signs [.same ⟨"x_L"⟩ ⟨"x_R"⟩, .atLeast ⟨"y"⟩ 0]
    let signed : Conjunction := .ofLists signs [.same ⟨"x_L"⟩ ⟨"x_R /\\ y >= 0"⟩]
    let start : Cache Unit Conjunction := new 0 .standard ()
    ∀ p ∈ [(a, b, "x#0 = x#1"), (valued, named, "x#0 = 3 /\\ x#1 = 3"),
        (plain, signed, "x#0 = x#1 /\\ y >= 0")],
      let last := (start.run Conjunction.engine [.intern p.1]).cache
      p.1.env = p.2.1.env ∧
      (start.canonicalize Conjunction.engine p.1).answer = .ok p.2.2 ∧
      (start.canonicalize Conjunction.engine p.2.1).answer = .ok p.2.2 ∧
      start.internAndQuery Conjunction.engine .divergent p.1 = .ok .empty ∧
      start.internAndQuery Conjunction.engine .divergent p.2.1 = .ok (.ofList [⟨"x"⟩]) ∧
      last.internAndQuery Conjunction.engine .divergent p.2.1 = .ok .empty ∧
      VarSet.ofList [⟨"x"⟩] ≠ .empty := by
  decide +kernel

end Cache

end StateIntern
