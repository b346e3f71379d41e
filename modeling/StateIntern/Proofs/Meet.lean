import StateIntern.Proofs.Comparison
import StateIntern.Proofs.Merge
import StateIntern.Proofs.Sharing

/-! Meets of conjunctions. A meet has the declarations of its left operand first and the solutions
that both operands share, so a variable whose copies are equal in the left operand keeps equal
copies. The order of the operands counts where they differ in the kind of a name, and nowhere
else. -/
namespace StateIntern

theorem Scheme.firstCopy?_append {scheme : Scheme} {declared more : List TypedVar} {base : Var}
    {side : Side} {d : TypedVar} (first : scheme.firstCopy? declared base side = some d) :
    scheme.firstCopy? (declared ++ more) base side = some d := by
  unfold firstCopy? at first ⊢
  rw [List.find?_append, first, Option.some_or]

namespace Conjunction

variable {s t : Conjunction}

theorem holds_meet_iff {Number : Type} [LE Number] [IntCast Number] {value : Var → Number} :
    (s.meet t).Holds value ↔ s.Holds value ∧ t.Holds value := by
  simp only [Holds, mem_constraints_meet, or_imp, forall_and]

section Copies

variable {scheme : Scheme} {base : Var}

theorem paired_meet (paired : scheme.Paired s.env base) :
    scheme.Paired (s.meet t).env base := by
  obtain ⟨l, r, left, right, kinds⟩ := paired
  rw [env_meet]
  exact ⟨l, r, Scheme.firstCopy?_append left, Scheme.firstCopy?_append right, kinds⟩

theorem Diverges.of_meet (diverges : (s.meet t).Diverges scheme base)
    (paired : scheme.Paired s.env base) : s.Diverges scheme base := by
  obtain ⟨l, r, left, right, kinds⟩ := paired
  obtain ⟨l', r', left', right', -, value, holds, differ⟩ := diverges
  rw [env_meet] at left' right'
  cases left'.symm.trans (Scheme.firstCopy?_append left)
  cases right'.symm.trans (Scheme.firstCopy?_append right)
  exact ⟨l, r, left, right, kinds, value, (holds_meet_iff.1 holds).1, differ⟩

end Copies

section Comparison

variable {x y : Var}

/-- A comparison follows from what is declared and from the solutions. The order of declarations
and of constraints does not count. -/
theorem Closed.entailsEquality_congr (closedS : s.Closed) (closedT : t.Closed)
    (declared : ∀ d, d ∈ s.env ↔ d ∈ t.env)
    (solutions : ∀ value : Var → Int, s.Holds value ↔ t.Holds value) :
    s.entailsEquality x y = t.entailsEquality x y := by
  have names (v : Var) : v ∈ s.env.map (·.var) ↔ v ∈ t.env.map (·.var) := by
    simp only [List.mem_map, declared]
  by_cases knownX : x ∈ s.env.map (·.var)
  case neg =>
    rw [entailsEquality_left knownX, entailsEquality_left (mt (names x).2 knownX)]
  by_cases knownY : y ∈ s.env.map (·.var)
  case neg =>
    rw [entailsEquality_right knownX knownY,
      entailsEquality_right ((names x).1 knownX) (mt (names y).2 knownY)]
  obtain ⟨d, memberD, rfl⟩ := List.mem_map.1 knownX
  obtain ⟨e, memberE, rfl⟩ := List.mem_map.1 knownY
  have memberD' := (declared d).1 memberD
  have memberE' := (declared e).1 memberE
  by_cases kinds : d.kind = e.kind
  case neg =>
    rw [entailsEquality_kinds memberD memberE kinds, entailsEquality_kinds memberD' memberE' kinds]
  obtain ⟨first, answerS, decidesS⟩ := closedS.entailsEquality_decides memberD memberE kinds
  obtain ⟨second, answerT, decidesT⟩ := closedT.entailsEquality_decides memberD' memberE' kinds
  have same : first = second := by
    rw [Bool.eq_iff_iff, ← not_iff_not]
    simp only [Bool.not_eq_true, decidesS, decidesT, solutions]
  rw [answerS, answerT, same]

theorem KindsAgree.entailsEquality_meet_comm (agree : s.KindsAgree t)
    (printable : (s.meet t).printFault? = none) (printable' : (t.meet s).printFault? = none) :
    (s.meet t).entailsEquality x y = (t.meet s).entailsEquality x y := by
  apply (closed_of_printable printable).entailsEquality_congr (closed_of_printable printable')
  · intro d
    rw [agree.mem_env_meet, agree.symm.mem_env_meet, or_comm]
  · intro value
    rw [holds_meet_iff, holds_meet_iff, and_comm]

/-- Otherwise the left operand decides what can be compared. -/
example :
    let s : Conjunction := .ofLists [⟨⟨"x"⟩, .int⟩, ⟨⟨"y"⟩, .int⟩] []
    let t : Conjunction := .ofLists [⟨⟨"y"⟩, .real⟩] []
    (s.meet t).entailsEquality ⟨"x"⟩ ⟨"y"⟩ = .ok false ∧
      (t.meet s).entailsEquality ⟨"x"⟩ ⟨"y"⟩ = .error (.kindMismatch ⟨"x"⟩ ⟨"y"⟩) := by
  decide +kernel

end Comparison

end Conjunction

namespace Cache

variable {World : Type}

/-- Queries about the state are answered with these sets, after all operations that have not
interned another state under its key first. -/
def Tells (start : Cache World Conjunction) (s : Conjunction) (common divergent : VarSet) : Prop :=
  ∀ operations, (∀ first ∈ Interning.first? (start.history Conjunction.engine operations)
      (start.scheme.normalize s.text), first = s) →
    let last := (start.run Conjunction.engine operations).cache
    last.internAndQuery Conjunction.engine .common s = .ok common ∧
    last.internAndQuery Conjunction.engine .divergent s = .ok divergent

theorem exists_tells (owner : Nat) (scheme : Scheme) (world : World) {s : Conjunction}
    (printable : s.printFault? = none) : ∃ common divergent,
      (new owner scheme world).Tells s common divergent ∧
      (∀ base, base ∈ common ↔ scheme.Paired s.env base) ∧
      ∀ base, base ∈ divergent ↔ s.Diverges scheme base := by
  have key := (new owner scheme world).canonicalize_printable printable
  obtain ⟨common, paired, answered⟩ := run_agrees owner scheme world
    (fun s base => scheme.Paired s.env base)
    (fun operations _ => run_common owner scheme world operations) key key fun _ => .rfl
  obtain ⟨divergent, diverges, answered'⟩ := run_agrees owner scheme world
    (Conjunction.Diverges scheme)
    (fun operations _ => run_divergent owner scheme world operations) key key fun _ => .rfl
  refine ⟨common, divergent, fun operations own => ?_, paired, diverges⟩
  have own : ∀ first ∈ Interning.first? _ _, first = s ∨ first = s :=
    fun first came => .inl (own first came)
  exact ⟨answered operations own s (.inl rfl), answered' operations own s (.inl rfl)⟩

/-- What a state says stays true when facts are added. Its common variables stay common, and those
that do not diverge still do not; numbers satisfy the meet if they satisfy both operands; and where
the operands agree on kinds, comparisons do not depend on their order. -/
theorem run_meet (owner : Nat) (scheme : Scheme) (world : World) (a b : Conjunction) :
    let start : Cache World Conjunction := new owner scheme world
    (∀ textA textM, a.print = .ok textA → (a.meet b).print = .ok textM →
      ∃ commonA divergentA commonM divergentM,
        start.Tells a commonA divergentA ∧ start.Tells (a.meet b) commonM divergentM ∧
        (∀ v ∈ commonA, v ∈ commonM) ∧
        ∀ v ∈ commonA, v ∉ divergentA → v ∉ divergentM) ∧
    (∀ (Number : Type) [LE Number] [IntCast Number] (value : Var → Number),
      (a.meet b).Holds value ↔ a.Holds value ∧ b.Holds value) ∧
    (∀ textM textM', a.KindsAgree b → (a.meet b).print = .ok textM →
      (b.meet a).print = .ok textM' →
      ∀ x y, (a.meet b).entailsEquality x y = (b.meet a).entailsEquality x y) := by
  intro start
  refine ⟨fun textA textM printedA printedM => ?_, fun _ _ _ _ => Conjunction.holds_meet_iff,
    fun textM textM' agree printedM printedM' x y => ?_⟩
  · obtain ⟨commonA, divergentA, tellsA, pairedA, divergesA⟩ :=
      exists_tells owner scheme world (Conjunction.print_eq_ok_iff.1 printedA).1
    obtain ⟨commonM, divergentM, tellsM, pairedM, divergesM⟩ :=
      exists_tells owner scheme world (Conjunction.print_eq_ok_iff.1 printedM).1
    refine ⟨commonA, divergentA, commonM, divergentM, tellsA, tellsM, ?_, ?_⟩
    · intro v common
      exact (pairedM v).2 (Conjunction.paired_meet ((pairedA v).1 common))
    · intro v common equal diverges
      exact equal ((divergesA v).2 (((divergesM v).1 diverges).of_meet ((pairedA v).1 common)))
  · exact agree.entailsEquality_meet_comm (Conjunction.print_eq_ok_iff.1 printedM).1
      (Conjunction.print_eq_ok_iff.1 printedM').1

/-- The bounds that the second state adds make the copies of `y` equal, too. One of them is
repeated. -/
theorem run_meet_added_bounds :
    let a : Conjunction := .ofLists
      [⟨⟨"x_L"⟩, .int⟩, ⟨⟨"x_R"⟩, .int⟩, ⟨⟨"y_L"⟩, .int⟩, ⟨⟨"y_R"⟩, .int⟩]
      [.same ⟨"x_L"⟩ ⟨"x_R"⟩, .atLeast ⟨"y_L"⟩ 0]
    let b : Conjunction := .ofLists [⟨⟨"y_R"⟩, .int⟩, ⟨⟨"y_L"⟩, .int⟩]
      [.equals ⟨"y_R"⟩ 0, .atMost ⟨"y_L"⟩ 0, .atLeast ⟨"y_L"⟩ 0]
    let start : Cache Unit Conjunction := new 0 .standard ()
    a.print = .ok "x_L = x_R /\\ y_L >= 0" ∧
    (a.meet b).print = .ok "x_L = x_R /\\ y_L >= 0 /\\ y_R = 0 /\\ y_L <= 0" ∧
    (b.meet a).print = .ok "y_R = 0 /\\ y_L <= 0 /\\ y_L >= 0 /\\ x_L = x_R" ∧
    a.KindsAgree b ∧
    (∃ commonM divergentM, start.Tells (a.meet b) commonM divergentM ∧ ⟨"x"⟩ ∈ commonM ∧
      ⟨"x"⟩ ∉ divergentM) ∧
    (∀ value : Var → ℚ, (a.meet b).Holds value ↔ a.Holds value ∧ b.Holds value) ∧
    (b.meet a).entailsEquality ⟨"y_L"⟩ ⟨"y_R"⟩ = .ok true := by
  intro a b start
  have printedA : a.print = .ok "x_L = x_R /\\ y_L >= 0" := by decide +kernel
  have printedM : (a.meet b).print =
      .ok "x_L = x_R /\\ y_L >= 0 /\\ y_R = 0 /\\ y_L <= 0" := by decide +kernel
  have printedM' : (b.meet a).print =
      .ok "y_R = 0 /\\ y_L <= 0 /\\ y_L >= 0 /\\ x_L = x_R" := by decide +kernel
  have agree : a.KindsAgree b := by decide +kernel
  obtain ⟨copies, solutions, comparisons⟩ := run_meet 0 .standard () a b
  refine ⟨printedA, printedM, printedM', agree, ?_, solutions ℚ, ?_⟩
  · obtain ⟨commonA, divergentA, commonM, divergentM, tellsA, tellsM, common, equal⟩ :=
      copies _ _ printedA printedM
    obtain ⟨answer, answer'⟩ := tellsA [] fun first came => absurd came (Option.not_mem_none first)
    have commonVars : start.internAndQuery Conjunction.engine .common a =
        .ok (.ofList [⟨"x"⟩, ⟨"y"⟩]) := by decide +kernel
    have divergentVars : start.internAndQuery Conjunction.engine .divergent a =
        .ok (.ofList [⟨"y"⟩]) := by decide +kernel
    cases answer.symm.trans commonVars
    cases answer'.symm.trans divergentVars
    have member : ⟨"x"⟩ ∈ VarSet.ofList [⟨"x"⟩, ⟨"y"⟩] := by decide +kernel
    have other : ⟨"x"⟩ ∉ VarSet.ofList [⟨"y"⟩] := by decide +kernel
    exact ⟨commonM, divergentM, tellsM, common _ member, equal _ member other⟩
  · have bounded : (a.meet b).entailsEquality ⟨"y_L"⟩ ⟨"y_R"⟩ = .ok true := by decide +kernel
    rw [← comparisons _ _ agree printedM printedM', bounded]

end Cache

end StateIntern
