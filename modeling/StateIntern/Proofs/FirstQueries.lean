import StateIntern.Proofs.Counting
import StateIntern.Proofs.Sharing

/-! What a query answers that has no answer to go back to. Then the environment decides that the
engine gives, by the copies that it declares first, and for the divergent variables what the engine
finds about these copies. -/
namespace StateIntern

open Inquiry

variable {World State Fault : Type} {engine : Engine World State Fault}

theorem Engine.mem_unequal_iff {pairs : List Pair} {answers : List Bool} {b : Var} :
    b ∈ unequal pairs answers ↔ ∃ p, (p, false) ∈ pairs.zip answers ∧ p.base = b := by
  simp [unequal]

namespace Cache

variable {c : Cache World State} {property : Property} {h : Handle State} {entry : Entry State}
  {env : List TypedVar} {after : World}

/-- After these operations the handle leads to the entry, no question about the property of the
instance has been answered, and asked for the environment the engine gives this one. -/
structure FirstCall (engine : Engine World State Fault) (start : Cache World State)
    (operations : List (Operation State)) (property : Property) (h : Handle State)
    (entry : Entry State) (env : List TypedVar) (after : World) : Prop where
  resolved : (start.run engine operations).cache.Resolves h entry
  unanswered : h.id ∉ answeredIds (start.inquiries engine property operations)
  declared : engine.declared entry.state (start.run engine operations).cache.world =
    (.ok env, after)

theorem Resolves.query_of_missing {value : property.Value} (resolved : c.Resolves h entry)
    (missing : (c.memos.table property).answers[entry.id]? = none)
    (derived : property.derive engine c.scheme entry c.world = (.ok value, after)) :
    (c.query engine property h).answer = .ok value := by
  obtain ⟨kept, known, -⟩ | ⟨cause, world, -, failed, -⟩ | ⟨found, world, -, answered, outcome⟩ :=
    resolved.query_cases engine c property h
  · simp [missing] at known
  · simp [derived] at failed
  · rw [derived] at answered
    cases answered
    rw [outcome]

theorem FirstCall.query {owner : Nat} {scheme : Scheme} {world last : World}
    {operations : List (Operation State)} {value : property.Value} :
    let start : Cache World State := new owner scheme world
    let c := (start.run engine operations).cache
    FirstCall engine start operations property h entry env after →
    property.derive engine scheme entry c.world = (.ok value, last) →
    (c.query engine property h).answer = .ok value := by
  intro start c call derived
  have sound : Sound engine c := (new_sound owner scheme world).run operations
  have balanced : Balanced (start.inquiries engine property operations)
      (c.memos.table property) :=
    run_balance Registry.empty_valid (new_balanced owner scheme world) operations
  have missing := mt (balanced.kept h.id).1 call.unanswered
  rw [(call.resolved.number sound.valid).2.1] at missing
  have schemed : c.scheme = scheme := run_scheme engine start operations
  rw [← schemed] at derived
  exact call.resolved.query_of_missing (by simpa using missing) derived

/-- For every environment there is one set of common variables. The first query for them answers
with it, and of its members the first query for the divergent variables answers with those whose
first copies are not found equal. -/
theorem run_first_queries (engine : Engine World State Fault) (owner : Nat) (scheme : Scheme)
    (world : World) (h : Handle State) (entry : Entry State) (env : List TypedVar) :
    let start : Cache World State := new owner scheme world
    ∃ common : VarSet,
      (∀ b, b ∈ common ↔ ∃ l r, scheme.firstCopy? env b .left = some l ∧
        scheme.firstCopy? env b .right = some r ∧ l.kind = r.kind) ∧
      (∀ operations after, FirstCall engine start operations .common h entry env after →
        ((start.run engine operations).cache.query engine .common h).answer = .ok common) ∧
      ∀ operations middle answers after,
        FirstCall engine start operations .divergent h entry env middle →
        engine.Compares entry.state (scheme.pairs env) answers middle after →
        ∃ divergent,
          ((start.run engine operations).cache.query engine .divergent h).answer = .ok divergent ∧
          (∀ b ∈ divergent, b ∈ common) ∧
          ∀ b, b ∈ divergent ↔ ∃ l r, scheme.firstCopy? env b .left = some l ∧
            scheme.firstCopy? env b .right = some r ∧ l.kind = r.kind ∧
            (⟨b, l.var, r.var⟩, false) ∈ (scheme.pairs env).zip answers := by
  intro start
  refine ⟨.ofList ((scheme.pairs env).map (·.base)), fun b => Scheme.mem_bases_iff, ?_, ?_⟩
  · intro operations after call
    refine call.query (?_ : _ = (_, after))
    simp [Property.derive, Engine.commonVars, Engine.pairsOf, call.declared, start]
  · intro operations middle answers after call compares
    have found (b : Var) : b ∈ VarSet.ofList (Engine.unequal (scheme.pairs env) answers) ↔
        ∃ l r, scheme.firstCopy? env b .left = some l ∧ scheme.firstCopy? env b .right = some r ∧
          l.kind = r.kind ∧ (⟨b, l.var, r.var⟩, false) ∈ (scheme.pairs env).zip answers := by
      rw [VarSet.mem_ofList, Engine.mem_unequal_iff]
      constructor
      · rintro ⟨p, differ, rfl⟩
        obtain ⟨l, r, left, right, kinds, nameL, nameR⟩ :=
          Scheme.mem_pairs_iff.1 (List.of_mem_zip differ).1
        refine ⟨l, r, left, right, kinds, ?_⟩
        rwa [← nameL, ← nameR]
      · rintro ⟨l, r, -, -, -, differ⟩
        exact ⟨_, differ, rfl⟩
    refine ⟨_, call.query (?_ : _ = (_, after)), fun b member => ?_, found⟩
    · simp [Property.derive, Engine.divergentVars, Engine.pairsOf, call.declared, start,
        Engine.differing_of_compares compares]
    · obtain ⟨l, r, left, right, kinds, -⟩ := (found b).1 member
      exact Scheme.mem_bases_iff.2 ⟨l, r, left, right, kinds⟩

/-- The second left copy of `x` has the other kind and does not count. The copies of `y` differ in
kind, those of `z` are equal. The first queries come after each other. -/
theorem run_first_queries_shadowed_copy :
    let engine : Engine Unit Listing Empty := Listing.engine
    let env : List TypedVar := [⟨⟨"x_L"⟩, .int⟩, ⟨⟨"x_A"⟩, .real⟩, ⟨⟨"x_R"⟩, .int⟩,
      ⟨⟨"y_L"⟩, .int⟩, ⟨⟨"y_R"⟩, .real⟩, ⟨⟨"z_R"⟩, .int⟩, ⟨⟨"z_L"⟩, .int⟩]
    let s : Listing := ⟨"x_L <= y_R", env, [(⟨"z_L"⟩, ⟨"z_R"⟩)]⟩
    let entry : Entry Listing := ⟨⟨1⟩, "x#0 <= y#1", s⟩
    let h : Handle Listing := .held 0 entry
    let start : Cache Unit Listing := new 0 .standard ()
    let one := (start.run engine [.intern s]).cache
    let two := (start.run engine [.intern s, .query .common h]).cache
    FirstCall engine start [.intern s] .common h entry env () ∧
    FirstCall engine start [.intern s, .query .common h] .divergent h entry env () ∧
    ∃ common divergent, (one.query engine .common h).answer = .ok common ∧
      (two.query engine .divergent h).answer = .ok divergent ∧
      ⟨"x"⟩ ∈ divergent ∧ (∀ b ∈ divergent, b ∈ common) ∧ ⟨"y"⟩ ∉ common ∧
      ⟨"z"⟩ ∈ common ∧ ⟨"z"⟩ ∉ divergent := by
  intro engine env s entry h start one two
  have found : h = .held one.owner entry ∧ one.registry.get? ⟨1⟩ = some entry := by decide +kernel
  have still : h = .held two.owner entry ∧ two.registry.get? ⟨1⟩ = some entry := by decide +kernel
  have first : FirstCall engine start [.intern s] .common h entry env () :=
    ⟨⟨entry, found⟩, by decide +kernel, rfl⟩
  have second : FirstCall engine start [.intern s, .query .common h] .divergent h entry env () :=
    ⟨⟨entry, still⟩, by decide +kernel, rfl⟩
  have pairs : Scheme.standard.pairs env =
      [⟨⟨"x"⟩, ⟨"x_L"⟩, ⟨"x_R"⟩⟩, ⟨⟨"z"⟩, ⟨"z_L"⟩, ⟨"z_R"⟩⟩] := by decide +kernel
  have compares : engine.Compares s (Scheme.standard.pairs env) [false, true] () () := by
    rw [pairs]
    exact .cons rfl (.cons rfl .nil)
  obtain ⟨common, members, answer, later⟩ := run_first_queries engine 0 .standard () h entry env
  obtain ⟨divergent, answer', subset, differ⟩ := later _ _ _ _ second compares
  refine ⟨first, second, common, divergent, answer _ _ first, answer', ?_, subset, ?_, ?_, ?_⟩
  · rw [differ, pairs]
    exact ⟨⟨⟨"x_L"⟩, .int⟩, ⟨⟨"x_R"⟩, .int⟩, by decide +kernel, by decide +kernel, rfl, by simp⟩
  · rw [members]
    rintro ⟨l, r, left, right, kinds⟩
    have yL : Scheme.standard.firstCopy? env ⟨"y"⟩ .left = some ⟨⟨"y_L"⟩, .int⟩ := by
      decide +kernel
    have yR : Scheme.standard.firstCopy? env ⟨"y"⟩ .right = some ⟨⟨"y_R"⟩, .real⟩ := by
      decide +kernel
    cases yL.symm.trans left
    cases yR.symm.trans right
    contradiction
  · rw [members]
    exact ⟨⟨⟨"z_L"⟩, .int⟩, ⟨⟨"z_R"⟩, .int⟩, by decide +kernel, by decide +kernel, rfl⟩
  · rw [differ, pairs]
    rintro ⟨l, r, -, -, -, listed⟩
    simp at listed

end Cache

end StateIntern
