import Mathlib.Data.List.Basic
import StateIntern.Proofs.Derivation
import StateIntern.Proofs.Interning
import StateIntern.Proofs.Soundness

/-! Answers are final. What a query has answered is written down for the instance, no later
operation changes it, and asking again counts a hit and does nothing else. -/
namespace StateIntern.Cache

variable {World State Fault : Type} {c : Cache World State} {property other : Property}
  {id : StateId} {value : property.Value}

/-- An instance is stored under the number, and the answer for it is written down. -/
structure Answered (c : Cache World State) (property : Property) (id : StateId)
    (value : property.Value) : Prop where
  stored : ∃ entry, c.registry.get? id = some entry ∧ entry.id = id
  kept : (c.memos.table property).answers[id]? = some value

theorem Answered.query (answered : c.Answered property id value)
    (engine : Engine World State Fault) {h : Handle State} {named : Entry State}
    (held : h = .held c.owner named) (number : named.id = id) :
    c.query engine property h =
      ⟨.ok value, c.setMemo property (c.memos.table property).withHit, []⟩ := by
  obtain ⟨entry, found, same⟩ := answered.stored
  have resolved : c.Resolves h entry := ⟨named, held, number ▸ found⟩
  have known := answered.kept
  rw [← same] at known
  obtain ⟨given, kept, outcome⟩ | ⟨_, _, missing, -⟩ | ⟨_, _, missing, -⟩ :=
    resolved.query_cases engine c property h
  · cases known.symm.trans kept
    exact outcome
  all_goals
    rw [known] at missing
    contradiction

theorem kept_setMemo {table : Memo StateId other.Value}
    (keeps : ∀ (id : StateId) (answer : other.Value),
      (c.memos.table other).answers[id]? = some answer → table.answers[id]? = some answer)
    (kept : (c.memos.table property).answers[id]? = some value) :
    ((c.setMemo other table).memos.table property).answers[id]? = some value := by
  by_cases same : property = other
  · subst same
    rw [setMemo, Memos.table_replace]
    exact keeps id value kept
  · rw [setMemo, Memos.table_replace_of_ne _ same]
    exact kept

variable {engine : Engine World State Fault}

theorem kept_query (kept : (c.memos.table property).answers[id]? = some value)
    (other : Property) (h : Handle State) :
    ((c.query engine other h).cache.memos.table property).answers[id]? = some value := by
  obtain ⟨fault, -, outcome⟩ | ⟨entry, answer, -, -, outcome⟩ |
    ⟨entry, cause, world, -, -, -, outcome⟩ | ⟨entry, answer, world, -, missing, -, outcome⟩ :=
    c.query_cases engine other h
  all_goals rw [outcome]
  · exact kept
  · exact kept_setMemo (fun _ _ before => before) kept
  · exact kept_setMemo (fun _ _ before => before) kept
  · refine kept_setMemo (fun number known before => ?_) kept
    have differ : entry.id ≠ number := by
      rintro rfl
      rw [missing] at before
      contradiction
    rw [Memo.getElem?_withAnswer, if_neg differ, before]

theorem Answered.run (answered : c.Answered property id value)
    (engine : Engine World State Fault) (operations : List (Operation State)) :
    (c.run engine operations).cache.owner = c.owner ∧
      (c.run engine operations).cache.Answered property id value := by
  refine run_induction engine (fun d => d.owner = c.owner ∧ d.Answered property id value)
    ?_ ?_ ?_ c operations ⟨rfl, answered⟩
  · rintro before state ⟨owned, stored, kept⟩
    rw [canonicalize_cache]
    exact ⟨owned, stored, kept⟩
  · rintro before state ⟨owned, ⟨entry, found, number⟩, kept⟩
    obtain ⟨_, -, -, after⟩ | ⟨key, -, -, after⟩ := before.intern_cases engine state <;> rw [after]
    · exact ⟨owned, ⟨entry, found, number⟩, kept⟩
    · exact ⟨owned, ⟨entry, Registry.get?_put found key state, number⟩, kept⟩
  · rintro before other h ⟨owned, stored, kept⟩
    obtain ⟨sameOwner, -, sameRegistry⟩ := before.query_frame engine other h
    exact ⟨sameOwner.trans owned, sameRegistry ▸ stored, kept_query kept other h⟩

theorem Resolves.number (valid : c.registry.Valid) {h : Handle State} {entry : Entry State}
    (resolved : c.Resolves h entry) :
    (∃ named, h = .held c.owner named) ∧ h.id = entry.id ∧
      c.registry.get? entry.id = some entry := by
  obtain ⟨named, rfl, found⟩ := resolved
  have number := valid.numbered _ _ found
  exact ⟨⟨named, rfl⟩, number.symm, number ▸ found⟩

theorem answered_of_query (valid : c.registry.Valid) {h : Handle State}
    (answer : (c.query engine property h).answer = .ok value) :
    (∃ named, h = .held c.owner named) ∧
      (c.query engine property h).cache.Answered property h.id value := by
  obtain ⟨fault, -, outcome⟩ | ⟨entry, known, resolved, kept, outcome⟩ |
    ⟨entry, cause, world, -, -, -, outcome⟩ |
    ⟨entry, derived, world, resolved, missing, -, outcome⟩ := c.query_cases engine property h
  all_goals rw [outcome] at answer ⊢
  · contradiction
  · cases answer
    obtain ⟨held, number, found⟩ := resolved.number valid
    rw [number]
    refine ⟨held, ⟨entry, found, rfl⟩, ?_⟩
    rw [setMemo, Memos.table_replace]
    exact kept
  · contradiction
  · cases answer
    obtain ⟨held, number, found⟩ := resolved.number valid
    rw [number]
    refine ⟨held, ⟨entry, found, rfl⟩, ?_⟩
    rw [setMemo, Memos.table_replace, Memo.getElem?_withAnswer, if_pos rfl]

/-- Once a query has answered, it gives the same answer for every handle of the instance after all
that may happen, whatever engine there is to ask, and the question leaves one more hit and nothing
else. If the engine does not change its mind, the answer is the one that follows from the stored
instance. The canonical text is always the key. -/
theorem run_query_final (engine : Engine World State Fault) (owner : Nat) (scheme : Scheme)
    (world : World) (operations : List (Operation State)) :
    let start : Cache World State := new owner scheme world
    let last := (start.run engine operations).cache
    (∀ property h value, (last.query engine property h).answer = .ok value →
      (∀ g more (other : Engine World State Fault), g.same h = true →
        let later := ((last.query engine property h).cache.run engine more).cache
        later.query other property g =
          ⟨.ok value, later.setMemo property (later.memos.table property).withHit, []⟩) ∧
      ∃ entry, last.get? h.id = some (.held owner entry) ∧
        ∀ env equal, engine.Answers env equal →
          value = property.direct scheme entry.key (env entry.state) (equal entry.state)) ∧
    ∀ x ∈ start.history engine operations,
      (last.query engine .text x.handle).answer = .ok x.key := by
  intro start last
  have sound : Sound engine last := (new_sound owner scheme world).run operations
  have placed : Placed start (start.history engine operations) last :=
    run_placed Registry.empty_valid operations
  have owned : last.owner = owner := placed.owner
  have schemed : last.scheme = scheme := run_scheme engine start operations
  refine ⟨fun property h value answer => ?_, fun x interned => ?_⟩
  · obtain ⟨⟨named, held⟩, answered⟩ := answered_of_query sound.valid answer
    obtain ⟨sameOwner, sameScheme, sameRegistry⟩ := last.query_frame engine property h
    constructor
    · intro g more other same later
      obtain ⟨laterOwner, still⟩ := answered.run engine more
      rw [held] at same
      cases g with
      | empty => contradiction
      | held holder entry =>
        simp only [Handle.same, Bool.and_eq_true, beq_iff_eq] at same
        obtain ⟨rfl, number⟩ := same
        have here : .held last.owner entry = Handle.held later.owner entry := by
          rw [laterOwner, sameOwner]
        refine still.query other here ?_
        rw [number, held]
        rfl
    · obtain ⟨entry, world, found, derived⟩ :=
        (sound.query property h).derived property h.id value answered.kept
      rw [sameRegistry] at found
      rw [sameScheme, schemed] at derived
      refine ⟨entry, ?_, fun env equal answers => answers.derive derived⟩
      rw [get?, found, ← owned]
      rfl
  · obtain ⟨entry, held, keyed, found⟩ := placed.handles x interned
    have resolved : last.Resolves x.handle entry := ⟨entry, by rw [held, owned]; rfl, found⟩
    rw [← keyed]
    exact sound.query_answer resolved fun _ => rfl

/-- An engine that goes down after its first call is asked for the divergent variables, then for
the common ones, which it fails to give, then for the divergent ones again. -/
theorem run_query_final_engine_down :
    let engine : Engine (Faults Unit) Listing (Planned Empty) := Listing.engine.faulty
    let world : Faults Unit := { Faults.none () with declared := some ⟨1, "down"⟩ }
    let s : Listing := ⟨"x_L <= x_R", [⟨⟨"x_L"⟩, .int⟩, ⟨⟨"x_R"⟩, .int⟩], []⟩
    let h : Handle Listing := .held 0 ⟨⟨1⟩, "x#0 <= x#1", s⟩
    let start : Cache (Faults Unit) Listing := new 0 .standard world
    let last := (start.run engine [.intern s]).cache
    let first := last.query engine .divergent h
    let later := (first.cache.run engine [.query .common h]).cache
    first.answer = .ok (.ofList [⟨"x"⟩]) ∧
    (first.cache.query engine .common h).answer =
      .error (.engine "x#0 <= x#1" (.injected "down")) ∧
    later.query engine .divergent h = ⟨.ok (.ofList [⟨"x"⟩]),
      later.setMemo .divergent (later.memos.table .divergent).withHit, []⟩ ∧
    VarSet.ofList [⟨"x"⟩] = Property.direct .standard "x#0 <= x#1" s.declared
      (fun a b => decide ((a, b) ∈ s.equalities)) .divergent ∧
    (last.query engine .text h).answer = .ok "x#0 <= x#1" := by
  intro engine world s h start last first later
  have canonical : (start.canonicalize engine s).answer = .ok "x#0 <= x#1" := by decide +kernel
  have answer : first.answer = .ok (.ofList [⟨"x"⟩]) := by decide +kernel
  have down : (first.cache.query engine .common h).answer =
      .error (.engine "x#0 <= x#1" (.injected "down")) := by decide +kernel
  have here : last.get? h.id = some h := by decide +kernel
  have interned : ⟨s, "x#0 <= x#1", h⟩ ∈ start.history engine [.intern s] := by
    rw [history, interningsOf, interningsAll_of_ok canonical]
    exact List.mem_cons_self
  obtain ⟨final, text⟩ := run_query_final engine 0 .standard world [.intern s]
  obtain ⟨again, entry, stored, direct⟩ := final .divergent h _ answer
  have same : some (Handle.held 0 entry) = some h := stored.symm.trans here
  obtain rfl : entry = ⟨⟨1⟩, "x#0 <= x#1", s⟩ := (Handle.held.inj (Option.some.inj same)).2
  have value := direct _ _ Listing.engine_answers.faulty
  have repeated := again h [.query .common h] engine rfl
  have named := text _ interned
  refine ⟨answer, down, ?_, value, named⟩
  -- the terms agree as they stand; the run is not to be evaluated
  with_reducible exact repeated

end StateIntern.Cache
