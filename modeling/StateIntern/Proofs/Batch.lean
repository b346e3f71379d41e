import StateIntern.Engine.Listing
import StateIntern.Proofs.Requests

/-! Lists of states that are interned together. They are interned one after the other up to the
first that fails: what came before it stays as if it had been interned alone, and what comes after
it is not looked at. -/
namespace StateIntern.Cache

variable {World State Fault : Type} {engine : Engine World State Fault} {c : Cache World State}
  {state : State} {rest states : List State} {handles : List (Handle State)}

theorem canonicalize_of_error {fault : CacheError Fault}
    (failed : (c.canonicalize engine state).answer = .error fault) :
    c.canonicalize engine state =
      ⟨.error fault, { c with world := (engine.print state c.world).2 }, []⟩ := by
  unfold canonicalize at failed ⊢
  rcases printed : engine.print state c.world with ⟨cause | text, world⟩ <;>
    simp only [printed] at failed ⊢
  · rw [failed]
  · cases reserved : Text.reservedWord? text <;> simp only [reserved] at failed ⊢
    · contradiction
    · rw [failed]

theorem intern_of_error {fault : CacheError Fault}
    (failed : (c.intern engine state).answer = .error fault) :
    c.intern engine state =
      ⟨.error fault, { c with world := (engine.print state c.world).2 }, []⟩ := by
  obtain ⟨cause, refused, answer, -⟩ | ⟨key, -, answer, -⟩ := c.intern_cases engine state
  · cases answer.symm.trans failed
    rw [intern, canonicalize_of_error refused]
  · cases answer.symm.trans failed

theorem internAll_cons_of_ok {h : Handle State} (done : (c.intern engine state).answer = .ok h) :
    c.internAll engine (state :: rest) =
      let others := (c.intern engine state).cache.internAll engine rest
      ⟨others.answer.map (h :: ·), others.cache,
        (c.intern engine state).events ++ others.events⟩ := by
  rw [internAll]
  rcases outcome : c.intern engine state with ⟨answer, after, events⟩
  rw [outcome] at done
  subst done
  rfl

theorem internAll_cons_of_error {fault : CacheError Fault}
    (failed : (c.intern engine state).answer = .error fault) :
    c.internAll engine (state :: rest) =
      ⟨.error fault, { c with world := (engine.print state c.world).2 }, []⟩ := by
  rw [internAll, intern_of_error failed]

/-- Interns the states by an operation each, whether they fail or not. -/
def internEach (engine : Engine World State Fault) (c : Cache World State) (states : List State) :
    Outcome World State (List (Answer State Fault)) :=
  c.run engine (states.map .intern)

theorem internEach_cons (state : State) (rest : List State) :
    c.internEach engine (state :: rest) =
      let others := (c.intern engine state).cache.internEach engine rest
      ⟨.ofExcept .handle (c.intern engine state).answer :: others.answer, others.cache,
        (c.intern engine state).events ++ others.events⟩ :=
  rfl

theorem exists_of_internEach_cons
    (each : (c.internEach engine (state :: rest)).answer = handles.map .handle) :
    ∃ h tail, handles = h :: tail ∧ (c.intern engine state).answer = .ok h ∧
      ((c.intern engine state).cache.internEach engine rest).answer = tail.map .handle := by
  cases handles with
  | nil => contradiction
  | cons h tail =>
    simp only [internEach_cons, List.map_cons, List.cons.injEq] at each
    refine ⟨h, tail, rfl, ?_, each.2⟩
    have first := each.1
    rcases answer : (c.intern engine state).answer with fault | g <;>
      simp only [answer, Answer.ofExcept, reduceCtorEq, Answer.handle.injEq] at first
    rw [first]

/-- After states that can be interned, the rest is interned from where these have led. -/
theorem internAll_append (each : (c.internEach engine states).answer = handles.map .handle)
    (more : List State) :
    c.internAll engine (states ++ more) =
      let singles := c.internEach engine states
      let others := singles.cache.internAll engine more
      ⟨others.answer.map (handles ++ ·), others.cache, singles.events ++ others.events⟩ := by
  induction states generalizing c handles with
  | nil =>
    obtain rfl : handles = [] := by simpa [internEach, run] using each
    have same (o : Except (CacheError Fault) (List (Handle State))) : o.map (fun hs => hs) = o := by
      cases o <;> rfl
    simp [internEach, run, same]
  | cons state rest ih =>
    obtain ⟨h, tail, rfl, done, others⟩ := exists_of_internEach_cons each
    have joined (o : Except (CacheError Fault) (List (Handle State))) :
        (o.map (tail ++ ·)).map (h :: ·) = o.map (h :: tail ++ ·) := by
      cases o <;> rfl
    rw [List.cons_append, internAll_cons_of_ok done, ih others, internEach_cons]
    simp only [joined, List.append_assoc]

theorem internAll_of_each (each : (c.internEach engine states).answer = handles.map .handle) :
    c.internAll engine states =
      ⟨.ok handles, (c.internEach engine states).cache, (c.internEach engine states).events⟩ := by
  have all := internAll_append each []
  simpa [internAll, Except.map] using all

theorem internAll_of_failure {fault : CacheError Fault}
    (each : (c.internEach engine states).answer = handles.map .handle)
    (failed : ((c.internEach engine states).cache.intern engine state).answer = .error fault)
    (others : List State) :
    let singles := c.internEach engine states
    c.internAll engine (states ++ state :: others) = ⟨.error fault,
      { singles.cache with world := (engine.print state singles.cache.world).2 },
      singles.events⟩ := by
  simp only [internAll_append each, internAll_cons_of_error failed, Except.map, List.append_nil]

theorem each_or_first_failure (engine : Engine World State Fault) (c : Cache World State)
    (states : List State) :
    (∃ handles : List (Handle State),
      (c.internEach engine states).answer = handles.map .handle) ∨
    ∃ before state after fault, ∃ handles : List (Handle State),
      states = before ++ state :: after ∧
      (c.internEach engine before).answer = handles.map .handle ∧
      ((c.internEach engine before).cache.intern engine state).answer = .error fault := by
  induction states generalizing c with
  | nil => exact .inl ⟨[], rfl⟩
  | cons state rest ih =>
    cases answer : (c.intern engine state).answer with
    | error fault => exact .inr ⟨[], state, rest, fault, [], rfl, rfl, answer⟩
    | ok h =>
      have longer {states : List State} {tail : List (Handle State)}
          (each : ((c.intern engine state).cache.internEach engine states).answer =
            tail.map .handle) :
          (c.internEach engine (state :: states)).answer = (h :: tail).map .handle := by
        simp only [internEach_cons, answer, each, Answer.ofExcept, List.map_cons]
      obtain ⟨tail, each⟩ | ⟨before, next, after, fault, tail, rfl, each, failed⟩ :=
        ih (c.intern engine state).cache
      · exact .inl ⟨h :: tail, longer each⟩
      · exact .inr ⟨state :: before, next, after, fault, h :: tail, rfl, longer each, failed⟩

theorem internEach_world (engine : Engine World State Fault) (c : Cache World State)
    (states : List State) : (c.internEach engine states).cache.world =
      engine.afterCalls c.world (states.map .print) := by
  induction states generalizing c with
  | nil => rfl
  | cons state rest ih =>
    simp only [internEach_cons, ih, intern_world, List.map_cons, Engine.afterCalls_cons,
      Engine.afterCalls_nil]

theorem get?_of_each (valid : c.registry.Valid)
    (each : (c.internEach engine states).answer = handles.map .handle) {h : Handle State}
    (member : h ∈ handles) : (c.internEach engine states).cache.get? h.id = some h := by
  induction states generalizing c handles with
  | nil =>
    obtain rfl : handles = [] := by simpa [internEach, run] using each
    contradiction
  | cons state rest ih =>
    obtain ⟨g, tail, rfl, done, others⟩ := exists_of_internEach_cons each
    obtain ⟨fault, -, answer, -⟩ | ⟨key, canonical, answer, -⟩ := c.intern_cases engine state <;>
      cases answer.symm.trans done
    have placed := intern_placed valid canonical
    have validAfter := placed.valid valid
    rcases List.mem_cons.1 member with rfl | later
    · exact get?_run validAfter (placed.get?_handle List.mem_cons_self) (rest.map .intern)
    · exact ih validAfter others later

/-- Interning a list is interning its states one by one. If none of them fails, their handles come
back in order. If one does, its error comes back and what came before it stays interned; it is the
last that is printed, and what follows it in the list does not matter. -/
theorem internAll_one_by_one (engine : Engine World State Fault) (owner : Nat) (scheme : Scheme)
    (world : World) (earlier : List (Operation State)) (states : List State) :
    let c : Cache World State := ((new owner scheme world).run engine earlier).cache
    (∃ handles : List (Handle State),
      let singles := c.run engine (states.map .intern)
      singles.answer = handles.map .handle ∧
      c.internAll engine states = ⟨.ok handles, singles.cache, singles.events⟩ ∧
      singles.cache.world = engine.afterCalls c.world (states.map .print) ∧
      ∀ h ∈ handles, singles.cache.get? h.id = some h) ∨
    ∃ before state after fault, ∃ handles : List (Handle State),
      let singles := c.run engine (before.map .intern)
      let printed := engine.afterCalls c.world ((before ++ [state]).map .print)
      states = before ++ state :: after ∧
      singles.answer = handles.map .handle ∧
      (singles.cache.intern engine state).answer = .error fault ∧
      (∀ others, c.internAll engine (before ++ state :: others) =
        ⟨.error fault, { singles.cache with world := printed }, singles.events⟩) ∧
      ∀ h ∈ handles, singles.cache.get? h.id = some h := by
  intro c
  have placed : Placed (new owner scheme world) _ c := run_placed Registry.empty_valid earlier
  obtain ⟨handles, each⟩ | ⟨before, state, after, fault, handles, split, each, failed⟩ :=
    each_or_first_failure engine c states
  · exact .inl ⟨handles, each, internAll_of_each each, internEach_world engine c states,
      fun h member => get?_of_each placed.valid_of_new each member⟩
  · refine .inr ⟨before, state, after, fault, handles, split, each, failed, fun others => ?_,
      fun h member => get?_of_each placed.valid_of_new each member⟩
    have printed : (engine.print state (c.internEach engine before).cache.world).2 =
        engine.afterCalls c.world ((before ++ [state]).map .print) := by
      rw [internEach_world, List.map_append, Engine.afterCalls_append]
      rfl
    rw [← printed]
    exact internAll_of_failure each failed others

/-- The second state is taken for the first, the third fails, and the fourth is not printed. -/
example :
    let engine : Engine (Recorded Unit) Listing Empty := Listing.engine.recorded
    let c : Cache (Recorded Unit) Listing := new 0 .standard ⟨[], ()⟩
    let state (text : String) : Listing := ⟨text, [], []⟩
    let outcome := c.internAll engine [state "x_L", state "x_A", state "x#0", state "y"]
    outcome.answer = .error (.reservedName "x#0") ∧ outcome.cache.size = 1 ∧
      outcome.cache.world.calls = [.print, .print, .print] := by
  decide +kernel

end StateIntern.Cache
