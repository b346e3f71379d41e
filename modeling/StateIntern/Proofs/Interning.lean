import StateIntern.Proofs.Bounded

/-! What a run interns. The successful interns of a run, in order, determine the stored entries:
their keys in order of first appearance number the entries, and each entry keeps the state that
came first. -/
namespace StateIntern

/-- A successful intern: the state that was given, its canonical key, and the handle that came
back. -/
structure Interning (State : Type) where
  state : State
  key : String
  handle : Handle State

def Interning.offer {State : Type} (x : Interning State) : String × State := (x.key, x.state)

/-- The handles that the caller of an operation gets for the states given to it. -/
def Operation.returned {State Fault : Type} : Operation State → Answer State Fault →
    List (Handle State)
  | .intern _, .handle h => [h]
  | .internAll _, .handles hs => hs
  | _, _ => []

namespace Cache

variable {World State Fault : Type} (engine : Engine World State Fault)

/-- The interns that succeed when states are interned one after the other, up to the first that
fails. -/
def interningsAll (c : Cache World State) : List State → List (Interning State)
  | [] => []
  | state :: rest =>
    match (c.canonicalize engine state).answer, (c.intern engine state).answer with
    | .ok key, .ok handle =>
      ⟨state, key, handle⟩ :: (c.intern engine state).cache.interningsAll rest
    | _, _ => []

def interningsOf (c : Cache World State) : Operation State → List (Interning State)
  | .intern state => c.interningsAll engine [state]
  | .internAll states => c.interningsAll engine states
  | _ => []

/-- All successful interns of a run. -/
def history (c : Cache World State) : List (Operation State) → List (Interning State)
  | [] => []
  | operation :: rest =>
    c.interningsOf engine operation ++ (c.perform engine operation).cache.history rest

/-- The later cache has placed the given interns, one after the other, and holds an instance behind
each of their handles. -/
structure Placed (c : Cache World State) (interned : List (Interning State))
    (after : Cache World State) : Prop where
  owner : after.owner = c.owner
  registry : after.registry = c.registry.fill (interned.map (·.offer))
  handles : ∀ x ∈ interned, ∃ entry, x.handle = .held c.owner entry ∧ entry.key = x.key ∧
    after.registry.get? entry.id = some entry

variable {engine} {c middle after : Cache World State}

theorem Placed.nothing (owner : after.owner = c.owner) (registry : after.registry = c.registry) :
    Placed c [] after :=
  ⟨owner, registry, by simp⟩

theorem Placed.of_world {world : World} (unchanged : after = { c with world }) :
    Placed c [] after := by
  subst unchanged
  exact .nothing rfl rfl

theorem Placed.trans {first second : List (Interning State)} (left : Placed c first middle)
    (right : Placed middle second after) : Placed c (first ++ second) after where
  owner := right.owner.trans left.owner
  registry := by rw [right.registry, left.registry, List.map_append, Registry.fill_append]
  handles x member := by
    rcases List.mem_append.1 member with member | member
    · obtain ⟨entry, held, named, found⟩ := left.handles x member
      refine ⟨entry, held, named, ?_⟩
      rw [right.registry]
      exact Registry.get?_fill found _
    · obtain ⟨entry, held, named, found⟩ := right.handles x member
      exact ⟨entry, left.owner ▸ held, named, found⟩

theorem Placed.valid {interned : List (Interning State)} (placed : Placed c interned after)
    (valid : c.registry.Valid) : after.registry.Valid := by
  rw [placed.registry]
  exact valid.fill _

theorem Placed.get?_handle {interned : List (Interning State)} (placed : Placed c interned after)
    {x : Interning State} (member : x ∈ interned) : after.get? x.handle.id = some x.handle := by
  obtain ⟨entry, held, -, found⟩ := placed.handles x member
  have id : x.handle.id = entry.id := by rw [held]; rfl
  rw [id, get?, found, held]
  simp only [handle, Option.map_some, placed.owner]

theorem interningsAll_of_ok {state : State} {rest : List State} {key : String}
    (canonical : (c.canonicalize engine state).answer = .ok key) :
    c.interningsAll engine (state :: rest) =
      ⟨state, key, c.handle (c.registry.put key state).entry⟩ ::
        (c.intern engine state).cache.interningsAll engine rest := by
  simp only [interningsAll, intern_answer, canonical, Except.map]

theorem interningsAll_of_error {state : State} {rest : List State} {fault : CacheError Fault}
    (failed : (c.canonicalize engine state).answer = .error fault) :
    c.interningsAll engine (state :: rest) = [] := by
  simp only [interningsAll, failed]

theorem intern_placed {state : State} {key : String} (valid : c.registry.Valid)
    (canonical : (c.canonicalize engine state).answer = .ok key) :
    Placed c [⟨state, key, c.handle (c.registry.put key state).entry⟩]
      (c.intern engine state).cache := by
  have stored := valid.get?_put_entry key state
  rw [intern_cache, canonical]
  refine ⟨rfl, rfl, fun x member => ?_⟩
  cases List.mem_singleton.1 member
  exact ⟨_, rfl, stored.2, stored.1⟩

theorem intern_nothing {state : State} {fault : CacheError Fault}
    (failed : (c.canonicalize engine state).answer = .error fault) :
    Placed c [] (c.intern engine state).cache := by
  rw [intern_cache, failed]
  exact .nothing rfl rfl

theorem internAll_placed (valid : c.registry.Valid) (states : List State) :
    Placed c (c.interningsAll engine states) (c.internAll engine states).cache := by
  induction states generalizing c with
  | nil => exact .nothing rfl rfl
  | cons state rest ih =>
    obtain ⟨fault, failed, all⟩ | ⟨key, canonical, all⟩ := c.internAll_cases engine state rest
    · rw [interningsAll_of_error failed, all]
      exact intern_nothing failed
    · have first := intern_placed valid canonical
      rw [interningsAll_of_ok canonical, all]
      exact first.trans (ih (first.valid valid))

theorem perform_placed (valid : c.registry.Valid) (operation : Operation State) :
    Placed c (c.interningsOf engine operation) (c.perform engine operation).cache := by
  cases operation with
  | intern state =>
    obtain ⟨fault, failed, -⟩ | ⟨key, canonical, -⟩ := c.intern_cases engine state
    · rw [interningsOf, interningsAll_of_error failed]
      exact intern_nothing failed
    · rw [interningsOf, interningsAll_of_ok canonical]
      exact intern_placed valid canonical
  | internAll states => exact internAll_placed valid states
  | canonicalize state => exact .of_world (c.canonicalize_cache engine state)
  | query property h =>
    have unchanged := c.query_frame engine property h
    exact .nothing unchanged.1 unchanged.2.2
  | _ => exact .nothing rfl rfl

theorem run_placed (valid : c.registry.Valid) (operations : List (Operation State)) :
    Placed c (c.history engine operations) (c.run engine operations).cache := by
  induction operations generalizing c with
  | nil => exact .nothing rfl rfl
  | cons operation rest ih =>
    have first : Placed c (c.interningsOf engine operation) _ := perform_placed valid operation
    exact first.trans (ih (first.valid valid))

/-- What a run stores never moves. -/
theorem get?_run (valid : c.registry.Valid) {id : StateId} {h : Handle State}
    (found : c.get? id = some h) (operations : List (Operation State)) :
    (c.run engine operations).cache.get? id = some h := by
  have placed : Placed c (c.history engine operations) _ := run_placed valid operations
  obtain ⟨entry, stored, rfl⟩ := Option.map_eq_some_iff.1 found
  have still := Registry.get?_fill stored ((c.history engine operations).map (·.offer))
  rw [get?, placed.registry, still]
  simp only [handle, Option.map_some, placed.owner]

/-- On success all states have been interned, and a caller gets their handles. -/
theorem internAll_eq_ok_iff {states : List State} {handles : List (Handle State)} :
    (c.internAll engine states).answer = .ok handles ↔
      (c.interningsAll engine states).map (·.state) = states ∧
        (c.interningsAll engine states).map (·.handle) = handles := by
  induction states generalizing c handles with
  | nil => simp [internAll, interningsAll]
  | cons state rest ih =>
    obtain ⟨fault, failed, all⟩ | ⟨key, canonical, all⟩ := c.internAll_cases engine state rest <;>
      rw [all]
    · simp [interningsAll_of_error failed]
    · have joined (h : Handle State) (o : Except (CacheError Fault) (List (Handle State))) :
          o.map (h :: ·) = .ok handles ↔ ∃ tail, o = .ok tail ∧ h :: tail = handles := by
        cases o <;> simp [Except.map]
      simp only [joined, ih, interningsAll_of_ok canonical, List.map_cons, List.cons.injEq,
        true_and]
      constructor
      · rintro ⟨tail, ⟨each, rfl⟩, rfl⟩
        exact ⟨each, rfl⟩
      · rintro ⟨each, rfl⟩
        exact ⟨_, ⟨each, rfl⟩, rfl⟩

theorem perform_internAll_answer_iff {states : List State} {handles : List (Handle State)} :
    (c.perform engine (.internAll states)).answer = .handles handles ↔
      (c.interningsOf engine (.internAll states)).map (·.state) = states ∧
        (c.interningsOf engine (.internAll states)).map (·.handle) = handles := by
  simp only [interningsOf, ← internAll_eq_ok_iff, perform, Outcome.map]
  cases (c.internAll engine states).answer <;> simp [Answer.ofExcept]

theorem perform_intern_answer_iff {state : State} {h : Handle State} :
    (c.perform engine (.intern state)).answer = .handle h ↔
      (c.interningsOf engine (.intern state)).map (·.handle) = [h] := by
  simp only [interningsOf, perform, Outcome.map]
  obtain ⟨fault, failed, answer, -⟩ | ⟨key, canonical, answer, -⟩ := c.intern_cases engine state
  · simp [answer, interningsAll_of_error failed, Answer.ofExcept]
  · rw [interningsAll_of_ok canonical]
    simp [answer, interningsAll, Answer.ofExcept]

theorem perform_returned (operation : Operation State) :
    (operation.returned (c.perform engine operation).answer).Sublist
      ((c.interningsOf engine operation).map (·.handle)) := by
  cases operation with
  | intern state =>
    cases answer : (c.perform engine (.intern state)).answer with
    | handle h => exact perform_intern_answer_iff.1 answer ▸ List.Sublist.refl _
    | _ => exact List.nil_sublist _
  | internAll states =>
    cases answer : (c.perform engine (.internAll states)).answer with
    | handles hs => exact (perform_internAll_answer_iff.1 answer).2 ▸ List.Sublist.refl _
    | _ => exact List.nil_sublist _
  | _ => exact List.nil_sublist _

theorem run_returned (operations : List (Operation State)) :
    ((operations.zip (c.run engine operations).answer).flatMap fun step =>
        step.1.returned step.2).Sublist
      ((c.history engine operations).map (·.handle)) := by
  induction operations generalizing c with
  | nil => exact List.nil_sublist _
  | cons operation rest ih =>
    simp only [run, history, List.zip_cons_cons, List.flatMap_cons, List.map_append]
    exact (perform_returned operation).append ih

theorem run_snoc (operations : List (Operation State)) (operation : Operation State) :
    (c.run engine (operations ++ [operation])).answer = (c.run engine operations).answer ++
      [((c.run engine operations).cache.perform engine operation).answer] := by
  induction operations generalizing c with
  | nil => rfl
  | cons first rest ih => simp only [List.cons_append, run, ih]

theorem history_snoc (operations : List (Operation State)) (operation : Operation State) :
    c.history engine (operations ++ [operation]) = c.history engine operations ++
      (c.run engine operations).cache.interningsOf engine operation := by
  induction operations generalizing c with
  | nil => exact List.append_nil _
  | cons first rest ih => simp only [List.cons_append, history, ih, List.append_assoc, run]

theorem find?_offer (interned : List (Interning State)) (key : String) :
    (interned.find? (·.key == key)).map (·.state) =
      Registry.firstOffer (interned.map (·.offer)) key := by
  rw [Registry.firstOffer, List.find?_map, Option.map_map]
  rfl

section New

variable {owner : Nat} {scheme : Scheme} {world : World} {interned : List (Interning State)}

theorem Placed.valid_of_new (placed : Placed (new owner scheme world) interned after) :
    after.registry.Valid :=
  placed.valid Registry.empty_valid

theorem Placed.holds (placed : Placed (new owner scheme world) interned after) :
    Registry.Holds (interned.map (·.offer)) after.registry := by
  rw [placed.registry]
  exact Registry.empty_holds.fill Registry.empty_valid _

theorem Placed.keys (placed : Placed (new owner scheme world) interned after) :
    after.registry.toList.map (·.key) = (interned.map (·.key)).eraseDups := by
  rw [placed.holds.keys, List.map_map]
  rfl

theorem Placed.get?_succ (placed : Placed (new owner scheme world) interned after) (i : Nat) :
    after.get? ⟨i + 1⟩ = (interned.map (·.key)).eraseDups[i]?.bind fun key =>
      (interned.find? (·.key == key)).map fun first => .held owner ⟨⟨i + 1⟩, key, first.state⟩ := by
  rw [get?, Registry.get?_succ, ← placed.keys, List.getElem?_map]
  cases at_i : after.registry.toList[i]? with
  | none => rfl
  | some entry =>
    have state := placed.holds.states entry (List.mem_of_getElem? at_i)
    rw [← find?_offer] at state
    obtain ⟨first, found, same⟩ := Option.map_eq_some_iff.1 state
    have owned : after.owner = owner := placed.owner
    simp only [Option.map_some, Option.bind_some, found, handle, owned, same,
      ← placed.valid_of_new.id_of_getElem? at_i]

theorem Placed.handle_rank (placed : Placed (new owner scheme world) interned after)
    {x : Interning State} (member : x ∈ interned) :
    x.handle.id = ⟨(interned.map (·.key)).eraseDups.idxOf x.key + 1⟩ ∧
      after.get? x.handle.id = some x.handle := by
  refine ⟨?_, placed.get?_handle member⟩
  obtain ⟨entry, held, named, found⟩ := placed.handles x member
  have id : x.handle.id = entry.id := by rw [held]; rfl
  rw [id, ← placed.keys, ← named]
  exact placed.valid_of_new.id_eq_rank (Registry.mem_toList_of_get? found)

theorem Placed.same_iff (placed : Placed (new owner scheme world) interned after)
    {x y : Interning State} (memberX : x ∈ interned) (memberY : y ∈ interned) :
    x.handle.same y.handle = true ↔ x.key = y.key := by
  obtain ⟨entryX, heldX, namedX, foundX⟩ := placed.handles x memberX
  obtain ⟨entryY, heldY, namedY, foundY⟩ := placed.handles y memberY
  rw [heldX, heldY]
  simp only [Handle.same, BEq.rfl, Bool.true_and, beq_iff_eq]
  constructor
  · intro sameId
    rw [sameId] at foundX
    rw [← namedX, ← namedY, Option.some.inj (foundX.symm.trans foundY)]
  · intro sameKey
    rw [placed.valid_of_new.eq_of_key (Registry.mem_toList_of_get? foundX)
      (Registry.mem_toList_of_get? foundY) (namedX.trans (sameKey.trans namedY.symm))]

end New

/-- The entries are the first states under the keys of the interns, and a handle that came back
leads to the entry of its key. No later operation replaces an entry. An operation answers with the
handles of its interns if it has interned all that it was given. With numbers of 32 bits the run is
the same unless there are more keys than numbers. -/
theorem run_interns_by_key (engine : Engine World State Fault) (owner : Nat) (scheme : Scheme)
    (world : World) (operations more : List (Operation State)) :
    let start : Cache World State := new owner scheme world
    let last := (start.run engine operations).cache
    let interned := start.history engine operations
    let keys := (interned.map (·.key)).eraseDups
    last.size = keys.length ∧
    (∀ i, last.get? ⟨i + 1⟩ = keys[i]?.bind fun key =>
      (interned.find? (·.key == key)).map fun first =>
        .held owner ⟨⟨i + 1⟩, key, first.state⟩) ∧
    (∀ id h, last.get? id = some h → (last.run engine more).cache.get? id = some h) ∧
    (∀ x ∈ interned, x.handle.id = ⟨keys.idxOf x.key + 1⟩ ∧
      last.get? x.handle.id = some x.handle) ∧
    (∀ x ∈ interned, ∀ y ∈ interned, x.handle.same y.handle = true ↔ x.key = y.key) ∧
    ((operations.zip (start.run engine operations).answer).flatMap fun step =>
      step.1.returned step.2).Sublist (interned.map (·.handle)) ∧
    (∀ operation,
      (start.run engine (operations ++ [operation])).answer =
        (start.run engine operations).answer ++ [(last.perform engine operation).answer] ∧
      start.history engine (operations ++ [operation]) =
        interned ++ last.interningsOf engine operation) ∧
    (∀ state h, (last.perform engine (.intern state)).answer = .handle h ↔
      (last.interningsOf engine (.intern state)).map (·.handle) = [h]) ∧
    (∀ states hs, (last.perform engine (.internAll states)).answer = .handles hs ↔
      (last.interningsOf engine (.internAll states)).map (·.state) = states ∧
        (last.interningsOf engine (.internAll states)).map (·.handle) = hs) ∧
    start.tryRun engine operations = if keys.length < UInt32.size
      then .ok (start.run engine operations) else .error .full := by
  intro start last interned keys
  have placed : Placed start interned last := run_placed Registry.empty_valid operations
  have size : last.size = keys.length := by
    rw [Cache.size, Registry.size_eq_length, ← List.length_map (·.key), placed.keys]
  refine ⟨size, placed.get?_succ, ?_, ?_, ?_, run_returned operations,
    fun operation => ⟨run_snoc operations operation, history_snoc operations operation⟩,
    fun state h => perform_intern_answer_iff, fun states hs => perform_internAll_answer_iff, ?_⟩
  · intro id h found
    exact get?_run placed.valid_of_new found more
  · intro x member
    exact placed.handle_rank member
  · intro x memberX y memberY
    exact placed.same_iff memberX memberY
  · rw [← size]
    exact tryRun_eq engine (size_new_lt owner scheme world) operations

end Cache

end StateIntern
