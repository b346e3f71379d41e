import StateIntern.Cache.Operation
import StateIntern.Proofs.Memo

/-! What single operations answer and what they change, and how that carries over to runs. An
operation is made of canonicalizations, interns and queries; nothing else touches a cache. -/
namespace StateIntern.Cache

variable {World State Fault : Type}

section Canonicalize

variable (engine : Engine World State Fault) (c : Cache World State) (state : State)

theorem canonicalize_cache :
    (c.canonicalize engine state).cache = { c with world := (engine.print state c.world).2 } := by
  unfold canonicalize
  rcases engine.print state c.world with ⟨cause | text, world⟩
  · rfl
  · dsimp only
    split <;> rfl

theorem canonicalize_eq_ok_iff {key : String} :
    (c.canonicalize engine state).answer = .ok key ↔
      ∃ text, (engine.print state c.world).1 = .ok text ∧ Text.reservedWord? text = none ∧
        c.scheme.normalize text = key := by
  unfold canonicalize
  rcases engine.print state c.world with ⟨cause | text, world⟩
  · simp
  · cases reserved : Text.reservedWord? text <;> simp [reserved]

/-- An intern places the state under its key, if there is one. -/
theorem intern_answer :
    (c.intern engine state).answer = (c.canonicalize engine state).answer.map fun key =>
      c.handle (c.registry.put key state).entry := by
  have frame := c.canonicalize_cache engine state
  unfold intern
  rcases outcome : c.canonicalize engine state with ⟨fault | key, after, events⟩
  · rfl
  · rw [outcome] at frame
    subst frame
    rfl

theorem intern_cache :
    (c.intern engine state).cache =
      match (c.canonicalize engine state).answer with
      | .ok key => { c with
          world := (engine.print state c.world).2
          registry := (c.registry.put key state).registry }
      | .error _ => { c with world := (engine.print state c.world).2 } := by
  have frame := c.canonicalize_cache engine state
  unfold intern
  rcases outcome : c.canonicalize engine state with ⟨fault | key, after, events⟩
  all_goals
    rw [outcome] at frame
    subst frame
    rfl

/-- Either both fail for one reason, or the state is placed under its key. -/
theorem intern_cases :
    (∃ fault, (c.canonicalize engine state).answer = .error fault ∧
      (c.intern engine state).answer = .error fault ∧
      (c.intern engine state).cache = { c with world := (engine.print state c.world).2 }) ∨
    (∃ key, (c.canonicalize engine state).answer = .ok key ∧
      (c.intern engine state).answer = .ok (c.handle (c.registry.put key state).entry) ∧
      (c.intern engine state).cache = { c with
        world := (engine.print state c.world).2
        registry := (c.registry.put key state).registry }) := by
  rw [intern_answer, intern_cache]
  rcases (c.canonicalize engine state).answer with fault | key
  · exact .inl ⟨fault, rfl, rfl, rfl⟩
  · exact .inr ⟨key, rfl, rfl, rfl⟩

/-- What is left after a success is interned from there; a failure ends it all. -/
theorem internAll_cases (rest : List State) :
    (∃ fault, (c.canonicalize engine state).answer = .error fault ∧
      c.internAll engine (state :: rest) =
        ⟨.error fault, (c.intern engine state).cache, (c.intern engine state).events⟩) ∨
    (∃ key, (c.canonicalize engine state).answer = .ok key ∧
      let others := (c.intern engine state).cache.internAll engine rest
      c.internAll engine (state :: rest) =
        ⟨others.answer.map (c.handle (c.registry.put key state).entry :: ·), others.cache,
          (c.intern engine state).events ++ others.events⟩) := by
  rw [internAll]
  obtain ⟨fault, failed, answer, -⟩ | ⟨key, canonical, answer, -⟩ := c.intern_cases engine state <;>
    rcases outcome : c.intern engine state with ⟨result, after, events⟩ <;>
    rw [outcome] at answer <;> subst answer
  · exact .inl ⟨fault, failed, rfl⟩
  · exact .inr ⟨key, canonical, rfl⟩

theorem intern_memos : (c.intern engine state).cache.memos = c.memos := by
  obtain ⟨_, -, -, after⟩ | ⟨_, -, -, after⟩ := c.intern_cases engine state <;> rw [after]

theorem intern_scheme : (c.intern engine state).cache.scheme = c.scheme := by
  obtain ⟨_, -, -, after⟩ | ⟨_, -, -, after⟩ := c.intern_cases engine state <;> rw [after]

theorem internAll_memos (states : List State) :
    (c.internAll engine states).cache.memos = c.memos := by
  induction states generalizing c with
  | nil => rfl
  | cons state rest ih =>
    have first := c.intern_memos engine state
    obtain ⟨_, -, all⟩ | ⟨_, -, all⟩ := c.internAll_cases engine state rest <;> rw [all]
    · exact first
    · exact (ih _).trans first

end Canonicalize

section Query

/-- The cache with one memo table exchanged. -/
def setMemo (c : Cache World State) (property : Property) (table : Memo StateId property.Value) :
    Cache World State :=
  { c with memos := c.memos.replace property table }

/-- The handle names an instance of this cache, stored as the entry. -/
def Resolves (c : Cache World State) (h : Handle State) (entry : Entry State) : Prop :=
  ∃ named, h = .held c.owner named ∧ c.registry.get? named.id = some entry

theorem Resolves.unique {c : Cache World State} {h : Handle State} {a b : Entry State}
    (first : c.Resolves h a) (second : c.Resolves h b) : a = b := by
  obtain ⟨named, held, found⟩ := first
  obtain ⟨other, held', found'⟩ := second
  cases held.symm.trans held'
  exact Option.some.inj (found.symm.trans found')

theorem resolve_eq_ok_iff {c : Cache World State} {h : Handle State} {entry : Entry State} :
    c.resolve h = (.ok entry : Except (CacheError Fault) (Entry State)) ↔ c.Resolves h entry := by
  unfold resolve Resolves
  cases h with
  | empty => simp
  | held owner named =>
    cases found : c.registry.get? named.id with
    | none => simp [found]
    | some own =>
      by_cases same : owner = c.owner <;> simp [same, found]

variable (engine : Engine World State Fault) (c : Cache World State) (property : Property)
  (h : Handle State)

/-- A question about an entry is answered from the memo table, or else the answer is derived, and
only an answer is written down. -/
theorem Resolves.query_cases {entry : Entry State} (resolved : c.Resolves h entry) :
    (∃ value, (c.memos.table property).answers[entry.id]? = some value ∧
      c.query engine property h =
        ⟨.ok value, c.setMemo property (c.memos.table property).withHit, []⟩) ∨
    (∃ cause world, (c.memos.table property).answers[entry.id]? = none ∧
      property.derive engine c.scheme entry c.world = (.error cause, world) ∧
      c.query engine property h = ⟨.error (.engine entry.key cause),
        { c.setMemo property (c.memos.table property).withMiss with world }, []⟩) ∨
    (∃ value world, (c.memos.table property).answers[entry.id]? = none ∧
      property.derive engine c.scheme entry c.world = (.ok value, world) ∧
      c.query engine property h = ⟨.ok value,
        { c.setMemo property ((c.memos.table property).withAnswer entry.id value) with world },
        [.derived property entry.id value]⟩) := by
  unfold query
  rw [resolve_eq_ok_iff.2 resolved]
  cases known : (c.memos.table property).answers[entry.id]? with
  | some value =>
    have asked := Memo.ask_of_kept known
    exact .inl ⟨value, rfl, by simp only [asked]; rfl⟩
  | none =>
    have asked := Memo.ask_of_missing known
    rcases derived : property.derive engine c.scheme entry c.world with ⟨cause | value, world⟩
    · exact .inr (.inl ⟨cause, world, rfl, rfl, by simp only [asked, derived]; rfl⟩)
    · have stored := Memo.store_of_missing known value
      exact .inr (.inr ⟨value, world, rfl, rfl, by simp only [asked, derived, stored]; rfl⟩)

theorem query_cases :
    (∃ fault, c.resolve h = .error fault ∧ c.query engine property h = ⟨.error fault, c, []⟩) ∨
    (∃ entry value, c.Resolves h entry ∧
      (c.memos.table property).answers[entry.id]? = some value ∧
      c.query engine property h =
        ⟨.ok value, c.setMemo property (c.memos.table property).withHit, []⟩) ∨
    (∃ entry cause world, c.Resolves h entry ∧
      (c.memos.table property).answers[entry.id]? = none ∧
      property.derive engine c.scheme entry c.world = (.error cause, world) ∧
      c.query engine property h = ⟨.error (.engine entry.key cause),
        { c.setMemo property (c.memos.table property).withMiss with world }, []⟩) ∨
    (∃ entry value world, c.Resolves h entry ∧
      (c.memos.table property).answers[entry.id]? = none ∧
      property.derive engine c.scheme entry c.world = (.ok value, world) ∧
      c.query engine property h = ⟨.ok value,
        { c.setMemo property ((c.memos.table property).withAnswer entry.id value) with world },
        [.derived property entry.id value]⟩) := by
  cases resolution : (c.resolve h : Except (CacheError Fault) (Entry State)) with
  | error fault => exact .inl ⟨fault, rfl, by unfold query; rw [resolution]⟩
  | ok entry =>
    have resolved := resolve_eq_ok_iff.1 resolution
    obtain ⟨value, kept⟩ | ⟨cause, world, failed⟩ | ⟨value, world, derived⟩ :=
      resolved.query_cases engine c property h
    · exact .inr (.inl ⟨entry, value, resolved, kept⟩)
    · exact .inr (.inr (.inl ⟨entry, cause, world, resolved, failed⟩))
    · exact .inr (.inr (.inr ⟨entry, value, world, resolved, derived⟩))

theorem query_frame :
    (c.query engine property h).cache.owner = c.owner ∧
    (c.query engine property h).cache.scheme = c.scheme ∧
    (c.query engine property h).cache.registry = c.registry := by
  obtain ⟨_, _, e⟩ | ⟨_, _, _, _, e⟩ | ⟨_, _, _, _, _, _, e⟩ | ⟨_, _, _, _, _, _, e⟩ :=
    c.query_cases engine property h
  all_goals
    rw [e]
    exact ⟨rfl, rfl, rfl⟩

theorem query_table_of_ne {other : Property} (differ : other ≠ property) :
    (c.query engine property h).cache.memos.table other = c.memos.table other := by
  obtain ⟨_, _, e⟩ | ⟨_, _, _, _, e⟩ | ⟨_, _, _, _, _, _, e⟩ | ⟨_, _, _, _, _, _, e⟩ :=
    c.query_cases engine property h <;> rw [e]
  all_goals exact Memos.table_replace_of_ne _ differ _

end Query

section Run

variable (engine : Engine World State Fault)

/-- What canonicalizations, interns and queries preserve holds after every run. -/
theorem run_induction (Keeps : Cache World State → Prop)
    (canonicalize : ∀ c state, Keeps c → Keeps (c.canonicalize engine state).cache)
    (intern : ∀ c state, Keeps c → Keeps (c.intern engine state).cache)
    (query : ∀ c property h, Keeps c → Keeps (c.query engine property h).cache)
    (c : Cache World State) (operations : List (Operation State)) (start : Keeps c) :
    Keeps (c.run engine operations).cache := by
  have all (states : List State) (c : Cache World State) (start : Keeps c) :
      Keeps (c.internAll engine states).cache := by
    induction states generalizing c with
    | nil => exact start
    | cons state rest ih =>
      have first := intern c state start
      obtain ⟨fault, -, all⟩ | ⟨key, -, all⟩ := c.internAll_cases engine state rest <;> rw [all]
      · exact first
      · exact ih _ first
  induction operations generalizing c with
  | nil => exact start
  | cons operation rest ih =>
    refine ih _ ?_
    cases operation with
    | intern state => exact intern c state start
    | internAll states => exact all states c start
    | canonicalize state => exact canonicalize c state start
    | query property h => exact query c property h start
    | _ => exact start

theorem run_scheme (c : Cache World State) (operations : List (Operation State)) :
    (c.run engine operations).cache.scheme = c.scheme := by
  refine run_induction engine (·.scheme = c.scheme) ?_ ?_ ?_ c operations rfl
  · intro before state kept
    rw [canonicalize_cache]
    exact kept
  · intro before state kept
    exact (before.intern_scheme engine state).trans kept
  · intro before property h kept
    exact (before.query_frame engine property h).2.1.trans kept

end Run

end StateIntern.Cache
