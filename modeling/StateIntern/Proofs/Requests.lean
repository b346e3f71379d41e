import StateIntern.Engine.Recorded
import StateIntern.Proofs.Copies
import StateIntern.Proofs.Counting

/-! What a cache asks of its engine. An operation makes the calls that its definition needs and no
others: interning prints, and a question that is not answered from a memo table asks for the
environment and then, pair by pair, for the comparisons, until one of them fails. -/
namespace StateIntern

/-- A call to an engine, with all that is handed over. -/
inductive Request (State : Type) where
  | print (state : State)
  | declared (state : State)
  | entails (state : State) (a b : Var)

variable {World State Fault : Type}

namespace Request

def call : Request State → Call
  | .print _ => .print
  | .declared _ => .declared
  | .entails _ a b => .entails a b

/-- The copies of one variable, the left one first. -/
def compare (state : State) (p : Pair) : Request State := .entails state p.left p.right

/-- How many of the calls ask for an environment. -/
def environments (requests : List (Request State)) : Nat := (requests.map call).count .declared

@[simp] theorem environments_nil : environments ([] : List (Request State)) = 0 := rfl

theorem environments_append (requests more : List (Request State)) :
    environments (requests ++ more) = environments requests + environments more := by
  simp [environments]

@[simp] theorem environments_prints (states : List State) :
    environments (states.map .print) = 0 := by
  simp [environments, List.count_eq_zero, call]

@[simp] theorem environments_declared (state : State) (pairs : List Pair) :
    environments (.declared state :: pairs.map (compare state)) = 1 := by
  simp [environments, List.count_eq_zero, call, compare]

end Request

namespace Engine

def afterCall (engine : Engine World State Fault) (world : World) : Request State → World
  | .print state => (engine.print state world).2
  | .declared state => (engine.declared state world).2
  | .entails state a b => (engine.entailsEquality state a b world).2

def afterCalls (engine : Engine World State Fault) (world : World)
    (requests : List (Request State)) : World :=
  requests.foldl engine.afterCall world

/-- The calls with which a property is derived: for the environment, and for the divergent variables
one for each pair of copies, in the order of pairs and up to the first that fails. -/
inductive Derives (engine : Engine World State Fault) (scheme : Scheme) (state : State) :
    Property → World → List (Request State) → Prop where
  | common : engine.Derives scheme state .common world [.declared state]
  | undeclared : engine.declared state world = (.error cause, after) →
      engine.Derives scheme state .divergent world [.declared state]
  | compared : engine.declared state world = (.ok env, start) →
      engine.Compares state (scheme.pairs env) answers start after →
      engine.Derives scheme state .divergent world
        (.declared state :: (scheme.pairs env).map (.compare state))
  | stopped : engine.declared state world = (.ok env, start) →
      scheme.pairs env = before ++ p :: rest →
      engine.Compares state before answers start middle →
      engine.entailsEquality state p.left p.right middle = (.error cause, after) →
      engine.Derives scheme state .divergent world
        (.declared state :: (before ++ [p]).map (.compare state))

variable {engine : Engine World State Fault} {scheme : Scheme} {state : State} {world after : World}
  {property : Property} {requests : List (Request State)}

@[simp] theorem afterCalls_nil (world : World) : engine.afterCalls world [] = world := rfl

@[simp] theorem afterCalls_cons (world : World) (request : Request State)
    (rest : List (Request State)) : engine.afterCalls world (request :: rest) =
      engine.afterCalls (engine.afterCall world request) rest := rfl

theorem afterCalls_append (world : World) (requests more : List (Request State)) :
    engine.afterCalls world (requests ++ more) =
      engine.afterCalls (engine.afterCalls world requests) more :=
  List.foldl_append ..

theorem afterCalls_compares {pairs : List Pair} {answers : List Bool}
    (compares : engine.Compares state pairs answers world after) :
    engine.afterCalls world (pairs.map (.compare state)) = after := by
  induction compares with
  | nil => rfl
  | cons call _ ih => simpa [Request.compare, afterCall, call] using ih

theorem exists_derives (engine : Engine World State Fault) (scheme : Scheme) (state : State)
    (asks : property ≠ .text) (world : World) :
    ∃ requests, engine.Derives scheme state property world requests := by
  cases property with
  | text => exact absurd rfl asks
  | common => exact ⟨_, .common⟩
  | divergent =>
    rcases declared : engine.declared state world with ⟨cause | env, start⟩
    · exact ⟨_, .undeclared declared⟩
    · obtain ⟨answers, last, compares⟩ |
        ⟨before, p, rest, answers, middle, cause, last, split, compares, failure⟩ :=
        engine.compares_or_fails state (scheme.pairs env) start
      · exact ⟨_, .compared declared compares⟩
      · exact ⟨_, .stopped declared split compares failure⟩

theorem Derives.derive_world {entry : Entry State}
    (derives : engine.Derives scheme entry.state property world requests) :
    (property.derive engine scheme entry world).2 = engine.afterCalls world requests := by
  cases derives with
  | common =>
    simp only [Property.derive, commonVars, pairsOf, afterCalls_cons, afterCalls_nil, afterCall]
    rcases engine.declared entry.state world with ⟨cause | env, start⟩ <;> rfl
  | undeclared declared =>
    simp [Property.derive, divergentVars, pairsOf, declared, afterCall]
  | compared declared compares =>
    simp [Property.derive, divergentVars, pairsOf, declared, differing_of_compares compares,
      afterCall, afterCalls_compares compares]
  | stopped declared split compares failure =>
    simp [Property.derive, divergentVars, pairsOf, declared, split,
      differing_of_failure compares failure, afterCall, afterCalls_append,
      afterCalls_compares compares, Request.compare, failure]

theorem Derives.environments (derives : engine.Derives scheme state property world requests) :
    Request.environments requests = 1 := by
  cases derives with
  | common | undeclared => rfl
  | compared | stopped => exact Request.environments_declared _ _

/-- A recording engine notes each call and leaves the rest to the engine that it records. -/
theorem afterCalls_recorded (requests : List (Request State)) (r : Recorded World) :
    engine.recorded.afterCalls r requests =
      ⟨r.calls ++ requests.map Request.call, engine.afterCalls r.world requests⟩ := by
  induction requests generalizing r with
  | nil => simp [afterCalls]
  | cons request rest ih =>
    have noted : engine.recorded.afterCall r request =
        ⟨r.calls ++ [request.call], engine.afterCall r.world request⟩ := by
      cases request <;> rfl
    simp [noted, ih]

end Engine

namespace Cache

/-- Of states that are interned one after the other, those that come up: all up to and including
the first that fails. -/
inductive Tried (engine : Engine World State Fault) :
    Cache World State → List State → List State → Prop where
  | nil : Tried engine c [] []
  | stop : (c.intern engine state).answer = .error fault → Tried engine c (state :: rest) [state]
  | next : (c.intern engine state).answer = .ok h →
      Tried engine (c.intern engine state).cache rest tried →
      Tried engine c (state :: rest) (state :: tried)

/-- The calls that one operation makes: a print for each state that is interned, up to the first
that fails, and whatever it takes to derive an answer that is not in the memo table. -/
inductive Requests (engine : Engine World State Fault) (c : Cache World State) :
    Operation State → List (Request State) → Prop where
  | canonicalize : Requests engine c (.canonicalize state) [.print state]
  | intern : Requests engine c (.intern state) [.print state]
  | internAll : Tried engine c states tried →
      Requests engine c (.internAll states) (tried.map .print)
  | lookup : Requests engine c (.lookup text) []
  | get : Requests engine c (.get number) []
  | handles : Requests engine c .handles []
  | size : Requests engine c .size []
  | stats : Requests engine c .stats []
  | dump : Requests engine c .dump []
  | text : Requests engine c (.query .text h) []
  | unresolved : c.resolve h = (.error fault : Except (CacheError Fault) (Entry State)) →
      Requests engine c (.query property h) []
  | known : c.Resolves h entry → (c.memos.table property).answers[entry.id]? = some value →
      Requests engine c (.query property h) []
  | missed : property ≠ .text → c.Resolves h entry →
      (c.memos.table property).answers[entry.id]? = none →
      engine.Derives c.scheme entry.state property c.world requests →
      Requests engine c (.query property h) requests

/-- The calls of a run, operation by operation. -/
inductive Trace (engine : Engine World State Fault) :
    Cache World State → List (Operation State) → List (List (Request State)) → Prop where
  | nil : Trace engine c [] []
  | cons : Requests engine c operation requests →
      Trace engine (c.perform engine operation).cache rest parts →
      Trace engine c (operation :: rest) (requests :: parts)

/-- The misses in the tables for which an environment is asked. -/
def environmentMisses (c : Cache World State) : Nat :=
  (c.memos.table .common).misses + (c.memos.table .divergent).misses

variable {engine : Engine World State Fault} {c : Cache World State} {property : Property}

theorem environmentMisses_setMemo {table : Memo StateId property.Value}
    (same : table.misses = (c.memos.table property).misses) :
    (c.setMemo property table).environmentMisses = c.environmentMisses := by
  cases property with
  | text => rfl
  | common => exact congrArg (· + _) same
  | divergent => exact congrArg (_ + ·) same

theorem environmentMisses_setMemo_succ (asks : property ≠ .text)
    {table : Memo StateId property.Value}
    (missed : table.misses = (c.memos.table property).misses + 1) :
    (c.setMemo property table).environmentMisses = c.environmentMisses + 1 := by
  cases property with
  | text => exact absurd rfl asks
  | common | divergent =>
    simp only [environmentMisses, setMemo, Memos.replace, Memos.table] at missed ⊢
    omega

theorem environmentMisses_of_memos {d : Cache World State} (same : d.memos = c.memos) :
    d.environmentMisses = c.environmentMisses := by
  simp only [environmentMisses, same]

theorem intern_world (engine : Engine World State Fault) (c : Cache World State) (state : State) :
    (c.intern engine state).cache.world = engine.afterCalls c.world [.print state] := by
  obtain ⟨_, -, -, after⟩ | ⟨_, -, -, after⟩ := c.intern_cases engine state <;> rw [after] <;> rfl

theorem exists_tried (engine : Engine World State Fault) (c : Cache World State)
    (states : List State) : ∃ tried, Tried engine c states tried := by
  induction states generalizing c with
  | nil => exact ⟨[], .nil⟩
  | cons state rest ih =>
    cases answer : (c.intern engine state).answer with
    | error fault => exact ⟨[state], .stop answer⟩
    | ok h =>
      obtain ⟨tried, others⟩ := ih (c.intern engine state).cache
      exact ⟨state :: tried, .next answer others⟩

theorem Tried.internAll_world {states tried : List State} (tries : Tried engine c states tried) :
    (c.internAll engine states).cache.world = engine.afterCalls c.world (tried.map .print) := by
  induction tries with
  | nil => rfl
  | @stop c state rest fault answer =>
    obtain ⟨_, -, all⟩ | ⟨key, canonical, -⟩ := c.internAll_cases engine state rest
    · simp [all, intern_world]
    · simp [intern_answer, canonical, Except.map] at answer
  | @next rest tried c state h answer _ ih =>
    obtain ⟨fault, failed, -⟩ | ⟨_, -, all⟩ := c.internAll_cases engine state rest
    · simp [intern_answer, failed, Except.map] at answer
    · simpa [all, intern_world] using ih

theorem exists_requests_query (engine : Engine World State Fault) (c : Cache World State)
    (property : Property) (h : Handle State) :
    ∃ requests, Requests engine c (.query property h) requests := by
  obtain ⟨fault, refused, -⟩ | ⟨entry, value, resolved, known, -⟩ |
    ⟨entry, _, _, resolved, missing, -⟩ | ⟨entry, _, _, resolved, missing, -⟩ :=
    c.query_cases engine property h
  · exact ⟨_, .unresolved refused⟩
  · exact ⟨_, .known resolved known⟩
  all_goals
    by_cases asks : property = .text
    · subst asks
      exact ⟨_, .text⟩
    · obtain ⟨requests, derives⟩ := engine.exists_derives c.scheme entry.state asks c.world
      exact ⟨requests, .missed asks resolved missing derives⟩

theorem exists_requests (engine : Engine World State Fault) (c : Cache World State)
    (operation : Operation State) : ∃ requests, Requests engine c operation requests := by
  cases operation with
  | canonicalize state => exact ⟨_, .canonicalize⟩
  | intern state => exact ⟨_, .intern⟩
  | internAll states =>
    obtain ⟨tried, tries⟩ := exists_tried engine c states
    exact ⟨_, .internAll tries⟩
  | lookup text => exact ⟨_, .lookup⟩
  | get number => exact ⟨_, .get⟩
  | handles => exact ⟨_, .handles⟩
  | size => exact ⟨_, .size⟩
  | stats => exact ⟨_, .stats⟩
  | dump => exact ⟨_, .dump⟩
  | query property h => exact c.exists_requests_query engine property h

theorem query_text (engine : Engine World State Fault) (c : Cache World State) (h : Handle State) :
    (c.query engine .text h).cache.world = c.world ∧
      (c.query engine .text h).cache.environmentMisses = c.environmentMisses := by
  obtain ⟨_, -, outcome⟩ | ⟨_, _, -, -, outcome⟩ | ⟨_, _, _, -, -, derived, -⟩ |
    ⟨_, _, _, -, -, derived, outcome⟩ := c.query_cases engine .text h
  · rw [outcome]
    exact ⟨rfl, rfl⟩
  · rw [outcome]
    exact ⟨rfl, environmentMisses_setMemo rfl⟩
  · cases derived
  · cases derived
    rw [outcome]
    exact ⟨rfl, rfl⟩

/-- The calls of an operation are the only use that it makes of the engine, and there is one for an
environment for each miss in the tables that need it. -/
theorem Requests.effect {operation : Operation State} {requests : List (Request State)}
    (made : Requests engine c operation requests) :
    (c.perform engine operation).cache.world = engine.afterCalls c.world requests ∧
      (c.perform engine operation).cache.environmentMisses =
        c.environmentMisses + Request.environments requests := by
  cases made with
  | @canonicalize state =>
    have after : (c.perform engine (.canonicalize state)).cache = _ :=
      c.canonicalize_cache engine state
    rw [after]
    exact ⟨rfl, rfl⟩
  | @intern state =>
    exact ⟨c.intern_world engine state, environmentMisses_of_memos (c.intern_memos engine state)⟩
  | @internAll states tried tries =>
    refine ⟨tries.internAll_world, ?_⟩
    rw [Request.environments_prints]
    exact environmentMisses_of_memos (c.internAll_memos engine states)
  | lookup | get | handles | size | stats | dump => exact ⟨rfl, rfl⟩
  | text => exact c.query_text engine _
  | @unresolved h fault property refused =>
    have outcome : c.query engine property h = ⟨.error fault, c, []⟩ := by
      unfold query
      rw [refused]
    simp [perform, Outcome.map, outcome]
  | @known h entry property value resolved known =>
    obtain ⟨_, -, outcome⟩ | ⟨_, _, missing, -⟩ | ⟨_, _, missing, -⟩ :=
      resolved.query_cases engine c property h
    · simp only [perform, Outcome.map, outcome]
      exact ⟨rfl, environmentMisses_setMemo rfl⟩
    all_goals simp [known] at missing
  | @missed property h entry requests asks resolved missing derives =>
    have world := derives.derive_world
    rw [derives.environments]
    obtain ⟨_, known, -⟩ | ⟨_, _, -, derived, outcome⟩ | ⟨_, _, -, derived, outcome⟩ :=
      resolved.query_cases engine c property h
    · simp [missing] at known
    all_goals
      rw [derived] at world
      simp only [perform, Outcome.map, outcome]
      exact ⟨world, environmentMisses_setMemo_succ asks rfl⟩

theorem exists_trace (engine : Engine World State Fault) (c : Cache World State)
    (operations : List (Operation State)) : ∃ parts, Trace engine c operations parts := by
  induction operations generalizing c with
  | nil => exact ⟨[], .nil⟩
  | cons operation rest ih =>
    obtain ⟨requests, made⟩ := c.exists_requests engine operation
    obtain ⟨parts, others⟩ := ih (c.perform engine operation).cache
    exact ⟨requests :: parts, .cons made others⟩

theorem Trace.effect {operations : List (Operation State)} {parts : List (List (Request State))}
    (trace : Trace engine c operations parts) :
    (c.run engine operations).cache.world = engine.afterCalls c.world parts.flatten ∧
      (c.run engine operations).cache.environmentMisses =
        c.environmentMisses + Request.environments parts.flatten := by
  induction trace with
  | nil => exact ⟨rfl, rfl⟩
  | @cons c operation requests rest parts made _ ih =>
    obtain ⟨world, misses⟩ := made.effect
    obtain ⟨worldAfter, missesAfter⟩ := ih
    simp only [run, List.flatten_cons, Engine.afterCalls_append, Request.environments_append]
    constructor
    · rw [worldAfter, world]
    · omega

/-- The calls of a run are those of its operations in order, and there are no others. There are as
many for an environment as misses in the tables of the common and the divergent variables. The pairs
of copies that are compared have the common variables as bases, in ascending order, and on each side
the copy that is declared first. -/
theorem run_requests (engine : Engine World State Fault) (owner : Nat) (scheme : Scheme)
    (world : World) (operations : List (Operation State)) :
    let start : Cache (Recorded World) State := new owner scheme ⟨[], world⟩
    let last := (start.run engine.recorded operations).cache
    (∃ parts, Trace engine.recorded start operations parts) ∧
    (∀ parts, Trace engine.recorded start operations parts →
      last.world = ⟨parts.flatten.map Request.call, engine.afterCalls world parts.flatten⟩) ∧
    last.world.calls.count .declared =
      (last.stats.of .common).misses + (last.stats.of .divergent).misses ∧
    ∀ env, ((scheme.pairs env).map (·.base)).Pairwise (· < ·) ∧
      ∀ p, p ∈ scheme.pairs env ↔ ∃ l r, scheme.firstCopy? env p.base .left = some l ∧
        scheme.firstCopy? env p.base .right = some r ∧ l.kind = r.kind ∧
        p.left = l.var ∧ p.right = r.var := by
  intro start last
  have calls (parts : List (List (Request State)))
      (trace : Trace engine.recorded start operations parts) :
      last.world = ⟨parts.flatten.map Request.call, engine.afterCalls world parts.flatten⟩ :=
    trace.effect.1.trans (Engine.afterCalls_recorded parts.flatten _)
  obtain ⟨parts, trace⟩ := exists_trace engine.recorded start operations
  have counted : last.environmentMisses = Request.environments parts.flatten :=
    trace.effect.2.trans (Nat.zero_add _)
  refine ⟨⟨parts, trace⟩, calls, ?_, fun env =>
    ⟨Scheme.pairs_ascending, fun p => Scheme.mem_pairs_iff⟩⟩
  rw [calls parts trace, stats_of, stats_of]
  exact counted.symm

/-- The right copies are declared first, and the second comparison fails. The environment is asked
for once more for the common variables, which are then known. -/
theorem run_requests_second_comparison :
    let engine : Engine (Faults Unit) Listing (Planned Empty) := Listing.engine.faulty
    let world : Faults Unit := { Faults.none () with entails := some ⟨1, "down"⟩ }
    let s : Listing := ⟨"x_L <= y_R",
      ["y_R", "x_R", "y_L", "x_L"].map fun name => ⟨⟨name⟩, .int⟩, []⟩
    let h : Handle Listing := .held 0 ⟨⟨1⟩, "x#0 <= y#1", s⟩
    let start : Cache (Recorded (Faults Unit)) Listing := new 0 .standard ⟨[], world⟩
    let operations : List (Operation Listing) := [.intern s, .query .divergent h,
      .query .common h, .query .common h, .query .text h]
    let last := (start.run engine.recorded operations).cache
    ∃ parts, Trace engine.recorded start operations parts ∧
      parts.flatten.map Request.call =
        [.print, .declared, .entails ⟨"x_L"⟩ ⟨"x_R"⟩, .entails ⟨"y_L"⟩ ⟨"y_R"⟩, .declared] ∧
      (last.stats.of .common).misses + (last.stats.of .divergent).misses = 2 := by
  intro engine world s h start operations last
  have calls : last.world.calls =
      [.print, .declared, .entails ⟨"x_L"⟩ ⟨"x_R"⟩, .entails ⟨"y_L"⟩ ⟨"y_R"⟩, .declared] := by
    decide +kernel
  have twice : last.world.calls.count .declared = 2 := by decide +kernel
  obtain ⟨⟨parts, trace⟩, made, counted, -⟩ := run_requests engine 0 .standard world operations
  simp only [last, start] at calls twice ⊢
  rw [made parts trace] at calls
  rw [counted] at twice
  exact ⟨parts, trace, calls, twice⟩

end Cache

end StateIntern
