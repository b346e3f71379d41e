import Mathlib.Data.List.Dedup
import Mathlib.Data.List.Perm.Subperm
import StateIntern.Engine.Faults
import StateIntern.Engine.Listing
import StateIntern.Proofs.Finality

/-! What the counters tell. A question about a stored instance is a hit where the answer is written
down, and a miss otherwise; a miss ends with a new entry or with a failure of the engine. -/
namespace StateIntern

/-- The counters of one table. -/
def CacheStats.of (s : CacheStats) : Property → MemoStats
  | .text => s.strings
  | .common => s.common
  | .divergent => s.divergent

/-- A question that was asked with a handle, and what came back. -/
structure Inquiry (State Fault : Type) (property : Property) where
  handle : Handle State
  answer : Except (CacheError Fault) property.Value

namespace Inquiry

variable {State Fault : Type} {property : Property}

def answered (x : Inquiry State Fault property) : Bool := x.answer.isOk

/-- The numbers for which there was an answer, as often as there was one. -/
def answeredIds (asked : List (Inquiry State Fault property)) : List StateId :=
  (asked.filter (·.answered)).map (·.handle.id)

def failures (asked : List (Inquiry State Fault property)) : List (Inquiry State Fault property) :=
  asked.filter (!·.answered)

variable {asked : List (Inquiry State Fault property)} {x : Inquiry State Fault property}

theorem answeredIds_snoc : answeredIds (asked ++ [x]) =
    answeredIds asked ++ if x.answered then [x.handle.id] else [] := by
  cases answered : x.answered <;> simp [answeredIds, answered]

theorem failures_snoc : failures (asked ++ [x]) =
    failures asked ++ if x.answered then [] else [x] := by
  cases answered : x.answered <;> simp [failures, answered]

end Inquiry

open Inquiry

/-- The table has counted the given inquiries: each is a hit or a miss, the numbers with an answer
are the entries, and a miss that made no entry was a failure. -/
structure Balanced {State Fault : Type} {property : Property}
    (asked : List (Inquiry State Fault property)) (table : Memo StateId property.Value) :
    Prop where
  counted : table.hits + table.misses = asked.length
  kept : ∀ id, id ∈ table.answers ↔ id ∈ answeredIds asked
  missed : table.misses = table.size + (failures asked).length

namespace Balanced

variable {State Fault : Type} {property : Property} {asked : List (Inquiry State Fault property)}
  {table : Memo StateId property.Value} {x : Inquiry State Fault property}

theorem hit (balanced : Balanced asked table) (answered : x.answered = true)
    (known : x.handle.id ∈ table.answers) : Balanced (asked ++ [x]) table.withHit where
  counted := by
    rw [List.length_append, ← balanced.counted]
    exact Nat.add_right_comm ..
  kept id := by
    rw [Memo.answers_withHit, balanced.kept, answeredIds_snoc, if_pos answered, List.mem_append,
      List.mem_singleton]
    constructor
    · exact .inl
    · rintro (before | rfl)
      · exact before
      · exact (balanced.kept _).1 known
  missed := by
    rw [failures_snoc, if_pos answered, List.append_nil]
    exact balanced.missed

theorem failure (balanced : Balanced asked table) (failed : x.answered = false) :
    Balanced (asked ++ [x]) table.withMiss where
  counted := by
    rw [List.length_append, ← balanced.counted]
    rfl
  kept id := by
    rw [Memo.answers_withMiss, balanced.kept, answeredIds_snoc, failed]
    simp
  missed := by
    rw [failures_snoc, failed, List.length_append, ← Nat.add_assoc]
    exact congrArg (· + 1) balanced.missed

theorem success (balanced : Balanced asked table) (answered : x.answered = true)
    (missing : table.answers[x.handle.id]? = none) (value : property.Value) :
    Balanced (asked ++ [x]) (table.withAnswer x.handle.id value) where
  counted := by
    rw [List.length_append, ← balanced.counted]
    rfl
  kept id := by
    rw [Memo.mem_withAnswer, answeredIds_snoc, if_pos answered, List.mem_append,
      List.mem_singleton, balanced.kept, or_comm, eq_comm]
  missed := by
    rw [failures_snoc, if_pos answered, List.append_nil, Memo.size_withAnswer missing,
      Nat.add_right_comm]
    exact congrArg (· + 1) balanced.missed

theorem entries (balanced : Balanced asked table) :
    table.size = (answeredIds asked).dedup.length := by
  refine size_eq_length_of_mem_iff (List.nodup_dedup _) fun id => ?_
  rw [balanced.kept, List.mem_dedup]

theorem stats_of_distinct (balanced : Balanced asked table)
    (answered : ∀ x ∈ asked, x.answered = true) (distinct : (asked.map (·.handle.id)).Nodup) :
    table.stats = ⟨asked.length, 0, asked.length⟩ := by
  have ids : answeredIds asked = asked.map (·.handle.id) := by
    rw [answeredIds, List.filter_eq_self.2 answered]
  have none : failures asked = [] := List.filter_eq_nil_iff.2 fun x member => by
    rw [answered x member]
    exact Bool.false_ne_true
  have size : table.size = asked.length := by
    rw [balanced.entries, ids, List.dedup_eq_self.2 distinct, List.length_map]
  have missed : table.misses = asked.length := by
    rw [balanced.missed, size, none, List.length_nil, Nat.add_zero]
  have counted := balanced.counted
  rw [missed] at counted
  have hits : table.hits = 0 := by omega
  rw [Memo.stats, size, hits, missed]

end Balanced

namespace Cache

variable {World State Fault : Type}

/-- Whether an instance of this cache is behind the handle. -/
def owns (c : Cache World State) : Handle State → Bool
  | .empty => false
  | .held holder named => holder == c.owner && (c.registry.get? named.id).isSome

theorem owns_iff {c : Cache World State} {h : Handle State} :
    c.owns h = true ↔ ∃ entry, c.Resolves h entry := by
  cases h with
  | empty => simp [owns, Resolves]
  | held holder named =>
    simp [owns, Resolves, Option.isSome_iff_exists]

section Inquiries

variable (engine : Engine World State Fault) (property : Property)

/-- An operation asks about a property if it is a query for it with a handle of this cache. -/
def inquiriesOf (c : Cache World State) :
    Operation State → List (Inquiry State Fault property)
  | .query other h =>
    if other = property ∧ c.owns h = true then [⟨h, (c.query engine property h).answer⟩] else []
  | _ => []

/-- All inquiries of a run about one property, in order. -/
def inquiries (c : Cache World State) :
    List (Operation State) → List (Inquiry State Fault property)
  | [] => []
  | operation :: rest =>
    c.inquiriesOf engine property operation ++
      (c.perform engine operation).cache.inquiries rest

theorem inquiries_query_cons (c : Cache World State) (other : Property) (h : Handle State)
    (rest : List (Operation State)) :
    c.inquiries engine property (.query other h :: rest) =
      c.inquiriesOf engine property (.query other h) ++
        (c.query engine other h).cache.inquiries engine property rest :=
  rfl

theorem inquiriesOf_cases (c : Cache World State) (operation : Operation State) :
    (∃ h, operation = .query property h ∧ c.owns h = true ∧
      c.inquiriesOf engine property operation = [⟨h, (c.query engine property h).answer⟩]) ∨
    ((∀ h, operation = .query property h → c.owns h = false) ∧
      c.inquiriesOf engine property operation = []) := by
  cases operation with
  | query other h =>
    by_cases asks : other = property ∧ c.owns h = true
    · obtain ⟨rfl, owned⟩ := asks
      exact .inl ⟨h, rfl, owned, if_pos ⟨rfl, owned⟩⟩
    · refine .inr ⟨fun g same => ?_, if_neg asks⟩
      cases same
      exact Bool.eq_false_iff.2 fun owned => asks ⟨rfl, owned⟩
  | _ => exact .inr ⟨fun h same => by contradiction, rfl⟩

end Inquiries

section Balance

variable {engine : Engine World State Fault} {c : Cache World State} {property : Property}

theorem new_balanced (owner : Nat) (scheme : Scheme) (world : World) :
    Balanced ([] : List (Inquiry State Fault property))
      ((new owner scheme world : Cache World State).memos.table property) where
  counted := by cases property <;> rfl
  kept id := by cases property <;> simp [new, Memos.empty, Memos.table, Memo.empty, answeredIds]
  missed := by cases property <;> rfl

theorem perform_table (operation : Operation State)
    (idle : ∀ h, operation = .query property h → c.owns h = false) :
    (c.perform engine operation).cache.memos.table property = c.memos.table property := by
  cases operation with
  | intern state => exact congrArg (·.table property) (c.intern_memos engine state)
  | internAll states => exact congrArg (·.table property) (c.internAll_memos engine states)
  | canonicalize state =>
    exact congrArg (·.memos.table property) (c.canonicalize_cache engine state)
  | query other h =>
    by_cases same : property = other
    · subst same
      have unowned : ¬∃ entry, c.Resolves h entry := by
        rw [← owns_iff, idle h rfl]
        exact Bool.false_ne_true
      obtain ⟨_, _, outcome⟩ | ⟨entry, _, resolved, _⟩ | ⟨entry, _, _, resolved, _⟩ |
        ⟨entry, _, _, resolved, _⟩ := c.query_cases engine property h
      · simp only [perform, Outcome.map, outcome]
      all_goals exact absurd ⟨entry, resolved⟩ unowned
    · exact query_table_of_ne engine c other h same
  | _ => rfl

theorem query_balance {asked : List (Inquiry State Fault property)} {h : Handle State}
    (valid : c.registry.Valid) (owned : c.owns h = true)
    (balanced : Balanced asked (c.memos.table property)) :
    Balanced (asked ++ [⟨h, (c.query engine property h).answer⟩])
      ((c.query engine property h).cache.memos.table property) := by
  obtain ⟨entry, resolved⟩ := owns_iff.1 owned
  obtain ⟨-, number, -⟩ := resolved.number valid
  obtain ⟨value, kept, outcome⟩ | ⟨cause, world, -, -, outcome⟩ |
    ⟨value, world, missing, -, outcome⟩ := resolved.query_cases engine c property h
  all_goals
    rw [outcome]
    simp only [setMemo, Memos.table_replace]
  · exact balanced.hit rfl (by
      rw [number, Std.TreeMap.mem_iff_isSome_getElem?, kept, Option.isSome_some])
  · exact balanced.failure rfl
  · rw [← number]
    exact balanced.success (x := ⟨h, .ok value⟩) rfl (by rw [number, missing]) value

theorem perform_balance {asked : List (Inquiry State Fault property)} (valid : c.registry.Valid)
    (balanced : Balanced asked (c.memos.table property)) (operation : Operation State) :
    Balanced (asked ++ c.inquiriesOf engine property operation)
      ((c.perform engine operation).cache.memos.table property) := by
  obtain ⟨h, rfl, owned, one⟩ | ⟨idle, none⟩ := c.inquiriesOf_cases engine property operation
  · rw [one]
    exact query_balance valid owned balanced
  · rw [none, List.append_nil, perform_table operation idle]
    exact balanced

theorem run_balance {asked : List (Inquiry State Fault property)} (valid : c.registry.Valid)
    (balanced : Balanced asked (c.memos.table property)) (operations : List (Operation State)) :
    Balanced (asked ++ c.inquiries engine property operations)
      ((c.run engine operations).cache.memos.table property) := by
  -- the registry stays in order, so that a handle is counted under the number of its instance
  induction operations generalizing c asked with
  | nil =>
    rw [inquiries, List.append_nil]
    exact balanced
  | cons operation rest ih =>
    have first : Balanced (asked ++ c.inquiriesOf engine property operation) _ :=
      perform_balance valid balanced operation
    have later := ih ((perform_placed valid operation).valid valid) first
    rw [inquiries, ← List.append_assoc]
    exact later

theorem exists_of_mem_inquiries {operations : List (Operation State)}
    {x : Inquiry State Fault property} (member : x ∈ c.inquiries engine property operations) :
    ∃ d : Cache World State, d.owns x.handle = true ∧
      x.answer = (d.query engine property x.handle).answer := by
  induction operations generalizing c with
  | nil => contradiction
  | cons operation rest ih =>
    rcases List.mem_append.1 member with here | later
    · obtain ⟨h, -, owned, one⟩ | ⟨-, none⟩ := c.inquiriesOf_cases engine property operation
      · rw [one] at here
        cases List.mem_singleton.1 here
        exact ⟨c, owned, rfl⟩
      · rw [none] at here
        contradiction
    · exact ih later

/-- With a handle of the cache only the engine can fail, and it is not asked for the text. -/
theorem query_error_of_owns {h : Handle State} {fault : CacheError Fault}
    (owned : c.owns h = true) (failed : (c.query engine property h).answer = .error fault) :
    property ≠ .text ∧ ∃ key cause, fault = .engine key cause := by
  obtain ⟨entry, resolved⟩ := owns_iff.1 owned
  obtain ⟨_, -, outcome⟩ | ⟨cause, world, -, derived, outcome⟩ | ⟨_, _, -, -, outcome⟩ :=
    resolved.query_cases engine c property h
  all_goals rw [outcome] at failed
  · contradiction
  · cases failed
    refine ⟨?_, _, _, rfl⟩
    rintro rfl
    cases derived
  · contradiction

theorem Sound.size_le (sound : Sound engine c) (property : Property) :
    (c.memos.table property).size ≤ c.size := by
  have stored : (c.memos.table property).answers.keys ⊆ c.registry.toList.map (·.id) := by
    intro id member
    rw [Std.TreeMap.mem_keys, Std.TreeMap.mem_iff_isSome_getElem?] at member
    obtain ⟨value, kept⟩ := Option.isSome_iff_exists.1 member
    obtain ⟨entry, _, found, -⟩ := sound.derived property id value kept
    exact List.mem_map.2 ⟨entry, Registry.mem_toList_of_get? found,
      sound.valid.numbered id entry found⟩
  have bound := (List.subperm_of_subset Std.TreeMap.nodup_keys stored).length_le
  rwa [Std.TreeMap.length_keys, List.length_map, ← Registry.size_eq_length] at bound

theorem stats_of (c : Cache World State) (property : Property) :
    c.stats.of property = (c.memos.table property).stats := by
  cases property <;> rfl

end Balance

/-- Whatever has been done, hits and misses of a table make up the inquiries about its property,
the entries are the instances for which one was answered, and the other misses are the inquiries in
which the engine has failed. No other operation moves these counters. -/
theorem run_counts (engine : Engine World State Fault) (owner : Nat) (scheme : Scheme)
    (world : World) (operations : List (Operation State)) (property : Property) :
    let start : Cache World State := new owner scheme world
    let last := (start.run engine operations).cache
    let asked := start.inquiries engine property operations
    let counts := last.stats.of property
    counts.hits + counts.misses = asked.length ∧
    counts.entries = (answeredIds asked).dedup.length ∧
    counts.entries ≤ last.stats.states ∧
    counts.misses = counts.entries + (failures asked).length ∧
    (∀ x ∈ failures asked, property ≠ .text ∧ ∃ key cause, x.answer = .error (.engine key cause)) ∧
    (property = .text → counts.misses = counts.entries) ∧
    ∀ operation, (∀ h, operation = .query property h → last.owns h = false) →
      (last.perform engine operation).cache.stats.of property = counts := by
  intro start last asked counts
  have sound : Sound engine last := (new_sound owner scheme world).run operations
  have balanced : Balanced asked (last.memos.table property) :=
    run_balance Registry.empty_valid (new_balanced owner scheme world) operations
  have failed : ∀ x ∈ failures asked,
      property ≠ .text ∧ ∃ key cause, x.answer = .error (.engine key cause) := by
    intro x member
    obtain ⟨inside, failed⟩ := List.mem_filter.1 member
    obtain ⟨d, owned, answer⟩ := exists_of_mem_inquiries inside
    cases outcome : x.answer with
    | ok value => simp [Inquiry.answered, outcome, Except.isOk, Except.toBool] at failed
    | error fault =>
      obtain ⟨other, key, cause, rfl⟩ := query_error_of_owns owned (answer ▸ outcome)
      exact ⟨other, key, cause, rfl⟩
  have stats : counts = (last.memos.table property).stats := last.stats_of property
  rw [stats]
  refine ⟨balanced.counted, balanced.entries, sound.size_le property, balanced.missed,
    failed, fun text => ?_, fun operation idle => ?_⟩
  · have none : failures asked = [] := by
      rw [List.eq_nil_iff_forall_not_mem]
      exact fun x member => (failed x member).1 text
    have missed := balanced.missed
    rwa [none, List.length_nil, Nat.add_zero] at missed
  · rw [stats_of, perform_table operation idle]

/-- The engine gives one environment and then goes down. The first state is asked about twice, the
second one in vain, and its text is still there. -/
theorem run_counts_engine_down :
    let engine : Engine (Faults Unit) Listing (Planned Empty) := Listing.engine.faulty
    let world : Faults Unit := { Faults.none () with declared := some ⟨1, "down"⟩ }
    let s : Listing := ⟨"x_L <= 1", [⟨⟨"x_L"⟩, .int⟩], []⟩
    let t : Listing := ⟨"y <= 1", [⟨⟨"y"⟩, .int⟩], []⟩
    let g : Handle Listing := .held 0 ⟨⟨1⟩, "x#0 <= 1", s⟩
    let h : Handle Listing := .held 0 ⟨⟨2⟩, "y <= 1", t⟩
    let operations : List (Operation Listing) := [.intern s, .intern t, .query .common g,
      .query .common g, .query .common h, .query .text h]
    let start : Cache (Faults Unit) Listing := new 0 .standard world
    let last := (start.run engine operations).cache
    let common := last.stats.of .common
    let text := last.stats.of .text
    common.hits + common.misses = 3 ∧ common.entries = 1 ∧ common.misses = common.entries + 1 ∧
    (∃ x ∈ failures (start.inquiries engine .common operations),
      ∃ key cause, x.answer = .error (.engine key cause)) ∧
    text.misses = text.entries ∧
    (last.perform engine (.query .common .empty)).cache.stats.of .common = common := by
  intro engine world s t g h operations start last common text
  have asked : (start.inquiries engine .common operations).length = 3 := by decide +kernel
  have ids : (answeredIds (start.inquiries engine .common operations)).dedup.length = 1 := by
    decide +kernel
  have failed : (failures (start.inquiries engine .common operations)).length = 1 := by
    decide +kernel
  obtain ⟨counted, entries, -, missed, blamed, -, still⟩ :=
    run_counts engine 0 .standard world operations .common
  obtain ⟨-, -, -, -, -, never, -⟩ := run_counts engine 0 .standard world operations .text
  obtain ⟨x, member⟩ := List.exists_mem_of_length_pos (failed ▸ Nat.one_pos)
  have idle : ∀ k, Operation.query .common .empty = .query .common k → last.owns k = false := by
    intro k same
    cases same
    rfl
  exact ⟨counted.trans asked, entries.trans ids, failed ▸ missed, ⟨x, member, (blamed x member).2⟩,
    never rfl, still _ idle⟩

end Cache

end StateIntern
