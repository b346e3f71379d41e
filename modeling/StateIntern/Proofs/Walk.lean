import StateIntern.Proofs.Counting
import StateIntern.Proofs.Schedule
import StateIntern.Proofs.Tally

/-! What a walk reports. The steps lead to as many entries as there are places in the period, and
each entry is asked for its properties once. -/
namespace StateIntern

namespace Cache

variable {World : Type} {c : Cache World Conjunction}

theorem internAll_printable {states : List Conjunction}
    (printable : ∀ s ∈ states, s.printFault? = none) :
    (∃ handles, (c.internAll Conjunction.engine states).answer = .ok handles) ∧
      (c.interningsAll Conjunction.engine states).map (·.offer) =
        states.map fun s => (c.scheme.normalize s.text, s) := by
  induction states generalizing c with
  | nil => exact ⟨⟨[], rfl⟩, rfl⟩
  | cons s rest ih =>
    rw [List.forall_mem_cons] at printable
    have canonical := c.canonicalize_printable printable.1
    obtain ⟨⟨handles, answer⟩, offers⟩ :=
      ih (c := (c.intern Conjunction.engine s).cache) printable.2
    rw [c.intern_scheme] at offers
    obtain ⟨fault, failed, -⟩ | ⟨key, -, all⟩ := c.internAll_cases Conjunction.engine s rest
    · cases canonical.symm.trans failed
    · refine ⟨⟨_, by rw [all, answer]; rfl⟩, ?_⟩
      rw [interningsAll_of_ok canonical, List.map_cons, offers, List.map_cons]
      rfl

end Cache

namespace Walk

variable {w : Walk} {c : Store} {step place : Nat} {order : List Nat}

/-- How many places of the period are reached. -/
def entries (w : Walk) : Nat := min w.states w.period

theorem mod_period (reached : place < w.entries) : place % w.period = place :=
  Nat.mod_eq_of_lt (reached.trans_le (Nat.min_le_right _ _))

/-- The entry that a step leads to. It keeps the state of the first step under its key. -/
def entryOf (w : Walk) (step : Nat) : Entry Conjunction :=
  ⟨⟨step % w.period + 1⟩, w.keyOf step, w.stateOf (step % w.period)⟩

def handleOf (w : Walk) (step : Nat) : Handle Conjunction := .held 0 (w.entryOf step)

theorem id_handleOf (reached : place < w.entries) : (w.handleOf place).id = ⟨place + 1⟩ := by
  have number : (w.handleOf place).id = ⟨place % w.period + 1⟩ := rfl
  rw [number, mod_period reached]

theorem key?_handleOf (w : Walk) (step : Nat) : (w.handleOf step).key? = some (w.keyOf step) := rfl

def start (w : Walk) : Store := .new 0 w.scheme ()

/-- The cache has the entries of the walk, and each step leads to its own. -/
structure Interned (w : Walk) (c : Store) : Prop where
  sound : Cache.Sound Conjunction.engine c
  scheme : c.scheme = w.scheme
  size : c.size = w.entries
  resolves : ∀ step < w.states, c.Resolves (w.handleOf step) (w.entryOf step)

section Interning

variable {interned : List (Interning Conjunction)}

def offers (w : Walk) : List (String × Conjunction) :=
  (List.range w.states).map fun step => (w.keyOf step, w.stateOf step)

theorem firstOffer_offers (listed : w.scheme ∈ schemes) (before : step < w.states) :
    Registry.firstOffer w.offers (w.keyOf step) = some (w.stateOf (step % w.period)) := by
  have first := (repeats_keyOf listed).find?_range before
  rw [Registry.firstOffer, offers, List.find?_map, Function.comp_def, first]
  rfl

theorem keys_of_offered (offered : interned.map (·.offer) = w.offers) :
    interned.map (·.key) = (List.range w.states).map w.keyOf := by
  have keys := congrArg (List.map Prod.fst) offered
  rwa [offers, List.map_map, List.map_map] at keys

theorem handle_of_placed (listed : w.scheme ∈ schemes) (placed : Cache.Placed w.start interned c)
    (offered : interned.map (·.offer) = w.offers) {x : Interning Conjunction}
    (member : x ∈ interned) (before : step < w.states) (key : x.key = w.keyOf step) :
    x.handle = w.handleOf step := by
  have repeats := repeats_keyOf listed
  have keys := keys_of_offered offered
  have state := Cache.find?_offer interned (w.keyOf step)
  rw [offered, firstOffer_offers listed before] at state
  obtain ⟨first, came, kept⟩ := Option.map_eq_some_iff.1 state
  obtain ⟨rank, found⟩ := placed.handle_rank member
  rw [key, keys, repeats.idxOf_eraseDups before] at rank
  rw [rank, placed.get?_succ, keys, repeats.getElem?_eraseDups before, Option.bind_some, came,
    Option.map_some, kept] at found
  exact (Option.some.inj found).symm

theorem handles_of_placed (listed : w.scheme ∈ schemes) (placed : Cache.Placed w.start interned c)
    (offered : interned.map (·.offer) = w.offers) :
    interned.map (·.handle) = (List.range w.states).map w.handleOf := by
  have keys := keys_of_offered offered
  apply List.ext_getElem
  · simpa using congrArg List.length keys
  · intro step first second
    rw [List.length_map] at first
    rw [List.length_map, List.length_range] at second
    have inside : step < (interned.map (·.key)).length := by rwa [List.length_map]
    have key := List.getElem_of_eq keys inside
    rw [List.getElem_map, List.getElem_map, List.getElem_range] at key
    rw [List.getElem_map, List.getElem_map, List.getElem_range]
    exact handle_of_placed listed placed offered (List.getElem_mem first) second key

theorem interned_of_placed (listed : w.scheme ∈ schemes) (placed : Cache.Placed w.start interned c)
    (offered : interned.map (·.offer) = w.offers) (sound : Cache.Sound Conjunction.engine c)
    (scheme : c.scheme = w.scheme) : w.Interned c := by
  refine ⟨sound, scheme, ?_, fun step before => ?_⟩
  · rw [Cache.size, Registry.size_eq_length, ← List.length_map (·.key), placed.keys,
      keys_of_offered offered, (repeats_keyOf listed).eraseDups, List.length_map,
      List.length_range, entries]
  · have given : w.handleOf step ∈ interned.map (·.handle) := by
      rw [handles_of_placed listed placed offered]
      exact List.mem_map_of_mem (List.mem_range.2 before)
    obtain ⟨x, member, same⟩ := List.mem_map.1 given
    obtain ⟨entry, held, -, found⟩ := placed.handles x member
    cases same.symm.trans held
    have owner : c.owner = 0 := placed.owner
    exact ⟨w.entryOf step, by rw [owner]; rfl, found⟩

theorem internAll_stream (listed : w.scheme ∈ schemes) :
    (w.start.internAll Conjunction.engine w.stream).answer =
      .ok ((List.range w.states).map w.handleOf) ∧
    w.Interned (w.start.internAll Conjunction.engine w.stream).cache := by
  have printable : ∀ s ∈ w.stream, s.printFault? = none := by
    intro s member
    obtain ⟨step, -, rfl⟩ := List.mem_map.1 member
    exact printFault?_stateAt (tagsAt_mem step) _
  obtain ⟨⟨handles, answer⟩, offered⟩ := w.start.internAll_printable printable
  rw [stream, List.map_map] at offered
  have placed : Cache.Placed w.start (w.start.interningsAll Conjunction.engine w.stream)
      (w.start.internAll Conjunction.engine w.stream).cache :=
    Cache.internAll_placed Registry.empty_valid w.stream
  have sound : Cache.Sound Conjunction.engine w.start := Cache.new_sound 0 w.scheme ()
  have scheme := Cache.run_scheme Conjunction.engine w.start [.internAll w.stream]
  rw [answer, ← (Cache.internAll_eq_ok_iff.1 answer).2]
  exact ⟨congrArg Except.ok (handles_of_placed listed placed offered),
    interned_of_placed listed placed offered (sound.run [.internAll w.stream]) scheme⟩

end Interning

section Describing

/-- How many steps have this place in the period. -/
def visits (w : Walk) (place : Nat) : Nat :=
  (List.range w.states).countP (· % w.period = place)

/-- The value of a property for the entry of a place. -/
def valueOf (w : Walk) (place : Nat) : (property : Property) → property.Value
  | .text => w.keyOf place
  | .common => common w.scheme (tagsAt place)
  | .divergent => divergent w.scheme (tagsAt place) (w.pointAt place)

def rowOf (w : Walk) (place : Nat) : Row :=
  ⟨⟨place + 1⟩, w.keyOf place, w.visits place, w.valueOf place .common,
    w.valueOf place .divergent⟩

/-- What is asked of the entries. -/
def questions (w : Walk) (order : List Nat) : List (Operation Conjunction) :=
  order.flatMap fun place =>
    [.query .divergent (w.handleOf place), .query .common (w.handleOf place)]

theorem Interned.query (interned : w.Interned c) (property : Property) (h : Handle Conjunction) :
    w.Interned (c.query Conjunction.engine property h).cache := by
  obtain ⟨owner, scheme, registry⟩ := c.query_frame Conjunction.engine property h
  refine ⟨interned.sound.query property h, scheme.trans interned.scheme, ?_, fun step before => ?_⟩
  · rw [Cache.size, registry]
    exact interned.size
  · rw [Cache.Resolves, owner, registry]
    exact interned.resolves step before

theorem Interned.run_questions (interned : w.Interned c) (order : List Nat) :
    w.Interned (c.run Conjunction.engine (w.questions order)).cache := by
  induction order generalizing c with
  | nil => exact interned
  | cons place rest ih =>
    exact ih ((interned.query .divergent (w.handleOf place)).query .common (w.handleOf place))

theorem Interned.resolves_place (interned : w.Interned c) (reached : place < w.entries) :
    c.Resolves (w.handleOf place) (w.entryOf place) :=
  interned.resolves place (reached.trans_le (Nat.min_le_left _ _))

theorem Interned.answer (interned : w.Interned c) (listed : w.scheme ∈ schemes)
    (reached : place < w.entries) (property : Property) :
    (c.query Conjunction.engine property (w.handleOf place)).answer =
      .ok (w.valueOf place property) := by
  have state : (w.entryOf place).state = stateAt (w.pointAt place) (tagsAt place) := by
    rw [entryOf, mod_period reached, stateOf]
  refine interned.sound.query_answer (interned.resolves_place reached) fun world => ?_
  rw [interned.scheme]
  cases property with
  | text => rfl
  | common => exact derive_common listed (tagsAt_mem place) state world
  | divergent => exact derive_divergent listed (tagsAt_mem place) state world

/-- The rows are shown in their order, and nothing else is asked for. -/
theorem describe_eq (listed : w.scheme ∈ schemes) (interned : w.Interned c)
    (reached : ∀ place ∈ order, place < w.entries) :
    describe c (order.map fun place => (w.handleOf place, w.visits place)) =
      .ok (order.map w.rowOf, (c.run Conjunction.engine (w.questions order)).cache) := by
  -- a question leaves the entries as they are, so the later ones are answered alike
  induction order generalizing c with
  | nil => rfl
  | cons place rest ih =>
    rw [List.forall_mem_cons] at reached
    have after := interned.query .divergent (w.handleOf place)
    have others := ih (after.query .common (w.handleOf place)) reached.2
    rw [List.map_cons, describe, interned.answer listed reached.1]
    simp only [bind, Except.bind, after.answer listed reached.1, others, pure, Except.pure,
      id_handleOf reached.1]
    rfl

/-- Each property but the text is asked of each entry and answered. -/
theorem inquiries_questions (listed : w.scheme ∈ schemes) (interned : w.Interned c)
    (reached : ∀ place ∈ order, place < w.entries) (property : Property) :
    let asked := c.inquiries Conjunction.engine property (w.questions order)
    asked.map (·.handle) = (if property = .text then [] else order.map w.handleOf) ∧
      ∀ x ∈ asked, x.answered = true := by
  induction order generalizing c with
  | nil => exact ⟨(ite_self _).symm, nofun⟩
  | cons place rest ih =>
    rw [List.forall_mem_cons] at reached
    have after := interned.query .divergent (w.handleOf place)
    obtain ⟨handles, answered⟩ := ih (after.query .common (w.handleOf place)) reached.2
    have owned := Cache.owns_iff.2 ⟨_, interned.resolves_place reached.1⟩
    have still := Cache.owns_iff.2 ⟨_, after.resolves_place reached.1⟩
    have asked : w.questions (place :: rest) = .query .divergent (w.handleOf place) ::
        .query .common (w.handleOf place) :: w.questions rest := rfl
    simp only [asked, Cache.inquiries_query_cons, List.map_append, List.forall_mem_append, handles]
    refine ⟨?_, ?_, ?_, answered⟩ <;> cases property <;>
      simp [Cache.inquiriesOf, owned, still, interned.answer listed reached.1,
        after.answer listed reached.1, Inquiry.answered, Except.isOk, Except.toBool]

/-- The counters of a table after the questions: none is asked twice, so none is a hit. -/
theorem table_questions (listed : w.scheme ∈ schemes) (interned : w.Interned c)
    (unasked : c.memos = .empty) (reached : ∀ place ∈ order, place < w.entries)
    (distinct : order.Nodup) (property : Property) :
    ((c.run Conjunction.engine (w.questions order)).cache.memos.table property).stats =
      if property = .text then .zero else ⟨order.length, 0, order.length⟩ := by
  obtain ⟨handles, answered⟩ := inquiries_questions listed interned reached property
  have start : Balanced ([] : List (Inquiry Conjunction StateError property))
      (c.memos.table property) := by
    rw [unasked]
    exact Cache.new_balanced 0 w.scheme ()
  have balanced : Balanced (c.inquiries Conjunction.engine property (w.questions order)) _ :=
    Cache.run_balance interned.sound.valid start (w.questions order)
  have length := congrArg List.length handles
  have ids := congrArg (List.map Handle.id) handles
  rw [List.length_map] at length
  rw [List.map_map] at ids
  rw [balanced.stats_of_distinct answered (?_ : (List.map (Handle.id ∘ _) _).Nodup), length]
  · split <;> simp [MemoStats.zero]
  · rw [ids]
    split
    · exact .nil
    · rw [List.map_map]
      refine distinct.map_on fun s first t second same => ?_
      rw [Function.comp_apply, Function.comp_apply, id_handleOf (reached s first),
        id_handleOf (reached t second)] at same
      exact Nat.succ.inj (congrArg StateId.number same)

theorem stats_questions (listed : w.scheme ∈ schemes) (interned : w.Interned c)
    (unasked : c.memos = .empty) (reached : ∀ place ∈ order, place < w.entries)
    (distinct : order.Nodup) :
    (c.run Conjunction.engine (w.questions order)).cache.stats =
      ⟨w.entries, .zero, ⟨order.length, 0, order.length⟩,
        ⟨order.length, 0, order.length⟩⟩ := by
  have parts (d : Store) : d.stats = ⟨d.size, (d.memos.table .text).stats,
      (d.memos.table .common).stats, (d.memos.table .divergent).stats⟩ := rfl
  have table := table_questions listed interned unasked reached distinct
  rw [parts, (interned.run_questions order).size, table, table, table]
  rfl

end Describing

section Tallying

theorem key?_handleOf_eq_iff (listed : w.scheme ∈ schemes) {s t : Nat} :
    (w.handleOf s).key? = (w.handleOf t).key? ↔ s % w.period = t % w.period := by
  rw [key?_handleOf, key?_handleOf, Option.some_inj, keyOf_eq_iff listed]

/-- Steps of one place have one handle. -/
theorem handleOf_congr (listed : w.scheme ∈ schemes) {s t : Nat}
    (same : s % w.period = t % w.period) : w.handleOf s = w.handleOf t := by
  rw [handleOf, handleOf, entryOf, entryOf, same, (keyOf_eq_iff listed).2 same]

theorem mem_tally_iff (listed : w.scheme ∈ schemes) {row : Handle Conjunction × Nat} :
    row ∈ Tally.ofList ((List.range w.states).map w.handleOf) ↔
      ∃ place < w.entries, (w.handleOf place, w.visits place) = row := by
  have counted {place : Nat} (reached : place < w.entries) :
      ((List.range w.states).map w.handleOf).countP (·.equal (w.handleOf place)) =
        w.visits place := by
    rw [List.countP_map, visits]
    refine List.countP_congr fun step _ => ?_
    rw [Function.comp_apply, Handle.equal_iff, key?_handleOf_eq_iff listed, mod_period reached,
      decide_eq_true_iff]
  have unique : ∀ g ∈ (List.range w.states).map w.handleOf,
      ∀ h ∈ (List.range w.states).map w.handleOf, g.key? = h.key? → g = h := by
    intro g first h second same
    obtain ⟨s, -, rfl⟩ := List.mem_map.1 first
    obtain ⟨t, -, rfl⟩ := List.mem_map.1 second
    exact handleOf_congr listed ((key?_handleOf_eq_iff listed).1 same)
  rw [(Tally.counts_ofList _).mem_iff unique]
  constructor
  · rintro ⟨came, visited⟩
    obtain ⟨step, before, handle⟩ := List.mem_map.1 came
    have reached := (repeats_keyOf listed).mod_lt_min (List.mem_range.1 before)
    rw [← handleOf_congr listed (Nat.mod_mod step w.period)] at handle
    rw [← handle, counted reached] at visited
    exact ⟨step % w.period, reached, Prod.ext handle visited.symm⟩
  · rintro ⟨place, reached, rfl⟩
    have before := reached.trans_le (Nat.min_le_left _ _)
    exact ⟨List.mem_map_of_mem (List.mem_range.2 before), (counted reached).symm⟩

/-- The tally has a row for each place of the period that is reached. -/
theorem tally_perm (listed : w.scheme ∈ schemes) :
    (Tally.ofList ((List.range w.states).map w.handleOf)).Perm
      ((List.range w.entries).map fun place => (w.handleOf place, w.visits place)) := by
  have counts := Tally.counts_ofList ((List.range w.states).map w.handleOf)
  have distinct : ((List.range w.entries).map fun place =>
      (w.handleOf place, w.visits place)).Nodup := by
    refine List.nodup_range.map_on fun s first t second same => ?_
    have keys := congrArg (·.1.key?) same
    rwa [key?_handleOf_eq_iff listed, mod_period (List.mem_range.1 first),
      mod_period (List.mem_range.1 second)] at keys
  refine (List.perm_ext_iff_of_nodup counts.ascending.nodup distinct).2 fun row => ?_
  simp only [mem_tally_iff listed, List.mem_map, List.mem_range]

theorem order_handleOf_iff {s t : Nat} : (w.handleOf s).order (w.handleOf t) = .lt ↔
    Text.bytes (w.keyOf s) < Text.bytes (w.keyOf t) := by
  rw [Handle.order_eq_lt_iff, key?_handleOf, key?_handleOf, Option.map_some, Option.map_some,
    Option.some_lt_some]

/-- The places in the order in which their rows are shown. -/
theorem exists_order (listed : w.scheme ∈ schemes) :
    ∃ order : List Nat, order.Perm (List.range w.entries) ∧
      Tally.ofList ((List.range w.states).map w.handleOf) =
        order.map (fun place => (w.handleOf place, w.visits place)) ∧
      (order.map fun place => Text.bytes (w.keyOf place)).Pairwise (· < ·) ∧
      (order.map w.visits).sum = w.states := by
  have rows : List.Forall₂ (fun row place => row = (w.handleOf place, w.visits place))
      ((List.range w.entries).map fun place => (w.handleOf place, w.visits place))
      (List.range w.entries) := by
    rw [List.forall₂_map_left_iff, List.forall₂_same]
    exact fun _ _ => rfl
  obtain ⟨order, tallied, perm⟩ := List.perm_comp_forall₂ (tally_perm listed) rows
  rw [← List.forall₂_map_right_iff, List.forall₂_eq_eq_eq] at tallied
  have counts := Tally.counts_ofList ((List.range w.states).map w.handleOf)
  have ascending := counts.ascending
  have total := counts.total
  rw [tallied, Tally.Ascending, Tally.handles, List.map_map, List.pairwise_map] at ascending
  rw [tallied, Tally.total, List.map_map, List.length_map, List.length_range] at total
  refine ⟨order, perm, tallied, List.pairwise_map.2 (ascending.imp fun less => ?_), total⟩
  exact order_handleOf_iff.1 less

end Tallying

section Showing

/-- The lines about a place. -/
def linesOf (w : Walk) (place : Nat) : List String :=
  let known := (tagsAt place).known w.scheme
  ["@" ++ (place + 1).repr ++ " x" ++ (w.visits place).repr ++ ": " ++ w.keyOf place,
    "    common = " ++ if known then "\x7bVar(\"i\"), Var(\"n\")\x7d" else "\x7b\x7d",
    "    non-equivalent = [" ++ (if known ∧ ¬3 ∣ w.pointAt place then "i" else "") ++ "]"]

/-- The lines at the end. -/
def totals (entries : Nat) : List String :=
  ["Interned states: " ++ entries.repr,
    "  strings:        0 entries, 0 hits, 0 misses",
    "  common vars:    " ++ entries.repr ++ " entries, 0 hits, " ++ entries.repr ++ " misses",
    "  non-equiv vars: " ++ entries.repr ++ " entries, 0 hits, " ++ entries.repr ++ " misses"]

theorem text_common (scheme : Scheme) (tags : Tags) : (common scheme tags).text =
    if tags.known scheme then "\x7bVar(\"i\"), Var(\"n\")\x7d" else "\x7b\x7d" := by
  rw [common]
  split
  · decide +kernel
  · decide +kernel

theorem names_divergent (scheme : Scheme) (tags : Tags) (point : Nat) :
    ", ".intercalate ((divergent scheme tags point).toList.map (·.name)) =
      if tags.known scheme ∧ ¬3 ∣ point then "i" else "" := by
  rw [divergent]
  split
  · decide +kernel
  · rfl

theorem lines_rowOf (w : Walk) (place : Nat) : (w.rowOf place).lines = w.linesOf place := by
  simp only [Row.lines, rowOf, valueOf, text_common, names_divergent, linesOf]
  rfl

theorem lines_stats (entries : Nat) : CacheStats.lines ⟨entries, .zero, ⟨entries, 0, entries⟩,
    ⟨entries, 0, entries⟩⟩ = totals entries := by
  have counts : MemoStats.text ⟨entries, 0, entries⟩ =
      entries.repr ++ " entries, 0 hits, " ++ entries.repr ++ " misses" := by
    have hits : " entries, " ++ (0 : Nat).repr ++ " hits, " = " entries, 0 hits, " := by decide
    simp only [MemoStats.text, ← hits, String.append_assoc]
  simp only [CacheStats.lines, counts, totals, String.append_assoc]
  rfl

end Showing

section Running

theorem tryInternAll_stream (listed : w.scheme ∈ schemes) :
    w.start.tryInternAll Conjunction.engine w.stream = if w.entries < UInt32.size
      then .ok (w.start.internAll Conjunction.engine w.stream) else .error .full := by
  have room : w.start.size < UInt32.size := Cache.size_new_lt 0 w.scheme ()
  rw [← (internAll_stream listed).2.size]
  exact Cache.tryInternAll_eq Conjunction.engine room w.stream

theorem run_of_le (listed : w.scheme ∈ schemes) (large : UInt32.size ≤ w.entries) :
    w.run = .error (.exhausted .full) := by
  have interned := tryInternAll_stream listed
  rw [if_neg (Nat.not_lt.2 large), start] at interned
  rw [run, interned]
  rfl

theorem exists_report (listed : w.scheme ∈ schemes) (room : w.entries < UInt32.size) :
    ∃ order : List Nat, order.Perm (List.range w.entries) ∧
      (order.map fun place => Text.bytes (w.keyOf place)).Pairwise (· < ·) ∧
      (order.map w.visits).sum = w.states ∧
      w.run = .ok ⟨order.map w.rowOf, ⟨w.entries, .zero, ⟨w.entries, 0, w.entries⟩,
        ⟨w.entries, 0, w.entries⟩⟩⟩ := by
  obtain ⟨answer, interned⟩ := internAll_stream listed
  obtain ⟨order, perm, tallied, ascending, total⟩ := exists_order listed
  have reached : ∀ place ∈ order, place < w.entries := fun place member =>
    List.mem_range.1 (perm.mem_iff.1 member)
  have described := describe_eq listed interned reached
  have stats := stats_questions listed interned (w.start.internAll_memos _ w.stream) reached
    (perm.nodup_iff.2 List.nodup_range)
  have first := tryInternAll_stream listed
  rw [if_pos room, start] at first
  rw [start] at answer described stats
  refine ⟨order, perm, ascending, total, ?_⟩
  rw [perm.length_eq, List.length_range] at stats
  simp only [run, first, answer, tallied, described, stats, bind, Except.bind, Except.mapError,
    pure, Except.pure]

/-- A walk with one of the schemes succeeds if there are numbers for its entries, and else shows
nothing. Each step leads to the entry of its place in the period, which the first step of the place
has made; entries are numbered by their places, from one on. What is shown are the lines about each
place that is reached, in the byte order of keys, and the totals. The numbers of steps add up to
all steps. Every entry has been asked once for its common and once for its divergent variables. The
points, which bound the indices, are less than the number of steps. -/
theorem run_reports {name : String} {scheme : Scheme} (named : scheme? name = some scheme)
    (states distinct : Nat) :
    let w : Walk := ⟨states, distinct, scheme⟩
    let entries := min states w.period
    (entries < UInt32.size →
      (∃ interned, w.start.tryInternAll Conjunction.engine w.stream = .ok interned ∧
        interned.answer = .ok ((List.range states).map w.handleOf) ∧
        interned.cache.size = entries) ∧
      ∃ (order : List Nat) (report : Report), order.Perm (List.range entries) ∧
        (order.map fun place => Text.bytes (w.keyOf place)).Pairwise (· < ·) ∧
        (order.map w.visits).sum = states ∧ w.run = .ok report ∧
        report.rows = order.map w.rowOf ∧
        report.stats = ⟨entries, .zero, ⟨entries, 0, entries⟩, ⟨entries, 0, entries⟩⟩ ∧
        report.lines = order.flatMap w.linesOf ++ totals entries) ∧
    (UInt32.size ≤ entries → w.run = .error (.exhausted .full)) ∧
    ∀ step < states, w.pointAt step < states := by
  intro w entries
  have listed : w.scheme ∈ schemes := scheme?_mem named
  refine ⟨fun room => ⟨?_, ?_⟩, run_of_le listed,
    fun step before => (Nat.mod_le step _).trans_lt before⟩
  · obtain ⟨answer, interned⟩ := internAll_stream listed
    exact ⟨_, (tryInternAll_stream listed).trans (if_pos room), answer, interned.size⟩
  · obtain ⟨order, perm, ascending, total, answer⟩ := exists_report listed room
    refine ⟨order, _, perm, ascending, total, answer, rfl, rfl, ?_⟩
    simp only [Report.lines, lines_stats, List.flatMap_map, lines_rowOf]
    rfl

/-- Of the six places that of the first step comes again with the last one. The convention of the
second step is not known. -/
theorem run_reports_left_right :
    let w : Walk := ⟨7, 3, .leftRight⟩
    let first := ["@1 x2: i#0 >= 0 /\\ i#0 <= 0 /\\ n#0 = n#1 /\\ i#0 = i#1",
      "    common = \x7bVar(\"i\"), Var(\"n\")\x7d", "    non-equivalent = []"]
    let second := ["@2 x1: i_A >= 0 /\\ i_A <= 1 /\\ n_A = n_B /\\ i_B <= 2",
      "    common = \x7b\x7d", "    non-equivalent = []"]
    let last := ["Interned states: 6", "  strings:        0 entries, 0 hits, 0 misses",
      "  common vars:    6 entries, 0 hits, 6 misses",
      "  non-equiv vars: 6 entries, 0 hits, 6 misses"]
    scheme? "left-right" = some w.scheme ∧ min 7 w.period = 6 ∧ 6 < UInt32.size ∧
    ∃ report, w.run = .ok report ∧
      first <:+: report.lines ∧ second <:+: report.lines ∧ last <:+ report.lines := by
  intro w first second last
  have named : scheme? "left-right" = some w.scheme := rfl
  have entries : min 7 w.period = 6 := by decide +kernel
  have room : 6 < UInt32.size := by decide
  obtain ⟨-, order, report, perm, -, -, answer, -, -, lines⟩ :=
    (run_reports named 7 3).1 (entries ▸ room)
  have shown {place : Nat} (reached : place < 6) : w.linesOf place <:+: report.lines := by
    have member : place ∈ order := perm.mem_iff.2 (List.mem_range.2 (entries ▸ reached))
    have among := List.infix_of_mem_flatten (List.mem_map_of_mem (f := w.linesOf) member)
    rw [← List.flatMap_def] at among
    rw [lines]
    exact among.trans (List.prefix_append _ _).isInfix
  have atFirst : w.linesOf 0 = first := by decide +kernel
  have atSecond : w.linesOf 1 = second := by decide +kernel
  have atLast : totals (min 7 w.period) = last := by decide +kernel
  refine ⟨named, entries, room, report, answer, ?_, ?_, ?_⟩
  · exact atFirst ▸ shown (by decide)
  · exact atSecond ▸ shown (by decide)
  · exact ⟨_, atLast ▸ lines.symm⟩

/-- The last of so many states finds no number. -/
theorem standard_runs_out_of_numbers :
    let w : Walk := ⟨4294967296, 4294967296, .standard⟩
    scheme? "standard" = some w.scheme ∧ w.states < 9223372036854775808 ∧
    min w.states w.period = 4294967296 ∧ w.run = .error (.exhausted .full) ∧
    Failure.message (.exhausted .full) = "Table is full" ∧ ¬∃ report, w.run = .ok report := by
  intro w
  have named : scheme? "standard" = some w.scheme := rfl
  have entries : min w.states w.period = 4294967296 := by decide +kernel
  have broken : w.run = .error (.exhausted .full) :=
    run_of_le (scheme?_mem named) (Nat.le_of_eq entries.symm)
  refine ⟨named, by decide, entries, broken, rfl, ?_⟩
  rintro ⟨report, answer⟩
  cases broken.symm.trans answer

end Running

end Walk

end StateIntern
