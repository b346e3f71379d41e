import Mathlib.Data.List.Dedup
import StateIntern.Memo.Calls
import StateIntern.Proofs.Memo

/-! Memo tables under any calls. The first value under a key is what every later call with that key
gives back, and the counters tell the hits and the misses among the calls that asked. -/
namespace StateIntern.Memo

section Calls

variable {Key Value : Type} [Ord Key]

@[simp] theorem ask_answer (m : Memo Key Value) (key : Key) :
    (m.ask key).1 = m.answers[key]? := by
  cases kept : m.answers[key]? with
  | some value => rw [ask_of_kept kept]
  | none => rw [ask_of_missing kept]

@[simp] theorem answers_ask (m : Memo Key Value) (key : Key) :
    (m.ask key).2.answers = m.answers := by
  cases kept : m.answers[key]? with
  | some value => rw [ask_of_kept kept, answers_withHit]
  | none => rw [ask_of_missing kept, answers_withMiss]

/-- A question counts as what it finds. -/
theorem counters_ask (m : Memo Key Value) (key : Key) :
    (m.ask key).2.hits = m.hits + (if (m.ask key).1.isSome then 1 else 0) ∧
      (m.ask key).2.misses = m.misses + if (m.ask key).1.isNone then 1 else 0 := by
  cases kept : m.answers[key]? with
  | some value =>
    rw [ask_of_kept kept]
    exact ⟨rfl, rfl⟩
  | none =>
    rw [ask_of_missing kept]
    exact ⟨rfl, rfl⟩

@[simp] theorem store_answer (m : Memo Key Value) (key : Key) (value : Value) :
    (m.store key value).1 = m.answers[key]?.getD value := by
  cases kept : m.answers[key]? with
  | some first => rw [store_of_kept kept, Option.getD_some]
  | none => rw [store_of_absent kept, Option.getD_none]

/-- Nothing is counted when a value is stored. -/
theorem counters_store (m : Memo Key Value) (key : Key) (value : Value) :
    (m.store key value).2.hits = m.hits ∧ (m.store key value).2.misses = m.misses := by
  cases kept : m.answers[key]? with
  | some first =>
    rw [store_of_kept kept]
    exact ⟨rfl, rfl⟩
  | none =>
    rw [store_of_absent kept]
    exact ⟨rfl, rfl⟩

/-- A value is written only where there is none. -/
theorem getElem?_answers_store [Std.TransOrd Key] [Std.LawfulEqOrd Key] [DecidableEq Key]
    (m : Memo Key Value) (key : Key) (value : Value) (other : Key) :
    (m.store key value).2.answers[other]? =
      m.answers[other]?.or (if key = other then some value else none) := by
  cases kept : m.answers[key]? with
  | some first =>
    rw [store_of_kept kept]
    by_cases same : key = other
    · rw [← same, kept, Option.some_or]
    · rw [if_neg same, Option.or_none]
  | none =>
    rw [store_of_absent kept, getElem?_insert_eq]
    by_cases same : key = other
    · rw [if_pos same, if_pos same, ← same, kept, Option.none_or]
    · rw [if_neg same, if_neg same, Option.or_none]

theorem perform_ask (m : Memo Key Value) (key : Key) :
    m.perform (.ask key) = (.asked (m.ask key).1, (m.ask key).2) := rfl

theorem perform_store (m : Memo Key Value) (key : Key) (value : Value) :
    m.perform (.store key value) = (.stored (m.store key value).1, (m.store key value).2) := rfl

theorem counters_perform (m : Memo Key Value) (call : Call Key Value) :
    (m.perform call).2.hits = m.hits + (if (m.perform call).1.isHit then 1 else 0) ∧
      (m.perform call).2.misses = m.misses + if (m.perform call).1.isMiss then 1 else 0 := by
  cases call with
  | ask key => exact m.counters_ask key
  | store key value => exact m.counters_store key value

theorem run_cons (m : Memo Key Value) (call : Call Key Value) (rest : List (Call Key Value)) :
    m.run (call :: rest) = ((m.perform call).1 :: ((m.perform call).2.run rest).1,
      ((m.perform call).2.run rest).2) := rfl

/-- What the counters tell of a run is what its replies tell. -/
theorem counters_run (m : Memo Key Value) (calls : List (Call Key Value)) :
    (m.run calls).2.hits = m.hits + (m.run calls).1.countP Reply.isHit ∧
      (m.run calls).2.misses = m.misses + (m.run calls).1.countP Reply.isMiss := by
  induction calls generalizing m with
  | nil => exact ⟨rfl, rfl⟩
  | cons call rest ih =>
    obtain ⟨hits, misses⟩ := m.counters_perform call
    obtain ⟨laterHits, laterMisses⟩ := ih (m.perform call).2
    rw [run_cons]
    simp only [List.countP_cons]
    omega

end Calls

section First

variable {Key Value : Type} [DecidableEq Key]

theorem firstStored_append (calls more : List (Call Key Value)) (key : Key) :
    firstStored (calls ++ more) key = (firstStored calls key).or (firstStored more key) :=
  List.findSome?_append

@[simp] theorem firstStored_ask (key other : Key) :
    firstStored [(.ask key : Call Key Value)] other = none := rfl

@[simp] theorem firstStored_store (key : Key) (value : Value) (other : Key) :
    firstStored [.store key value] other = if key = other then some value else none := by
  simp [firstStored]

theorem isSome_firstStored_iff {calls : List (Call Key Value)} {key : Key} :
    (firstStored calls key).isSome = true ↔ key ∈ storedKeys calls := by
  induction calls with
  | nil => simp [firstStored, storedKeys]
  | cons call rest ih =>
    cases call with
    | ask other => simpa [firstStored, storedKeys] using ih
    | store other value =>
      by_cases same : other = key
      · simp [firstStored, storedKeys, same]
      · have differ : key ≠ other := Ne.symm same
        simpa [firstStored, storedKeys, same, differ] using ih

end First

section Answers

variable {Key Value : Type} [Ord Key] [DecidableEq Key]

/-- The answers are those that were stored first. -/
def Keeps (calls : List (Call Key Value)) (m : Memo Key Value) : Prop :=
  ∀ key, m.answers[key]? = firstStored calls key

variable {calls : List (Call Key Value)} {m : Memo Key Value}

theorem Keeps.ask (keeps : Keeps calls m) (key : Key) : (m.ask key).1 = firstStored calls key := by
  rw [ask_answer, keeps]

theorem Keeps.store (keeps : Keeps calls m) (key : Key) (value : Value) :
    (m.store key value).1 = (firstStored calls key).getD value := by
  rw [store_answer, keeps]

theorem Keeps.reply (keeps : Keeps calls m) (call : Call Key Value) :
    (m.perform call).1 = call.due calls := by
  cases call with
  | ask key => exact congrArg Reply.asked (keeps.ask key)
  | store key value => exact congrArg Reply.stored (keeps.store key value)

variable [Std.TransOrd Key]

theorem empty_keeps : Keeps [] (empty : Memo Key Value) := fun key => by
  simp [empty, firstStored]

variable [Std.LawfulEqOrd Key]

theorem Keeps.perform (keeps : Keeps calls m) (call : Call Key Value) :
    Keeps (calls ++ [call]) (m.perform call).2 := by
  intro other
  rw [firstStored_append, ← keeps]
  cases call with
  | ask key => rw [perform_ask, answers_ask, firstStored_ask, Option.or_none]
  | store key value => rw [perform_store, getElem?_answers_store, firstStored_store]

/-- Whatever is asked or stored, each call gives back what is due after those before it. -/
theorem Keeps.run (keeps : Keeps calls m) (more : List (Call Key Value)) :
    Keeps (calls ++ more) (m.run more).2 ∧
      (m.run more).1 = more.mapIdx fun i call => call.due (calls ++ more.take i) := by
  induction more generalizing calls m with
  | nil =>
    rw [List.append_nil]
    exact ⟨keeps, rfl⟩
  | cons call rest ih =>
    obtain ⟨last, replies⟩ := ih (keeps.perform call)
    rw [List.append_assoc, List.singleton_append] at last
    refine ⟨last, ?_⟩
    rw [run_cons, replies, keeps.reply, List.mapIdx_cons]
    simp

theorem Keeps.size (keeps : Keeps calls m) : m.size = (storedKeys calls).dedup.length := by
  refine size_eq_length_of_mem_iff (List.nodup_dedup _) fun key => ?_
  rw [List.mem_dedup, ← isSome_firstStored_iff, ← keeps, Std.TreeMap.mem_iff_isSome_getElem?]

theorem Keeps.isEmpty (keeps : Keeps calls m) : m.isEmpty = (storedKeys calls).isEmpty := by
  rw [Bool.eq_iff_iff, Memo.isEmpty, Std.TreeMap.isEmpty_eq_size_eq_zero, beq_iff_eq,
    List.isEmpty_iff, ← List.dedup_eq_nil, ← List.length_eq_zero_iff, ← keeps.size]
  rfl

end Answers

/-- Whatever is asked and stored in an empty table: a call that asks gets the value that was stored
first under its key, and a call that stores gets that value too, which is its own if there was none.
There are as many answers as keys under which something was stored. Hits and misses are the calls
that asked and found something or nothing, and a call that stores moves neither. -/
theorem run_first_stored {Key Value : Type} [Ord Key] [Std.TransOrd Key] [Std.LawfulEqOrd Key]
    [DecidableEq Key] (calls : List (Call Key Value)) :
    let replies := ((empty : Memo Key Value).run calls).1
    let last := ((empty : Memo Key Value).run calls).2
    replies = calls.mapIdx (fun i call => call.due (calls.take i)) ∧
    (∀ key, (last.ask key).1 = firstStored calls key) ∧
    (∀ key value, (last.store key value).1 = (firstStored calls key).getD value) ∧
    last.size = (storedKeys calls).dedup.length ∧ last.isEmpty = (storedKeys calls).isEmpty ∧
    last.hits = replies.countP Reply.isHit ∧ last.misses = replies.countP Reply.isMiss ∧
    ∀ key value, (last.store key value).2.hits = last.hits ∧
      (last.store key value).2.misses = last.misses := by
  intro replies last
  obtain ⟨keeps, given⟩ := Keeps.run (empty_keeps : Keeps [] (empty : Memo Key Value)) calls
  obtain ⟨hits, misses⟩ := (empty : Memo Key Value).counters_run calls
  exact ⟨given, keeps.ask, keeps.store, keeps.size, keeps.isEmpty, hits.trans (Nat.zero_add _),
    misses.trans (Nat.zero_add _), last.counters_store⟩

/-- The second value under a key is dropped. Neither it nor what is stored for the first time is
counted. -/
theorem run_first_stored_twice :
    let calls : List (Call String Nat) :=
      [.ask "a", .store "a" 1, .store "a" 2, .store "b" 3, .ask "a", .ask "c"]
    let replies := ((empty : Memo String Nat).run calls).1
    let last := ((empty : Memo String Nat).run calls).2
    replies = [.asked none, .stored 1, .stored 1, .stored 3, .asked (some 1), .asked none] ∧
    (last.ask "b").1 = some 3 ∧ (last.store "a" 4).1 = 1 ∧ (last.store "c" 5).1 = 5 ∧
    last.size = 2 ∧ last.isEmpty = false ∧ last.hits = 1 ∧ last.misses = 2 ∧
    (last.store "c" 5).2.misses = 2 := by
  intro calls replies last
  obtain ⟨given, asked, stored, size, isEmpty, hits, misses, still⟩ := run_first_stored calls
  rw [given] at hits misses
  exact ⟨given, asked "b", stored "a" 4, stored "c" 5, size.trans (by decide), isEmpty, hits,
    misses, (still "c" 5).2.trans misses⟩

end StateIntern.Memo
