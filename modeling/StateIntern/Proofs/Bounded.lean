import StateIntern.Cache.Bounded
import StateIntern.Proofs.Operation
import StateIntern.Proofs.Slots

/-! Numbers of 32 bits. As long as there is one for every entry, all operations and runs go as they
do without a limit. Where there is none, they break off. -/
namespace StateIntern

variable {World State Fault : Type}

section Outcome

variable {α β : Type}

/-- Gives up an outcome whose cache has more entries than there are numbers. -/
def Outcome.bounded (o : Outcome World State α) : Except CapacityError (Outcome World State α) :=
  if o.cache.size < UInt32.size then .ok o else .error .full

theorem Outcome.bounded_of_lt {o : Outcome World State α} (room : o.cache.size < UInt32.size) :
    o.bounded = .ok o :=
  if_pos room

theorem Outcome.bounded_of_le {o : Outcome World State α} (large : UInt32.size ≤ o.cache.size) :
    o.bounded = .error .full :=
  if_neg (Nat.not_lt.2 large)

theorem Outcome.bounded_map {o : Outcome World State α}
    {f : Outcome World State α → Outcome World State β}
    (kept : (f o).cache = o.cache) : o.bounded.map f = (f o).bounded := by
  unfold bounded
  rw [kept]
  split
  · rfl
  · rfl

/-- What comes later has no fewer entries, so it is given up where the first part is. -/
theorem Outcome.bounded_bind {first : Outcome World State α} {last : Outcome World State β}
    {next : Outcome World State α → Except CapacityError (Outcome World State β)}
    (grows : first.cache.size ≤ last.cache.size)
    (rest : first.cache.size < UInt32.size → next first = last.bounded) :
    (first.bounded >>= next) = last.bounded := by
  by_cases room : first.cache.size < UInt32.size
  · rw [bounded_of_lt room]
    exact rest room
  · have large := Nat.not_lt.1 room
    rw [bounded_of_le large, bounded_of_le (Nat.le_trans large grows)]
    rfl

end Outcome

namespace Cache

variable (engine : Engine World State Fault) {c : Cache World State}

theorem size_le_intern (c : Cache World State) (state : State) :
    c.size ≤ (c.intern engine state).cache.size := by
  obtain ⟨_, -, -, after⟩ | ⟨key, -, -, after⟩ := c.intern_cases engine state <;> rw [after]
  · exact Nat.le_refl _
  · exact c.registry.size_le_put key state

theorem size_le_run (c : Cache World State) (operations : List (Operation State)) :
    c.size ≤ (c.run engine operations).cache.size := by
  refine run_induction engine (c.size ≤ ·.size) ?_ ?_ ?_ c operations (Nat.le_refl _)
  · intro before state grown
    rw [canonicalize_cache]
    exact grown
  · intro before state grown
    exact Nat.le_trans grown (before.size_le_intern engine state)
  · intro before property h grown
    rw [size, size, (before.query_frame engine property h).2.2]
    exact grown

theorem size_new_lt (owner : Nat) (scheme : Scheme) (world : World) :
    (new owner scheme world : Cache World State).size < UInt32.size :=
  (by decide : 0 < UInt32.size)

theorem tryIntern_eq (room : c.size < UInt32.size) (state : State) :
    c.tryIntern engine state = (c.intern engine state).bounded := by
  have frame := c.canonicalize_cache engine state
  unfold tryIntern intern
  rcases outcome : c.canonicalize engine state with ⟨fault | key, after, events⟩ <;>
    rw [outcome] at frame <;> subst frame
  · exact (Outcome.bounded_of_lt room).symm
  · dsimp only
    rw [Registry.tryPut_eq room]
    by_cases fits : (c.registry.put key state).registry.size < UInt32.size
    · rw [if_pos fits]
      exact (if_pos fits).symm
    · rw [if_neg fits]
      exact (if_neg fits).symm

theorem tryInternAll_eq (room : c.size < UInt32.size) (states : List State) :
    c.tryInternAll engine states = (c.internAll engine states).bounded := by
  induction states generalizing c with
  | nil => exact (Outcome.bounded_of_lt room).symm
  | cons state rest ih =>
    have grows := size_le_run engine (c.intern engine state).cache [.internAll rest]
    rw [tryInternAll, tryIntern_eq engine room, internAll]
    rcases outcome : c.intern engine state with ⟨fault | handle, after, events⟩
    · exact Outcome.bounded_bind (Nat.le_refl _) fun fits => (if_pos fits).symm
    · rw [outcome] at grows
      refine Outcome.bounded_bind grows fun fits => ?_
      dsimp only
      rw [ih fits]
      exact Outcome.bounded_map rfl

theorem tryPerform_eq (room : c.size < UInt32.size) (operation : Operation State) :
    c.tryPerform engine operation = (c.perform engine operation).bounded := by
  cases operation with
  | intern state =>
    rw [tryPerform, tryIntern_eq engine room]
    exact Outcome.bounded_map rfl
  | internAll states =>
    rw [tryPerform, tryInternAll_eq engine room]
    exact Outcome.bounded_map rfl
  | canonicalize state =>
    refine (if_pos ?_).symm
    have after : (c.perform engine (.canonicalize state)).cache = _ :=
      c.canonicalize_cache engine state
    rw [after]
    exact room
  | query property h =>
    refine (if_pos ?_).symm
    have after : (c.perform engine (.query property h)).cache.registry = _ :=
      (c.query_frame engine property h).2.2
    rw [size, after]
    exact room
  | _ => exact (Outcome.bounded_of_lt room).symm

/-- A run with numbers of 32 bits is the run without a limit, or it breaks off for want of
numbers. -/
theorem tryRun_eq (room : c.size < UInt32.size) (operations : List (Operation State)) :
    c.tryRun engine operations = (c.run engine operations).bounded := by
  induction operations generalizing c with
  | nil => exact (Outcome.bounded_of_lt room).symm
  | cons operation rest ih =>
    rw [tryRun, tryPerform_eq engine room]
    refine Outcome.bounded_bind (size_le_run engine _ rest) fun fits => ?_
    rw [ih fits]
    exact Outcome.bounded_map rfl

end Cache

end StateIntern
