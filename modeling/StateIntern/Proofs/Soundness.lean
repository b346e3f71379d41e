import StateIntern.Proofs.Operation
import StateIntern.Proofs.Registry

/-! What a cache has stored can be accounted for: every key is the normalized print of its state,
and every answer in a memo table was derived from the entry it is kept for. -/
namespace StateIntern.Cache

variable {World State Fault : Type} {engine : Engine World State Fault} {c : Cache World State}

structure Sound (engine : Engine World State Fault) (c : Cache World State) : Prop where
  valid : c.registry.Valid
  keyed : ∀ entry ∈ c.registry.toList, ∃ world text,
    (engine.print entry.state world).1 = .ok text ∧ Text.reservedWord? text = none ∧
      c.scheme.normalize text = entry.key
  derived : ∀ property id value, (c.memos.table property).answers[id]? = some value →
    ∃ entry world, c.registry.get? id = some entry ∧
      (property.derive engine c.scheme entry world).1 = .ok value

theorem new_sound (owner : Nat) (scheme : Scheme) (world : World) :
    Sound engine (new owner scheme world) where
  valid := Registry.empty_valid
  keyed entry member := by simp [new, Registry.empty, Registry.toList] at member
  derived property id value kept := by
    cases property <;> simp [new, Memos.empty, Memos.table, Memo.empty] at kept

/-- No world counts. -/
theorem Sound.of_world (sound : Sound engine c) (world : World) :
    Sound engine { c with world } :=
  ⟨sound.valid, sound.keyed, sound.derived⟩

theorem Sound.canonicalize (sound : Sound engine c) (state : State) :
    Sound engine (c.canonicalize engine state).cache := by
  rw [canonicalize_cache]
  exact sound.of_world _

theorem Sound.intern (sound : Sound engine c) (state : State) :
    Sound engine (c.intern engine state).cache := by
  obtain ⟨fault, -, -, after⟩ | ⟨key, canonical, -, after⟩ := c.intern_cases engine state
  · rw [after]
    exact sound.of_world _
  · obtain ⟨text, printed, free, normal⟩ := (c.canonicalize_eq_ok_iff engine state).1 canonical
    rw [after]
    refine ⟨sound.valid.put key state, fun entry member => ?_, fun property id value kept => ?_⟩
    · obtain ⟨old, -, placed⟩ | ⟨-, -, -, entries, -⟩ := c.registry.put_cases key state
      · exact sound.keyed entry (by rwa [placed] at member)
      · rw [entries] at member
        rcases List.mem_append.1 member with member | member
        · exact sound.keyed entry member
        · cases List.mem_singleton.1 member
          exact ⟨c.world, text, printed, free, normal⟩
    · obtain ⟨entry, world, found, derived⟩ := sound.derived property id value kept
      exact ⟨entry, world, Registry.get?_put found key state, derived⟩

/-- A table may be exchanged for one whose new answers are derived. -/
theorem Sound.setMemo (sound : Sound engine c) {property : Property}
    {table : Memo StateId property.Value}
    (derived : ∀ id value, table.answers[id]? = some value →
      (c.memos.table property).answers[id]? = some value ∨ ∃ entry world,
        c.registry.get? id = some entry ∧
          (property.derive engine c.scheme entry world).1 = .ok value) :
    Sound engine (c.setMemo property table) where
  valid := sound.valid
  keyed := sound.keyed
  derived other id value kept := by
    by_cases same : other = property
    · subst same
      simp only [Cache.setMemo, Memos.table_replace] at kept
      rcases derived id value kept with before | added
      · exact sound.derived other id value before
      · exact added
    · simp only [Cache.setMemo, Memos.table_replace_of_ne _ same] at kept
      exact sound.derived other id value kept

theorem Sound.query (sound : Sound engine c) (property : Property) (h : Handle State) :
    Sound engine (c.query engine property h).cache := by
  obtain ⟨fault, -, outcome⟩ | ⟨entry, value, -, -, outcome⟩ |
    ⟨entry, cause, world, -, -, -, outcome⟩ |
    ⟨entry, value, world, resolved, missing, derived, outcome⟩ := c.query_cases engine property h
  all_goals rw [outcome]
  · exact sound
  · exact sound.setMemo fun id value kept => .inl (by simpa using kept)
  · refine Sound.of_world (sound.setMemo fun id value kept => ?_) world
    exact .inl (by simpa using kept)
  · refine Sound.of_world (sound.setMemo fun id other kept => ?_) world
    rw [Memo.getElem?_withAnswer] at kept
    split at kept
    next same =>
      cases same
      cases kept
      obtain ⟨named, -, found⟩ := resolved
      have stored := sound.valid.get?_id (Registry.mem_toList_of_get? found)
      exact .inr ⟨entry, c.world, stored, by rw [derived]⟩
    next => exact .inl kept

theorem Sound.run (sound : Sound engine c) (operations : List (Operation State)) :
    Sound engine (c.run engine operations).cache :=
  run_induction engine (Sound engine) (fun _ state before => before.canonicalize state)
    (fun _ state before => before.intern state)
    (fun _ property h before => before.query property h) c operations sound

/-- A query whose answer does not depend on the world gives that answer, written down or not. -/
theorem Sound.query_answer (sound : Sound engine c) {property : Property} {h : Handle State}
    {entry : Entry State} {value : property.Value} (resolved : c.Resolves h entry)
    (derives : ∀ world, (property.derive engine c.scheme entry world).1 = .ok value) :
    (c.query engine property h).answer = .ok value := by
  obtain ⟨kept, known, outcome⟩ | ⟨cause, world, -, failed, -⟩ |
    ⟨kept, world, -, derived, outcome⟩ := resolved.query_cases engine c property h
  · obtain ⟨named, -, found⟩ := resolved
    obtain ⟨other, world, stored, derived⟩ := sound.derived property entry.id kept known
    rw [sound.valid.get?_id (Registry.mem_toList_of_get? found)] at stored
    cases stored
    rw [derives] at derived
    rw [outcome, Except.ok.inj derived]
  · have derived := derives c.world
    rw [failed] at derived
    contradiction
  · have right := derives c.world
    rw [derived] at right
    rw [outcome, Except.ok.inj right]

end StateIntern.Cache
