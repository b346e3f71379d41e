import StateIntern.Proofs.Maps
import StateIntern.Registry

/-! Registries as they grow. A placement appends at most one entry and changes none; after any
offers, the entries are the first states under their keys, in the order in which the keys came. -/
namespace StateIntern.Registry

variable {State : Type}

/-- Every entry carries its place as number, and the index leads from a key to its one entry. -/
structure Valid (r : Registry State) : Prop where
  numbered : ∀ id entry, r.get? id = some entry → entry.id = id
  indexed : ∀ key id, r.index[key]? = some id ↔ ∃ entry, r.get? id = some entry ∧ entry.key = key

@[simp] theorem get?_zero (r : Registry State) : r.get? ⟨0⟩ = none := rfl

@[simp] theorem get?_succ (r : Registry State) (i : Nat) : r.get? ⟨i + 1⟩ = r.toList[i]? :=
  Array.getElem?_toList.symm

theorem empty_valid : Valid (empty : Registry State) where
  numbered := by rintro ⟨_ | i⟩ entry found <;> simp [empty, toList] at found
  indexed := by
    intro key id
    have nothing : (empty : Registry State).get? id = none := by
      rcases id with ⟨_ | i⟩ <;> simp [empty, toList]
    simp only [nothing, reduceCtorEq, false_and, exists_false, iff_false]
    simp [empty]

theorem mem_toList_of_get? {r : Registry State} {id : StateId} {entry : Entry State}
    (found : r.get? id = some entry) : entry ∈ r.toList := by
  rcases id with ⟨_ | i⟩
  · simp at found
  · exact List.mem_of_getElem? (by simpa using found)

theorem Valid.get?_id {r : Registry State} (valid : r.Valid) {entry : Entry State}
    (member : entry ∈ r.toList) : r.get? entry.id = some entry := by
  obtain ⟨i, at_i⟩ := List.mem_iff_getElem?.1 member
  have found : r.get? ⟨i + 1⟩ = some entry := by simpa using at_i
  rw [valid.numbered _ _ found, found]

theorem Valid.find?_eq_some_iff {r : Registry State} (valid : r.Valid) {key : String}
    {entry : Entry State} :
    r.find? key = some entry ↔ entry ∈ r.toList ∧ entry.key = key := by
  simp only [find?, Option.bind_eq_some_iff]
  constructor
  · rintro ⟨id, indexed, found⟩
    obtain ⟨other, found', same⟩ := (valid.indexed key id).1 indexed
    cases found.symm.trans found'
    exact ⟨mem_toList_of_get? found, same⟩
  · rintro ⟨member, same⟩
    have found := valid.get?_id member
    exact ⟨entry.id, (valid.indexed key _).2 ⟨entry, found, same⟩, found⟩

theorem Valid.isSome_find?_iff {r : Registry State} (valid : r.Valid) {key : String} :
    (r.find? key).isSome = true ↔ ∃ entry ∈ r.toList, entry.key = key := by
  simp only [Option.isSome_iff_exists, valid.find?_eq_some_iff]

theorem Valid.eq_of_key {r : Registry State} (valid : r.Valid) {a b : Entry State}
    (memberA : a ∈ r.toList) (memberB : b ∈ r.toList) (same : a.key = b.key) : a = b := by
  have foundA := valid.find?_eq_some_iff.2 ⟨memberA, same⟩
  have foundB := valid.find?_eq_some_iff.2 ⟨memberB, rfl⟩
  exact Option.some.inj (foundA.symm.trans foundB)

theorem Valid.id_of_getElem? {r : Registry State} (valid : r.Valid) {i : Nat}
    {entry : Entry State} (at_i : r.toList[i]? = some entry) : entry.id = ⟨i + 1⟩ :=
  valid.numbered _ _ (by rw [get?_succ, at_i])

theorem Valid.keys_nodup {r : Registry State} (valid : r.Valid) :
    (r.toList.map (·.key)).Nodup := by
  rw [List.nodup_iff_pairwise_ne, List.pairwise_map, List.pairwise_iff_getElem]
  intro i j hi hj before same
  have equal := valid.eq_of_key (List.getElem_mem hi) (List.getElem_mem hj) same
  have first := valid.id_of_getElem? (List.getElem?_eq_getElem hi)
  have second := valid.id_of_getElem? (List.getElem?_eq_getElem hj)
  rw [equal, second] at first
  injection first with number
  omega

theorem Valid.id_eq_rank {r : Registry State} (valid : r.Valid) {entry : Entry State}
    (member : entry ∈ r.toList) : entry.id = ⟨(r.toList.map (·.key)).idxOf entry.key + 1⟩ := by
  obtain ⟨i, at_i⟩ := List.mem_iff_getElem?.1 member
  obtain ⟨bound, here⟩ := List.getElem?_eq_some_iff.1 at_i
  have rank := valid.keys_nodup.idxOf_getElem i (by simpa using bound)
  rw [List.getElem_map, here] at rank
  rw [rank, valid.id_of_getElem? at_i]

/-- All that a placement can do. -/
theorem put_cases (r : Registry State) (key : String) (state : State) :
    (∃ entry, r.find? key = some entry ∧ r.put key state = ⟨entry, false, r⟩) ∨
    (r.find? key = none ∧ (r.put key state).isNew = true ∧
      (r.put key state).entry = ⟨⟨r.size + 1⟩, key, state⟩ ∧
      (r.put key state).registry.toList = r.toList ++ [⟨⟨r.size + 1⟩, key, state⟩] ∧
      (r.put key state).registry.index = r.index.insert key ⟨r.size + 1⟩) := by
  unfold put
  cases found : r.find? key with
  | some entry => exact .inl ⟨entry, rfl, rfl⟩
  | none => exact .inr ⟨rfl, rfl, rfl, by simp [toList], rfl⟩

theorem get?_put {r : Registry State} {id : StateId} {entry : Entry State}
    (found : r.get? id = some entry) (key : String) (state : State) :
    (r.put key state).registry.get? id = some entry := by
  obtain ⟨old, -, placed⟩ | ⟨-, -, -, entries, -⟩ := r.put_cases key state
  · rw [placed, found]
  · rcases id with ⟨_ | i⟩
    · simp at found
    · simp only [get?_succ] at found ⊢
      have bound := (List.getElem?_eq_some_iff.1 found).1
      rw [entries, List.getElem?_append_left bound, found]

theorem size_eq_length (r : Registry State) : r.size = r.toList.length := by simp [size, toList]

theorem Valid.put {r : Registry State} (valid : r.Valid) (key : String) (state : State) :
    (r.put key state).registry.Valid := by
  obtain ⟨old, -, placed⟩ | ⟨missing, -, -, entries, index⟩ := r.put_cases key state
  · rw [placed]
    exact valid
  have get (id : StateId) : (r.put key state).registry.get? id =
      if id = ⟨r.size + 1⟩ then some ⟨⟨r.size + 1⟩, key, state⟩ else r.get? id := by
    rcases id with ⟨_ | i⟩
    · simp
    · simp only [get?_succ, entries, size_eq_length, StateId.mk.injEq, Nat.add_right_cancel_iff]
      split
      next last => simp [last]
      next other =>
        rcases Nat.lt_or_ge i r.toList.length with below | above
        · rw [List.getElem?_append_left below]
        · rw [List.getElem?_append_right above, List.getElem?_eq_none above,
            List.getElem?_eq_none (by simp; omega)]
  have absent : ∀ entry ∈ r.toList, entry.key ≠ key := by
    intro entry member same
    simp [valid.find?_eq_some_iff.2 ⟨member, same⟩] at missing
  have fresh : r.get? ⟨r.size + 1⟩ = none := by simp [size_eq_length]
  constructor
  · intro id entry found
    rw [get] at found
    split at found
    next last => cases found; exact last.symm
    next => exact valid.numbered id entry found
  · intro other id
    rw [index, getElem?_insert_eq, get]
    by_cases same : key = other
    · subst same
      simp only [if_true, Option.some.injEq]
      constructor
      · rintro rfl
        exact ⟨_, if_pos rfl, rfl⟩
      · rintro ⟨entry, found, named⟩
        split at found
        next last => exact last.symm
        next => exact absurd named (absent entry (mem_toList_of_get? found))
    · rw [if_neg same, valid.indexed]
      split
      next last =>
        subst last
        simp [fresh, same]
      next => rfl

/-- Wherever the placed entry comes from, it is stored under its key. -/
theorem Valid.get?_put_entry {r : Registry State} (valid : r.Valid) (key : String) (state : State) :
    (r.put key state).registry.get? (r.put key state).entry.id = some (r.put key state).entry ∧
      (r.put key state).entry.key = key := by
  have after := valid.put key state
  obtain ⟨old, found, placed⟩ | ⟨-, -, entry, entries, -⟩ := r.put_cases key state
  · obtain ⟨member, same⟩ := valid.find?_eq_some_iff.1 found
    rw [placed]
    exact ⟨valid.get?_id member, same⟩
  · have member : (r.put key state).entry ∈ (r.put key state).registry.toList := by
      simp [entries, entry]
    exact ⟨after.get?_id member, by rw [entry]⟩

/-- Offers keyed states one after the other. -/
def fill (r : Registry State) (offers : List (String × State)) : Registry State :=
  offers.foldl (fun r offer => (r.put offer.1 offer.2).registry) r

theorem fill_append (r : Registry State) (offers more : List (String × State)) :
    r.fill (offers ++ more) = (r.fill offers).fill more := by
  simp [fill]

theorem Valid.fill {r : Registry State} (valid : r.Valid) (offers : List (String × State)) :
    (r.fill offers).Valid := by
  induction offers generalizing r with
  | nil => exact valid
  | cons offer rest ih => exact ih (valid.put offer.1 offer.2)

theorem get?_fill {r : Registry State} {id : StateId} {entry : Entry State}
    (found : r.get? id = some entry) (offers : List (String × State)) :
    (r.fill offers).get? id = some entry := by
  induction offers generalizing r with
  | nil => exact found
  | cons offer rest ih => exact ih (get?_put found offer.1 offer.2)

/-- The state that was offered first under a key. -/
def firstOffer (offers : List (String × State)) (key : String) : Option State :=
  (offers.find? (·.1 == key)).map (·.2)

theorem firstOffer_append (offers more : List (String × State)) (key : String) :
    firstOffer (offers ++ more) key = (firstOffer offers key).or (firstOffer more key) := by
  simp only [firstOffer, List.find?_append, Option.map_or]

theorem firstOffer_eq_none_iff {offers : List (String × State)} {key : String} :
    firstOffer offers key = none ↔ key ∉ offers.map (·.1) := by
  simp only [firstOffer, Option.map_eq_none_iff, List.find?_eq_none, List.mem_map, beq_iff_eq]
  constructor
  · rintro differ ⟨offer, member, same⟩
    exact differ offer member same
  · intro absent offer member same
    exact absent ⟨offer, member, same⟩

/-- What comes last counts if it has not come before. -/
theorem eraseDups_snoc {α : Type} [DecidableEq α] (items : List α) (item : α) :
    (items ++ [item]).eraseDups =
      if item ∈ items then items.eraseDups else items.eraseDups ++ [item] := by
  rw [List.eraseDups_append]
  by_cases known : item ∈ items <;> simp [List.removeAll, List.eraseDups_cons, known]

/-- The entries are those that the offers make in an empty registry. -/
structure Holds (offers : List (String × State)) (r : Registry State) : Prop where
  keys : r.toList.map (·.key) = (offers.map (·.1)).eraseDups
  states : ∀ entry ∈ r.toList, firstOffer offers entry.key = some entry.state

theorem Holds.isSome_find?_iff {offers : List (String × State)} {r : Registry State}
    (holds : Holds offers r) (valid : r.Valid) (key : String) :
    (r.find? key).isSome = true ↔ key ∈ offers.map (·.1) := by
  rw [← List.mem_eraseDups, ← holds.keys, valid.isSome_find?_iff, List.mem_map]

theorem Holds.put {offers : List (String × State)} {r : Registry State} (holds : Holds offers r)
    (valid : r.Valid) (offer : String × State) :
    Holds (offers ++ [offer]) (r.put offer.1 offer.2).registry := by
  have known := holds.isSome_find?_iff valid offer.1
  have before : ∀ entry ∈ r.toList,
      firstOffer (offers ++ [offer]) entry.key = some entry.state := by
    intro entry member
    rw [firstOffer_append, holds.states entry member, Option.some_or]
  obtain ⟨old, found, placed⟩ | ⟨missing, -, -, entries, -⟩ := r.put_cases offer.1 offer.2
  · have member : offer.1 ∈ offers.map (·.1) := known.1 (by simp [found])
    rw [placed]
    refine ⟨?_, before⟩
    rw [List.map_append, List.map_singleton, eraseDups_snoc, if_pos member, holds.keys]
  · have absent : offer.1 ∉ offers.map (·.1) := fun member => by
      simpa [missing] using known.2 member
    refine ⟨?_, ?_⟩
    · rw [entries, List.map_append, List.map_append, List.map_singleton, List.map_singleton,
        eraseDups_snoc, if_neg absent, holds.keys]
    · intro entry member
      rw [entries] at member
      rcases List.mem_append.1 member with member | member
      · exact before entry member
      · cases List.mem_singleton.1 member
        rw [firstOffer_append, firstOffer_eq_none_iff.2 absent]
        simp [firstOffer]

theorem Holds.fill {offers : List (String × State)} {r : Registry State} (holds : Holds offers r)
    (valid : r.Valid) (more : List (String × State)) : Holds (offers ++ more) (r.fill more) := by
  induction more generalizing offers r with
  | nil => simpa [Registry.fill] using holds
  | cons offer rest ih =>
    have next := ih (holds.put valid offer) (valid.put offer.1 offer.2)
    simpa [Registry.fill] using next

theorem empty_holds : Holds [] (empty : Registry State) := ⟨rfl, by simp [empty, toList]⟩

/-- What is placed next is stored as the first state under its key, which it may be itself. -/
theorem Holds.state_put {offers : List (String × State)} {r : Registry State}
    (holds : Holds offers r) (valid : r.Valid) (key : String) (state : State) :
    (r.put key state).entry.state = (firstOffer offers key).getD state := by
  have stored := valid.get?_put_entry key state
  have first := (holds.put valid (key, state)).states _ (mem_toList_of_get? stored.1)
  have last : firstOffer [(key, state)] key = some state := by simp [firstOffer]
  rw [stored.2, firstOffer_append, last] at first
  cases before : firstOffer offers key with
  | none => simpa [before, eq_comm] using first
  | some old => simpa [before, eq_comm] using first

/-- A key that has been placed leads to its entry, whatever state comes with it. -/
theorem Valid.put_put {r : Registry State} (valid : r.Valid) (key : String)
    (state other : State) :
    (r.put key state).registry.put key other =
      ⟨(r.put key state).entry, false, (r.put key state).registry⟩ := by
  have stored := valid.get?_put_entry key state
  have found := (valid.put key state).find?_eq_some_iff.2
    ⟨mem_toList_of_get? stored.1, stored.2⟩
  obtain ⟨old, found', placed⟩ | ⟨missing, -⟩ := (r.put key state).registry.put_cases key other
  · rw [placed, Option.some.inj (found.symm.trans found')]
  · rw [found] at missing
    contradiction

end StateIntern.Registry
