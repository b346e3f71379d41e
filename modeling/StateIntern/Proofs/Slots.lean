import Mathlib.Data.List.Induction
import StateIntern.Proofs.Registry
import StateIntern.Registry.Slots

/-! What lies in the slots of a registry. They lead to the index and the index leads to them, and a
placement in plain slots is the placement in the registry; so all that is shown is the list of the
first offers under their keys. -/
namespace StateIntern.Registry

variable {State : Type} {r : Registry State}

section Slots

theorem slots_empty : (empty : Registry State).slots = Slots.empty := by
  simp [slots, empty, Slots.empty]

@[simp] theorem toList_data_slots (r : Registry State) :
    r.slots.data.toList = none :: r.toList.map some := by
  simp [slots, toList]

@[simp] theorem getElem?_slots_zero (r : Registry State) : r.slots.data[0]? = some none := by
  rw [← Array.getElem?_toList, toList_data_slots, List.getElem?_cons_zero]

@[simp] theorem getElem?_slots_succ (r : Registry State) (i : Nat) :
    r.slots.data[i + 1]? = r.toList[i]?.map some := by
  rw [← Array.getElem?_toList, toList_data_slots, List.getElem?_cons_succ, List.getElem?_map]

theorem size_data_slots (r : Registry State) : r.slots.data.size = r.size + 1 := by
  rw [← Array.length_toList, toList_data_slots, List.length_cons, List.length_map, size_eq_length]

/-- A number leads to the same entry, where no slot is as good as an empty one. -/
@[simp] theorem get?_slots (r : Registry State) (id : StateId) : r.slots.get? id = r.get? id := by
  rw [Slots.get?]
  rcases id with ⟨_ | i⟩
  · rw [getElem?_slots_zero, get?_zero, Option.join_some]
  · rw [getElem?_slots_succ, get?_succ]
    cases r.toList[i]? <;> rfl

@[simp] theorem find?_slots (r : Registry State) (key : String) :
    r.slots.find? key = r.find? key := by
  rw [Slots.find?, find?, funext r.get?_slots]
  rfl

@[simp] theorem toList_slots (r : Registry State) : r.slots.toList = r.toList := by
  rw [Slots.toList, toList_data_slots]
  simp

theorem getElem?_slots_eq_some_iff {i : Nat} {entry : Entry State} :
    r.slots.data[i]? = some (some entry) ↔ r.get? ⟨i⟩ = some entry := by
  rw [← get?_slots, Slots.get?, Option.join_eq_some_iff]

/-- A placement leaves the slots as they are, or it fills the next one and notes its number under
the key. -/
theorem put_slots_cases (r : Registry State) (key : String) (state : State) :
    (∃ entry, r.find? key = some entry ∧ r.put key state = ⟨entry, false, r⟩) ∨
    (r.find? key = none ∧ (r.put key state).isNew = true ∧
      (r.put key state).entry = ⟨⟨r.slots.data.size⟩, key, state⟩ ∧
      (r.put key state).registry.size = r.size + 1 ∧
      (r.put key state).registry.slots =
        ⟨r.slots.data.push (some ⟨⟨r.slots.data.size⟩, key, state⟩),
          r.slots.index.insert key ⟨r.slots.data.size⟩⟩) := by
  rw [size_data_slots]
  obtain known | ⟨missing, isNew, entry, entries, index⟩ := r.put_cases key state
  · exact .inl known
  · have data : (r.put key state).registry.slots.data =
        r.slots.data.push (some ⟨⟨r.size + 1⟩, key, state⟩) := by
      apply Array.toList_inj.1
      rw [toList_data_slots, entries, Array.toList_push, toList_data_slots]
      simp
    refine .inr ⟨missing, isNew, entry, ?_, ?_⟩
    · rw [size_eq_length, entries, List.length_append, List.length_singleton, size_eq_length]
    · rw [← data]
      exact congrArg (Slots.mk _) index

theorem size_le_put (r : Registry State) (key : String) (state : State) :
    r.size ≤ (r.put key state).registry.size := by
  obtain ⟨old, -, placed⟩ | ⟨-, -, -, size, -⟩ := r.put_slots_cases key state
  · simp [placed]
  · simp [size]

theorem tryPut_of_known {key : String} {entry : Entry State} (found : r.find? key = some entry)
    (state : State) : r.tryPut key state = .ok (r.put key state) := by
  have placed : r.put key state = ⟨entry, false, r⟩ := by rw [put, found]
  rw [tryPut, placed]
  exact if_neg fun refused => Bool.false_ne_true refused.1

/-- The number of a new entry is that of its slot. -/
theorem tryPut_of_missing {key : String} (missing : r.find? key = none) (state : State) :
    r.tryPut key state = if r.slots.data.size < UInt32.size
      then .ok (r.put key state) else .error .full := by
  obtain ⟨entry, found, -⟩ | ⟨-, isNew, entry, -⟩ := r.put_slots_cases key state
  · cases missing.symm.trans found
  · simp only [tryPut, isNew, entry, true_and, ← Nat.not_lt, ite_not]

/-- Where there was room, only an entry that is one too many is refused. -/
theorem tryPut_eq (room : r.size < UInt32.size) (key : String) (state : State) :
    r.tryPut key state = if (r.put key state).registry.size < UInt32.size
      then .ok (r.put key state) else .error .full := by
  obtain ⟨entry, found, placed⟩ | ⟨missing, -, -, size, -⟩ := r.put_slots_cases key state
  · rw [tryPut_of_known found, placed, if_pos room]
  · rw [tryPut_of_missing missing, size, size_data_slots]

/-- Plain slots refuse what the registry refuses, and place all else in the same way. -/
theorem put?_slots_eq (r : Registry State) (key : String) (state : State) :
    r.slots.put? key state = (r.tryPut key state).toOption.map fun placed =>
      (placed.entry, placed.isNew, placed.registry.slots) := by
  rw [Slots.put?, find?_slots]
  obtain ⟨entry, found, placed⟩ | ⟨missing, isNew, entry, -, slots⟩ := r.put_slots_cases key state
  · rw [tryPut_of_known found, found, placed]
    rfl
  · rw [tryPut_of_missing missing, missing]
    dsimp only
    split
    · rw [Except.toOption, Option.map_some, isNew, entry, slots]
    · rfl

theorem put?_slots (r : Registry State) (key : String) (state : State)
    (room : (r.put key state).registry.size < UInt32.size) :
    r.slots.put? key state = some ((r.put key state).entry, (r.put key state).isNew,
      (r.put key state).registry.slots) := by
  rw [put?_slots_eq, tryPut_eq (Nat.lt_of_le_of_lt (r.size_le_put key state) room), if_pos room]
  rfl

theorem getElem?_slots_put {i : Nat} {slot : Option (Entry State)}
    (there : r.slots.data[i]? = some slot) (key : String) (state : State) :
    (r.put key state).registry.slots.data[i]? = some slot := by
  obtain ⟨old, -, placed⟩ | ⟨-, -, -, -, slots⟩ := r.put_slots_cases key state
  · rw [placed, there]
  · have inside := (Array.getElem?_eq_some_iff.1 there).1
    rw [slots, Array.getElem?_push_lt inside, ← there, Array.getElem?_eq_getElem inside]

theorem size_le_fill (r : Registry State) (offers : List (String × State)) :
    r.size ≤ (r.fill offers).size := by
  induction offers generalizing r with
  | nil => exact Nat.le_refl _
  | cons offer rest ih => exact Nat.le_trans (r.size_le_put offer.1 offer.2) (ih _)

theorem fill?_slots (r : Registry State) (offers : List (String × State))
    (room : (r.fill offers).size < UInt32.size) :
    r.slots.fill? offers = some (r.fill offers).slots := by
  induction offers generalizing r with
  | nil => rfl
  | cons offer rest ih =>
    -- there are never more entries than at the end
    have first : (r.put offer.1 offer.2).registry.size < UInt32.size :=
      Nat.lt_of_le_of_lt (size_le_fill _ rest) room
    rw [Slots.fill?, put?_slots r offer.1 offer.2 first]
    exact ih _ room

end Slots

section Valid

theorem Valid.exists_slot (valid : r.Valid) {i : Nat} (first : 1 ≤ i) (last : i ≤ r.size) :
    ∃ entry, r.slots.data[i]? = some (some entry) ∧ entry.id = ⟨i⟩ := by
  obtain ⟨place, rfl⟩ := Nat.exists_eq_add_of_le' first
  have inside : place < r.toList.length := by
    rw [← size_eq_length]
    omega
  have here := List.getElem?_eq_getElem inside
  refine ⟨r.toList[place], ?_, valid.id_of_getElem? here⟩
  rw [getElem?_slots_succ, here, Option.map_some]

/-- The index leads to the slots as the slots lead to the index. -/
theorem Valid.index_eq_some_iff (valid : r.Valid) (key : String) (id : StateId) :
    r.slots.index[key]? = some id ↔ ∃ entry, r.slots.data[id.number]? = some (some entry) ∧
      entry.key = key ∧ entry.id = id := by
  refine (valid.indexed key id).trans (exists_congr fun entry => ?_)
  rw [getElem?_slots_eq_some_iff]
  constructor
  · rintro ⟨found, named⟩
    exact ⟨found, named, valid.numbered id entry found⟩
  · rintro ⟨found, named, -⟩
    exact ⟨found, named⟩

theorem Valid.size_index (valid : r.Valid) : r.index.size = r.size := by
  rw [size_eq_length, ← List.length_map (·.key)]
  refine size_eq_length_of_mem_iff valid.keys_nodup fun key => ?_
  rw [Std.TreeMap.mem_iff_isSome_getElem?, Option.isSome_iff_exists, List.mem_map]
  constructor
  · rintro ⟨id, known⟩
    obtain ⟨entry, found, named⟩ := (valid.indexed key id).1 known
    exact ⟨entry, mem_toList_of_get? found, named⟩
  · rintro ⟨entry, member, named⟩
    exact ⟨entry.id, (valid.indexed key _).2 ⟨entry, valid.get?_id member, named⟩⟩

theorem Valid.size_slots (valid : r.Valid) : r.slots.size = r.size := valid.size_index

theorem Valid.isEmpty_slots (valid : r.Valid) : r.slots.isEmpty = r.isEmpty := by
  rw [Slots.isEmpty, Std.TreeMap.isEmpty_eq_size_eq_zero]
  exact congrArg (· == 0) valid.size_index

theorem Valid.find?_eq (valid : r.Valid) (key : String) :
    r.find? key = r.toList.find? (·.key == key) := by
  cases listed : r.toList.find? (·.key == key) with
  | some entry =>
    have named := List.find?_some listed
    exact valid.find?_eq_some_iff.2 ⟨List.mem_of_find?_eq_some listed, by simpa using named⟩
  | none =>
    rw [Option.eq_none_iff_forall_ne_some]
    intro entry found
    obtain ⟨member, named⟩ := valid.find?_eq_some_iff.1 found
    exact List.find?_eq_none.1 listed entry member (by simpa using named)

end Valid

section Offers

variable {offers : List (String × State)}

/-- The offers whose key has not come before. -/
def firstOffers : List (String × State) → List (String × State)
  | [] => []
  | offer :: rest => offer :: (firstOffers rest).filter (·.1 != offer.1)

theorem firstOffers_snoc (offers : List (String × State)) (offer : String × State) :
    firstOffers (offers ++ [offer]) =
      if offer.1 ∈ offers.map (·.1) then firstOffers offers else firstOffers offers ++ [offer] := by
  induction offers with
  | nil => rfl
  | cons first rest ih =>
    rw [List.cons_append, firstOffers, ih, firstOffers]
    by_cases later : offer.1 ∈ rest.map (·.1)
    · simp [later]
    · rw [if_neg later]
      by_cases same : offer.1 = first.1
      · simp [same]
      · simp [later, same]

/-- The entries for these offers, in order. -/
def numbered (offers : List (String × State)) : List (Entry State) :=
  offers.mapIdx fun i offer => ⟨⟨i + 1⟩, offer.1, offer.2⟩

theorem numbered_snoc (offers : List (String × State)) (offer : String × State) :
    numbered (offers ++ [offer]) =
      numbered offers ++ [⟨⟨offers.length + 1⟩, offer.1, offer.2⟩] :=
  List.mapIdx_concat

theorem length_numbered (offers : List (String × State)) :
    (numbered offers).length = offers.length :=
  List.length_mapIdx

/-- One more offer adds its entry to the others, unless its key has come before. -/
theorem Holds.toList_put (holds : Holds offers r) (valid : r.Valid)
    (listed : r.toList = numbered (firstOffers offers)) (offer : String × State) :
    (r.put offer.1 offer.2).registry.toList = numbered (firstOffers (offers ++ [offer])) := by
  have known := holds.isSome_find?_iff valid offer.1
  rw [firstOffers_snoc]
  obtain ⟨old, found, placed⟩ | ⟨missing, -, -, entries, -⟩ := r.put_cases offer.1 offer.2
  · rw [if_pos (known.1 (by rw [found, Option.isSome_some])), placed, listed]
  · have absent : offer.1 ∉ offers.map (·.1) := by simp [← known, missing]
    rw [if_neg absent, numbered_snoc, entries, size_eq_length, listed, length_numbered]

theorem toList_fill (offers : List (String × State)) :
    ((empty : Registry State).fill offers).toList = numbered (firstOffers offers) := by
  induction offers using List.reverseRecOn with
  | nil => rfl
  | append_singleton offers offer ih =>
    have holds : Holds offers (empty.fill offers) := empty_holds.fill empty_valid offers
    rw [fill_append]
    exact holds.toList_put (empty_valid.fill offers) ih offer

theorem Holds.isNew_put_iff (holds : Holds offers r) (valid : r.Valid) (key : String)
    (state : State) : (r.put key state).isNew = true ↔ key ∉ offers.map (·.1) := by
  rw [← holds.isSome_find?_iff valid]
  obtain ⟨old, found, placed⟩ | ⟨missing, isNew, -⟩ := r.put_cases key state
  · simp [found, placed]
  · simp [missing, isNew]

end Offers

theorem eq_empty_of_ofBits {bits : Nat} {start : Registry State} (made : ofBits bits = .ok start) :
    start = empty := by
  unfold ofBits sized at made
  split at made
  next => exact (Except.ok.inj made).symm
  next => contradiction

/-- Whatever is put into a new registry, slot zero is empty and each later slot holds the entry of
its number. The index leads from the key of each entry to its number, and from no other key. In the
slots as in the registry, all that is shown is the list of the first offers under their keys. One
more placement tells whether its key is new and hands out what is stored under it, and what is in a
slot stays there. With fewer than `UInt32.size` entries, placements in plain slots go the same
way. -/
theorem fill_first_offers {bits : Nat} {start : Registry State} (made : ofBits bits = .ok start)
    (offers : List (String × State)) :
    let r := start.fill offers
    let t := r.slots
    let listed := numbered (firstOffers offers)
    (listed.length < UInt32.size → Slots.empty.fill? offers = some t) ∧
    t.data[0]? = some none ∧ t.data.size = listed.length + 1 ∧
    (∀ i, 1 ≤ i → i ≤ t.size → ∃ entry, t.data[i]? = some (some entry) ∧ entry.id = ⟨i⟩) ∧
    (∀ (key : String) (id : StateId), t.index[key]? = some id ↔
      ∃ entry, t.data[id.number]? = some (some entry) ∧ entry.key = key ∧ entry.id = id) ∧
    (r.toList.map (·.key)).Nodup ∧
    (∀ id, t.get? id = r.get? id) ∧ r.get? ⟨0⟩ = none ∧ (∀ i, r.get? ⟨i + 1⟩ = listed[i]?) ∧
    (∀ key, t.find? key = r.find? key ∧ r.find? key = listed.find? (·.key == key)) ∧
    t.toList = r.toList ∧ r.toList = listed ∧
    t.size = r.size ∧ r.size = listed.length ∧
    t.isEmpty = r.isEmpty ∧ r.isEmpty = listed.isEmpty ∧
    ∀ key state, let placed := r.put key state
      (placed.isNew = true ↔ key ∉ offers.map (·.1)) ∧
      placed.registry.find? key = some placed.entry ∧
      (∀ (i : Nat) slot, t.data[i]? = some slot → placed.registry.slots.data[i]? = some slot) ∧
      (placed.registry.size < UInt32.size →
        t.put? key state = some (placed.entry, placed.isNew, placed.registry.slots)) := by
  intro r t listed
  obtain rfl := eq_empty_of_ofBits made
  have valid : r.Valid := empty_valid.fill offers
  have holds : Holds offers r := empty_holds.fill empty_valid offers
  have shown : r.toList = listed := toList_fill offers
  have size : r.size = listed.length := by rw [size_eq_length, shown]
  have plain (room : listed.length < UInt32.size) : Slots.empty.fill? offers = some t := by
    rw [← slots_empty]
    exact fill?_slots empty offers (size ▸ room)
  refine ⟨plain, r.getElem?_slots_zero, ?_,
    fun i first last => valid.exists_slot first (valid.size_slots ▸ last), valid.index_eq_some_iff,
    valid.keys_nodup, r.get?_slots, r.get?_zero, fun i => ?_, fun key => ⟨r.find?_slots key, ?_⟩,
    r.toList_slots, shown, valid.size_slots, size, valid.isEmpty_slots, ?_,
    fun key state => ⟨holds.isNew_put_iff valid key state, ?_,
      fun i slot there => getElem?_slots_put there key state, r.put?_slots key state⟩⟩
  · rw [size_data_slots, size]
  · rw [get?_succ, shown]
  · rw [valid.find?_eq, shown]
  · rw [Bool.eq_iff_iff, isEmpty, size, beq_iff_eq, List.isEmpty_iff_length_eq_zero]
  · obtain ⟨stored, named⟩ := valid.get?_put_entry key state
    exact (valid.put key state).find?_eq_some_iff.2 ⟨mem_toList_of_get? stored, named⟩

/-- A key comes twice among four offers, and its second state is dropped. -/
theorem fill_first_offers_repeated_key :
    let offers : List (String × Nat) := [("a", 10), ("b", 20), ("a", 30), ("c", 40)]
    let listed : List (Entry Nat) := [⟨⟨1⟩, "a", 10⟩, ⟨⟨2⟩, "b", 20⟩, ⟨⟨3⟩, "c", 40⟩]
    let r := (empty : Registry Nat).fill offers
    ofBits 2 = .ok (empty : Registry Nat) ∧ Slots.empty.fill? offers = some r.slots ∧
    r.slots.data[0]? = some none ∧
    (∃ entry, r.slots.data[3]? = some (some entry) ∧ entry.id = ⟨3⟩) ∧
    r.get? ⟨2⟩ = some ⟨⟨2⟩, "b", 20⟩ ∧ r.find? "a" = some ⟨⟨1⟩, "a", 10⟩ ∧ r.find? "d" = none ∧
    r.toList = listed ∧ r.slots.size = 3 ∧
    (r.put "b" 50).isNew ≠ true ∧ (r.put "d" 50).isNew = true ∧
    (r.put "d" 50).registry.find? "d" = some (r.put "d" 50).entry := by
  intro offers listed r
  have made : ofBits 2 = .ok (empty : Registry Nat) := rfl
  have firsts : numbered (firstOffers offers) = listed := by decide
  obtain ⟨plain, sentry, -, filled, -, -, -, -, numbers, keys, -, shown, slots, size, -, -,
    placing⟩ := fill_first_offers made offers
  rw [firsts] at plain numbers shown size
  have three : r.slots.size = 3 := slots.trans size
  have known (key : String) : r.find? key = listed.find? (·.key == key) := by
    rw [(keys key).2, firsts]
  have old := (placing "b" 50).1
  have new := (placing "d" 50).1
  exact ⟨made, plain (by decide), sentry, filled 3 (by decide) (Nat.le_of_eq three.symm),
    numbers 1, known "a", known "d", shown, three, fun isNew => old.1 isNew (by decide),
    new.2 (by decide), (placing "d" 50).2.1⟩

end StateIntern.Registry
