import StateIntern.Cache.Workspace
import StateIntern.Engine.Listing
import StateIntern.Proofs.ByteOrder
import StateIntern.Proofs.Interning

/-! Caches that are used side by side. Whatever is done to a set of caches, each of them keeps its
number and what it has stored. So a handle stays a handle of the cache that gave it out, and no
other cache takes it for its own. -/
namespace StateIntern

/-- The handles that come with an answer. -/
def Answer.given {State Fault : Type} : Answer State Fault → List (Handle State)
  | .handle h => [h]
  | .found h? => h?.toList
  | .handles hs => hs
  | _ => []

theorem Answer.mem_given_ofExcept {State Fault α : Type} {answer : α → Answer State Fault}
    {result : Except (CacheError Fault) α} {h : Handle State}
    (member : h ∈ (ofExcept answer result).given) :
    ∃ a, result = .ok a ∧ h ∈ (answer a).given := by
  cases result with
  | error fault => exact absurd member List.not_mem_nil
  | ok a => exact ⟨a, rfl, member⟩

namespace Cache

variable {World State Fault : Type} {engine : Engine World State Fault}
  {c d : Cache World State} {g h : Handle State}

/-- The later cache is the earlier one with more states stored. -/
structure Grows (c d : Cache World State) : Prop where
  owner : d.owner = c.owner
  registry : ∃ offers, d.registry = c.registry.fill offers

theorem Grows.refl (c : Cache World State) : Grows c c := ⟨rfl, [], rfl⟩

theorem Placed.grows {interned : List (Interning State)} (placed : Placed c interned d) :
    Grows c d :=
  ⟨placed.owner, _, placed.registry⟩

theorem Grows.valid (grows : Grows c d) (valid : c.registry.Valid) : d.registry.Valid := by
  obtain ⟨offers, registry⟩ := grows.registry
  rw [registry]
  exact valid.fill offers

/-- The handle is one of this cache, for an instance stored here. -/
def Has (c : Cache World State) (h : Handle State) : Prop :=
  ∃ entry, h = c.handle entry ∧ c.registry.get? entry.id = some entry

theorem Grows.has (grows : Grows c d) (has : c.Has h) : d.Has h := by
  obtain ⟨entry, rfl, stored⟩ := has
  obtain ⟨offers, registry⟩ := grows.registry
  refine ⟨entry, by simp only [handle, grows.owner], ?_⟩
  rw [registry]
  exact Registry.get?_fill stored offers

theorem has_handle (valid : c.registry.Valid) {entry : Entry State}
    (member : entry ∈ c.registry.toList) : c.Has (c.handle entry) :=
  ⟨entry, rfl, valid.get?_id member⟩

theorem has_of_mem_given (valid : c.registry.Valid) {operation : Operation State}
    (member : h ∈ (c.perform engine operation).answer.given) :
    (c.perform engine operation).cache.Has h := by
  have interned (returned : h ∈ operation.returned (c.perform engine operation).answer) :
      (c.perform engine operation).cache.Has h := by
    have placed : Placed c (c.interningsOf engine operation) _ := perform_placed valid operation
    obtain ⟨x, inside, rfl⟩ := List.mem_map.1 ((perform_returned operation).subset returned)
    obtain ⟨entry, held, -, stored⟩ := placed.handles x inside
    exact ⟨entry, by rw [held, handle, placed.owner], stored⟩
  cases operation with
  | intern state =>
    obtain ⟨g, answer, inside⟩ := Answer.mem_given_ofExcept member
    apply interned
    simp only [perform, Outcome.map, answer]
    exact inside
  | internAll states =>
    obtain ⟨hs, answer, inside⟩ := Answer.mem_given_ofExcept member
    apply interned
    simp only [perform, Outcome.map, answer]
    exact inside
  | lookup text =>
    obtain ⟨entry, found, rfl⟩ := Option.map_eq_some_iff.1 (Option.mem_toList.1 member)
    exact has_handle valid (valid.find?_eq_some_iff.1 found).1
  | get id =>
    obtain ⟨entry, found, rfl⟩ := Option.map_eq_some_iff.1 (Option.mem_toList.1 member)
    exact has_handle valid (Registry.mem_toList_of_get? found)
  | handles =>
    obtain ⟨entry, inside, rfl⟩ := List.mem_map.1 member
    exact has_handle valid inside
  | canonicalize | query =>
    obtain ⟨_, -, inside⟩ := Answer.mem_given_ofExcept member
    exact absurd inside List.not_mem_nil
  | size | stats | dump => exact absurd member List.not_mem_nil

theorem id_ne_none {entry : Entry State} (stored : c.registry.get? entry.id = some entry) :
    entry.id ≠ .none := by
  intro none
  rw [none] at stored
  contradiction

/-- Among the handles of one cache and the empty one, a handle is known by its key, by its instance
and by its number. -/
theorem handle_eq_iff (valid : c.registry.Valid) (hasG : g = .empty ∨ c.Has g)
    (hasH : h = .empty ∨ c.Has h) :
    (g.key? = h.key? ↔ g = h) ∧ (g.same h = true ↔ g = h) ∧ (g.id = h.id ↔ g = h) := by
  obtain rfl | ⟨x, rfl, storedX⟩ := hasG <;> obtain rfl | ⟨y, rfl, storedY⟩ := hasH
  · simp [Handle.same]
  · have numbered := (id_ne_none storedY).symm
    simpa [Handle.same, Handle.key?, Handle.id, Handle.stored?, handle] using numbered
  · have numbered := id_ne_none storedX
    simpa [Handle.same, Handle.key?, Handle.id, Handle.stored?, handle] using numbered
  · have byKey : x.key = y.key ↔ x = y := by
      refine ⟨fun same => ?_, congrArg _⟩
      exact valid.eq_of_key (Registry.mem_toList_of_get? storedX)
        (Registry.mem_toList_of_get? storedY) same
    have byId : x.id = y.id ↔ x = y := by
      refine ⟨fun same => ?_, congrArg _⟩
      rw [same] at storedX
      exact Option.some.inj (storedX.symm.trans storedY)
    simp [Handle.same, Handle.key?, Handle.id, Handle.stored?, handle, byKey, byId]

theorem not_same (apart : c.owner ≠ d.owner) (hasG : c.Has g) (hasH : d.Has h) :
    g.same h = false := by
  obtain ⟨x, rfl, -⟩ := hasG
  obtain ⟨y, rfl, -⟩ := hasH
  simp [Handle.same, handle, apart]

theorem Has.resolve (has : c.Has h) : ∃ entry, h.stored? = some entry ∧
    c.resolve h = (.ok entry : Except (CacheError Fault) (Entry State)) := by
  obtain ⟨entry, rfl, stored⟩ := has
  exact ⟨entry, rfl, resolve_eq_ok_iff.2 ⟨entry, rfl, stored⟩⟩

theorem Has.query_foreign (has : c.Has h) (apart : c.owner ≠ d.owner)
    (engine : Engine World State Fault) (property : Property) :
    d.query engine property h = ⟨.error (.foreignHandle h.id), d, []⟩ := by
  obtain ⟨entry, rfl, -⟩ := has
  have refused : d.resolve (c.handle entry) =
      (.error (.foreignHandle entry.id) : Except (CacheError Fault) (Entry State)) := by
    simp only [Cache.resolve, handle]
    cases d.registry.get? entry.id <;> simp [apart]
  unfold query
  rw [refused]
  rfl

end Cache

/-- Something done to a set of caches: one is added, the world that one of them sees changes from
outside, or one performs an operation. -/
inductive Action (World State : Type) where
  | add (scheme : Scheme) (world : World)
  | addOfBits (scheme : Scheme) (world : World) (bits : Nat)
  | change (i : Nat) (f : World → World)
  | perform (i : Nat) (operation : Operation State)

namespace Workspace

variable {World State Fault : Type} (engines : Nat → Engine World State Fault)

/-- What has no cache to act on, or asks for too large a cache, changes nothing. -/
def act (w : Workspace World State) : Action World State → Workspace World State
  | .add scheme world => w.add scheme world
  | .addOfBits scheme world bits =>
    match w.addOfBits scheme world bits with
    | .ok next => next
    | .error _ => w
  | .change i f => w.modifyWorld i f
  | .perform i operation =>
    match w.perform (engines i) i operation with
    | some (_, _, next) => next
    | none => w

/-- The handles that an action gives out, each with the place of its cache. -/
def gives (w : Workspace World State) : Action World State → List (Nat × Handle State)
  | .perform i operation =>
    match w.perform (engines i) i operation with
    | some (answer, _, _) => answer.given.map fun h => (i, h)
    | none => []
  | _ => []

def after (w : Workspace World State) : List (Action World State) → Workspace World State
  | [] => w
  | action :: rest => (w.act engines action).after rest

/-- All handles that a list of actions gives out. -/
def given (w : Workspace World State) : List (Action World State) → List (Nat × Handle State)
  | [] => []
  | action :: rest => w.gives engines action ++ (w.act engines action).given rest

/-- The caches are numbered by their places, and what they have stored is in order. -/
def Numbered (w : Workspace World State) : Prop :=
  ∀ i c, w.get? i = some c → c.owner = i ∧ c.registry.Valid

/-- The cache at the place has the handle. -/
def Keeps (w : Workspace World State) (i : Nat) (h : Handle State) : Prop :=
  ∃ c, w.get? i = some c ∧ c.Has h

/-- The caches of the earlier set have grown, and the others are new. -/
structure Extends (w next : Workspace World State) : Prop where
  grows : ∀ i c, w.get? i = some c → ∃ d, next.get? i = some d ∧ Cache.Grows c d
  fresh : ∀ i d, w.get? i = none → next.get? i = some d → d.owner = i ∧ d.registry = .empty

variable {engines} {w next : Workspace World State}

theorem empty_numbered : (empty : Workspace World State).Numbered := by
  intro i c here
  simp [empty, get?] at here

theorem extends_of_get?_eq (same : ∀ i, next.get? i = w.get? i) : Extends w next where
  grows i c here := ⟨c, (same i).trans here, .refl c⟩
  fresh i d missing here := by
    rw [same, missing] at here
    contradiction

theorem Extends.numbered (later : Extends w next) (numbered : w.Numbered) : next.Numbered := by
  intro i d here
  cases before : w.get? i with
  | none =>
    obtain ⟨owner, empty⟩ := later.fresh i d before here
    exact ⟨owner, empty ▸ Registry.empty_valid⟩
  | some c =>
    obtain ⟨d', here', grows⟩ := later.grows i c before
    cases here.symm.trans here'
    obtain ⟨owner, valid⟩ := numbered i c before
    exact ⟨grows.owner.trans owner, grows.valid valid⟩

theorem Extends.keeps (later : Extends w next) {i : Nat} {h : Handle State} (keeps : w.Keeps i h) :
    next.Keeps i h := by
  obtain ⟨c, here, has⟩ := keeps
  obtain ⟨d, here', grows⟩ := later.grows i c here
  exact ⟨d, here', grows.has has⟩

theorem extends_push {cache : Cache World State} (owner : cache.owner = w.caches.size)
    (empty : cache.registry = .empty) : Extends w ⟨w.caches.push cache⟩ where
  grows i c here := by
    have inside : i < w.caches.size := (Array.getElem?_eq_some_iff.1 here).1
    refine ⟨c, ?_, .refl c⟩
    simp only [get?, Array.getElem?_push, Nat.ne_of_lt inside, if_false]
    exact here
  fresh i d missing here := by
    simp only [get?, Array.getElem?_push] at here missing
    by_cases last : i = w.caches.size
    · simp only [last, if_true, Option.some.injEq] at here
      subst here
      exact ⟨last ▸ owner, empty⟩
    · simp [last, missing] at here

theorem extends_of_get? {i : Nat} {before now : Cache World State} (here : w.get? i = some before)
    (grows : Cache.Grows before now)
    (exchanged : ∀ j, next.get? j = if j = i then some now else w.get? j) : Extends w next where
  grows j c there := by
    by_cases same : j = i
    · subst same
      cases here.symm.trans there
      exact ⟨now, by simp [exchanged], grows⟩
    · exact ⟨c, by simp [exchanged, same, there], .refl c⟩
  fresh j d missing there := by
    by_cases same : j = i
    · subst same
      rw [here] at missing
      contradiction
    · rw [exchanged, if_neg same, missing] at there
      contradiction

theorem get?_act_perform {i : Nat} {c : Cache World State} (here : w.get? i = some c)
    (operation : Operation State) (j : Nat) :
    (w.act engines (.perform i operation)).get? j =
      if j = i then some (c.perform (engines i) operation).cache else w.get? j := by
  have inside : i < w.caches.size := (Array.getElem?_eq_some_iff.1 here).1
  simp only [act, perform, here, Option.map_some]
  simp only [get?, Array.getElem?_setIfInBounds, inside, if_true, eq_comm]

theorem extends_act (numbered : w.Numbered) (action : Action World State) :
    Extends w (w.act engines action) := by
  cases action with
  | add scheme world => exact extends_push rfl rfl
  | addOfBits scheme world bits =>
    by_cases fits : bits ≤ 31
    · simp only [act, addOfBits, Cache.ofBits, Registry.ofBits, sized, fits, if_true, Except.map]
      exact extends_push rfl rfl
    · simp only [act, addOfBits, Cache.ofBits, Registry.ofBits, sized, fits, if_false, Except.map]
      exact extends_of_get?_eq fun _ => rfl
  | change i f =>
    have modified (j : Nat) : (w.modifyWorld i f).get? j =
        if i = j then (w.get? j).map fun c => { c with world := f c.world } else w.get? j :=
      Array.getElem?_modify
    cases here : w.get? i with
    | none =>
      refine extends_of_get?_eq fun j => ?_
      by_cases same : i = j
      · subst same
        simp [act, modified, here]
      · simp [act, modified, same]
    | some c =>
      have grows : Cache.Grows c { c with world := f c.world } := ⟨rfl, [], rfl⟩
      refine extends_of_get? here grows fun j => ?_
      by_cases same : j = i
      · subst same
        simp [act, modified, here]
      · simp [act, modified, same, Ne.symm same]
  | perform i operation =>
    cases here : w.get? i with
    | none =>
      simp only [act, perform, here, Option.map_none]
      exact extends_of_get?_eq fun _ => rfl
    | some c =>
      have placed : Cache.Placed c (c.interningsOf (engines i) operation) _ :=
        Cache.perform_placed (numbered i c here).2 operation
      exact extends_of_get? here placed.grows (get?_act_perform here operation)

theorem numbered_after (numbered : w.Numbered) (actions : List (Action World State)) :
    (w.after engines actions).Numbered := by
  induction actions generalizing w with
  | nil => exact numbered
  | cons action rest ih => exact ih ((extends_act numbered action).numbered numbered)

/-- Once a handle, always a handle. -/
theorem keeps_after (numbered : w.Numbered) {i : Nat} {h : Handle State} (keeps : w.Keeps i h)
    (actions : List (Action World State)) : (w.after engines actions).Keeps i h := by
  induction actions generalizing w with
  | nil => exact keeps
  | cons action rest ih =>
    have later : Extends w (w.act engines action) := extends_act numbered action
    exact ih (later.numbered numbered) (later.keeps keeps)

theorem Numbered.handle_eq_iff (numbered : w.Numbered) {i : Nat} {a b : Handle State}
    (keepsA : a = .empty ∨ w.Keeps i a) (keepsB : b = .empty ∨ w.Keeps i b) :
    (a.key? = b.key? ↔ a = b) ∧ (a.same b = true ↔ a = b) ∧ (a.id = b.id ↔ a = b) := by
  cases here : w.get? i with
  | none =>
    have nothing {h : Handle State} (keeps : h = .empty ∨ w.Keeps i h) : h = .empty := by
      rcases keeps with empty | ⟨c, there, -⟩
      · exact empty
      · simp [here] at there
    cases nothing keepsA
    cases nothing keepsB
    simp [Handle.same]
  | some c =>
    have has {h : Handle State} (keeps : h = .empty ∨ w.Keeps i h) : h = .empty ∨ c.Has h := by
      rcases keeps with empty | ⟨d, there, has⟩
      · exact .inl empty
      · cases here.symm.trans there
        exact .inr has
    exact Cache.handle_eq_iff (numbered i c here).2 (has keepsA) (has keepsB)

theorem keeps_of_mem_gives (numbered : w.Numbered) {action : Action World State} {i : Nat}
    {h : Handle State} (member : (i, h) ∈ w.gives engines action) :
    (w.act engines action).Keeps i h := by
  cases action with
  | perform j operation =>
    cases here : w.get? j with
    | none => simp [gives, perform, here] at member
    | some c =>
      simp only [gives, perform, here, Option.map_some, List.mem_map, Prod.mk.injEq] at member
      obtain ⟨k, inside, rfl, rfl⟩ := member
      refine ⟨_, ?_, Cache.has_of_mem_given (numbered j c here).2 inside⟩
      rw [get?_act_perform here, if_pos rfl]
  | add | addOfBits | change => exact absurd member List.not_mem_nil

theorem keeps_of_mem_given (numbered : w.Numbered) {actions : List (Action World State)} {i : Nat}
    {h : Handle State} (member : (i, h) ∈ w.given engines actions) :
    (w.after engines actions).Keeps i h := by
  induction actions generalizing w with
  | nil => exact absurd member List.not_mem_nil
  | cons action rest ih =>
    have numbered' : (w.act engines action).Numbered :=
      (extends_act numbered action).numbered numbered
    rcases List.mem_append.1 member with now | later
    · exact keeps_after numbered' (keeps_of_mem_gives numbered now) rest
    · exact ih numbered' later

/-- Handles are equal, in the order and as hashed, exactly if their keys are, and the order is the
byte order of keys with the empty handle first. Of handles of one cache those with one key are one
instance and have one number; handles of two caches are never the same instance. A handle resolves
in its own cache forever after to the entry it was given out with, and a query with it on another
cache is refused and leaves that cache as it was. -/
theorem compare_given (engines : Nat → Engine World State Fault)
    (actions more : List (Action World State)) :
    let given := (empty : Workspace World State).given engines actions
    let last := (empty.after engines actions).after engines more
    (∀ a b : Handle State,
      (a.equal b = true ↔ a.key? = b.key?) ∧ (a.order b = .eq ↔ a.key? = b.key?) ∧
      (a.hashed = b.hashed ↔ a.key? = b.key?) ∧
      (a.order b = .lt ↔ a.key?.map Text.bytes < b.key?.map Text.bytes) ∧
      (a.order b = .gt ↔ b.key?.map Text.bytes < a.key?.map Text.bytes)) ∧
    (∀ i a b, a = .empty ∨ (i, a) ∈ given → b = .empty ∨ (i, b) ∈ given →
      (a.key? = b.key? ↔ a.same b = true) ∧ (a.key? = b.key? ↔ a.id = b.id)) ∧
    (∀ i j a b, (i, a) ∈ given → (j, b) ∈ given → i ≠ j → a.same b = false) ∧
    ∀ i h, (i, h) ∈ given →
      (∃ c entry, last.get? i = some c ∧ h.stored? = some entry ∧
        c.resolve h = (.ok entry : Except (CacheError Fault) (Entry State))) ∧
      ∀ j d, i ≠ j → last.get? j = some d → ∀ property,
        d.query (engines j) property h = ⟨.error (.foreignHandle h.id), d, []⟩ := by
  intro given last
  have numbered : (empty.after engines actions).Numbered := numbered_after empty_numbered actions
  have kept {i : Nat} {h : Handle State} (member : (i, h) ∈ given) :
      (empty.after engines actions).Keeps i h := keeps_of_mem_given empty_numbered member
  have keptOn {i : Nat} {h : Handle State} (member : (i, h) ∈ given) : last.Keeps i h :=
    keeps_after numbered (kept member) more
  refine ⟨fun a b => ?_, fun i a b fromA fromB => ?_, fun i j a b fromA fromB apart => ?_,
    fun i h member => ⟨?_, fun j d apart there property => ?_⟩⟩
  · exact ⟨Handle.equal_iff, Handle.order_eq_eq_iff, Handle.hashed_inj, Handle.order_eq_lt_iff,
      Handle.order_eq_gt_iff⟩
  · obtain ⟨byKey, byInstance, byId⟩ :=
      numbered.handle_eq_iff (fromA.imp_right kept) (fromB.imp_right kept)
    simp only [byKey, byInstance, byId, and_self]
  · obtain ⟨c, here, hasA⟩ := kept fromA
    obtain ⟨d, there, hasB⟩ := kept fromB
    refine Cache.not_same ?_ hasA hasB
    rwa [(numbered i c here).1, (numbered j d there).1]
  · obtain ⟨c, here, has⟩ := keptOn member
    obtain ⟨entry, stored, resolved⟩ := has.resolve
    exact ⟨c, entry, here, stored, resolved⟩
  · obtain ⟨c, here, has⟩ := keptOn member
    have numbered : last.Numbered := numbered_after numbered more
    refine has.query_foreign ?_ (engines j) property
    rwa [(numbered i c here).1, (numbered j d there).1]

/-- Two caches store one text each and give out the same number and key. Later the first one still
finds its handle, and the second one refuses it. -/
theorem compare_given_two_caches :
    let engines : Nat → Engine Unit Listing Empty := fun _ => Listing.engine
    let s : Listing := ⟨"x_L <= 1", [], []⟩
    let t : Listing := ⟨"x_A <= 1", [], []⟩
    let a : Handle Listing := .held 0 ⟨⟨1⟩, "x#0 <= 1", s⟩
    let b : Handle Listing := .held 1 ⟨⟨1⟩, "x#0 <= 1", t⟩
    let actions : List (Action Unit Listing) := [.add .standard (), .addOfBits .standard () 4,
      .perform 0 (.intern s), .perform 1 (.intern t), .perform 0 (.intern t)]
    let more : List (Action Unit Listing) := [.perform 1 (.query .common b)]
    let given := (empty : Workspace Unit Listing).given engines actions
    let last := ((empty : Workspace Unit Listing).after engines actions).after engines more
    (0, a) ∈ given ∧ (1, b) ∈ given ∧ a.equal b = true ∧ a.id = b.id ∧ a.same b = false ∧
    (∃ c entry, last.get? 0 = some c ∧ a.stored? = some entry ∧
      c.resolve a = (.ok entry : Except (CacheError Empty) (Entry Listing))) ∧
    ∃ d, last.get? 1 = some d ∧
      d.query (engines 1) .common a = ⟨.error (.foreignHandle a.id), d, []⟩ := by
  intro engines s t a b actions more given last
  have givenA : (0, a) ∈ given := by decide +kernel
  have givenB : (1, b) ∈ given := by decide +kernel
  have two : (last.get? 1).isSome = true := by decide +kernel
  obtain ⟨d, there⟩ := Option.isSome_iff_exists.1 two
  obtain ⟨compared, -, apart, resolved⟩ := compare_given engines actions more
  simp only [given, last] at givenA givenB there ⊢
  obtain ⟨found, refused⟩ := resolved 0 a givenA
  exact ⟨givenA, givenB, (compared a b).1.2 rfl, rfl, apart 0 1 a b givenA givenB Nat.zero_ne_one,
    found, d, there, refused 1 d Nat.zero_ne_one there .common⟩

end Workspace

end StateIntern
