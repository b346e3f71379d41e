import Mathlib.Data.List.Basic
import StateIntern.Engine.Listing
import StateIntern.Proofs.Canonical
import StateIntern.Proofs.Soundness

/-! Finding what has been stored. Every key is canonical text, so a text and its canonical form lead
to one entry, and a look-up finds for a printed text what an intern of the state would find. -/
namespace StateIntern

open Text

theorem Scheme.normalize_normalize (scheme : Scheme) (text : String) :
    scheme.normalize (scheme.normalize text) = scheme.normalize text := by
  simp only [normalize, String.toList_ofList, normalizeChars_normalizeChars]

theorem Handle.same_self {State : Type} (h : Handle State) : h.same h = true := by
  cases h <;> simp [same]

namespace Cache

variable {World State Fault : Type} {engine : Engine World State Fault} {c : Cache World State}

theorem Sound.key_canonical (sound : Sound engine c) {entry : Entry State}
    (member : entry ∈ c.registry.toList) :
    (∀ ps, Splits entry.key.toList ps → ∀ letters, .word letters ∈ ps →
      c.scheme.IsCanonical letters) ∧ c.scheme.normalize entry.key = entry.key := by
  obtain ⟨world, text, -, free, normal⟩ := sound.keyed entry member
  constructor
  · intro ps cut letters inside
    rw [← splits_iff.1 cut, ← normal, Scheme.normalize, String.toList_ofList] at inside
    exact Scheme.isCanonical_of_mem_pieces (reservedWord?_eq_none_iff.1 free) inside
  · rw [← normal, Scheme.normalize_normalize]

theorem Sound.found_alike (sound : Sound engine c) {entry : Entry State}
    (member : entry ∈ c.registry.toList) :
    c.get? entry.id = some (c.handle entry) ∧
      (c.lookup entry.key).answer = some (c.handle entry) ∧
      c.handles[entry.id.number - 1]? = some (c.handle entry) := by
  obtain ⟨i, at_i⟩ := List.mem_iff_getElem?.1 member
  refine ⟨?_, ?_, ?_⟩
  · rw [get?, sound.valid.get?_id member]
    rfl
  · have found := sound.valid.find?_eq_some_iff.2 ⟨member, rfl⟩
    simp only [lookup, (sound.key_canonical member).2, found, Option.map_some]
  · rw [sound.valid.id_of_getElem? at_i, Nat.add_sub_cancel, handles, List.getElem?_map, at_i]
    rfl

/-- A look-up for a printed text finds the entry that an intern of the state would come back with,
and nothing where the intern would make one. -/
theorem lookup_eq_some_iff (valid : c.registry.Valid) {state : State} {text key : String}
    (printed : (engine.print state c.world).1 = .ok text)
    (canonical : (c.canonicalize engine state).answer = .ok key) (h : Handle State) :
    (c.lookup text).answer = some h ↔
      (c.intern engine state).answer = .ok h ∧ h ∈ c.handles ∧
        (c.intern engine state).cache.handles = c.handles := by
  have normal : c.scheme.normalize text = key := by
    obtain ⟨text', printed', -, normal⟩ := (c.canonicalize_eq_ok_iff engine state).1 canonical
    rwa [Except.ok.inj (printed.symm.trans printed')]
  have found : (c.lookup text).answer = (c.registry.find? key).map c.handle := by
    rw [← normal]
    rfl
  obtain ⟨fault, failed, -⟩ | ⟨key', canonical', answer, after⟩ := c.intern_cases engine state
  · rw [canonical] at failed
    contradiction
  obtain rfl : key = key' := Except.ok.inj (canonical.symm.trans canonical')
  rw [found, answer, after]
  obtain ⟨old, known, placed⟩ | ⟨missing, -, -, entries, -⟩ := c.registry.put_cases key state
  · have member := (valid.find?_eq_some_iff.1 known).1
    rw [known, placed, Option.map_some, Option.some.injEq, Except.ok.injEq]
    constructor
    · rintro rfl
      exact ⟨rfl, List.mem_map.2 ⟨old, member, rfl⟩, rfl⟩
    · rintro ⟨same, -, -⟩
      exact same
  · rw [missing]
    constructor
    · intro same
      contradiction
    · rintro ⟨-, -, same⟩
      have longer := congrArg List.length same
      simp [handles, entries] at longer

/-- After any run, the keys are canonical text, an entry is the same instance by number, by key and
by place, a look-up finds what is stored under the canonical form of its text and changes nothing,
and it agrees with an intern of a state that prints so. -/
theorem run_lookup (engine : Engine World State Fault) (owner : Nat) (scheme : Scheme)
    (world : World) (operations : List (Operation State)) :
    let start : Cache World State := new owner scheme world
    let c := (start.run engine operations).cache
    (∀ entry ∈ c.registry.toList,
      (∀ ps, Splits entry.key.toList ps → ∀ letters, .word letters ∈ ps →
        scheme.IsCanonical letters) ∧
      scheme.normalize entry.key = entry.key ∧
      ∃ byId byKey byPlace, c.get? entry.id = some byId ∧
        (c.lookup entry.key).answer = some byKey ∧
        c.handles[entry.id.number - 1]? = some byPlace ∧ byId.stored? = some entry ∧
        byId.same byKey = true ∧ byKey.same byPlace = true) ∧
    (∀ text, (c.lookup text).cache = c ∧
      ((c.lookup text).answer.isSome = true ↔
        ∃ entry ∈ c.registry.toList, entry.key = scheme.normalize text)) ∧
    ∀ state text key, (engine.print state c.world).1 = .ok text →
      (c.canonicalize engine state).answer = .ok key →
      ∀ h, (c.lookup text).answer = some h ↔
        (c.intern engine state).answer = .ok h ∧ h ∈ c.handles ∧
          (c.intern engine state).cache.handles = c.handles := by
  intro start c
  have sound : Sound engine c := (new_sound owner scheme world).run operations
  have schemed : c.scheme = scheme := run_scheme engine start operations
  refine ⟨fun entry member => ?_, fun text => ⟨rfl, ?_⟩, fun state text key printed canonical =>
    lookup_eq_some_iff sound.valid printed canonical⟩
  · obtain ⟨words, fixed⟩ := sound.key_canonical member
    obtain ⟨byId, byKey, byPlace⟩ := sound.found_alike member
    rw [schemed] at words fixed
    exact ⟨words, fixed, _, _, _, byId, byKey, byPlace, rfl, Handle.same_self _,
      Handle.same_self _⟩
  · rw [← schemed, ← sound.valid.isSome_find?_iff]
    simp only [lookup, Option.isSome_map]

/-- A text in the markers of the other convention finds what was stored under the canonical text,
and an intern of a state that prints so comes back with the same instance. -/
theorem run_lookup_other_markers :
    let engine : Engine Unit Listing Empty := Listing.engine
    let s : Listing := ⟨"x_L <= y", [], []⟩
    let t : Listing := ⟨"x_A <= y", [], []⟩
    let entry : Entry Listing := ⟨⟨1⟩, "x#0 <= y", s⟩
    let start : Cache Unit Listing := new 0 .standard ()
    let c := (start.run engine [.intern s]).cache
    entry ∈ c.registry.toList ∧
    Scheme.standard.IsCanonical ['x', '#', '0'] ∧
    Scheme.standard.normalize "x#0 <= y" = "x#0 <= y" ∧
    (∃ byId byKey, c.get? ⟨1⟩ = some byId ∧ (c.lookup "x#0 <= y").answer = some byKey ∧
      byId.same byKey = true) ∧
    (c.lookup "x_A <= y").answer = some (.held 0 entry) ∧
    (c.intern engine t).answer = .ok (.held 0 entry) ∧
    (c.intern engine t).cache.handles = c.handles := by
  intro engine s t entry start c
  have member : entry ∈ c.registry.toList := by decide +kernel
  have found : (c.lookup "x_A <= y").answer = some (.held 0 entry) := by decide +kernel
  have canonical : (c.canonicalize engine t).answer = .ok "x#0 <= y" := by decide +kernel
  obtain ⟨keys, -, agree⟩ := run_lookup engine 0 .standard () [.intern s]
  obtain ⟨words, fixed, byId, byKey, -, atId, atKey, -, -, same, -⟩ := keys entry member
  obtain ⟨answer, -, unchanged⟩ := (agree t _ _ rfl canonical _).1 found
  have letters : Piece.word ['x', '#', '0'] ∈ pieces entry.key.toList := by decide +kernel
  exact ⟨member, words _ (splits_pieces _) _ letters, fixed, ⟨byId, byKey, atId, atKey, same⟩,
    found, answer, unchanged⟩

end Cache

end StateIntern
