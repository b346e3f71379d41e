import Mathlib.Data.List.Sort
import StateIntern.Proofs.Divergence

/-! What a cache tells about a state whose instance is shared. All states under one key share the
instance that came first, and a query about any of them is answered for that one: its common
variables are those of its own environment, which no key records. -/
namespace StateIntern

instance : Std.Irrefl (α := Var) (· < ·) := ⟨Var.lt_irrefl⟩

instance : Std.Antisymm (α := Var) (· < ·) where
  antisymm _ _ less greater := absurd (Var.lt_trans less greater) (Var.lt_irrefl _)

theorem VarSet.eq_iff {a b : VarSet} : a = b ↔ ∀ v, v ∈ a ↔ v ∈ b := by
  constructor
  · rintro rfl v
    rfl
  · intro same
    have lists := a.ascending.eq_of_mem_iff b.ascending same
    cases a
    cases b
    cases lists
    rfl

namespace Interning

variable {State : Type} {interned : List (Interning State)} {key : String} {state : State}

/-- The state that was interned first under a key. -/
def first? (interned : List (Interning State)) (key : String) : Option State :=
  (interned.find? (·.key == key)).map (·.state)

/-- The state that stands for a key once the given state is interned under it. -/
def representative (interned : List (Interning State)) (key : String) (state : State) : State :=
  (first? interned key).getD state

theorem representative_of_first? {P : State → Prop} (own : P state)
    (first : ∀ other ∈ first? interned key, P other) :
    P (representative interned key state) := by
  unfold representative
  cases came : first? interned key with
  | none => exact own
  | some other => exact first other came

end Interning

namespace Cache

section Intern

variable {World State Fault : Type} (engine : Engine World State Fault) {c : Cache World State}

/-- The answer to a query about a state that is interned for it. -/
def internAndQuery (c : Cache World State) (property : Property) (state : State) :
    Except (CacheError Fault) property.Value :=
  match c.intern engine state with
  | ⟨.error fault, _, _⟩ => .error fault
  | ⟨.ok h, after, _⟩ => (after.query engine property h).answer

variable {engine}

theorem internAndQuery_of_ok {state : State} {key : String}
    (canonical : (c.canonicalize engine state).answer = .ok key) (property : Property) :
    c.internAndQuery engine property state =
      ((c.intern engine state).cache.query engine property
        (c.handle (c.registry.put key state).entry)).answer := by
  have answer := c.intern_answer engine state
  rw [canonical] at answer
  unfold internAndQuery
  rcases outcome : c.intern engine state with ⟨result, after, events⟩
  rw [outcome] at answer
  cases answer
  rfl

theorem Sound.internAndQuery_eq_ok (sound : Sound engine c) {property : Property} {state : State}
    {key : String} {value : property.Value}
    (canonical : (c.canonicalize engine state).answer = .ok key)
    (derives : ∀ world,
      (property.derive engine c.scheme (c.registry.put key state).entry world).1 = .ok value) :
    c.internAndQuery engine property state = .ok value := by
  have after := c.intern_cache engine state
  rw [canonical] at after
  have resolved : (c.intern engine state).cache.Resolves
      (c.handle (c.registry.put key state).entry) (c.registry.put key state).entry := by
    rw [after]
    exact ⟨_, rfl, (sound.valid.get?_put_entry key state).1⟩
  rw [internAndQuery_of_ok canonical]
  refine (sound.intern state).query_answer resolved ?_
  rw [c.intern_scheme engine]
  exact derives

/-- The instance is shared by all states that are interned under its key later. -/
theorem intern_again {state other : State} {key : String} (valid : c.registry.Valid)
    (canonical : (c.canonicalize engine state).answer = .ok key)
    (next : ((c.intern engine state).cache.canonicalize engine other).answer = .ok key) :
    ∃ h, (c.intern engine state).answer = .ok h ∧
      ((c.intern engine state).cache.intern engine other).answer = .ok h := by
  refine ⟨c.handle (c.registry.put key state).entry, ?_, ?_⟩
  · rw [intern_answer, canonical]
    rfl
  · rw [intern_answer, next, intern_cache, canonical]
    simp only [Except.map, valid.put_put]
    rfl

section Run

variable (owner : Nat) (scheme : Scheme) (world : World) (operations : List (Operation State))

variable (engine) in
theorem run_entry (key : String) (state : State) :
    let start : Cache World State := new owner scheme world
    ∃ id, ((start.run engine operations).cache.registry.put key state).entry =
      ⟨id, key, Interning.representative (start.history engine operations) key state⟩ := by
  intro start
  have placed : Placed start (start.history engine operations) _ :=
    run_placed Registry.empty_valid operations
  have valid := placed.valid_of_new
  have named := (valid.get?_put_entry key state).2
  have first := placed.holds.state_put valid key state
  rw [← find?_offer] at first
  generalize ((start.run engine operations).cache.registry.put key state).entry = entry
    at named first ⊢
  obtain ⟨id, placedKey, placedState⟩ := entry
  exact ⟨id, congrArg₂ (Entry.mk id) named first⟩

theorem run_internAndQuery {property : Property} {state : State} {key : String}
    {value : property.Value} :
    let start : Cache World State := new owner scheme world
    let last := (start.run engine operations).cache
    (last.canonicalize engine state).answer = .ok key →
    (∀ id world, (property.derive engine scheme
      ⟨id, key, Interning.representative (start.history engine operations) key state⟩ world).1 =
        .ok value) →
    last.internAndQuery engine property state = .ok value := by
  intro start last canonical derives
  have sound : Sound engine last := (new_sound owner scheme world).run operations
  have schemed : last.scheme = scheme := run_scheme engine start operations
  obtain ⟨id, entry⟩ := run_entry engine owner scheme world operations key state
  refine sound.internAndQuery_eq_ok canonical fun world => ?_
  rw [schemed, entry]
  exact derives id world

theorem run_representative_prints {state : State} {key : String} :
    let start : Cache World State := new owner scheme world
    ((start.run engine operations).cache.canonicalize engine state).answer = .ok key →
    ∃ world text, (engine.print
      (Interning.representative (start.history engine operations) key state) world).1 =
        .ok text := by
  intro start canonical
  have sound : Sound engine (start.run engine operations).cache :=
    (new_sound owner scheme world).run operations
  have stored := (sound.valid.get?_put_entry key state).1
  have after := Cache.intern_cache engine (start.run engine operations).cache state
  rw [canonical] at after
  have member : ((start.run engine operations).cache.registry.put key state).entry ∈
      ((start.run engine operations).cache.intern engine state).cache.registry.toList := by
    rw [after]
    exact Registry.mem_toList_of_get? stored
  obtain ⟨before, text, printed, -⟩ := (sound.intern state).keyed _ member
  obtain ⟨id, entry⟩ := run_entry engine owner scheme world operations key state
  rw [entry] at printed
  exact ⟨before, text, printed⟩

end Run

end Intern

end Cache

namespace Scheme

variable {s : Scheme} {declared other : List TypedVar} {base : Var}

/-- The first copies of the base on both sides are declared, with one kind. -/
def Paired (s : Scheme) (declared : List TypedVar) (base : Var) : Prop :=
  ∃ l r, s.firstCopy? declared base .left = some l ∧
    s.firstCopy? declared base .right = some r ∧ l.kind = r.kind

theorem mem_bases_iff :
    base ∈ VarSet.ofList ((s.pairs declared).map (·.base)) ↔ s.Paired declared base := by
  rw [VarSet.mem_ofList, List.mem_map]
  constructor
  · rintro ⟨p, member, rfl⟩
    obtain ⟨l, r, left, right, kinds, -⟩ := mem_pairs_iff.1 member
    exact ⟨l, r, left, right, kinds⟩
  · rintro ⟨l, r, left, right, kinds⟩
    exact ⟨⟨base, l.var, r.var⟩, mem_pairs_iff.2 ⟨l, r, left, right, kinds, rfl, rfl⟩, rfl⟩

theorem alikeVar_iff {x y : Var} : s.AlikeVar x y ↔
    s.split? x.name = s.split? y.name ∧ (s.split? x.name = none → x = y) := by
  unfold AlikeVar
  cases tagX : s.split? x.name with
  | none =>
    constructor
    · rintro (⟨rfl, -⟩ | ⟨tag, none, -⟩)
      · exact ⟨tagX.symm, fun _ => rfl⟩
      · contradiction
    · rintro ⟨-, same⟩
      exact .inl ⟨same rfl, rfl⟩
  | some tag => simp [eq_comm]

instance (x y : Var) : Decidable (s.AlikeVar x y) := decidable_of_iff _ alikeVar_iff.symm

/-- Declarations of one kind, up to the naming of tags. -/
def AlikeDeclared (s : Scheme) (d e : TypedVar) : Prop := s.AlikeVar d.var e.var ∧ d.kind = e.kind

instance (d e : TypedVar) : Decidable (s.AlikeDeclared d e) := inferInstanceAs (Decidable (_ ∧ _))

theorem kind_firstCopy? (alike : List.Forall₂ s.AlikeDeclared declared other) (base : Var)
    (side : Side) : (s.firstCopy? declared base side).map (·.kind) =
      (s.firstCopy? other base side).map (·.kind) := by
  unfold firstCopy?
  induction alike with
  | nil => rfl
  | cons first rest ih =>
    rw [List.find?_cons, List.find?_cons, (alikeVar_iff.1 first.1).1]
    split
    next => exact congrArg some first.2
    next => exact ih

theorem paired_iff_kinds : s.Paired declared base ↔
    ∃ kind, (s.firstCopy? declared base .left).map (·.kind) = some kind ∧
      (s.firstCopy? declared base .right).map (·.kind) = some kind := by
  simp only [Option.map_eq_some_iff]
  constructor
  · rintro ⟨l, r, left, right, kinds⟩
    exact ⟨r.kind, ⟨l, left, kinds⟩, r, right, rfl⟩
  · rintro ⟨kind, ⟨l, left, kindL⟩, r, right, kindR⟩
    exact ⟨l, r, left, right, kindL.trans kindR.symm⟩

theorem paired_iff_of_alike (alike : List.Forall₂ s.AlikeDeclared declared other) :
    s.Paired declared base ↔ s.Paired other base := by
  rw [paired_iff_kinds, paired_iff_kinds, kind_firstCopy? alike, kind_firstCopy? alike]

end Scheme

namespace Cache

section Conjunctions

variable {World : Type} (owner : Nat) (scheme : Scheme) (world : World)
  (operations : List (Operation Conjunction)) {s a b : Conjunction} {key : String}

theorem run_canonicalize
    (canonical : ((new owner scheme world : Cache World Conjunction).canonicalize
      Conjunction.engine s).answer = .ok key) :
    (((new owner scheme world : Cache World Conjunction).run
      Conjunction.engine operations).cache.canonicalize Conjunction.engine s).answer = .ok key := by
  rw [canonicalize_conjunction_iff] at canonical ⊢
  rwa [run_scheme]

theorem intern_shared {c : Cache World Conjunction} (valid : c.registry.Valid)
    (keyA : (c.canonicalize Conjunction.engine a).answer = .ok key)
    (keyB : (c.canonicalize Conjunction.engine b).answer = .ok key) :
    ∃ h, (c.intern Conjunction.engine a).answer = .ok h ∧
      ((c.intern Conjunction.engine a).cache.intern Conjunction.engine b).answer = .ok h := by
  refine intern_again valid keyA ?_
  have after := c.intern_cache Conjunction.engine a
  rw [keyA] at after
  rw [canonicalize_conjunction_iff] at keyB ⊢
  rwa [after]

theorem run_common
    (canonical : ((new owner scheme world : Cache World Conjunction).canonicalize
      Conjunction.engine s).answer = .ok key) :
    let start : Cache World Conjunction := new owner scheme world
    let first := Interning.representative (start.history Conjunction.engine operations) key s
    ∃ vars, (start.run Conjunction.engine operations).cache.internAndQuery
        Conjunction.engine .common s = .ok vars ∧
      ∀ base, base ∈ vars ↔ scheme.Paired first.env base := by
  intro start first
  have last := run_canonicalize owner scheme world operations canonical
  exact ⟨_, run_internAndQuery owner scheme world operations last fun _ _ => rfl,
    fun _ => Scheme.mem_bases_iff⟩

theorem run_divergent
    (canonical : ((new owner scheme world : Cache World Conjunction).canonicalize
      Conjunction.engine s).answer = .ok key) :
    let start : Cache World Conjunction := new owner scheme world
    let first := Interning.representative (start.history Conjunction.engine operations) key s
    ∃ vars, (start.run Conjunction.engine operations).cache.internAndQuery
        Conjunction.engine .divergent s = .ok vars ∧
      ∀ base, base ∈ vars ↔ first.Diverges scheme base := by
  intro start first
  have last := run_canonicalize owner scheme world operations canonical
  obtain ⟨_, text, printed⟩ := run_representative_prints owner scheme world operations last
  have closed := Conjunction.closed_of_printable (Conjunction.print_eq_ok_iff.1 printed).1
  obtain ⟨vars, derives, members⟩ := closed.divergentVars_eq_ok World scheme
  exact ⟨vars, run_internAndQuery owner scheme world operations last fun _ => derives, members⟩

/-- Two states under one key get one answer if they should, whichever of them came first. -/
theorem run_agrees {answer : List (Operation Conjunction) → Conjunction →
      Except (CacheError StateError) VarSet} (Has : Conjunction → Var → Prop) :
    let start : Cache World Conjunction := new owner scheme world
    (∀ operations s, (start.canonicalize Conjunction.engine s).answer = .ok key →
      ∃ vars, answer operations s = .ok vars ∧ ∀ base, base ∈ vars ↔
        Has (Interning.representative (start.history Conjunction.engine operations) key s) base) →
    (start.canonicalize Conjunction.engine a).answer = .ok key →
    (start.canonicalize Conjunction.engine b).answer = .ok key →
    (∀ base, Has a base ↔ Has b base) →
    ∃ vars, (∀ base, base ∈ vars ↔ Has b base) ∧
      ∀ operations, (∀ first ∈ Interning.first? (start.history Conjunction.engine operations) key,
          first = a ∨ first = b) →
        ∀ s, s = a ∨ s = b → answer operations s = .ok vars := by
  intro start answers keyA keyB same
  obtain ⟨vars, -, members⟩ := answers [] b keyB
  refine ⟨vars, members, fun operations came s among => ?_⟩
  have keyS : (start.canonicalize Conjunction.engine s).answer = .ok key := by
    rcases among with rfl | rfl
    · exact keyA
    · exact keyB
  obtain ⟨shared, answered, membersS⟩ := answers operations s keyS
  have first : Interning.representative (start.history Conjunction.engine operations) key s = a ∨
      Interning.representative (start.history Conjunction.engine operations) key s = b :=
    Interning.representative_of_first? (P := fun x => x = a ∨ x = b) among came
  have equal : shared = vars := by
    rw [VarSet.eq_iff]
    intro base
    rw [membersS, members]
    show _ ↔ Has b base
    rcases first with isA | isB
    · rw [isA, same]
    · rw [isB]
  rw [answered, equal]

/-- Sharing is right about common variables exactly where the environments pair the same ones,
which is so whenever they differ in the naming of tags only. The key does not tell. -/
theorem run_common_eq_iff
    (keyA : ((new owner scheme world : Cache World Conjunction).canonicalize
      Conjunction.engine a).answer = .ok key)
    (keyB : ((new owner scheme world : Cache World Conjunction).canonicalize
      Conjunction.engine b).answer = .ok key) :
    let start : Cache World Conjunction := new owner scheme world
    let last := (start.run Conjunction.engine operations).cache
    let first := Interning.representative (start.history Conjunction.engine operations) key b
    ∃ commonA commonB shared,
      start.internAndQuery Conjunction.engine .common a = .ok commonA ∧
      start.internAndQuery Conjunction.engine .common b = .ok commonB ∧
      last.internAndQuery Conjunction.engine .common b = .ok shared ∧
      (∀ base, base ∈ shared ↔ scheme.Paired first.env base) ∧
      (commonA = commonB ↔ ∀ base, scheme.Paired a.env base ↔ scheme.Paired b.env base) ∧
      (shared = commonB ↔ ∀ base, scheme.Paired first.env base ↔ scheme.Paired b.env base) ∧
      (List.Forall₂ scheme.AlikeDeclared a.env b.env → commonA = commonB) ∧
      (List.Forall₂ scheme.AlikeDeclared first.env b.env → shared = commonB) := by
  intro start last first
  obtain ⟨commonA, answerA, pairedA⟩ := run_common owner scheme world [] keyA
  obtain ⟨commonB, answerB, pairedB⟩ := run_common owner scheme world [] keyB
  obtain ⟨shared, answer, paired⟩ := run_common owner scheme world operations keyB
  have alone : commonA = commonB ↔ ∀ base, scheme.Paired a.env base ↔ scheme.Paired b.env base := by
    simp only [VarSet.eq_iff, pairedA, pairedB]
    rfl
  have common : shared = commonB ↔
      ∀ base, scheme.Paired first.env base ↔ scheme.Paired b.env base := by
    simp only [VarSet.eq_iff, paired, pairedB]
    rfl
  exact ⟨commonA, commonB, shared, answerA, answerB, answer, paired, alone, common,
    fun alike => alone.2 fun _ => Scheme.paired_iff_of_alike alike,
    fun alike => common.2 fun _ => Scheme.paired_iff_of_alike alike⟩

theorem run_common_versions_after_sides :
    let a : Conjunction := .ofLists [⟨⟨"x_L"⟩, .int⟩, ⟨⟨"x_R"⟩, .int⟩] []
    let b : Conjunction := .ofLists [⟨⟨"x_A"⟩, .int⟩, ⟨⟨"x_B"⟩, .int⟩] []
    let start : Cache Unit Conjunction := new 0 .standard ()
    let last := (start.run Conjunction.engine [.intern a]).cache
    (start.canonicalize Conjunction.engine a).answer = .ok "top" ∧
    (start.canonicalize Conjunction.engine b).answer = .ok "top" ∧
    ∃ common, ⟨"x"⟩ ∈ common ∧
      start.internAndQuery Conjunction.engine .common b = .ok common ∧
      last.internAndQuery Conjunction.engine .common b = .ok common := by
  intro a b start last
  have keyA : (start.canonicalize Conjunction.engine a).answer = .ok "top" := by decide +kernel
  have keyB : (start.canonicalize Conjunction.engine b).answer = .ok "top" := by decide +kernel
  have first : Interning.representative (start.history Conjunction.engine [.intern a]) "top" b =
      a := by decide +kernel
  have alike : List.Forall₂ Scheme.standard.AlikeDeclared a.env b.env := by decide +kernel
  obtain ⟨commonA, commonB, shared, -, answerB, answer, paired, -, -, -, sharing⟩ :=
    run_common_eq_iff 0 .standard () [.intern a] keyA keyB
  rw [first] at paired sharing
  have member : ⟨"x"⟩ ∈ shared :=
    (paired _).2 ⟨⟨⟨"x_L"⟩, .int⟩, ⟨⟨"x_R"⟩, .int⟩, by decide +kernel, by decide +kernel, rfl⟩
  have same := sharing alike
  exact ⟨keyA, keyB, shared, member, same ▸ answerB, answer⟩

/-- An environment is not part of the key, so a state without variables may be taken for one that
has both copies of a variable. -/
theorem common_of_another_environment :
    let a : Conjunction := .ofLists [⟨⟨"x_L"⟩, .int⟩, ⟨⟨"x_R"⟩, .int⟩] []
    let start : Cache Unit Conjunction := new 0 .standard ()
    let last := (start.run Conjunction.engine [.intern a]).cache
    a.print = .ok "top" ∧ Conjunction.top.print = .ok "top" ∧
    (start.canonicalize Conjunction.engine a).answer =
      (start.canonicalize Conjunction.engine .top).answer ∧
    start.internAndQuery Conjunction.engine .common a = .ok (.ofList [⟨"x"⟩]) ∧
    start.internAndQuery Conjunction.engine .common .top = .ok .empty ∧
    last.internAndQuery Conjunction.engine .common .top = .ok (.ofList [⟨"x"⟩]) ∧
    VarSet.ofList [⟨"x"⟩] ≠ .empty := by
  decide +kernel

end Conjunctions

end Cache

end StateIntern
