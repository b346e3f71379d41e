import StateIntern.Proofs.Entailment
import StateIntern.Proofs.Printing

/-! Comparisons that fail. The compared variables are looked up first, then their kinds are
compared, and then every variable of every constraint is looked up, those of equalities before all
others. The first of these steps that fails is the one that is told. -/
namespace StateIntern

section Failure

variable {α β ε : Type}

/-- Why there is no result. -/
def failure? : Except ε α → Option ε
  | .error fault => some fault
  | .ok _ => none

theorem failure?_eq_some_iff {x : Except ε α} {fault : ε} :
    failure? x = some fault ↔ x = .error fault := by
  cases x <;> simp [failure?]

theorem failure?_bind {x : Except ε α} {next : α → Except ε β} {later : Option ε}
    (fails : ∀ a, x = .ok a → failure? (next a) = later) :
    failure? (x >>= next) = (failure? x).or later := by
  cases x with
  | error fault => rfl
  | ok a => exact fails a rfl

theorem failure?_map (x : Except ε α) (f : α → β) :
    failure? (x >>= fun a => pure (f a)) = failure? x := by
  cases x <;> rfl

end Failure

/-- Whether two variables are made equal. -/
def Constraint.isEquality : Constraint → Bool
  | .same _ _ => true
  | _ => false

namespace Conjunction

/-- The variables of the constraints in the order in which they are looked up. -/
def lookups (s : Conjunction) : List Var :=
  (s.constraints.filter (·.isEquality)).flatMap Constraint.vars ++
    (s.constraints.filter (!·.isEquality)).flatMap Constraint.vars

/-- Why two variables are not compared. Constraints are looked at only where both variables are
declared with one kind. -/
inductive Incomparable (s : Conjunction) (a b : Var) : StateError → Prop where
  | left : a ∉ s.env.map (·.var) → s.Incomparable a b (.unknownVariable a)
  | right : a ∈ s.env.map (·.var) → b ∉ s.env.map (·.var) →
      s.Incomparable a b (.unknownVariable b)
  | kinds : x ∈ s.env → x.var = a → y ∈ s.env → y.var = b → x.kind ≠ y.kind →
      s.Incomparable a b (.kindMismatch a b)
  | constraint : x ∈ s.env → x.var = a → y ∈ s.env → y.var = b → x.kind = y.kind →
      s.lookups = before ++ v :: after → (∀ u ∈ before, u ∈ s.env.map (·.var)) →
      v ∉ s.env.map (·.var) → s.Incomparable a b (.unknownVariable v)

variable {s : Conjunction} {a b v : Var} {fault : StateError}

section Lookup

theorem failure?_resolve (s : Conjunction) (v : Var) :
    failure? (s.resolve v) = s.undeclared? v := by
  by_cases declared : v ∈ s.env.map (·.var)
  · obtain ⟨i, -, place⟩ := exists_place declared
    rw [place, undeclared?_eq_none_iff.2 declared, failure?]
  · have missing : s.env.findFinIdx? (·.var == v) = none := by
      simpa [List.findFinIdx?_eq_none_iff] using declared
    rw [resolve, missing, undeclared?, if_neg declared]
    rfl

theorem failure?_resolveEquality (e : Var × Var) :
    failure? (s.resolveEquality e) = [e.1, e.2].findSome? s.undeclared? := by
  rw [resolveEquality, failure?_bind fun x _ => failure?_map _ (Prod.mk x), failure?_resolve,
    failure?_resolve]
  cases first : s.undeclared? e.1 <;> cases second : s.undeclared? e.2 <;> simp [first, second]

theorem failure?_resolveBound (d : Var × Interval) :
    failure? (s.resolveBound d) = [d.1].findSome? s.undeclared? := by
  rw [resolveBound, failure?_map _ (·, d.2), failure?_resolve]
  cases first : s.undeclared? d.1 <;> simp [first]

theorem failure?_mapM {α β : Type} {look : α → Except StateError β} {names : α → List Var}
    (each : ∀ a, failure? (look a) = (names a).findSome? s.undeclared?) (items : List α) :
    failure? (items.mapM look) = (items.flatMap names).findSome? s.undeclared? := by
  induction items with
  | nil => rfl
  | cons a rest ih =>
    rw [List.mapM_cons, failure?_bind fun b _ => failure?_map _ (b :: ·), each, ih,
      List.flatMap_cons, List.findSome?_append]

theorem flatMap_filterMap {α : Type} {part : Constraint → Option α} {names : α → List Var}
    (chosen : Constraint → Bool)
    (each : ∀ c, ((part c).map names).getD [] = if chosen c then c.vars else [])
    (constraints : List Constraint) :
    (constraints.filterMap part).flatMap names =
      (constraints.filter chosen).flatMap Constraint.vars := by
  induction constraints with
  | nil => rfl
  | cons c rest ih =>
    have first := each c
    cases taken : part c <;> cases chosen : chosen c <;> simp_all

theorem failure?_system (s : Conjunction) :
    failure? s.system = s.lookups.findSome? s.undeclared? := by
  have equalities : failure? ((s.constraints.filterMap Constraint.equality?).mapM
      s.resolveEquality) = ((s.constraints.filter (·.isEquality)).flatMap
        Constraint.vars).findSome? s.undeclared? := by
    rw [failure?_mapM failure?_resolveEquality,
      flatMap_filterMap (·.isEquality) fun c => by cases c <;> rfl]
  have bounds : failure? ((s.constraints.filterMap Constraint.bound?).mapM s.resolveBound) =
      ((s.constraints.filter (!·.isEquality)).flatMap Constraint.vars).findSome? s.undeclared? := by
    rw [failure?_mapM failure?_resolveBound,
      flatMap_filterMap (!·.isEquality) fun c => by cases c <;> rfl]
  rw [system, failure?_bind fun e _ => failure?_map _ (System.mk e), equalities, bounds, lookups,
    List.findSome?_append]

end Lookup

section Steps

theorem resolve_undeclared (absent : v ∉ s.env.map (·.var)) :
    s.resolve v = .error (.unknownVariable v) := by
  rw [← failure?_eq_some_iff, failure?_resolve, undeclared?, if_neg absent]

theorem entailsEquality_left (absent : a ∉ s.env.map (·.var)) :
    s.entailsEquality a b = .error (.unknownVariable a) := by
  rw [entailsEquality, resolve_undeclared absent]
  rfl

theorem entailsEquality_right (declared : a ∈ s.env.map (·.var))
    (absent : b ∉ s.env.map (·.var)) : s.entailsEquality a b = .error (.unknownVariable b) := by
  obtain ⟨i, -, place⟩ := exists_place declared
  rw [entailsEquality, place, resolve_undeclared absent]
  rfl

theorem entailsEquality_kinds {d e : TypedVar} (memberD : d ∈ s.env) (memberE : e ∈ s.env)
    (kinds : d.kind ≠ e.kind) :
    s.entailsEquality d.var e.var = .error (.kindMismatch d.var e.var) := by
  obtain ⟨i, rfl⟩ := List.mem_iff_get.1 memberD
  obtain ⟨j, rfl⟩ := List.mem_iff_get.1 memberE
  have kinds : s.env[i].kind ≠ s.env[j].kind := kinds
  simp only [entailsEquality, resolve_var, bind, Except.bind, if_pos kinds]
  rfl

/-- Only the constraints can make a comparison of variables of one kind fail, and they do so
whether the answer depends on them or not. -/
theorem failure?_entailsEquality {d e : TypedVar} (memberD : d ∈ s.env) (memberE : e ∈ s.env)
    (kinds : d.kind = e.kind) :
    failure? (s.entailsEquality d.var e.var) = s.lookups.findSome? s.undeclared? := by
  obtain ⟨i, rfl⟩ := List.mem_iff_get.1 memberD
  obtain ⟨j, rfl⟩ := List.mem_iff_get.1 memberE
  have kinds : s.env[i].kind = s.env[j].kind := kinds
  have step : s.entailsEquality (s.env.get i).var (s.env.get j).var =
      s.system >>= fun system => pure (system.forcesEqual i j) := by
    simp only [entailsEquality, resolve_var, bind, Except.bind, kinds, ne_eq, not_true_eq_false,
      if_false]
  rw [step]
  exact (failure?_map _ _).trans (failure?_system s)

end Steps

theorem entailsEquality_eq_error_iff :
    s.entailsEquality a b = .error fault ↔ s.Incomparable a b fault := by
  constructor
  · intro failed
    by_cases knownA : a ∈ s.env.map (·.var)
    case neg =>
      cases (entailsEquality_left knownA).symm.trans failed
      exact .left knownA
    by_cases knownB : b ∈ s.env.map (·.var)
    case neg =>
      cases (entailsEquality_right knownA knownB).symm.trans failed
      exact .right knownA knownB
    obtain ⟨d, memberD, rfl⟩ := List.mem_map.1 knownA
    obtain ⟨e, memberE, rfl⟩ := List.mem_map.1 knownB
    by_cases kinds : d.kind = e.kind
    case neg =>
      cases (entailsEquality_kinds memberD memberE kinds).symm.trans failed
      exact .kinds memberD rfl memberE rfl kinds
    rw [← failure?_eq_some_iff, failure?_entailsEquality memberD memberE kinds,
      findSome?_undeclared?_eq_some_iff] at failed
    obtain ⟨before, v, after, split, sound, absent, rfl⟩ := failed
    exact .constraint memberD rfl memberE rfl kinds split sound absent
  · intro incomparable
    cases incomparable with
    | left absent => exact entailsEquality_left absent
    | right declared absent => exact entailsEquality_right declared absent
    | kinds memberX nameX memberY nameY kinds =>
      subst nameX nameY
      exact entailsEquality_kinds memberX memberY kinds
    | constraint memberX nameX memberY nameY kinds split sound absent =>
      subst nameX nameY
      rw [← failure?_eq_some_iff, failure?_entailsEquality memberX memberY kinds,
        findSome?_undeclared?_eq_some_iff]
      exact ⟨_, _, _, split, sound, absent, rfl⟩

theorem mem_lookups_iff : v ∈ s.lookups ↔ ∃ c ∈ s.constraints, v ∈ c.vars := by
  simp only [lookups, List.mem_append, List.mem_flatMap, List.mem_filter]
  grind

theorem exists_incomparable (absent : v ∉ s.env.map (·.var)) (listed : v ∈ s.lookups)
    (a b : Var) : ∃ fault, s.Incomparable a b fault := by
  by_cases knownA : a ∈ s.env.map (·.var)
  case neg => exact ⟨_, .left knownA⟩
  by_cases knownB : b ∈ s.env.map (·.var)
  case neg => exact ⟨_, .right knownA knownB⟩
  obtain ⟨d, memberD, rfl⟩ := List.mem_map.1 knownA
  obtain ⟨e, memberE, rfl⟩ := List.mem_map.1 knownB
  by_cases kinds : d.kind = e.kind
  case neg => exact ⟨_, .kinds memberD rfl memberE rfl kinds⟩
  have failing : (s.lookups.findSome? s.undeclared?).isSome = true :=
    List.findSome?_isSome_iff.2 ⟨v, listed, by simp [undeclared?, absent]⟩
  obtain ⟨fault, found⟩ := Option.isSome_iff_exists.1 failing
  obtain ⟨before, w, after, split, sound, unknown, -⟩ := findSome?_undeclared?_eq_some_iff.1 found
  exact ⟨_, .constraint memberD rfl memberE rfl kinds split sound unknown⟩

/-- A comparison fails exactly if one of the two variables is not declared, or their kinds differ,
or some constraint is about a variable that is not declared, wherever the constraint stands and
whatever it says. The first failing step gives the error: of the compared variables the left one
counts first, then the kinds, then the variables of the equalities in their order, and then those of
the other constraints. -/
theorem entailsEquality_first_fault (s : Conjunction) (a b : Var) :
    ((∃ fault, s.entailsEquality a b = .error fault) ↔
      a ∉ s.env.map (·.var) ∨ b ∉ s.env.map (·.var) ∨
      (∃ x ∈ s.env, ∃ y ∈ s.env, x.var = a ∧ y.var = b ∧ x.kind ≠ y.kind) ∨
      ∃ c ∈ s.constraints, ∃ v ∈ c.vars, v ∉ s.env.map (·.var)) ∧
    ∀ fault, s.entailsEquality a b = .error fault ↔ s.Incomparable a b fault := by
  refine ⟨?_, fun fault => entailsEquality_eq_error_iff⟩
  constructor
  · rintro ⟨fault, failed⟩
    cases entailsEquality_eq_error_iff.1 failed with
    | left absent => exact .inl absent
    | right _ absent => exact .inr (.inl absent)
    | kinds memberX nameX memberY nameY kinds =>
      exact .inr (.inr (.inl ⟨_, memberX, _, memberY, nameX, nameY, kinds⟩))
    | @constraint _ _ before v after _ _ _ _ _ split _ absent =>
      have listed : v ∈ s.lookups := by simp [split]
      obtain ⟨c, member, inside⟩ := mem_lookups_iff.1 listed
      exact .inr (.inr (.inr ⟨c, member, v, inside, absent⟩))
  · simp only [entailsEquality_eq_error_iff]
    rintro (absent | absent | ⟨x, memberX, y, memberY, nameX, nameY, kinds⟩ |
      ⟨c, member, v, inside, absent⟩)
    · exact ⟨_, .left absent⟩
    · by_cases declared : a ∈ s.env.map (·.var)
      · exact ⟨_, .right declared absent⟩
      · exact ⟨_, .left declared⟩
    · exact ⟨_, .kinds memberX nameX memberY nameY kinds⟩
    · exact exists_incomparable absent (mem_lookups_iff.2 ⟨c, member, inside⟩) a b

/-- The bound that cannot be met comes first, and the copies are equal, but the equality after it
is about `w`, which is not declared, and so is an earlier bound about `v`. -/
example :
    let s : Conjunction := .ofLists [⟨⟨"x"⟩, .int⟩, ⟨⟨"y"⟩, .int⟩]
      [.equals ⟨"x"⟩ 1, .atMost ⟨"x"⟩ 0, .same ⟨"x"⟩ ⟨"y"⟩, .atLeast ⟨"v"⟩ 0, .same ⟨"x"⟩ ⟨"w"⟩]
    s.entailsEquality ⟨"x"⟩ ⟨"y"⟩ = .error (.unknownVariable ⟨"w"⟩) ∧
      s.lookups = [⟨"x"⟩, ⟨"y"⟩, ⟨"x"⟩, ⟨"w"⟩, ⟨"x"⟩, ⟨"x"⟩, ⟨"v"⟩] := by
  decide +kernel

end Conjunction

end StateIntern
