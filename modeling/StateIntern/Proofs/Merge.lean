import Mathlib.Data.List.Nodup
import StateIntern.Conjunction.Basic

/-! Merging lists: first the items of one list, then those of the other that bring a new key. A meet
merges environments by name and constraints as they are, so its laws hold for the order of the
items, too. Which operand comes first counts only for that order and for the kind of a name. -/
namespace StateIntern

section Lists

variable {α β : Type} [DecidableEq β] {key : α → β} {items : List α}

/-- Adds an item at the end unless there is one with its key. -/
def addNew (key : α → β) (items : List α) (item : α) : List α :=
  if key item ∈ items.map key then items else items ++ [item]

def mergeNew (key : α → β) (items more : List α) : List α := more.foldl (addNew key) items

theorem mem_keys_addNew {item : α} {k : β} :
    k ∈ (addNew key items item).map key ↔ k ∈ items.map key ∨ k = key item := by
  unfold addNew
  split
  next known =>
    constructor
    · exact .inl
    · rintro (member | rfl)
      · exact member
      · exact known
  next => simp

theorem mem_keys_mergeNew {more : List α} {k : β} :
    k ∈ (mergeNew key items more).map key ↔ k ∈ items.map key ∨ k ∈ more.map key := by
  induction more generalizing items with
  | nil => simp [mergeNew]
  | cons item rest ih =>
    have others : k ∈ (mergeNew key items (item :: rest)).map key ↔
        k ∈ (addNew key items item).map key ∨ k ∈ rest.map key := ih
    rw [others, mem_keys_addNew, List.map_cons, List.mem_cons, or_assoc]

theorem mergeNew_of_known {more : List α} (known : ∀ item ∈ more, key item ∈ items.map key) :
    mergeNew key items more = items := by
  induction more with
  | nil => rfl
  | cons item rest ih =>
    rw [List.forall_mem_cons] at known
    rw [mergeNew, List.foldl_cons, addNew, if_pos known.1]
    exact ih known.2

/-- An item that is new to the merged list is new to its second part, where it comes last. -/
theorem addNew_mergeNew {more : List α} {item : α} :
    addNew key (mergeNew key items more) item = mergeNew key items (addNew key more item) := by
  by_cases known : key item ∈ more.map key
  · have merged : key item ∈ (mergeNew key items more).map key :=
      mem_keys_mergeNew.2 (.inr known)
    rw [addNew, if_pos merged, addNew, if_pos known]
  · rw [addNew.eq_def key more, if_neg known, mergeNew, mergeNew, List.foldl_append]
    rfl

theorem mergeNew_assoc (first second third : List α) :
    mergeNew key (mergeNew key first second) third =
      mergeNew key first (mergeNew key second third) := by
  induction third generalizing second with
  | nil => rfl
  | cons item rest ih =>
    calc mergeNew key (mergeNew key first second) (item :: rest)
      _ = mergeNew key (addNew key (mergeNew key first second) item) rest := rfl
      _ = mergeNew key (mergeNew key first (addNew key second item)) rest := by rw [addNew_mergeNew]
      _ = mergeNew key first (mergeNew key second (item :: rest)) := ih _

/-- Where the keys of the second list differ, all those of its items are added that are new to the
first. -/
theorem mergeNew_eq_append {more : List α} (distinct : (more.map key).Nodup) :
    mergeNew key items more = items ++ more.filter (key · ∉ items.map key) := by
  induction more generalizing items with
  | nil => simp [mergeNew]
  | cons item rest ih =>
    rw [List.map_cons, List.nodup_cons] at distinct
    have others : mergeNew key items (item :: rest) =
        addNew key items item ++ rest.filter (key · ∉ (addNew key items item).map key) :=
      ih distinct.2
    have same : rest.filter (key · ∉ (addNew key items item).map key) =
        rest.filter (key · ∉ items.map key) := by
      refine List.filter_congr fun other member => ?_
      have differ : key other ≠ key item := by
        intro equal
        rw [← equal] at distinct
        exact distinct.1 (List.mem_map_of_mem member)
      simp only [mem_keys_addNew, differ, or_false]
    rw [others, same]
    by_cases known : key item ∈ items.map key
    · rw [addNew, if_pos known, List.filter_cons_of_neg (by simpa using known)]
    · rw [addNew, if_neg known, List.filter_cons_of_pos (by simpa using known)]
      simp

end Lists

namespace Conjunction

variable {s t : Conjunction}

theorem eq_of_lists (env : s.env = t.env) (constraints : s.constraints = t.constraints) :
    s = t := by
  cases s
  cases t
  cases env
  cases constraints
  rfl

theorem foldl_declare (ds : List TypedVar) :
    (ds.foldl declare s).env = mergeNew (·.var) s.env ds ∧
      (ds.foldl declare s).constraints = s.constraints := by
  induction ds generalizing s with
  | nil => exact ⟨rfl, rfl⟩
  | cons d rest ih =>
    have first : (s.declare d).env = addNew (·.var) s.env d ∧
        (s.declare d).constraints = s.constraints := by
      unfold declare addNew
      split <;> exact ⟨rfl, rfl⟩
    have others := ih (s := s.declare d)
    rw [first.1, first.2] at others
    exact others

theorem foldl_conjoin (cs : List Constraint) :
    (cs.foldl conjoin s).env = s.env ∧ (cs.foldl conjoin s).constraints = s.constraints ++ cs := by
  induction cs generalizing s with
  | nil => exact ⟨rfl, (List.append_nil _).symm⟩
  | cons c rest ih =>
    have others := ih (s := s.conjoin c)
    rw [conjoin, List.append_assoc] at others
    exact others

theorem constraints_ofLists (env : List TypedVar) (cs : List Constraint) :
    (ofLists env cs).constraints = cs := by
  rw [ofLists, (foldl_conjoin _).2, (foldl_declare _).2]
  rfl

theorem env_ofLists {env : List TypedVar} (distinct : (env.map (·.var)).Nodup)
    (cs : List Constraint) : (ofLists env cs).env = env := by
  rw [ofLists, (foldl_conjoin _).1, (foldl_declare _).1, mergeNew_eq_append distinct]
  simp [top]

theorem foldl_conjoinNew (cs : List Constraint) :
    (cs.foldl conjoinNew s).env = s.env ∧
      (cs.foldl conjoinNew s).constraints = mergeNew id s.constraints cs := by
  induction cs generalizing s with
  | nil => exact ⟨rfl, rfl⟩
  | cons c rest ih =>
    have first : (s.conjoinNew c).env = s.env ∧
        (s.conjoinNew c).constraints = addNew id s.constraints c := by
      simp only [conjoinNew, addNew, List.map_id, id]
      split <;> exact ⟨rfl, rfl⟩
    have others := ih (s := s.conjoinNew c)
    rw [first.1, first.2] at others
    exact others

theorem env_meet_merge (s t : Conjunction) :
    (s.meet t).env = mergeNew (·.var) s.env t.env := by
  rw [meet, (foldl_conjoinNew _).1, (foldl_declare _).1]

theorem constraints_meet_merge (s t : Conjunction) :
    (s.meet t).constraints = mergeNew id s.constraints t.constraints := by
  rw [meet, (foldl_conjoinNew _).2, (foldl_declare _).2]

theorem env_meet (s t : Conjunction) :
    (s.meet t).env = s.env ++ t.env.filter (·.var ∉ s.env.map (·.var)) := by
  rw [env_meet_merge, mergeNew_eq_append t.distinct]

theorem mem_names_meet {v : Var} :
    v ∈ (s.meet t).env.map (·.var) ↔ v ∈ s.env.map (·.var) ∨ v ∈ t.env.map (·.var) := by
  rw [env_meet_merge, mem_keys_mergeNew]

theorem mem_constraints_meet {c : Constraint} :
    c ∈ (s.meet t).constraints ↔ c ∈ s.constraints ∨ c ∈ t.constraints := by
  have merged : c ∈ (mergeNew id s.constraints t.constraints).map id ↔
      c ∈ s.constraints.map id ∨ c ∈ t.constraints.map id := mem_keys_mergeNew
  simpa only [constraints_meet_merge, List.map_id] using merged

theorem meet_assoc (s t u : Conjunction) : (s.meet t).meet u = s.meet (t.meet u) := by
  apply eq_of_lists
  · simp only [env_meet_merge, mergeNew_assoc]
  · simp only [constraints_meet_merge, mergeNew_assoc]

/-- A meet with an operand that brings nothing new changes nothing, not even where constraints are
repeated. -/
theorem meet_of_known (names : ∀ d ∈ t.env, d.var ∈ s.env.map (·.var))
    (constraints : ∀ c ∈ t.constraints, c ∈ s.constraints) : s.meet t = s := by
  apply eq_of_lists
  · rw [env_meet_merge, mergeNew_of_known names]
  · rw [constraints_meet_merge, mergeNew_of_known (by simpa using constraints)]

theorem meet_meet_of_operand {u : Conjunction} (operand : u = s ∨ u = t) :
    (s.meet t).meet u = s.meet t := by
  have names : ∀ d ∈ u.env, d.var ∈ s.env.map (·.var) ∨ d.var ∈ t.env.map (·.var) := by
    intro d member
    have named := List.mem_map_of_mem (f := (·.var)) member
    rcases operand with rfl | rfl
    · exact .inl named
    · exact .inr named
  have constraints : ∀ c ∈ u.constraints, c ∈ s.constraints ∨ c ∈ t.constraints := by
    intro c member
    rcases operand with rfl | rfl
    · exact .inl member
    · exact .inr member
  exact meet_of_known (fun d member => mem_names_meet.2 (names d member))
    fun c member => mem_constraints_meet.2 (constraints c member)

/-- A name that both declare has one kind. -/
def KindsAgree (s t : Conjunction) : Prop :=
  ∀ d ∈ s.env, ∀ e ∈ t.env, d.var = e.var → d.kind = e.kind

instance (s t : Conjunction) : Decidable (s.KindsAgree t) :=
  inferInstanceAs (Decidable (∀ d ∈ s.env, ∀ e ∈ t.env, d.var = e.var → d.kind = e.kind))

theorem KindsAgree.symm (agree : s.KindsAgree t) : t.KindsAgree s :=
  fun d memberD e memberE same => (agree e memberE d memberD same.symm).symm

/-- Then no declaration of the right operand is lost. -/
theorem KindsAgree.mem_env_meet (agree : s.KindsAgree t) {d : TypedVar} :
    d ∈ (s.meet t).env ↔ d ∈ s.env ∨ d ∈ t.env := by
  rw [env_meet, List.mem_append, List.mem_filter]
  constructor
  · rintro (left | ⟨right, -⟩)
    · exact .inl left
    · exact .inr right
  · rintro (left | right)
    · exact .inl left
    · by_cases known : d.var ∈ s.env.map (·.var)
      · obtain ⟨⟨name, kind⟩, member, rfl⟩ := List.mem_map.1 known
        obtain rfl : kind = d.kind := agree _ member d right rfl
        exact .inl member
      · exact .inr ⟨right, by simpa using known⟩

/-- The left operand decides the kinds, so both orders declare the same only if there is nothing to
decide. -/
theorem kindsAgree_iff :
    s.KindsAgree t ↔ ∀ d, d ∈ (s.meet t).env ↔ d ∈ (t.meet s).env := by
  constructor
  · intro agree d
    rw [agree.mem_env_meet, agree.symm.mem_env_meet, or_comm]
  · intro same d memberD e memberE name
    have first : d ∈ (t.meet s).env := by
      rw [← same, env_meet]
      exact List.mem_append_left _ memberD
    have second : e ∈ (t.meet s).env := by
      rw [env_meet]
      exact List.mem_append_left _ memberE
    rw [List.inj_on_of_nodup_map (t.meet s).distinct first second name]

/-- Meets can be grouped in any way, and an operand that has come already is not added again. The
order of the operands does not count for which names and which constraints there are, and it does
not count for the kinds exactly if the operands agree on them. -/
theorem meet_laws (a b c : Conjunction) :
    (a.meet b).meet c = a.meet (b.meet c) ∧
    a.meet a = a ∧
    (a.meet b).meet b = a.meet b ∧
    (a.meet b).meet a = a.meet b ∧
    (∀ v, v ∈ (a.meet b).env.map (·.var) ↔ v ∈ (b.meet a).env.map (·.var)) ∧
    (∀ k, k ∈ (a.meet b).constraints ↔ k ∈ (b.meet a).constraints) ∧
    ((∀ d, d ∈ (a.meet b).env ↔ d ∈ (b.meet a).env) ↔ a.KindsAgree b) := by
  refine ⟨meet_assoc a b c, ?_, meet_meet_of_operand (.inr rfl), meet_meet_of_operand (.inl rfl),
    fun v => ?_, fun k => ?_, kindsAgree_iff.symm⟩
  · exact meet_of_known (fun d member => List.mem_map_of_mem member) fun c member => member
  · rw [mem_names_meet, mem_names_meet, or_comm]
  · rw [mem_constraints_meet, mem_constraints_meet, or_comm]

/-- Only the left operand keeps what it repeats. -/
example :
    let a : Conjunction := .ofLists [⟨⟨"x"⟩, .int⟩] [.atLeast ⟨"x"⟩ 0, .atLeast ⟨"x"⟩ 0]
    let b : Conjunction := .ofLists [⟨⟨"x"⟩, .real⟩] []
    a.meet a = a ∧ (b.meet a).constraints = [.atLeast ⟨"x"⟩ 0] ∧ (b.meet a).env = b.env := by
  decide +kernel

end Conjunction

end StateIntern
