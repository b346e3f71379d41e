import Mathlib.Data.Nat.ModEq
import StateIntern.Proofs.Merge
import StateIntern.Proofs.Shape
import StateIntern.Proofs.Sharing
import StateIntern.Walk

/-! The states that a walk comes by. Their keys tell the points apart, and of the two conventions
those that the scheme does not know, so that after a period the keys come again. -/
namespace StateIntern

open Text

/-- Keys that come again after a period and not before. -/
structure Repeats (key : Nat → String) (period : Nat) : Prop where
  positive : 0 < period
  same_iff : ∀ s t, key s = key t ↔ s % period = t % period

namespace Repeats

variable {key : Nat → String} {period n step : Nat}

theorem mod (repeats : Repeats key period) (step : Nat) : key (step % period) = key step :=
  (repeats.same_iff _ _).2 (Nat.mod_mod step period)

theorem eraseDups (repeats : Repeats key period) (n : Nat) :
    ((List.range n).map key).eraseDups = (List.range (min n period)).map key := by
  -- a step of the first period brings a new key, and each later one that of a step before it
  induction n with
  | zero => simp
  | succ n ih =>
    rw [List.range_succ, List.map_append, List.map_singleton, Registry.eraseDups_snoc, ih]
    by_cases first : n < period
    · have new : key n ∉ (List.range n).map key := by
        intro known
        obtain ⟨step, before, same⟩ := List.mem_map.1 known
        have before := List.mem_range.1 before
        rw [repeats.same_iff, Nat.mod_eq_of_lt first, Nat.mod_eq_of_lt (before.trans first)] at same
        exact before.ne same
      rw [if_neg new, Nat.min_eq_left first.le, Nat.min_eq_left first, List.range_succ,
        List.map_append, List.map_singleton]
    · have before : n % period < n :=
        (Nat.mod_lt n repeats.positive).trans_le (Nat.not_lt.1 first)
      have known : key n ∈ (List.range n).map key :=
        List.mem_map.2 ⟨n % period, List.mem_range.2 before, repeats.mod n⟩
      rw [if_pos known, Nat.min_eq_right (by omega), Nat.min_eq_right (by omega)]

theorem mod_lt_min (repeats : Repeats key period) (before : step < n) :
    step % period < min n period := by
  have bound := Nat.mod_lt step repeats.positive
  have small := Nat.mod_le step period
  omega

theorem getElem?_eraseDups (repeats : Repeats key period) (before : step < n) :
    ((List.range n).map key).eraseDups[step % period]? = some (key step) := by
  rw [repeats.eraseDups, List.getElem?_map, List.getElem?_range (repeats.mod_lt_min before),
    Option.map_some, repeats.mod]

theorem idxOf_eraseDups (repeats : Repeats key period) (before : step < n) :
    ((List.range n).map key).eraseDups.idxOf (key step) = step % period := by
  have distinct : ((List.range n).map key).eraseDups.Nodup := by
    rw [repeats.eraseDups]
    refine List.nodup_range.map_on fun s first t second same => ?_
    have first := (List.mem_range.1 first).trans_le (Nat.min_le_right _ _)
    have second := (List.mem_range.1 second).trans_le (Nat.min_le_right _ _)
    rwa [repeats.same_iff, Nat.mod_eq_of_lt first, Nat.mod_eq_of_lt second] at same
  obtain ⟨bound, place⟩ := List.getElem?_eq_some_iff.1 (repeats.getElem?_eraseDups before)
  rw [← place]
  exact distinct.idxOf_getElem _ bound

theorem find?_range (repeats : Repeats key period) (before : step < n) :
    (List.range n).find? (key · == key step) = some (step % period) := by
  rw [List.find?_range_eq_some]
  refine ⟨beq_iff_eq.2 (repeats.mod step), List.mem_range.2 ?_, fun earlier less => ?_⟩
  · exact (Nat.mod_le step period).trans_lt before
  · have bound := Nat.mod_lt step repeats.positive
    rw [Bool.not_eq_true', beq_eq_false_iff_ne, ne_eq, repeats.same_iff,
      Nat.mod_eq_of_lt (less.trans bound)]
    exact less.ne

end Repeats

namespace Walk

/-- The conventions that take turns. -/
def conventions : List Tags := [⟨"_L", "_R"⟩, ⟨"_A", "_B"⟩]

def schemes : List Scheme := [.standard, .leftRight, .versions]

theorem scheme?_mem {name : String} {scheme : Scheme} (named : scheme? name = some scheme) :
    scheme ∈ schemes := by
  unfold scheme? at named
  split at named <;> cases named <;> decide

theorem tagsAt_mem (step : Nat) : tagsAt step ∈ conventions := by
  unfold tagsAt
  split <;> decide

theorem tagsAt_eq_iff {s t : Nat} : tagsAt s = tagsAt t ↔ s % 2 = t % 2 := by
  unfold tagsAt
  split <;> split <;> simp <;> omega

/-- The scheme has a rule for each of the two markers. -/
def Tags.known (tags : Tags) (scheme : Scheme) : Bool :=
  scheme.rules.contains ⟨tags.left, .trailing, .left⟩ &&
    scheme.rules.contains ⟨tags.right, .trailing, .right⟩

/-- The variables of a state. -/
def names (tags : Tags) : List Var :=
  [⟨"i" ++ tags.left⟩, ⟨"i" ++ tags.right⟩, ⟨"n" ++ tags.left⟩, ⟨"n" ++ tags.right⟩]

def copies (tags : Tags) : List Pair :=
  [⟨⟨"i"⟩, ⟨"i" ++ tags.left⟩, ⟨"i" ++ tags.right⟩⟩,
    ⟨⟨"n"⟩, ⟨"n" ++ tags.left⟩, ⟨"n" ++ tags.right⟩⟩]

theorem names_nodup : ∀ tags ∈ conventions, (names tags).Nodup := by decide +kernel

theorem names_printable : ∀ tags ∈ conventions, ∀ v ∈ names tags, v.isPrintable = true := by
  decide +kernel

theorem schemes_keepNumbers : ∀ scheme ∈ schemes, scheme.KeepsNumbers := by
  unfold Scheme.KeepsNumbers
  decide

theorem pairs_names : ∀ scheme ∈ schemes, ∀ tags ∈ conventions,
    scheme.pairs ((names tags).map (⟨·, .int⟩)) =
      if tags.known scheme then copies tags else [] := by
  decide +kernel

/-- The copies are written in one way only where the scheme knows both conventions. -/
theorem sameForm_names_iff : ∀ scheme ∈ schemes, ∀ tags ∈ conventions, ∀ other ∈ conventions,
    List.Forall₂ scheme.SameForm (names tags) (names other) ↔
      scheme = .standard ∨ tags = other := by
  unfold Scheme.SameForm
  decide +kernel

variable {tags other : Tags} {scheme : Scheme} {point : Nat}

theorem names_readable (listed : scheme ∈ schemes) (member : tags ∈ conventions) :
    ∀ v ∈ names tags, scheme.Readable v := by
  have plain : ∀ tags ∈ conventions, ∀ v ∈ names tags, SignFree v.name.toList ∧
      v.name.toList.any (fun c => c != '-' && !c.isDigit) = true := by decide +kernel
  intro v named
  exact (schemes_keepNumbers scheme listed).readable_of_any (plain tags member v named)

theorem constraints_stateAt (point : Nat) (tags : Tags) : (stateAt point tags).constraints =
    [.atLeast ⟨"i" ++ tags.left⟩ 0, .atMost ⟨"i" ++ tags.left⟩ point,
      .same ⟨"n" ++ tags.left⟩ ⟨"n" ++ tags.right⟩,
      if point % 3 = 0 then .same ⟨"i" ++ tags.left⟩ ⟨"i" ++ tags.right⟩
      else .atMost ⟨"i" ++ tags.right⟩ (point + 1)] :=
  Conjunction.constraints_ofLists _ _

theorem env_stateAt (member : tags ∈ conventions) (point : Nat) :
    (stateAt point tags).env = (names tags).map (⟨·, .int⟩) := by
  refine Conjunction.env_ofLists ?_ _
  exact names_nodup tags member

theorem mem_names_of_mem_vars {v : Var} (member : v ∈ (stateAt point tags).vars) :
    v ∈ names tags := by
  rw [Conjunction.vars, constraints_stateAt] at member
  split at member <;> simp [Constraint.vars, names] at member ⊢ <;> grind

theorem printFault?_stateAt (member : tags ∈ conventions) (point : Nat) :
    (stateAt point tags).printFault? = none := by
  rw [Conjunction.printFault?_eq_none_iff, env_stateAt member, List.forall_mem_map, List.map_map]
  refine ⟨names_printable tags member, fun c inside v mentioned => ?_⟩
  rw [Function.comp_def, List.map_id']
  exact mem_names_of_mem_vars (Conjunction.mem_vars_iff.2 ⟨c, inside, mentioned⟩)

theorem forall₂_matches_stateAt_iff {R : Var → Var → Prop} {point' : Nat} :
    List.Forall₂ (Constraint.Matches R) (stateAt point tags).constraints
      (stateAt point' other).constraints ↔
        point = point' ∧ List.Forall₂ R (names tags) (names other) := by
  rw [constraints_stateAt, constraints_stateAt]
  split_ifs <;> simp [Constraint.Matches, names] <;> grind

/-- States have one key if they belong to one point and their names are written in one way. -/
theorem normalize_stateAt_eq_iff (listed : scheme ∈ schemes) (member : tags ∈ conventions)
    (member' : other ∈ conventions) {point' : Nat} :
    scheme.normalize (stateAt point tags).text = scheme.normalize (stateAt point' other).text ↔
      point = point' ∧ (scheme = .standard ∨ tags = other) := by
  rw [← sameForm_names_iff scheme listed tags member other member', ← forall₂_matches_stateAt_iff]
  constructor
  · have numbers := (schemes_keepNumbers scheme listed).separatesNumbers
    exact Conjunction.matches_of_normalize_text_eq numbers
      (fun v mentioned => names_readable listed member v (mem_names_of_mem_vars mentioned))
      (fun v mentioned => names_readable listed member' v (mem_names_of_mem_vars mentioned))
  · exact Conjunction.normalize_text_eq_of_matches

/-- Lengths are equal in every solution. Indices are at every third point, where it is said. -/
theorem holds_stateAt_iff {value : Var → Int} : (stateAt point tags).Holds value ↔
    0 ≤ value ⟨"i" ++ tags.left⟩ ∧ value ⟨"i" ++ tags.left⟩ ≤ point ∧
      value ⟨"n" ++ tags.left⟩ = value ⟨"n" ++ tags.right⟩ ∧
      if point % 3 = 0 then value ⟨"i" ++ tags.left⟩ = value ⟨"i" ++ tags.right⟩
      else value ⟨"i" ++ tags.right⟩ ≤ point + 1 := by
  rw [Conjunction.Holds, constraints_stateAt]
  split <;> simp [Constraint.Holds]

theorem diverges_stateAt_iff (listed : scheme ∈ schemes) (member : tags ∈ conventions)
    {base : Var} : (stateAt point tags).Diverges scheme base ↔
      tags.known scheme = true ∧ ¬3 ∣ point ∧ base = ⟨"i"⟩ := by
  rw [Conjunction.diverges_iff_exists_pair, env_stateAt member,
    pairs_names scheme listed tags member]
  cases tags.known scheme with
  | false => simp
  | true =>
    simp only [if_true, copies, List.exists_mem_cons_iff, List.not_mem_nil, false_and, exists_false,
      or_false, true_and, holds_stateAt_iff, Nat.dvd_iff_mod_eq_zero]
    constructor
    · rintro (⟨rfl, value, ⟨-, -, -, last⟩, differ⟩ | ⟨rfl, value, ⟨-, -, same, -⟩, differ⟩)
      · refine ⟨fun third => ?_, rfl⟩
        rw [if_pos third] at last
        exact differ last
      · exact absurd same differ
    · rintro ⟨free, rfl⟩
      have distinct := names_nodup tags member
      simp only [names, List.nodup_cons, List.mem_cons, not_or] at distinct
      obtain ⟨⟨indices, -⟩, ⟨left, right, -⟩, -⟩ := distinct
      -- both bounds leave room for an index of the right version that is greater by one
      refine .inl ⟨rfl, fun v => if v = ⟨"i" ++ tags.right⟩ then 1 else 0, ?_⟩
      simp only [if_neg indices, if_neg (Ne.symm left), if_neg (Ne.symm right), if_true,
        if_neg free]
      exact ⟨⟨le_rfl, Int.natCast_nonneg _, trivial, by omega⟩, by decide⟩

/-- What is shown as common to the copies. -/
def common (scheme : Scheme) (tags : Tags) : VarSet :=
  if tags.known scheme then .ofList [⟨"i"⟩, ⟨"n"⟩] else .empty

/-- What is shown as different in the copies. -/
def divergent (scheme : Scheme) (tags : Tags) (point : Nat) : VarSet :=
  if tags.known scheme ∧ ¬3 ∣ point then .ofList [⟨"i"⟩] else .empty

theorem mem_divergent_iff {base : Var} : base ∈ divergent scheme tags point ↔
    tags.known scheme = true ∧ ¬3 ∣ point ∧ base = ⟨"i"⟩ := by
  rw [divergent, ← and_assoc]
  split
  next free => simp [VarSet.mem_ofList, free]
  next hidden => exact iff_of_false (List.not_mem_nil (a := base)) fun both => hidden both.1

variable {World : Type} {entry : Entry Conjunction}

theorem derive_common (listed : scheme ∈ schemes) (member : tags ∈ conventions)
    (state : entry.state = stateAt point tags) (world : World) :
    (Property.common.derive Conjunction.engine scheme entry world).1 =
      .ok (common scheme tags) := by
  have bases : (scheme.pairs entry.state.env).map (·.base) =
      if tags.known scheme then [⟨"i"⟩, ⟨"n"⟩] else [] := by
    rw [state, env_stateAt member, pairs_names scheme listed tags member]
    split <;> rfl
  have derived : (Property.common.derive Conjunction.engine scheme entry world).1 =
      .ok (VarSet.ofList ((scheme.pairs entry.state.env).map (·.base))) := rfl
  rw [derived, bases, common]
  split <;> rfl

theorem derive_divergent (listed : scheme ∈ schemes) (member : tags ∈ conventions)
    (state : entry.state = stateAt point tags) (world : World) :
    (Property.divergent.derive Conjunction.engine scheme entry world).1 =
      .ok (divergent scheme tags point) := by
  have closed := Conjunction.closed_of_printable (printFault?_stateAt member point)
  obtain ⟨vars, answers, diverges⟩ := closed.divergentVars_eq_ok World scheme
  have same : vars = divergent scheme tags point := by
    rw [VarSet.eq_iff]
    intro base
    rw [diverges, diverges_stateAt_iff listed member, mem_divergent_iff]
  rw [← same, ← answers world, ← state]
  rfl

def stateOf (w : Walk) (step : Nat) : Conjunction := stateAt (w.pointAt step) (tagsAt step)

def keyOf (w : Walk) (step : Nat) : String := w.scheme.normalize (w.stateOf step).text

/-- After so many steps the keys come again: when the points do, and for a scheme that knows one
convention only, when the conventions do, too. -/
def period (w : Walk) : Nat :=
  if w.scheme = .standard then max w.distinct 1 else Nat.lcm (max w.distinct 1) 2

variable {w : Walk}

theorem period_pos : 0 < w.period := by
  unfold period
  split
  · omega
  · exact Nat.lcm_pos (by omega) Nat.two_pos

theorem keyOf_eq_iff (listed : w.scheme ∈ schemes) {s t : Nat} :
    w.keyOf s = w.keyOf t ↔ s % w.period = t % w.period := by
  have both {m n : Nat} : s % m = t % m ∧ s % n = t % n ↔ s % Nat.lcm m n = t % Nat.lcm m n :=
    ⟨fun same => Nat.mod_lcm same.1 same.2, fun same =>
      ⟨Nat.ModEq.of_dvd (Nat.dvd_lcm_left m n) same, Nat.ModEq.of_dvd (Nat.dvd_lcm_right m n) same⟩⟩
  have points (step : Nat) : w.pointAt step = step % max w.distinct 1 := rfl
  rw [keyOf, keyOf, stateOf, stateOf, normalize_stateAt_eq_iff listed (tagsAt_mem s) (tagsAt_mem t),
    tagsAt_eq_iff, points, points, period]
  by_cases standard : w.scheme = .standard
  · rw [if_pos standard, and_iff_left (.inl standard)]
  · rw [if_neg standard, or_iff_right standard, both]

theorem repeats_keyOf (listed : w.scheme ∈ schemes) : Repeats w.keyOf w.period :=
  ⟨period_pos, fun _ _ => keyOf_eq_iff listed⟩

end Walk

end StateIntern
