import Mathlib.Data.List.Induction
import Mathlib.Data.List.Nodup
import StateIntern.Tag.Scheme

/-! Which tables of rules are accepted, and what the others are refused for. The rules are read one
after the other, each against those before it, so the earliest fault is reported and what follows it
does not count; a missing side is reported only where no rule is at fault. -/
namespace StateIntern

/-- An ASCII letter or digit, or an underscore. -/
def IsPlain (c : Char) : Prop :=
  ('A' ≤ c ∧ c ≤ 'Z') ∨ ('a' ≤ c ∧ c ≤ 'z') ∨ ('0' ≤ c ∧ c ≤ '9') ∨ c = '_'

theorem isMarkerChar_iff {c : Char} : isMarkerChar c = true ↔ IsPlain c := by
  have ranges : isMarkerChar c =
      ((decide ('A' ≤ c ∧ c ≤ 'Z') || ('a' ≤ c && c ≤ 'z')) || ('0' ≤ c && c ≤ '9') || c == '_') :=
    rfl
  simp only [ranges, IsPlain, Bool.or_eq_true, Bool.and_eq_true, decide_eq_true_eq, beq_iff_eq,
    or_assoc]

/-- What has to differ between rules. -/
def Rule.place (r : Rule) : String × Affix := (r.marker, r.affix)

/-- No rule is at fault. -/
structure Faultless (rules : List Rule) : Prop where
  filled : ∀ r ∈ rules, r.marker ≠ ""
  plain : ∀ r ∈ rules, ∀ c ∈ r.marker.toList, IsPlain c
  distinct : (rules.map Rule.place).Nodup

/-- What is wrong with a rule that follows the `earlier` ones. -/
inductive Rule.Faulty (earlier : List Rule) (r : Rule) : SchemeError → Prop where
  | empty : r.marker = "" → Faulty earlier r .emptyMarker
  | invalid : c ∈ r.marker.toList → ¬IsPlain c → Faulty earlier r (.invalidMarker r.marker)
  | duplicate : r.marker ≠ "" → (∀ c ∈ r.marker.toList, IsPlain c) →
      r.place ∈ earlier.map Rule.place → Faulty earlier r (.duplicateRule r.marker)

/-- What a table is refused for: its earliest fault, or else the first side without a rule. -/
inductive RefusedTable (rules : List Rule) : SchemeError → Prop where
  | faulty : rules = before ++ r :: after → Faultless before → r.Faulty before fault →
      RefusedTable rules fault
  | noLeft : Faultless rules → (∀ r ∈ rules, r.side ≠ .left) → RefusedTable rules (.missingSide .left)
  | noRight : Faultless rules → (∃ r ∈ rules, r.side = .left) → (∀ r ∈ rules, r.side ≠ .right) →
      RefusedTable rules (.missingSide .right)

namespace Rule

variable {r : Rule} {earlier : List Rule}

theorem any_samePlace_iff : earlier.any r.samePlace = true ↔ r.place ∈ earlier.map place := by
  simp only [List.any_eq_true, List.mem_map, samePlace, place, Bool.and_eq_true, beq_iff_eq,
    Prod.mk.injEq]
  constructor <;>
    rintro ⟨q, member, marker, affix⟩ <;>
    exact ⟨q, member, marker.symm, affix.symm⟩

theorem all_isMarkerChar_iff :
    r.marker.toList.all isMarkerChar = true ↔ ∀ c ∈ r.marker.toList, IsPlain c := by
  simp only [List.all_eq_true, isMarkerChar_iff]

theorem Faulty.fault?_eq {fault : SchemeError} (faulty : r.Faulty earlier fault) :
    r.fault? earlier = some fault := by
  unfold fault?
  cases faulty with
  | empty empty => rw [if_pos empty]
  | invalid member other =>
    have filled : r.marker ≠ "" := by
      intro empty
      simp [empty] at member
    have invalid : ¬r.marker.toList.all isMarkerChar = true :=
      fun valid => other (all_isMarkerChar_iff.1 valid _ member)
    rw [if_neg filled, if_pos (by simpa using invalid)]
  | duplicate filled plain repeated =>
    rw [if_neg filled, if_neg (by simpa using all_isMarkerChar_iff.2 plain),
      if_pos (any_samePlace_iff.2 repeated)]

theorem fault?_eq_some_iff {fault : SchemeError} :
    r.fault? earlier = some fault ↔ r.Faulty earlier fault := by
  refine ⟨fun found => ?_, Faulty.fault?_eq⟩
  unfold fault? at found
  split at found
  next empty =>
    cases found
    exact .empty empty
  next filled =>
    split at found
    next invalid =>
      cases found
      obtain ⟨c, member, other⟩ : ∃ c ∈ r.marker.toList, ¬isMarkerChar c = true := by
        simpa using invalid
      exact .invalid member (mt isMarkerChar_iff.2 other)
    next valid =>
      have plain := all_isMarkerChar_iff.1 (by simpa using valid)
      split at found
      next repeated =>
        cases found
        exact .duplicate filled plain (any_samePlace_iff.1 repeated)
      next => contradiction

theorem fault?_eq_none_iff : r.fault? earlier = none ↔
    r.marker ≠ "" ∧ (∀ c ∈ r.marker.toList, IsPlain c) ∧ r.place ∉ earlier.map place := by
  constructor
  · intro sound
    have never (fault : SchemeError) : ¬r.Faulty earlier fault := by
      rw [← fault?_eq_some_iff, sound]
      nofun
    have filled : r.marker ≠ "" := fun empty => never _ (.empty empty)
    have plain : ∀ c ∈ r.marker.toList, IsPlain c := fun c member =>
      by_contra fun other => never _ (.invalid member other)
    exact ⟨filled, plain, fun repeated => never _ (.duplicate filled plain repeated)⟩
  · rintro ⟨filled, plain, fresh⟩
    rw [Option.eq_none_iff_forall_not_mem]
    intro fault found
    cases fault?_eq_some_iff.1 found with
    | empty empty => exact filled empty
    | invalid member other => exact other (plain _ member)
    | duplicate _ _ repeated => exact fresh repeated

/-- The order of the earlier rules does not count. -/
theorem fault?_reverse : r.fault? earlier.reverse = r.fault? earlier := by
  simp only [fault?, List.any_reverse]

end Rule

variable {rules : List Rule}

theorem faultless_nil : Faultless [] := ⟨by simp, by simp, by simp⟩

theorem faultless_snoc_iff {r : Rule} :
    Faultless (rules ++ [r]) ↔ Faultless rules ∧ r.fault? rules = none := by
  have apart : ((rules ++ [r]).map Rule.place).Nodup ↔
      (rules.map Rule.place).Nodup ∧ r.place ∉ rules.map Rule.place := by
    rw [List.map_append, List.map_cons, List.map_nil, ← List.concat_eq_append, List.nodup_concat]
    exact and_comm
  rw [Rule.fault?_eq_none_iff]
  constructor
  · rintro ⟨filled, plain, distinct⟩
    rw [List.forall_mem_append, List.forall_mem_singleton] at filled plain
    exact ⟨⟨filled.1, plain.1, (apart.1 distinct).1⟩, filled.2, plain.2, (apart.1 distinct).2⟩
  · rintro ⟨⟨filled, plain, distinct⟩, filledR, plainR, fresh⟩
    refine ⟨?_, ?_, apart.2 ⟨distinct, fresh⟩⟩ <;>
      rw [List.forall_mem_append, List.forall_mem_singleton]
    · exact ⟨filled, filledR⟩
    · exact ⟨plain, plainR⟩

theorem firstFault?_append (earlier rules more : List Rule) :
    firstFault? earlier (rules ++ more) =
      (firstFault? earlier rules).or (firstFault? (rules.reverse ++ earlier) more) := by
  induction rules generalizing earlier with
  | nil => rfl
  | cons r rest ih => simp [firstFault?, ih, Option.or_assoc]

theorem firstFault?_snoc (rules : List Rule) (r : Rule) :
    firstFault? [] (rules ++ [r]) = (firstFault? [] rules).or (r.fault? rules) := by
  rw [firstFault?_append, List.append_nil, firstFault?, firstFault?, Option.or_none,
    Rule.fault?_reverse]

theorem firstFault?_eq_none_iff : firstFault? [] rules = none ↔ Faultless rules := by
  induction rules using List.reverseRecOn with
  | nil => exact ⟨fun _ => faultless_nil, fun _ => rfl⟩
  | append_singleton rules r ih =>
    rw [firstFault?_snoc, Option.or_eq_none_iff, ih, faultless_snoc_iff]

theorem firstFault?_eq_some_iff {fault : SchemeError} :
    firstFault? [] rules = some fault ↔
      ∃ before r after, rules = before ++ r :: after ∧ Faultless before ∧ r.Faulty before fault := by
  constructor
  · intro found
    induction rules using List.reverseRecOn with
    | nil => contradiction
    | append_singleton rules r ih =>
      rw [firstFault?_snoc] at found
      cases sound : firstFault? [] rules with
      | some first =>
        rw [sound] at found
        obtain ⟨before, q, after, rfl, faultless, faulty⟩ := ih (sound.trans found)
        exact ⟨before, q, after ++ [r], by simp, faultless, faulty⟩
      | none =>
        rw [sound] at found
        exact ⟨rules, r, [], rfl, firstFault?_eq_none_iff.1 sound, Rule.fault?_eq_some_iff.1 found⟩
  · rintro ⟨before, r, after, rfl, faultless, faulty⟩
    rw [List.append_cons, firstFault?_append, firstFault?_snoc,
      firstFault?_eq_none_iff.2 faultless, faulty.fault?_eq]
    rfl

theorem missingSide?_eq (rules : List Rule) : missingSide? rules =
    if ∀ r ∈ rules, r.side ≠ .left then some (.missingSide .left)
    else if ∀ r ∈ rules, r.side ≠ .right then some (.missingSide .right)
    else none := by
  have absent (side : Side) :
      (!rules.any (·.side == side)) = decide (∀ r ∈ rules, r.side ≠ side) := by
    rw [Bool.eq_iff_iff]
    simp
  simp only [missingSide?, absent, List.find?_cons, List.find?_nil]
  by_cases noLeft : ∀ r ∈ rules, r.side ≠ .left
  · rw [if_pos noLeft, decide_eq_true noLeft]
    rfl
  rw [if_neg noLeft, decide_eq_false noLeft]
  by_cases noRight : ∀ r ∈ rules, r.side ≠ .right
  · rw [if_pos noRight, decide_eq_true noRight]
    rfl
  · rw [if_neg noRight, decide_eq_false noRight]
    rfl

theorem exists_side_iff {side : Side} :
    (∃ r ∈ rules, r.side = side) ↔ ¬∀ r ∈ rules, r.side ≠ side := by
  simp

theorem tableFault?_eq_some_iff {fault : SchemeError} :
    tableFault? rules = some fault ↔ RefusedTable rules fault := by
  rw [tableFault?, missingSide?_eq]
  constructor
  · intro found
    cases sound : firstFault? [] rules with
    | some first =>
      rw [sound] at found
      cases found
      obtain ⟨before, r, after, split, faultless, faulty⟩ := firstFault?_eq_some_iff.1 sound
      exact .faulty split faultless faulty
    | none =>
      have faultless := firstFault?_eq_none_iff.1 sound
      rw [sound, Option.none_or] at found
      split at found
      next noLeft =>
        cases found
        exact .noLeft faultless noLeft
      next left =>
        split at found
        next noRight =>
          cases found
          exact .noRight faultless (exists_side_iff.2 left) noRight
        next => contradiction
  · intro refused
    cases refused with
    | faulty split faultless faulty =>
      rw [firstFault?_eq_some_iff.2 ⟨_, _, _, split, faultless, faulty⟩, Option.some_or]
    | noLeft faultless noLeft =>
      rw [firstFault?_eq_none_iff.2 faultless, Option.none_or, if_pos noLeft]
    | noRight faultless left noRight =>
      rw [firstFault?_eq_none_iff.2 faultless, Option.none_or, if_neg (exists_side_iff.1 left),
        if_pos noRight]

theorem tableFault?_eq_none_iff :
    tableFault? rules = none ↔ Faultless rules ∧ ∀ side, ∃ r ∈ rules, r.side = side := by
  have sides : missingSide? rules = none ↔ ∀ side, ∃ r ∈ rules, r.side = side := by
    rw [missingSide?_eq]
    constructor
    · intro complete side
      split at complete
      next => contradiction
      next left =>
        split at complete
        next => contradiction
        next right =>
          cases side with
          | left => exact exists_side_iff.2 left
          | right => exact exists_side_iff.2 right
    · intro present
      rw [if_neg (exists_side_iff.1 (present .left)), if_neg (exists_side_iff.1 (present .right))]
  rw [tableFault?, Option.or_eq_none_iff, firstFault?_eq_none_iff, sides]

namespace Scheme

/-- Checking does not change the table. -/
theorem ofRules_eq_ok_iff {s : Scheme} : ofRules rules = .ok s ↔ s.rules = rules := by
  unfold ofRules
  split
  next accepted =>
    rw [Except.ok.injEq]
    constructor
    · rintro rfl
      rfl
    · rintro rfl
      rfl
  next fault found =>
    refine ⟨nofun, ?_⟩
    rintro rfl
    rw [s.accepted] at found
    contradiction

theorem ofRules_eq_error_iff {fault : SchemeError} :
    ofRules rules = .error fault ↔ tableFault? rules = some fault := by
  unfold ofRules
  split
  next accepted => simp [accepted]
  next first found => simp [found]

/-- A table is accepted as it is, if all markers are filled and plain, no two rules have one marker
at one end, and each side has a rule. Any other table is refused for its earliest fault, or for the
first missing side if there is none. -/
theorem ofRules_outcome (rules : List Rule) :
    (∀ s, ofRules rules = .ok s ↔ s.rules = rules) ∧
    ((∃ s, ofRules rules = .ok s) ↔ Faultless rules ∧ ∀ side, ∃ r ∈ rules, r.side = side) ∧
    ∀ fault, ofRules rules = .error fault ↔ RefusedTable rules fault := by
  refine ⟨fun s => ofRules_eq_ok_iff, ?_, fun fault => ?_⟩
  · rw [← tableFault?_eq_none_iff]
    constructor
    · rintro ⟨s, accepted⟩
      rw [← ofRules_eq_ok_iff.1 accepted]
      exact s.accepted
    · intro accepted
      exact ⟨⟨rules, accepted⟩, ofRules_eq_ok_iff.2 rfl⟩
  · rw [ofRules_eq_error_iff, tableFault?_eq_some_iff]

/-- The same marker may stand at both ends, and what follows a fault does not count. -/
example :
    let leading : Rule := ⟨"_L", .leading, .left⟩
    let trailing : Rule := ⟨"_L", .trailing, .left⟩
    ofRules [leading, trailing] = .error (.missingSide .right) ∧
    ofRules [leading, trailing, trailing, ⟨"", .leading, .right⟩] = .error (.duplicateRule "_L") ∧
    ofRules [leading, ⟨"é", .leading, .right⟩, leading] = .error (.invalidMarker "é") := by
  decide +kernel

end Scheme

end StateIntern
