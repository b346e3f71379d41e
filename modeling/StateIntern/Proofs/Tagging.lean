import StateIntern.Proofs.Acceptance
import StateIntern.Proofs.Canonical

/-! Tagging and splitting. A name is tagged by the first rule for a side and split by the first rule
of all that leaves a base, so one undoes the other only where no rule before the first one for the
side can match. -/
namespace StateIntern

open Text

/-- The text stands at that end of the word. -/
def Affix.Ends : Affix → List Char → List Char → Prop
  | .leading, text, word => text <+: word
  | .trailing, text, word => text <:+ word

instance : ∀ (affix : Affix) (text word : List Char), Decidable (affix.Ends text word)
  | .leading, text, word => inferInstanceAs (Decidable (text <+: word))
  | .trailing, text, word => inferInstanceAs (Decidable (text <:+ word))

namespace Rule

variable {q r : Rule}

/-- Both rules mark names at one end, and neither marker stands at that end of the other. -/
def Apart (q r : Rule) : Prop :=
  q.affix = r.affix ∧ ¬r.affix.Ends q.marker.toList r.marker.toList ∧
    ¬r.affix.Ends r.marker.toList q.marker.toList

instance (q r : Rule) : Decidable (q.Apart r) := inferInstanceAs (Decidable (_ ∧ _))

theorem ends_iff {word : List Char} :
    r.affix.Ends r.marker.toList word ↔ ∃ rest, r.attach rest = word := by
  unfold attach
  cases r.affix <;> rfl

/-- Of two markers at one end of a name, the longer one ends in the other. -/
theorem ends_or_ends {base other : List Char} (affix : q.affix = r.affix)
    (same : q.attach other = r.attach base) :
    r.affix.Ends q.marker.toList r.marker.toList ∨
      r.affix.Ends r.marker.toList q.marker.toList := by
  have inQ : r.affix.Ends q.marker.toList (r.attach base) := affix ▸ ends_iff.2 ⟨other, same⟩
  have inR : r.affix.Ends r.marker.toList (r.attach base) := ends_iff.2 ⟨base, rfl⟩
  generalize r.attach base = word at inQ inR
  generalize r.affix = place at inQ inR ⊢
  cases place with
  | leading => exact List.prefix_or_prefix_of_prefix inQ inR
  | trailing => exact List.suffix_or_suffix_of_suffix inQ inR

/-- A name with the longer marker has the shorter one, too, on a longer base. -/
theorem exists_attach_of_ends {base : List Char} (affix : q.affix = r.affix)
    (ends : r.affix.Ends r.marker.toList q.marker.toList) (filled : base ≠ []) :
    ∃ longer, longer ≠ [] ∧ (∀ c ∈ longer, c ∈ base ∨ c ∈ q.marker.toList) ∧
      r.attach longer = q.attach base := by
  obtain ⟨rest, marker⟩ := ends_iff.1 ends
  unfold attach at marker ⊢
  rw [affix, ← marker]
  cases r.affix with
  | leading =>
    refine ⟨rest ++ base, by simp [filled], fun c member => ?_, by simp⟩
    simp only [List.mem_append] at member ⊢
    tauto
  | trailing =>
    refine ⟨base ++ rest, by simp [filled], fun c member => ?_, by simp⟩
    simp only [List.mem_append] at member ⊢
    tauto

/-- Markers at both ends of a name: each may be taken for the base of the other. -/
theorem attach_marker (ends : q.affix ≠ r.affix) :
    q.attach r.marker.toList = r.attach q.marker.toList := by
  unfold attach
  cases hq : q.affix <;> cases hr : r.affix <;> simp [hq, hr] at ends ⊢

theorem Apart.attach_ne (apart : q.Apart r) (base other : List Char) :
    q.attach other ≠ r.attach base := by
  intro same
  rcases ends_or_ends apart.1 same with ends | ends
  · exact apart.2.1 ends
  · exact apart.2.2 ends

theorem exists_attach_eq_of_not_apart (near : ¬q.Apart r) (filledQ : q.marker.toList ≠ [])
    (filledR : r.marker.toList ≠ []) (free : placeholder ∉ q.marker.toList) :
    ∃ base other, base ≠ [] ∧ placeholder ∉ base ∧ other ≠ [] ∧ q.attach other = r.attach base := by
  by_cases affix : q.affix = r.affix
  · have letter : (['a'] : List Char) ≠ [] := by simp
    by_cases short : r.affix.Ends q.marker.toList r.marker.toList
    · obtain ⟨other, filled, -, same⟩ :=
        exists_attach_of_ends (q := r) (r := q) affix.symm (affix ▸ short) letter
      exact ⟨['a'], other, letter, by decide, filled, same⟩
    · have long : r.affix.Ends r.marker.toList q.marker.toList := by
        by_contra apart
        exact near ⟨affix, short, apart⟩
      obtain ⟨base, filled, chars, same⟩ := exists_attach_of_ends affix long letter
      refine ⟨base, ['a'], filled, fun inside => ?_, letter, same.symm⟩
      rcases chars _ inside with here | here
      · exact absurd here (by decide)
      · exact free here
  · exact ⟨q.marker.toList, r.marker.toList, filledQ, free, filledR, attach_marker affix⟩

end Rule

namespace Scheme

variable {s : Scheme}

/-- Rules that come before the first one for the side do not interfere with it. -/
def Separates (s : Scheme) (side : Side) : Prop :=
  ∀ r ∈ s.rules.find? (·.side == side), ∀ q ∈ s.rules.takeWhile (·.side != side), q.Apart r

instance (s : Scheme) (side : Side) : Decidable (s.Separates side) :=
  inferInstanceAs (Decidable (∀ r ∈ s.rules.find? (·.side == side),
    ∀ q ∈ s.rules.takeWhile (·.side != side), q.Apart r))

theorem marker_of_mem {r : Rule} (member : r ∈ s.rules) :
    r.marker.toList ≠ [] ∧ placeholder ∉ r.marker.toList := by
  have faultless := (tableFault?_eq_none_iff.1 s.accepted).1
  refine ⟨by simpa using faultless.filled r member, fun inside => ?_⟩
  have marker := isMarkerChar_iff.2 (faultless.plain r member _ inside)
  exact absurd marker (by decide)

theorem exists_first_rule (s : Scheme) (side : Side) : ∃ before r after,
    s.rules = before ++ r :: after ∧ r.side = side ∧ ∀ q ∈ before, q.side ≠ side := by
  have present := (tableFault?_eq_none_iff.1 s.accepted).2 side
  have some : (s.rules.find? (·.side == side)).isSome = true :=
    List.find?_isSome.2 (by simpa using present)
  obtain ⟨first, found⟩ := Option.isSome_iff_exists.1 some
  obtain ⟨ofSide, before, after, rules, others⟩ := List.find?_eq_some_iff_append.1 found
  exact ⟨before, first, after, rules, by simpa using ofSide, by simpa using others⟩

section FirstRule

variable {before after : List Rule} {r : Rule}

theorem find?_first_rule (rules : s.rules = before ++ r :: after)
    (others : ∀ q ∈ before, q.side ≠ r.side) : s.rules.find? (·.side == r.side) = some r :=
  List.find?_eq_some_iff_append.2 ⟨by simp, before, after, rules, by simpa using others⟩

theorem separates_iff (rules : s.rules = before ++ r :: after)
    (others : ∀ q ∈ before, q.side ≠ r.side) :
    s.Separates r.side ↔ ∀ q ∈ before, q.Apart r := by
  have earlier : s.rules.takeWhile (·.side != r.side) = before := by
    rw [rules, List.takeWhile_append_of_pos (by simpa using others)]
    simp
  simp [Separates, find?_first_rule rules others, earlier]

theorem splitWord?_attach_iff {base : List Char} (rules : s.rules = before ++ r :: after)
    (others : ∀ q ∈ before, q.side ≠ r.side) (filled : base ≠ []) (free : placeholder ∉ base) :
    s.splitWord? (r.attach base) = some (base, r.side) ↔
      ∀ q ∈ before, ∀ other, other ≠ [] → q.attach other ≠ r.attach base := by
  have unmarked : placeholder ∉ r.attach base := by
    have marker := (marker_of_mem (s := s) (r := r) (by simp [rules])).2
    unfold Rule.attach
    cases r.affix <;> simp [free, marker]
  have own : r.strip? (r.attach base) = some base := Rule.strip?_eq_some_iff.2 ⟨filled, rfl⟩
  have tries : s.splitWord? (r.attach base) = (before.findSome? fun q =>
      (q.strip? (r.attach base)).map (·, q.side)).or (some (base, r.side)) := by
    simp [splitWord?, unmarked, rules, List.findSome?_append, own]
  rw [tries]
  cases tried : before.findSome? fun q => (q.strip? (r.attach base)).map (·, q.side) with
  | none =>
    refine ⟨fun _ q member other filled same => ?_, fun _ => rfl⟩
    have stripped : q.strip? (r.attach base) = some other :=
      Rule.strip?_eq_some_iff.2 ⟨filled, same⟩
    have missed := List.findSome?_eq_none_iff.1 tried q member
    simp [stripped] at missed
  | some tag =>
    obtain ⟨p, inside, matched⟩ := List.exists_of_findSome?_eq_some tried
    obtain ⟨rest, stripped, rfl⟩ := Option.map_eq_some_iff.1 matched
    obtain ⟨filled, same⟩ := Rule.strip?_eq_some_iff.1 stripped
    constructor
    · intro found
      have side : p.side = r.side := congrArg Prod.snd (Option.some.inj found)
      exact absurd side (others p inside)
    · intro unmatched
      exact absurd same (unmatched p inside rest filled)

theorem tagged?_bind_split?_iff {base : String} (rules : s.rules = before ++ r :: after)
    (others : ∀ q ∈ before, q.side ≠ r.side) (filled : base ≠ "")
    (free : placeholder ∉ base.toList) :
    (s.tagged? base r.side).bind s.split? = some (base, r.side) ↔
      ∀ q ∈ before, ∀ other, other ≠ [] → q.attach other ≠ r.attach base.toList := by
  rw [← splitWord?_attach_iff rules others (by simpa using filled) free]
  simp only [tagged?, find?_first_rule rules others, Option.map_some, Option.bind_some,
    split?_ofList, Option.map_eq_some_iff]
  constructor
  · rintro ⟨⟨rest, side⟩, split, same⟩
    cases same
    simpa using split
  · intro split
    exact ⟨_, split, by simp⟩

end FirstRule

theorem separates_builtin :
    ∀ builtin ∈ [leftRight, versions, standard], ∀ side, builtin.Separates side := by
  simp only [List.forall_mem_cons, List.not_mem_nil, false_imp_iff, implies_true, and_true]
  refine ⟨fun side => ?_, fun side => ?_, fun side => ?_⟩ <;> cases side <;> decide

/-- Every base name can be tagged for a side. Splitting gives all base names back exactly if the
rules before the first one for the side mark the same end as that rule, and none of their markers
stands at this end of its marker or the other way round. -/
theorem split?_tagged?_iff (s : Scheme) (side : Side) :
    (∀ base, (s.tagged? base side).isSome = true) ∧
    ((∀ base, base ≠ "" → placeholder ∉ base.toList →
        (s.tagged? base side).bind s.split? = some (base, side)) ↔ s.Separates side) ∧
    ∀ builtin ∈ [leftRight, versions, standard], ∀ side, builtin.Separates side := by
  obtain ⟨before, r, after, rules, rfl, others⟩ := s.exists_first_rule side
  refine ⟨fun base => by simp [tagged?, find?_first_rule rules others], ?_, separates_builtin⟩
  rw [separates_iff rules others]
  constructor
  · intro undone q member
    by_contra near
    have markerQ := marker_of_mem (s := s) (r := q) (by simp [rules, member])
    have markerR := marker_of_mem (s := s) (r := r) (by simp [rules])
    obtain ⟨base, other, filledB, free, filledO, same⟩ :=
      Rule.exists_attach_eq_of_not_apart near markerQ.1 markerR.1 markerQ.2
    have filledB : String.ofList base ≠ "" := by simpa using filledB
    have free : placeholder ∉ (String.ofList base).toList := by simpa using free
    have unmatched := (tagged?_bind_split?_iff rules others filledB free).1 (undone _ filledB free)
    apply unmatched q member other filledO
    simpa using same
  · intro apart base filled free
    apply (tagged?_bind_split?_iff rules others filled free).2
    intro q member other _
    exact (apart q member).attach_ne _ other

/-- The marker of the first rule is taken for a base name by the second. -/
example :
    let s : Scheme := ⟨[⟨"pre_", .leading, .left⟩, ⟨"_R", .trailing, .right⟩], by decide +kernel⟩
    (s.tagged? "pre_" .right).bind s.split? = some ("_R", .left) ∧ ¬s.Separates .right := by
  decide +kernel

end Scheme

end StateIntern
