import StateIntern.Text.Word

/-! Tag rules. Two versions of a program are analysed together, and a marker at one end of a name
says which version's copy of the variable the name stands for. -/
namespace StateIntern

/-- One of the two versions. -/
inductive Side where
  | left
  | right
  deriving DecidableEq, Repr

def Side.digit : Side → Char
  | .left => '0'
  | .right => '1'

def Side.opposite : Side → Side
  | .left => .right
  | .right => .left

def Side.text : Side → String
  | .left => "left"
  | .right => "right"

/-- The end of the name that carries the marker. -/
inductive Affix where
  | leading
  | trailing
  deriving DecidableEq, Repr

structure Rule where
  marker : String
  affix : Affix
  side : Side
  deriving DecidableEq, Repr

def Rule.attach (r : Rule) (base : List Char) : List Char :=
  match r.affix with
  | .leading => r.marker.toList ++ base
  | .trailing => base ++ r.marker.toList

def Rule.marks (r : Rule) (word : List Char) : Bool :=
  match r.affix with
  | .leading => r.marker.toList.isPrefixOf word
  | .trailing => r.marker.toList.isSuffixOf word

/-- What is left of the word when as many characters as the marker has are taken off its end. -/
def Rule.rest (r : Rule) (word : List Char) : List Char :=
  match r.affix with
  | .leading => word.drop r.marker.toList.length
  | .trailing => word.take (word.length - r.marker.toList.length)

/-- The base name under the marker. A marker alone has no base name. -/
def Rule.strip? (r : Rule) (word : List Char) : Option (List Char) :=
  if r.marks word ∧ r.rest word ≠ [] then some (r.rest word) else none

/-- Stripping undoes attaching and nothing else. -/
theorem Rule.strip?_eq_some_iff {r : Rule} {word base : List Char} :
    r.strip? word = some base ↔ base ≠ [] ∧ r.attach base = word := by
  obtain ⟨marker, affix, side⟩ := r
  cases affix with
  | leading =>
    simp only [strip?, marks, rest, attach, List.isPrefixOf_iff_prefix]
    constructor
    · intro h
      split at h
      next h' =>
        obtain ⟨⟨tail, rfl⟩, filled⟩ := h'
        cases h
        simpa using filled
      next => contradiction
    · rintro ⟨filled, rfl⟩
      simp [filled]
  | trailing =>
    simp only [strip?, marks, rest, attach, List.isSuffixOf_iff_suffix]
    constructor
    · intro h
      split at h
      next h' =>
        obtain ⟨⟨front, rfl⟩, filled⟩ := h'
        cases h
        simpa using filled
      next => contradiction
    · rintro ⟨filled, rfl⟩
      simp [filled]

end StateIntern
