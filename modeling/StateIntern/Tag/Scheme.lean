import StateIntern.Tag.Rule

/-! Tag schemes: rule tables that have been checked. Rules are tried in the order of the table, so
where markers overlap the earlier rule wins. -/
namespace StateIntern

open Text

inductive SchemeError where
  | emptyMarker
  | invalidMarker (marker : String)
  | duplicateRule (marker : String)
  | missingSide (side : Side)
  deriving DecidableEq, Repr

def SchemeError.message : SchemeError → String
  | .emptyMarker => "tag marker must be non-empty"
  | .invalidMarker m => "tag marker `" ++ m ++ "` may only contain ASCII letters, digits and `_`"
  | .duplicateRule m => "tag marker `" ++ m ++ "` is listed twice at the same position"
  | .missingSide side => "tag scheme has no rule for the " ++ side.text ++ " side"

/-- Markers are plain ASCII, so no marker holds the placeholder. -/
def isMarkerChar (c : Char) : Bool := c.isAlphanum || c == '_'

def Rule.samePlace (r s : Rule) : Bool := r.marker == s.marker && r.affix == s.affix

/-- What is wrong with a rule that follows the `earlier` ones. -/
def Rule.fault? (earlier : List Rule) (r : Rule) : Option SchemeError :=
  if r.marker = "" then some .emptyMarker
  else if !r.marker.toList.all isMarkerChar then some (.invalidMarker r.marker)
  else if earlier.any r.samePlace then some (.duplicateRule r.marker)
  else none

def firstFault? (earlier : List Rule) : List Rule → Option SchemeError
  | [] => none
  | r :: rest => (r.fault? earlier).or (firstFault? (r :: earlier) rest)

def missingSide? (rules : List Rule) : Option SchemeError :=
  ([Side.left, .right].find? fun side => !rules.any (·.side == side)).map .missingSide

/-- A faulty rule is reported before a missing side. -/
def tableFault? (rules : List Rule) : Option SchemeError :=
  (firstFault? [] rules).or (missingSide? rules)

structure Scheme where
  rules : List Rule
  accepted : tableFault? rules = none := by decide
  deriving DecidableEq

namespace Scheme

def ofRules (rules : List Rule) : Except SchemeError Scheme :=
  match accepted : tableFault? rules with
  | none => .ok ⟨rules, accepted⟩
  | some fault => .error fault

/-- The copies `x_L` and `x_R`. -/
def leftRight : Scheme where
  rules := [⟨"_L", .trailing, .left⟩, ⟨"_R", .trailing, .right⟩]

/-- The copies `x_A` and `x_B`. -/
def versions : Scheme where
  rules := [⟨"_A", .trailing, .left⟩, ⟨"_B", .trailing, .right⟩]

/-- Both conventions side by side. -/
def standard : Scheme where
  rules := leftRight.rules ++ versions.rules

instance : Inhabited Scheme := ⟨standard⟩

/-- Base name and side of a tagged word. A word with the placeholder is in canonical form and
carries no tag. -/
def splitWord? (s : Scheme) (word : List Char) : Option (List Char × Side) :=
  if placeholder ∈ word then none
  else s.rules.findSome? fun r => (r.strip? word).map (·, r.side)

def split? (s : Scheme) (name : String) : Option (String × Side) :=
  (s.splitWord? name.toList).map fun (base, side) => (String.ofList base, side)

/-- The name of one side's copy of `base`, by the first rule for that side. -/
def tagged? (s : Scheme) (base : String) (side : Side) : Option String :=
  (s.rules.find? (·.side == side)).map fun r => String.ofList (r.attach base.toList)

end Scheme

end StateIntern
