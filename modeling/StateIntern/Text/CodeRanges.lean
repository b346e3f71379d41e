/-! Sets of characters given by closed ranges of code points in ascending order. -/
namespace StateIntern.Text

abbrev CodeRanges := List (Nat × Nat)

/-- The search stops at the first range that begins past the code point. -/
def CodeRanges.contains (code : Nat) : CodeRanges → Bool
  | [] => false
  | (first, last) :: rest =>
    if code < first then false else code ≤ last || CodeRanges.contains code rest

end StateIntern.Text
