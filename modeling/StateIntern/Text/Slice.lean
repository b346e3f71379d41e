/-! Parts of a text, given by byte offsets. -/
namespace StateIntern.Text

/-- The text between two byte offsets. Both have to lie between characters, and in this order. -/
def slice? (text : String) (first last : Nat) : Option String :=
  if first ≤ last ∧ String.Pos.Raw.isValid text ⟨first⟩ ∧ String.Pos.Raw.isValid text ⟨last⟩ then
    some (String.Pos.Raw.extract text ⟨first⟩ ⟨last⟩)
  else none

example : slice? "ñ_L" 0 3 = some "ñ_" ∧ slice? "ñ_L" 1 3 = none := by decide +kernel

end StateIntern.Text
