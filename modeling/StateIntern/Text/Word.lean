import StateIntern.Text.Alphanumeric

/-! Text as words with single characters between them. Variables are words; `#` belongs to words
so that a side mark stays attached to its variable. -/
namespace StateIntern.Text

/-- Introduces the side digit of a variable in canonical text. -/
def placeholder : Char := '#'

def isWordChar (c : Char) : Bool := isAlphanumeric c || c == '_' || c == placeholder

inductive Piece where
  | word (letters : List Char)
  | gap (char : Char)
  deriving DecidableEq, Repr

def Piece.chars : Piece → List Char
  | .word letters => letters
  | .gap c => [c]

/-- The maximal runs of word characters, and the other characters one by one, in order. -/
def pieces : List Char → List Piece
  | [] => []
  | c :: rest =>
    if isWordChar c then
      match pieces rest with
      | .word letters :: more => .word (c :: letters) :: more
      | more => .word [c] :: more
    else .gap c :: pieces rest

/-- Nothing is lost: the pieces of a text make up the text. -/
theorem flatMap_chars_pieces (text : List Char) : (pieces text).flatMap Piece.chars = text := by
  induction text with
  | nil => rfl
  | cons c rest ih =>
    simp only [pieces]
    split
    · split
      next letters more h => simpa [h, Piece.chars] using ih
      next => simpa [Piece.chars] using ih
    · simpa [Piece.chars] using ih

/-- What stands between the other characters: adjacent ones have the empty run between them. -/
def runs : List Char → List (List Char)
  | [] => [[]]
  | c :: rest =>
    if isWordChar c then
      match runs rest with
      | run :: more => (c :: run) :: more
      | [] => [[c]]
    else [] :: runs rest

/-- The first word that holds the placeholder. -/
def reservedWord? (text : String) : Option String :=
  ((runs text.toList).find? (·.contains placeholder)).map String.ofList

end StateIntern.Text
