import StateIntern.Tag.Scheme

/-! Canonical text: every tagged word becomes its base name, the placeholder and the digit of its
side. Texts that differ only in the naming of tags have one canonical form. -/
namespace StateIntern

open Text

namespace Scheme

def canonicalWord (s : Scheme) (word : List Char) : List Char :=
  match s.splitWord? word with
  | some (base, side) => base ++ [placeholder, side.digit]
  | none => word

/-- A scan over text. Both parts are written backwards: what is finished, and the word that the
next character may still extend. -/
structure Scan where
  finished : List Char
  word : List Char
  deriving DecidableEq, Repr

def Scan.start : Scan := ⟨[], []⟩

def flush (s : Scheme) (scan : Scan) : List Char :=
  (s.canonicalWord scan.word.reverse).reverse ++ scan.finished

def advance (s : Scheme) (scan : Scan) (c : Char) : Scan :=
  if isWordChar c then { scan with word := c :: scan.word }
  else ⟨c :: s.flush scan, []⟩

def normalizeChars (s : Scheme) (text : List Char) : List Char :=
  (s.flush (text.foldl s.advance Scan.start)).reverse

def normalize (s : Scheme) (text : String) : String :=
  String.ofList (s.normalizeChars text.toList)

/-- The canonical form of one piece of text. -/
def canonicalPiece (s : Scheme) : Piece → List Char
  | .word letters => s.canonicalWord letters
  | .gap c => [c]

end Scheme

end StateIntern
