import StateIntern.Tag.Canonical
import StateIntern.Text.Slice

/-! Canonical text by byte offsets. A scan notes where a word begins, and when the word has ended
it is cut out of the text, which stays as it is. -/
namespace StateIntern.Scheme

open Text

/-- What is written, and the offset of the word that the next character may still extend. -/
structure OffsetScan where
  written : String
  start : Option Nat
  deriving DecidableEq, Repr

/-- Writes the word that ends at the offset, if there is one. -/
def flushAt? (s : Scheme) (text : String) (scan : OffsetScan) (offset : Nat) : Option String :=
  match scan.start with
  | none => some scan.written
  | some start => (slice? text start offset).map fun word =>
      scan.written ++ String.ofList (s.canonicalWord word.toList)

def advanceAt? (s : Scheme) (text : String) (scan : OffsetScan) (offset : Nat) (c : Char) :
    Option OffsetScan :=
  if isWordChar c then some { scan with start := scan.start.or (some offset) }
  else (s.flushAt? text scan offset).map fun written => ⟨written.push c, none⟩

/-- Reads the rest of the text, which begins at the offset. -/
def scanAt? (s : Scheme) (text : String) (scan : OffsetScan) (offset : Nat) :
    List Char → Option String
  | [] => s.flushAt? text scan offset
  | c :: rest => (s.advanceAt? text scan offset c).bind fun next =>
      s.scanAt? text next (offset + c.utf8Size) rest

/-- The canonical form of a text, unless a word was to be cut out within a character. -/
def normalizeAt? (s : Scheme) (text : String) : Option String :=
  s.scanAt? text ⟨"", none⟩ 0 text.toList

end StateIntern.Scheme
