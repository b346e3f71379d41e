import StateIntern.Text.Printable

/-! Text between double quotes, with what would not show escaped. -/
namespace StateIntern.Text

/-- A character by its code point, in lower-case hexadecimal without leading zeros. -/
def escapeCode (c : Char) : List Char :=
  ['\\', 'u', '\x7b'] ++ Nat.toDigits 16 c.toNat ++ ['\x7d']

def quoteChar (c : Char) : List Char :=
  match c with
  | '\x00' => ['\\', '0']
  | '\t' => ['\\', 't']
  | '\r' => ['\\', 'r']
  | '\n' => ['\\', 'n']
  | '\\' => ['\\', '\\']
  | '"' => ['\\', '"']
  | c => if isPrintable c then [c] else escapeCode c

def quoted (text : String) : String :=
  String.ofList ('"' :: (text.toList.flatMap quoteChar ++ ['"']))

end StateIntern.Text
