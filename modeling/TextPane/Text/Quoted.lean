import TextPane.Text.Property.Breaking
import TextPane.Text.Property.Graphic

/-! Quoted text, as messages show it.

Between double quotes every character that has a visible form of its own stands for itself; a quote
and a backslash are escaped, and all others are written as their code point. -/
namespace TextPane.Text

/-- Lower-case hexadecimal digits of a number. -/
def hexDigits (n : Nat) : List Char := Nat.toDigits 16 n

/-- Whether a character can stand for itself. -/
def isVisible (c : Char) : Bool :=
  if c.toNat < 0x7F then ' ' ≤ c
  else !(Property.invisible.holds c || Property.graphemeExtend.holds c)

/-- A character within quotes. -/
def quoteChar (c : Char) : List Char :=
  match c with
  | '\x00' => ['\\', '0']
  | '\t' => ['\\', 't']
  | '\r' => ['\\', 'r']
  | '\n' => ['\\', 'n']
  | '"' => ['\\', '"']
  | '\\' => ['\\', '\\']
  | c => if isVisible c then [c] else ['\\', 'u', '\x7b'] ++ hexDigits c.toNat ++ ['\x7d']

/-- The text between quotes. -/
def quoted (s : String) : String :=
  String.ofList ('"' :: s.toList.flatMap quoteChar ++ ['"'])

end TextPane.Text
