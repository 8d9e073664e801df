import TextPane.Number

/-! Blanks and numbers in text.

Which characters count as white space, how text is trimmed of them, and how whole numbers below the
limit of a machine word are read. -/
namespace TextPane.Text

/-- The characters with the property White_Space. -/
def isBlank (c : Char) : Bool :=
  let n := c.toNat
  (0x9 ≤ n && n ≤ 0xD) || n == 0x20 || n == 0x85 || n == 0xA0 || n == 0x1680 ||
    (0x2000 ≤ n && n ≤ 0x200A) || n == 0x2028 || n == 0x2029 || n == 0x202F || n == 0x205F ||
    n == 0x3000

/-- The characters without the blanks at their end. -/
def trimEndChars (cs : List Char) : List Char := (cs.reverse.dropWhile isBlank).reverse

/-- The characters without the blanks at both ends. -/
def trimChars (cs : List Char) : List Char := trimEndChars (cs.dropWhile isBlank)

def trim (s : String) : String := String.ofList (trimChars s.toList)

/-- Whole numbers are kept in words of 64 bits. -/
def wordLimit : Nat := 2 ^ (64 : Nat)

/-- A number as a word keeps it. What goes beyond the limit starts over from zero. -/
def toWord (n : Nat) : Nat := n % wordLimit

/-- The number that ASCII digits denote. -/
def digitsValue (cs : List Char) : Nat :=
  cs.foldl (fun n c => n * 10 + (c.toNat - '0'.toNat)) 0

/-- The number that a run of ASCII digits denotes, if there are any and it fits in a word. -/
def wordOfDigits? (cs : List Char) : Option Nat :=
  if cs.isEmpty ∨ !cs.all Char.isDigit then none
  else if digitsValue cs < wordLimit then some (digitsValue cs) else none

/-- A number as it is read from text: digits, perhaps behind a plus sign. -/
def wordOfChars? : List Char → Option Nat
  | '+' :: ds => wordOfDigits? ds
  | ds => wordOfDigits? ds

end TextPane.Text
