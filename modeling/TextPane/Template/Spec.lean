import TextPane.Template.Error
import TextPane.Text.Blank

/-! Format specs.

A spec asks for padding, signs, a number base or a precision. Its text is
`[[fill]align][+][#][0][width][.precision][type]`, read from the left, each part as long as it can
be. -/
namespace TextPane

inductive Align where
  | left
  | right
  | center
deriving DecidableEq, Repr

def Align.ofChar? : Char → Option Align
  | '<' => some .left
  | '>' => some .right
  | '^' => some .center
  | _ => none

/-- How a value is set out. -/
inductive FormatKind where
  | display
  | lowerHex
  | upperHex
  | octal
  | binary
  | exponent
deriving DecidableEq, Repr

def FormatKind.ofChars? : List Char → Option FormatKind
  | [] => some .display
  | ['x'] => some .lowerHex
  | ['X'] => some .upperHex
  | ['o'] => some .octal
  | ['b'] => some .binary
  | ['e'] => some .exponent
  | _ => none

structure FormatSpec where
  /-- The text of the spec. -/
  raw : String
  fill : Char := ' '
  align : Option Align := none
  plus : Bool := false
  alternate : Bool := false
  zero : Bool := false
  width : Option Nat := none
  precision : Option Nat := none
  kind : FormatKind := .display
deriving DecidableEq, Repr

namespace FormatSpec

/-- The fill and the align that open a spec, and the rest. An align sign in second place makes the
first character a fill, whatever it is. -/
def splitAlign : List Char → Char × Option Align × List Char
  | a :: b :: rest =>
    match Align.ofChar? b with
    | some align => (a, some align, rest)
    | none =>
      match Align.ofChar? a with
      | some align => (' ', some align, b :: rest)
      | none => (' ', none, a :: b :: rest)
  | [a] =>
    match Align.ofChar? a with
    | some align => (' ', some align, [])
    | none => (' ', none, [a])
  | [] => (' ', none, [])

/-- Whether the flag stands first, and the rest. -/
def splitFlag (flag : Char) : List Char → Bool × List Char
  | c :: rest => if c = flag then (true, rest) else (false, c :: rest)
  | [] => (false, [])

/-- The digits that stand first, and the rest. -/
def splitDigits (cs : List Char) : List Char × List Char :=
  (cs.takeWhile Char.isDigit, cs.dropWhile Char.isDigit)

/-- The precision behind a point, and the rest; nothing if the point stands alone or the number is
too large for a word. -/
def splitPrecision : List Char → Option (Option Nat × List Char)
  | '.' :: rest =>
    let (digits, rest) := splitDigits rest
    (Text.wordOfDigits? digits).map fun n => (some n, rest)
  | rest => some (none, rest)

/-- Reads a spec. A width too large for a word is passed over. -/
def parse (raw : String) : Except TemplateError FormatSpec :=
  let (fill, align, cs) := splitAlign raw.toList
  let (plus, cs) := splitFlag '+' cs
  let (alternate, cs) := splitFlag '#' cs
  let (zero, cs) := splitFlag '0' cs
  let (digits, cs) := splitDigits cs
  let width := Text.wordOfDigits? digits
  match splitPrecision cs with
  | none => .error (.invalidSpec raw)
  | some (precision, cs) =>
    match FormatKind.ofChars? cs with
    | none => .error (.invalidSpec raw)
    | some kind => .ok { raw, fill, align, plus, alternate, zero, width, precision, kind }

/-- The fill on both sides of something that is `gap` columns too narrow. -/
def fillAround (spec : FormatSpec) (align : Align) (gap : Nat) : String × String :=
  let fill (n : Nat) := String.ofList (List.replicate n spec.fill)
  match align with
  | .left => ("", fill gap)
  | .right => (fill gap, "")
  | .center => (fill (gap / 2), fill (gap - gap / 2))

/-- The fill on both sides of something of this width, without an align of its own. -/
def padding (spec : FormatSpec) (defaultAlign : Align) (length : Nat) : String × String :=
  spec.fillAround (spec.align.getD defaultAlign) (spec.width.getD 0 - length)

end FormatSpec

end TextPane
