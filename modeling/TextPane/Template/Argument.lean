import TextPane.Decimal.Notation
import TextPane.Span.Basic
import TextPane.Template.Spec

/-! Template arguments as text.

Numbers are set out in the base or notation that the spec names, with their sign once and zeros
between it and the digits; other values are cut to the precision. Padding counts columns. -/
namespace TextPane

/-- A value for a template. -/
inductive Argument where
  | span (s : Span)
  | text (s : String)
  | int (n : Int)
  | float (x : Decimal.Binary64)
  | bool (b : Bool)
  | char (c : Char)
  /-- A value of a type of the host, known by its text. -/
  | host (type : String) (display : String)

namespace Argument

/-- The text of an argument without a spec. -/
def display : Argument → String
  | .span s => s.plain
  | .text s => s
  | .int n => toString n
  | .float x => Decimal.signed .plain x
  | .bool b => if b then "true" else "false"
  | .char c => String.singleton c
  | .host _ display => display

end Argument

namespace FormatSpec

/-- Sign, base mark and digits, with zeros before the digits up to the width where the spec asks
for them. -/
def zeroFill (spec : FormatSpec) (sign mark digits : String) : String :=
  let head := sign ++ mark
  let missing := if spec.zero then spec.width.getD 0 - (head.utf8ByteSize + digits.utf8ByteSize) else 0
  head ++ String.ofList (List.replicate missing '0') ++ digits

def signText (spec : FormatSpec) (negative : Bool) : String :=
  if negative then "-" else if spec.plus then "+" else ""

/-- The digits of a whole number and the mark of their base. -/
def intDigits (kind : FormatKind) (n : Int) : String × String :=
  match kind with
  | .display => (Decimal.inBase 10 n.natAbs, "")
  | .lowerHex => (Decimal.inBase 16 n.natAbs, "0x")
  | .upperHex => (String.ofList ((Nat.toDigits 16 n.natAbs).map Char.toUpper), "0x")
  | .octal => (Decimal.inBase 8 n.natAbs, "0o")
  | .binary => (Decimal.inBase 2 n.natAbs, "0b")
  | .exponent => (Decimal.signed .scientific (.ofInt n), "")

def intText (spec : FormatSpec) (n : Int) : String :=
  let (digits, mark) := intDigits spec.kind n
  spec.zeroFill (spec.signText (n < 0)) (if spec.alternate then mark else "") digits

/-- The notation that a spec asks of a floating-point number, if there is one. -/
def floatStyle? (spec : FormatSpec) : Option Decimal.Style :=
  match spec.kind, spec.precision with
  | .display, none => some .plain
  | .display, some p => some (.fixed p)
  | .exponent, none => some .scientific
  | .exponent, some p => some (.scientificFixed p)
  | _, _ => none

def floatText? (spec : FormatSpec) (x : Decimal.Binary64) : Option String :=
  spec.floatStyle?.map fun style =>
    spec.zeroFill (spec.signText (x.negative && !x.isZero)) "" (Decimal.magnitude style x)

/-- The body between its padding. -/
def pad (spec : FormatSpec) (defaultAlign : Align) (body : String) : String :=
  let (before, after) := spec.padding defaultAlign (Text.displayWidth body)
  before ++ body ++ after

/-- The text of argument number `index` under a spec. -/
def apply (spec : FormatSpec) (index : Nat) (arg : Argument) : Except TemplateError String :=
  let unsupported := .error (.unsupportedSpec index spec.raw)
  match arg with
  | .int n => .ok (spec.pad .right (spec.intText n))
  | .float x =>
    match spec.floatText? x with
    | some body => .ok (spec.pad .right body)
    | none => unsupported
  | arg =>
    if spec.kind ≠ .display then unsupported
    else
      let body := match spec.precision with
        | some p => String.ofList (arg.display.toList.take p)
        | none => arg.display
      .ok (spec.pad .left body)

end FormatSpec

end TextPane
