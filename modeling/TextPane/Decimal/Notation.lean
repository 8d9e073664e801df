import TextPane.Decimal.Digits

/-! Numbers as text.

A decimal is written positionally, with every zero that this takes, or in scientific notation, with
one digit before the point. -/
namespace TextPane.Decimal

/-- The digits of a whole number in a base up to sixteen. -/
def inBase (base n : Nat) : String := String.ofList (Nat.toDigits base n)

namespace Expansion

/-- The decimal without trailing zero digits. -/
def trim (d : Expansion) : Expansion :=
  if h : d.digits ≠ 0 ∧ d.digits % 10 = 0 then trim ⟨d.digits / 10, d.exponent + 1⟩ else d
termination_by d.digits

/-- Positional notation: a point only where digits follow it, and a zero before it if need be. -/
def positional (d : Expansion) : String :=
  if 0 ≤ d.exponent then inBase 10 (d.digits * 10 ^ d.exponent.toNat)
  else
    let places := (-d.exponent).toNat
    let ds := Nat.toDigits 10 d.digits
    let padded := List.replicate (places + 1 - ds.length) '0' ++ ds
    let whole := padded.length - places
    String.ofList (padded.take whole ++ '.' :: padded.drop whole)

/-- Scientific notation: a digit, the others behind a point, and the power of ten. -/
def scientific (d : Expansion) : String :=
  let power := d.exponent + ((Nat.toDigits 10 d.digits).length - 1)
  match Nat.toDigits 10 d.digits with
  | [] => ""
  | [c] => String.ofList [c, 'e'] ++ toString power
  | c :: rest => String.ofList (c :: '.' :: rest ++ ['e']) ++ toString power

end Expansion

/-- How the digits of a number are chosen and set out. -/
inductive Style where
  /-- The fewest digits that read back, in positional notation. -/
  | plain
  /-- So many digits behind the point. -/
  | fixed (places : Nat)
  /-- The fewest digits that read back, in scientific notation. -/
  | scientific
  /-- Scientific notation with so many digits behind the point. -/
  | scientificFixed (places : Nat)

/-- The text of the value without its sign. -/
def magnitude (style : Style) : Binary64 → String
  | .nan _ => "NaN"
  | .infinite _ => "inf"
  | .finite _ m q =>
    match style with
    | .plain => (shortest m q).trim.positional
    | .fixed places => (rounded m q (-places)).positional
    | .scientific => (shortest m q).trim.scientific
    | .scientificFixed places =>
      if m = 0 then
        String.ofList ('0' :: (if places = 0 then [] else '.' :: List.replicate places '0')) ++ "e0"
      else (roundedTo m q places).scientific

/-- The text of the value, a minus sign before all negative ones but those that are no number. -/
def signed (style : Style) (x : Binary64) : String :=
  match x with
  | .nan _ => magnitude style x
  | _ => if x.negative then "-" ++ magnitude style x else magnitude style x

end TextPane.Decimal
