import TextPane.Number

/-! Binary floating-point values.

A double is a sign and a whole number of a power of two, an infinity, or not a number. Finite values
are kept with their mantissa as long as the format allows: 53 bits, or fewer at the least exponent. -/
namespace TextPane.Decimal

inductive Binary64 where
  | nan (negative : Bool)
  | infinite (negative : Bool)
  /-- The value `mantissa · 2 ^ exponent` with a sign. -/
  | finite (negative : Bool) (mantissa : Nat) (exponent : Int)
deriving DecidableEq, Repr

namespace Binary64

/-- The exponent of the smallest positive value. -/
def minExponent : Int := -1074

/-- Reads a sign bit, `exponentBits` of exponent and `fractionBits` of fraction. -/
def ofFields (exponentBits fractionBits n : Nat) : Binary64 :=
  let fraction := n % 2 ^ fractionBits
  let biased := n / 2 ^ fractionBits % 2 ^ exponentBits
  let negative := n / 2 ^ (fractionBits + exponentBits) % 2 = 1
  let bias : Int := 2 ^ (exponentBits - 1) - 1 + fractionBits
  if biased = 2 ^ exponentBits - 1 then
    if fraction = 0 then .infinite negative else .nan negative
  else if biased = 0 then .finite negative fraction (1 - bias)
  else .finite negative (2 ^ fractionBits + fraction) (biased - bias)

/-- The value of 64 bits. -/
def ofBits (n : Nat) : Binary64 := ofFields 11 52 n

/-- Brings a mantissa below `2 ^ 53` to full length, as far as the least exponent allows. -/
def stretch (mantissa : Nat) (exponent : Int) : Nat × Int :=
  let shift := min (52 - mantissa.log2) (exponent - minExponent).toNat
  (mantissa * 2 ^ shift, exponent - shift)

/-- The double that equals the single with these 32 bits. -/
def ofSingleBits (n : Nat) : Binary64 :=
  match ofFields 8 23 n with
  | .finite negative 0 _ => .finite negative 0 minExponent
  | .finite negative mantissa exponent =>
    let (m, q) := stretch mantissa exponent
    .finite negative m q
  | special => special

/-- The double nearest to a whole number below `2 ^ 128`; a tie goes to the even mantissa. -/
def ofNat (negative : Bool) (n : Nat) : Binary64 :=
  if n = 0 then .finite false 0 minExponent
  else if n < 2 ^ (53 : Nat) then
    let (m, q) := stretch n 0
    .finite negative m q
  else
    let shift := n.log2 - 52
    let unit := 2 ^ shift
    let low := n / unit
    let rest := n % unit
    let m := if 2 * rest > unit ∨ (2 * rest = unit ∧ low % 2 = 1) then low + 1 else low
    if m = 2 ^ (53 : Nat) then .finite negative (2 ^ (52 : Nat)) (shift + 1) else .finite negative m shift

/-- The double nearest to a whole number. -/
def ofInt (n : Int) : Binary64 := ofNat (n < 0) n.natAbs

def negative : Binary64 → Bool
  | .nan s | .infinite s | .finite s .. => s

def isZero : Binary64 → Bool
  | .finite _ m _ => m == 0
  | _ => false

/-- The value without its sign. -/
def abs : Binary64 → Binary64
  | .nan _ => .nan false
  | .infinite _ => .infinite false
  | .finite _ m q => .finite false m q

end Binary64

end TextPane.Decimal
