import TextPane.Decimal.Binary

/-! Decimal digits of binary values.

A positive value `num / den` is looked at on the grids of the powers of ten. `shortest` takes the
coarsest grid that has a point among the reals that round to the value, and there the point nearest
to it. `rounded` takes the point of a given grid that is nearest to the value. -/
namespace TextPane.Decimal

/-- A decimal value: `digits · 10 ^ exponent`. -/
structure Expansion where
  digits : Nat
  exponent : Int
deriving DecidableEq, Repr

/-- A quotient of whole numbers. -/
structure Ratio where
  num : Nat
  den : Nat

namespace Ratio

/-- The ratio times a power of two. -/
def scale2 (r : Ratio) (k : Int) : Ratio :=
  if 0 ≤ k then ⟨r.num * 2 ^ k.toNat, r.den⟩ else ⟨r.num, r.den * 2 ^ (-k).toNat⟩

/-- The ratio divided by a power of ten. -/
def unscale10 (r : Ratio) (k : Int) : Ratio :=
  if 0 ≤ k then ⟨r.num, r.den * 10 ^ k.toNat⟩ else ⟨r.num * 10 ^ (-k).toNat, r.den⟩

/-- How often a ratio below one must be multiplied by ten to reach one. -/
def placesBelow (num den : Nat) : Nat :=
  if num = 0 ∨ den ≤ num then 0 else placesBelow (num * 10) den + 1
termination_by den - num

/-- The decimal exponent of a positive ratio: the greatest power of ten that is not above it. -/
def exponent10 (r : Ratio) : Int :=
  if r.den ≤ r.num then (Nat.toDigits 10 (r.num / r.den)).length - 1
  else -(placesBelow r.num r.den)

/-- The nearest whole number; a half goes to the even neighbour. -/
def round (r : Ratio) : Nat :=
  let low := r.num / r.den
  let rest := r.num % r.den
  if 2 * rest > r.den ∨ (2 * rest = r.den ∧ low % 2 = 1) then low + 1 else low

end Ratio

/-- The reals that round to a positive double, as numerators over one denominator, with the double
itself between them. The ends belong to them when the mantissa is even. -/
structure Interval where
  low : Nat
  value : Nat
  high : Nat
  den : Nat
  closed : Bool

namespace Interval

/-- The interval of `m · 2 ^ q`. Below a power of two the doubles lie twice as close. -/
def ofDouble (m : Nat) (q : Int) : Interval :=
  let below := if m = 2 ^ (52 : Nat) ∧ q ≠ Binary64.minExponent then 1 else 2
  let unit := Ratio.scale2 ⟨1, 1⟩ (q - 2)
  { low := (4 * m - below) * unit.num
    value := 4 * m * unit.num
    high := (4 * m + 2) * unit.num
    den := unit.den
    closed := m % 2 = 0 }

/-- Whether `digits · 10 ^ exponent` lies in the interval. -/
def holds (i : Interval) (digits : Nat) (exponent : Int) : Bool :=
  let p := Ratio.unscale10 ⟨1, 1⟩ (-exponent)
  let x := digits * p.num * i.den
  if i.closed then decide (i.low * p.den ≤ x ∧ x ≤ i.high * p.den)
  else decide (i.low * p.den < x ∧ x < i.high * p.den)

/-- The point of the grid of `10 ^ exponent` in the interval that is nearest to the value, if the
grid has one there. Of two points at one distance the higher is taken. -/
def pointOn (i : Interval) (exponent : Int) : Option Nat :=
  let r := Ratio.unscale10 ⟨i.value, i.den⟩ exponent
  let down := r.num / r.den
  match i.holds down exponent, i.holds (down + 1) exponent with
  | true, true => some (if 2 * (r.num % r.den) < r.den then down else down + 1)
  | true, false => some down
  | false, true => some (down + 1)
  | false, false => none

/-- The first point from the grid of `10 ^ exponent` on, going to finer grids `fuel` times. -/
def firstPoint (i : Interval) (exponent : Int) : Nat → Expansion
  | 0 => ⟨0, 0⟩
  | fuel + 1 =>
    match i.pointOn exponent with
    | some d => ⟨d, exponent⟩
    | none => i.firstPoint (exponent - 1) fuel

end Interval

/-- The fewest digits that read back as the double `m · 2 ^ q`, and of those the nearest. Seventeen
digits always suffice. -/
def shortest (m : Nat) (q : Int) : Expansion :=
  if m = 0 then ⟨0, 0⟩
  else
    let i := Interval.ofDouble m q
    i.firstPoint (Ratio.exponent10 ⟨i.value, i.den⟩) 17

/-- The double `m · 2 ^ q` rounded to a whole number of `10 ^ exponent`. -/
def rounded (m : Nat) (q exponent : Int) : Expansion :=
  ⟨((Ratio.scale2 ⟨m, 1⟩ q).unscale10 exponent).round, exponent⟩

/-- The double `m · 2 ^ q` rounded to `places + 1` digits. -/
def roundedTo (m : Nat) (q : Int) (places : Nat) : Expansion :=
  if m = 0 then ⟨0, -places⟩
  else
    let top := (Ratio.scale2 ⟨m, 1⟩ q).exponent10
    let d := rounded m q (top - places)
    if d.digits = 10 ^ (places + 1) then ⟨10 ^ places, top + 1 - places⟩ else d

end TextPane.Decimal
