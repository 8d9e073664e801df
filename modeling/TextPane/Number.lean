/-! Powers and sums of numbers.

A power of a number, and the zero that a sum of numbers starts from, are those of the numbers
themselves, also where a library on algebra is at hand that has them for anything it can multiply or
add. So a definition means the same with that library and without it. A literal exponent is written
with its type, or else such a library would choose the power. -/
namespace TextPane

instance (priority := high) powNat : Pow Nat Nat := instPowNat

instance (priority := high) powInt : Pow Int Nat := instPowNat

instance (priority := high) zeroNat : Zero Nat := Zero.ofOfNat0

end TextPane
