/-! Sorted tables of code points.

A table lists its entries in ascending order of code point, and a lookup halves the part of the
table that can still hold the answer. -/
namespace TextPane.Text

/-- The entry that `side` calls equal, among those from `lo` up to `hi`. `side` says where the
wanted entry lies from a given one: `.lt` before it, `.gt` after it. -/
def bisect {α : Type} (table : Array α) (side : α → Ordering) (lo hi : Nat) : Option α :=
  if lo < hi then
    let mid := (lo + hi) / 2
    match table[mid]? with
    | none => none
    | some entry =>
      match side entry with
      | .eq => some entry
      | .lt => bisect table side lo mid
      | .gt => bisect table side (mid + 1) hi
  else none
termination_by hi - lo

/-- Where the code point `n` lies from a range. -/
def sideOfRange (n first last : Nat) : Ordering :=
  if n < first then .lt else if last < n then .gt else .eq

/-- Ranges of code points, both ends included, ascending and without overlap. -/
abbrev RangeTable := Array (Nat × Nat)

/-- Whether the character lies in one of the ranges. -/
def RangeTable.holds (table : RangeTable) (c : Char) : Bool :=
  (bisect table (fun r => sideOfRange c.toNat r.1 r.2) 0 table.size).isSome

/-- The value listed for a code point. -/
def findEntry {α : Type} (table : Array (Nat × α)) (n : Nat) : Option α :=
  (bisect table (fun e => compare n e.1) 0 table.size).map (·.2)

end TextPane.Text
