import TextPane.View.Box

/-! Stacks: boxes one behind the other along an axis.

Along the axis each box gets what it measures against the room still left; across it, all get the
full extent. Once no room is left the remaining boxes are passed over. -/
namespace TextPane

inductive Orientation where
  | vertical
  | horizontal
deriving DecidableEq, Repr

namespace Orientation

/-- The extent of a size along the axis. -/
def main (o : Orientation) (s : Size) : Nat :=
  match o with
  | .vertical => s.height
  | .horizontal => s.width

/-- The extent of a size across the axis. -/
def cross (o : Orientation) (s : Size) : Nat :=
  match o with
  | .vertical => s.width
  | .horizontal => s.height

/-- The size with these extents. -/
def size (o : Orientation) (main cross : Nat) : Size :=
  match o with
  | .vertical => ⟨cross, main⟩
  | .horizontal => ⟨main, cross⟩

/-- The part of a region that begins at an offset along the axis. -/
def part (o : Orientation) (region : Region) (offset extent : Nat) : Region :=
  match o with
  | .vertical => { region with top := addCells region.top offset, height := extent }
  | .horizontal => { region with left := addCells region.left offset, width := extent }

end Orientation

namespace Stack

variable {m : Type → Type} [Monad m]

/-- Measures boxes in turn; gives the room left of `room` and the largest extent across. -/
def measureAll (o : Orientation) (maxCross room cross : Nat) : List (Box m) → m (Nat × Nat)
  | [] => pure (room, cross)
  | b :: rest => do
    if room = 0 then return (room, cross)
    let size ← b.measure (o.size room maxCross)
    measureAll o maxCross (room - min (o.main size) room) (max cross (o.cross size)) rest

/-- The size of a stack within limits. -/
def measure (o : Orientation) (boxes : List (Box m)) (limit : Size) : m Size := do
  let (room, cross) ← measureAll o (o.cross limit) (o.main limit) 0 boxes
  return o.size (o.main limit - room) (min cross (o.cross limit))

/-- Renders boxes in turn, the first at an offset in the region. -/
def renderFrom (o : Orientation) (region : Region) (offset : Nat) : List (Box m) → m Unit
  | [] => pure ()
  | b :: rest => do
    let room := o.main region.size - offset
    if room = 0 then return
    let size ← b.measure (o.size room (o.cross region.size))
    let extent := min (o.main size) room
    b.render (o.part region offset extent)
    renderFrom o region (offset + extent) rest

/-- A stack as a box of its own. -/
def box (o : Orientation) (boxes : List (Box m)) : Box m where
  measure := measure o boxes
  render region := renderFrom o region 0 boxes

end Stack

end TextPane
