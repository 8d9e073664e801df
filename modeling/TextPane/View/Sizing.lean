import TextPane.Geometry
import TextPane.Number
import TextPane.View.Track

/-! Sizing the tracks of one axis.

The room is dealt out in three tiers: fixed tracks get their length, then tracks sized to their
content get what it needs, and star tracks share what is left, in proportion to their weights,
rounded down, the last one taking the rest. No track gets more than the tiers before it left.

A gap behind every track but the last counts as part of that track. When tracks are sized for
measuring, a star takes no more of its share than its content needs. -/
namespace TextPane

/-- What tracks are sized for. -/
inductive Pass where
  | measure
  | render
deriving DecidableEq, Repr

/-- A track on its axis: its number, the gap behind it that it pays for, and the size it got. -/
structure Lane where
  index : Nat
  track : Track
  pad : Nat
  size : Nat := 0
deriving DecidableEq, Repr

namespace Lane

/-- The lanes of tracks, counted from `index`. The last one has no gap behind it. -/
def ofTracks (gutter index : Nat) : List Track → List Lane
  | [] => []
  | [t] => [{ index, track := t, pad := 0 }]
  | t :: rest => { index, track := t, pad := gutter } :: ofTracks gutter (index + 1) rest

def isStar (l : Lane) : Bool := l.track.mode == .star

/-- The weight that counts among the stars. -/
def weight (l : Lane) : Nat := if l.isStar then l.track.value else 0

/-- The weight of all stars. -/
def totalWeight (lanes : List Lane) : Nat := (lanes.map weight).sum

/-- Deals out room to the fixed tracks; the second part is what is left. -/
def sizeFixed (room : Nat) : List Lane → List Lane × Nat
  | [] => ([], room)
  | l :: rest =>
    if l.track.mode = .fixed then
      let size := min (addCells l.track.value l.pad) room
      let (sized, left) := sizeFixed (room - size) rest
      ({ l with size } :: sized, left)
    else
      let (sized, left) := sizeFixed room rest
      (l :: sized, left)

variable {m : Type → Type} [Monad m]

/-- Deals out room to the tracks sized to their content. `need index available` is what the content
of a track needs when it is given that much. -/
def sizeContent (need : Nat → Nat → m Nat) (room : Nat) : List Lane → m (List Lane × Nat)
  | [] => pure ([], room)
  | l :: rest => do
    if l.track.mode = .content then
      let wanted ← need l.index (room - l.pad)
      let size := min (addCells wanted l.pad) room
      let (sized, left) ← sizeContent need (room - size) rest
      return ({ l with size } :: sized, left)
    else
      let (sized, left) ← sizeContent need room rest
      return (l :: sized, left)

/-- The share of a star: its part of the pool by weight, or all that is left if it is the last. -/
def share (pool total handed : Nat) (l : Lane) (rest : List Lane) : Nat :=
  if rest.any isStar then pool * l.track.value / total else pool - handed

/-- Deals out the pool to the stars. `handed` is what earlier stars had for a share. -/
def sizeStars (need : Nat → Nat → m Nat) (pass : Pass) (pool total handed : Nat) :
    List Lane → m (List Lane)
  | [] => pure []
  | l :: rest => do
    if l.isStar then
      let part := share pool total handed l rest
      let size ← match pass with
        | .render => pure part
        | .measure => do
          let wanted ← need l.index (part - l.pad)
          pure (min part (addCells wanted l.pad))
      return { l with size } :: (← sizeStars need pass pool total (handed + part) rest)
    else
      return l :: (← sizeStars need pass pool total handed rest)

end Lane

namespace Track

variable {m : Type → Type} [Monad m]

/-- The sizes of tracks in the available room. Stars without weight get nothing. -/
def solve (need : Nat → Nat → m Nat) (tracks : List Track) (available gutter : Nat) (pass : Pass) :
    m (List Nat) := do
  let (lanes, room) := Lane.sizeFixed available (Lane.ofTracks gutter 0 tracks)
  let (lanes, pool) ← Lane.sizeContent need room lanes
  let total := Lane.totalWeight lanes
  let lanes ← if 0 < total then Lane.sizeStars need pass pool total 0 lanes else pure lanes
  return lanes.map (·.size)

end Track

end TextPane
