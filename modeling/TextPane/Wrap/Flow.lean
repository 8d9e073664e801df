import TextPane.Geometry
import TextPane.Text.Width
import TextPane.Wrap.Line
import TextPane.Wrap.Unit

/-! Wrapping text into lines.

Text and controls flow in, lines flow out. A unit is placed where it fits: on the current line, or
on the next one, or, when it is wider than the bounds, cut to the rest of the line. Blanks open no
line. A piece of text that opens with a word goes on with the word that ended the piece before, and
is dropped if that word was cut.

Lines are offered to a receiver, which may refuse one; then the piece of text that was flowing in is
abandoned, the refused line is lost and its number is offered again later. No more lines are offered
than the bounds are high. -/
namespace TextPane

/-- A line offered to the receiver under its number. -/
structure Offer where
  index : Nat
  line : Line
  taken : Bool
deriving DecidableEq, Repr

structure Flow where
  bounds : Size
  /-- The line being filled. -/
  line : Line := {}
  /-- How many lines were taken, and the width of the widest. -/
  count : Nat := 0
  widest : Nat := 0
  /-- Whether the last piece of text ended in a word. -/
  endedInWord : Bool := false
  /-- Whether the last unit was cut. -/
  cut : Bool := false
  /-- Whether anything but empty text has flowed in. -/
  touched : Bool := false
  /-- Whether there is no room for another line. -/
  full : Bool
  /-- All offers, the latest first. -/
  offers : List Offer := []
deriving DecidableEq, Repr

namespace Flow

def start (bounds : Size) : Flow := { bounds, full := bounds.isEmpty }

/-- Columns left on the line being filled. -/
def room (f : Flow) : Nat := f.bounds.width - f.line.width

/-- The lines taken so far and the widest of them. -/
def size (f : Flow) : Size := ⟨f.widest, f.count⟩

/-- The lines taken so far, in order. -/
def lines (f : Flow) : List Line := (f.offers.filter (·.taken)).reverse.map (·.line)

/-- Offers the line being filled and opens a new one. The answer is whether the line was taken, or
did not have to be. -/
def breakLine (refuses : Nat → Bool) (f : Flow) : Flow × Bool :=
  if f.full then (f, true)
  else
    let taken := !refuses f.offers.length
    let f' := { f with line := {}, offers := ⟨f.count, f.line, taken⟩ :: f.offers }
    if taken then
      ({ f' with
          count := f.count + 1
          widest := max f.widest f.line.width
          full := decide (f.bounds.height ≤ f.count + 1) }, true)
    else (f', false)

/-- Puts a unit that fits on the line. -/
def append (f : Flow) (text : List Char) (width : Nat) : Flow :=
  { f with line := f.line.pushText (String.ofList text) width, cut := false }

/-- Puts as much of a unit on the line as fits. -/
def appendCut (f : Flow) (text : List Char) : Flow :=
  let (taken, width) := Text.fitClusters f.room (Text.clusters text)
  { f with line := f.line.pushText (String.ofList taken) width, cut := true }

/-- Places a word or a run of blanks. -/
def place (refuses : Nat → Bool) (f : Flow) (isSpace : Bool) (text : List Char) : Flow × Bool :=
  let width := Text.charsWidth text
  if isSpace ∧ f.line.width = 0 then (f, true)
  else if width ≤ f.room then (f.append text width, true)
  else if width ≤ f.bounds.width ∨ f.room = 0 then
    match f.breakLine refuses with
    | (f, false) => (f, false)
    | (f, true) =>
      if f.full ∨ isSpace then (f, true)
      else if width ≤ f.bounds.width then (f.append text width, true)
      else (f.appendCut text, true)
  else (f.appendCut text, true)

/-- Takes a unit in. `isFirst` says whether it opens its piece of text. -/
def pushUnit (refuses : Nat → Bool) (isFirst : Bool) (f : Flow) (u : WrapUnit) : Flow × Bool :=
  let (f', taken) :=
    match u.kind with
    | .newline =>
      let (f, taken) := f.breakLine refuses
      (if taken then { f with cut := false } else f, taken)
    | .word =>
      if isFirst ∧ f.endedInWord ∧ f.cut then (f, true) else f.place refuses false u.text
    | .space => f.place refuses true u.text
  (if taken then { f' with endedInWord := u.kind = .word } else f', taken)

/-- Takes units in until there is no room or a line is refused. -/
def pushUnits (refuses : Nat → Bool) (isFirst : Bool) (f : Flow) : List WrapUnit → Flow × Bool
  | [] => (f, true)
  | u :: rest =>
    if f.full then (f, true)
    else
      match f.pushUnit refuses isFirst u with
      | (f, true) => f.pushUnits refuses false rest
      | (f, false) => (f, false)

/-- Takes a piece of text in. -/
def pushText (refuses : Nat → Bool) (f : Flow) (text : String) : Flow × Bool :=
  if text.isEmpty then (f, true)
  else { f with touched := true }.pushUnits refuses true (WrapUnit.ofChars text.toList)

/-- Takes a control in; it rides on the line being filled. -/
def pushControl (f : Flow) (c : Control) : Flow :=
  let f := { f with touched := true }
  if f.full then f else { f with line := f.line.pushControl c }

/-- Offers the last line. If nothing has flowed in, that is one empty line. -/
def finish (refuses : Nat → Bool) (f : Flow) : Flow × Bool :=
  if f.line.isEmpty ∧ f.touched then (f, true) else f.breakLine refuses

end Flow

end TextPane
