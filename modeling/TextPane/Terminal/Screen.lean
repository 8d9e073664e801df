import TextPane.Terminal.Basic
import TextPane.Text.Columns

/-! The screen that a terminal shows.

The recorded calls are replayed on a grid of cells. Of the escape sequences the screen obeys cursor
moves and the clearing of the whole screen, and skips all others. A wide character fills the cells
behind its first one with tails, which are not shown. -/
namespace TextPane

inductive Cell where
  | glyph (c : Char)
  /-- Covered by the wide character before it. -/
  | tail
deriving DecidableEq, Repr

def Cell.blank : Cell := .glyph ' '

structure Screen where
  cells : List (List Cell)
  column : Nat := 0
  row : Nat := 0
deriving DecidableEq, Repr

/-- Where in an escape sequence the screen is. -/
inductive Scan where
  | text
  /-- Behind an escape character. -/
  | escape
  /-- In a sequence with these parameters so far. -/
  | sequence (parameters : List Char)
deriving DecidableEq, Repr

namespace Screen

def blank (size : Size) : Screen :=
  { cells := List.replicate size.height (List.replicate size.width .blank) }

def moveTo (s : Screen) (column row : Nat) : Screen := { s with column, row }

def clear (s : Screen) : Screen :=
  { s with cells := s.cells.map fun line => line.map fun _ => .blank }

/-- Columns that a character takes on the screen; a control takes none. -/
def glyphColumns (c : Char) : Nat := if Text.isControl c then 0 else Text.charColumns c

/-- A line with `count` tails from a column on. -/
def putTails (line : List Cell) (column : Nat) : Nat → List Cell
  | 0 => line
  | count + 1 => (putTails line column count).set (column + count) .tail

/-- Puts a character at the cursor and moves the cursor behind it. -/
def put (s : Screen) (c : Char) : Screen :=
  match glyphColumns c with
  | 0 => s
  | w + 1 =>
    { s with
      cells := s.cells.modify s.row fun line =>
        putTails (line.set s.column (.glyph c)) (s.column + 1) w
      column := s.column + (w + 1) }

/-- A parameter of a sequence, or one where it is missing or no number. -/
def parameter (cs : List Char) : Nat := (Text.wordOfChars? cs).getD 1

/-- The parameters between semicolons. -/
def splitParameters (cs : List Char) : List (List Char) := cs.splitOn ';'

/-- Obeys a sequence. -/
def obey (s : Screen) (parameters : List Char) (final : Char) : Screen :=
  if final = 'H' then
    let ps := splitParameters parameters
    s.moveTo (parameter (ps[1]?.getD []) - 1) (parameter (ps[0]?.getD []) - 1)
  else if final = 'J' ∧ parameters = ['2'] then s.clear
  else s

/-- Takes a character that is in no sequence. -/
def feedText (s : Screen) (c : Char) : Screen × Scan :=
  if c = '\x1b' then (s, .escape)
  else if c = '\n' then ({ s with row := s.row + 1, column := 0 }, .text)
  else if c = '\r' then ({ s with column := 0 }, .text)
  else (s.put c, .text)

/-- Takes the next character of a written text. -/
def feedChar : Screen × Scan → Char → Screen × Scan
  | (s, .text), c => s.feedText c
  | (s, .escape), c => if c = '[' then (s, .sequence []) else s.feedText c
  | (s, .sequence parameters), c =>
    if c.isAlpha then (s.obey parameters c, .text) else (s, .sequence (parameters ++ [c]))

/-- Takes a written text. A sequence does not go on in the next one. -/
def feed (s : Screen) (text : String) : Screen :=
  (text.toList.foldl feedChar (s, .text)).1

/-- Takes a call. -/
def replay (s : Screen) : Call → Screen
  | .write text => s.feed text
  | .moveTo left top => s.moveTo left top
  | .clear => s.clear
  | _ => s

/-- What a line of cells shows, without the blanks at its end. -/
def lineText (line : List Cell) : String :=
  String.ofList (Text.trimEndChars (line.filterMap fun
    | .glyph c => some c
    | .tail => none))

def lines (s : Screen) : List String := s.cells.map lineText

end Screen

/-- The screen after all calls so far. -/
def Terminal.screen (t : Terminal) : Screen :=
  t.calls.foldl Screen.replay (Screen.blank t.size)

end TextPane
