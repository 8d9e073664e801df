import TextPane.Render.Command
import TextPane.Wrap.Line

/-! Printing lines.

A line goes to its row of a region: in escape sequences as one write; by console calls as a cursor
move, writes and colour changes in between; to a file as text alone. Where the region is overwritten
the rest of the row is blanked. -/
namespace TextPane

/-- A terminal being printed on, and whether a control has gone out that should be undone. -/
structure Print where
  terminal : Terminal
  touched : Bool := false

abbrev PrintM := ExceptT Failure (StateM Print)

namespace Print

/-- Work on the terminal as part of printing. -/
def onTerminal {α : Type} (work : TerminalM α) : PrintM α := fun p =>
  let (result, terminal) := work p.terminal
  (result, { p with terminal })

def touch : PrintM Unit := modify fun p => { p with touched := true }

/-- Blanks needed behind a line. -/
def padding (region : Region) (line : Line) : Nat :=
  if region.overwrite then region.width - line.width else 0

/-- The row of a line in a region. -/
def row (region : Region) (index : Nat) : Nat := addCells region.top index

def fragmentCommand : Fragment → Command
  | .text s => .print s
  | .control c => .code c.escape

/-- The commands for line number `index` of a region. -/
def lineCommands (region : Region) (index : Nat) (line : Line) : List Command :=
  .moveTo region.left (row region index) :: line.fragments.map fragmentCommand ++
    [.pad (padding region line)]

/-- Prints a line in escape sequences. -/
def ansiLine (region : Region) (index : Nat) (line : Line) : PrintM Unit := do
  if line.hasControl then touch
  onTerminal (Command.send (lineCommands region index line))

/-- Restores one colour after both were reset. -/
def restore (keep : Option Call) : TerminalM Unit :=
  match keep with
  | some c => Terminal.call c
  | none => pure ()

/-- Changes one colour. A name without a colour resets it; the console resets only both at once, so
the other one is set again. -/
def changeColor (c : ColorControl) : TerminalM Unit := do
  match Color.ofName? c.name, c.channel with
  | some color, .foreground => Terminal.call (.foreground color)
  | some color, .background => Terminal.call (.background color)
  | none, .foreground => do
    let keep := (← get).background.map Call.background
    Terminal.call .resetColor
    restore keep
  | none, .background => do
    let keep := (← get).foreground.map Call.foreground
    Terminal.call .resetColor
    restore keep

/-- Prints a fragment by console calls. Only colours have such calls. -/
def consoleFragment : Fragment → PrintM Unit
  | .text s => onTerminal (Terminal.write s)
  | .control (.color c) => do
    touch
    onTerminal (changeColor c)
  | .control _ => pure ()

def consoleFragments : List Fragment → PrintM Unit
  | [] => pure ()
  | f :: rest => do
    consoleFragment f
    consoleFragments rest

/-- Prints a line by console calls. -/
def consoleLine (region : Region) (index : Nat) (line : Line) : PrintM Unit := do
  onTerminal (Terminal.call (.moveTo region.left (row region index)))
  consoleFragments line.fragments
  let blanks := padding region line
  if 0 < blanks then onTerminal (Terminal.write (Command.blanks blanks))

/-- Prints a line to a file. -/
def fileLine (line : Line) : PrintM Unit :=
  onTerminal (Terminal.write (line.text ++ "\n"))

/-- Prints line number `index` of a region in a mode. -/
def line (mode : Mode) (region : Region) (index : Nat) (l : Line) : PrintM Unit :=
  match mode with
  | .file => fileLine l
  | .console => consoleLine region index l
  | .ansi | .auto => ansiLine region index l

/-- Prints lines on consecutive rows, the first on row number `index` of the region. -/
def linesFrom (mode : Mode) (region : Region) (index : Nat) : List Line → PrintM Unit
  | [] => pure ()
  | l :: rest => do
    line mode region index l
    linesFrom mode region (index + 1) rest

/-- Prints the lines of a region. -/
def lines (mode : Mode) (region : Region) (ls : List Line) : PrintM Unit :=
  linesFrom mode region 0 ls

end Print

end TextPane
