import TextPane.Config
import TextPane.Formatter
import TextPane.Scene.Container
import TextPane.Scene.Display

/-! Demonstrations.

Trees that show what grids, tables and stacks do, and a display whose content changes while it is
shown. -/
namespace TextPane

inductive Demo where
  | grid
  | table
  | stack
  | live
deriving DecidableEq, Repr

namespace Demo

def name : Demo → String
  | .grid => "grid"
  | .table => "table"
  | .stack => "stack"
  | .live => "live"

def all : List Demo := [.grid, .table, .stack, .live]

def ofName? (s : String) : Option Demo := all.find? (·.name == s)

/-! ### Trees -/

def boldOn : Span := .control (.style { name := "bold_on", code := Escape.rendition 1 })

def boldOff : Span := .control (.style { name := "bold_off", code := Escape.rendition 22 })

def headingSpan (s : String) : Span := .ofList [boldOn, .ofString s, boldOff]

def heading (s : String) : View Span := .leaf (headingSpan s)

def text (s : String) : View Span := .leaf (.ofText s)

/-- Text in a colour. -/
def colored (color s : String) : Span :=
  .ofList [.foreground color, .ofString s, .foreground "reset"]

/-- A grid with a fixed column and two stars of unlike weight. -/
def gridTree (gutter : Nat) : View Span :=
  .grid [.fixed 12, .star 1, .star 2] [.auto, .star 1] gutter
    [some (heading "fixed"), some (heading "star 1"), some (heading "star 2"),
      some (text "Twelve columns wide whatever the terminal size."),
      some (.leaf (colored "green" "One third of the space left after the fixed column.")),
      some (text ("Two thirds of the remaining space. Long text wraps at word boundaries and " ++
        "is cut off at the bottom of its cell."))]

/-- A row of the table: a process with its share of the time in per cent. -/
structure Process where
  number : Nat
  name : String
  share : Float

def processes : List Process :=
  [⟨1, "init", 0.1⟩, ⟨412, "sshd", 0.0⟩, ⟨2290, "termview", 3.7⟩, ⟨3014, "cargo", 97.25⟩]

/-- The share of a process with one place. -/
def Process.shareSpan (p : Process) : Span :=
  let share := Argument.float (.ofBits p.share.toBits.toNat)
  match Formatter.formatTemplate {} "\x7b:>5.1\x7d%" #[share] with
  | .ok s => s
  | .error _ => .empty

def Process.cells (p : Process) : List (View Span) :=
  [text (toString p.number), text p.name, .leaf p.shareSpan]

/-- A table of processes. -/
def tableTree (gutter : Nat) : View Span :=
  .grid [.auto, .star 1, .auto] (List.replicate (processes.length + 1) .auto) gutter
    (([heading "PID", heading "NAME", heading "CPU"] ++ processes.flatMap Process.cells).map some)

/-- A row in a column. -/
def stackTree : View Span :=
  .stack .vertical
    [heading "Stacked views",
      .stack .horizontal [heading "left ", text "| middle |", text " right"],
      text "Each child gets its measured height; width is shared."]

/-- The tree of a demonstration that stands still. -/
def tree? (d : Demo) (c : Config) : Option (View Span) :=
  match d with
  | .grid => some (gridTree c.gridGutter)
  | .table => some (tableTree c.tableGutter)
  | .stack => some stackTree
  | .live => none

/-- Shows a tree at the top of the terminal, or as lines in a file, and places the cursor below. -/
def present (r : Renderer) (overwrite : Bool) (v : View Span) : TerminalM Unit := do
  let area := (← get).size
  let box := v.onTerminal r
  let size ← box.measure area
  if r.mode = .file then
    box.render { Region.ofSize size with overwrite }
  else
    r.clearScreen
    box.render { left := 0, top := 0, width := area.width, height := size.height, overwrite }
    Terminal.call (.moveTo 0 size.height)
    Terminal.write "\n"
  Terminal.call .flush

/-! ### The live display -/

/-- A display with a content that spans are delivered into. -/
structure Live where
  scene : Scene
  display : DisplayId
  queue : QueueId
  feed : Nat

namespace Live

/-- Sets the display up and shows it for the first time. -/
def start (t : Terminal) (r : Renderer) (hideCursor : Bool) : Live :=
  let s : Scene := { terminal := t }
  let (s, queue) := s.createQueue
  let (s, display) := s.createDisplay r (some queue) hideCursor
  let (s, column) := s.create (.stack (some .vertical) [])
  let (s, head) := s.create (.content (headingSpan "termview live demo") none)
  let (s, counter) := s.create (.content .empty none)
  let (s, feed) := s.bindFeed counter
  let note := "Updates arrive on a background thread and are coalesced into repaints."
  let (s, foot) := s.create (.content (.ofText note) none)
  let s := ((s.push column head).push column counter).push column foot
  { scene := (s.setDisplayChild display (some column)).refresh display, display, queue, feed }

/-- What is shown at one of the ticks, with the time in tenths of a second. -/
def tickSpan (tick ticks tenths : Nat) : Span :=
  let seconds := toString (tenths / 10) ++ "." ++ toString (tenths % 10)
  .ofList
    [.foreground (if tick % 2 = 0 then "cyan" else "yellow"),
      .ofString ("tick " ++ toString tick ++ "/" ++ toString ticks),
      .foreground "reset", .ofString ("  elapsed " ++ seconds ++ "s")]

/-- Delivers a span and repaints. -/
def deliver (l : Live) (span : Span) : Live :=
  { l with scene := ((l.scene.feed l.feed span).1.runPending l.queue).1 }

/-- Disposes of the display. -/
def stop (l : Live) : Terminal := (l.scene.dispose l.display).terminal

end Live

end Demo

end TextPane
