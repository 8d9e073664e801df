import TextPane.Formatter
import TextPane.Render.Print
import TextPane.Wrap.Measure

/-! Rendering spans.

A renderer knows in which mode it writes, how values become spans, and whether colours and
attributes are to be reset after a span that changed them. An empty region takes no output. -/
namespace TextPane

structure Renderer where
  /-- The mode that was asked for, and the one that came of it. -/
  requested : Mode := .auto
  mode : Mode
  /-- Whether to reset colours and attributes after a span that changed them. -/
  reset : Bool := true
  formatter : Formatter := {}

namespace Renderer

/-- A renderer for a terminal. -/
def forTerminal (t : Terminal) (requested : Mode) (reset : Bool) : Renderer :=
  { requested, mode := t.resolve requested, reset }

/-- Undoes colours and attributes. -/
def undo (mode : Mode) : TerminalM Unit :=
  match mode with
  | .file => pure ()
  | .console => Terminal.call .resetColor
  | .ansi | .auto => Terminal.write Escape.attributesOff

/-- Renders a span into a region. -/
def render (r : Renderer) (s : Span) (region : Region) : TerminalM Unit := fun t =>
  if region.isEmpty then (.ok (), t)
  else
    match Print.lines r.mode region (s.wrap region.size) { terminal := t } with
    | (.error e, p) => (.error e, p.terminal)
    | (.ok (), p) => if p.touched ∧ r.reset then undo r.mode p.terminal else (.ok (), p.terminal)

/-- Blanks rows of a region by console calls, from row number `index` on. -/
def blankRows (region : Region) (index : Nat) : Nat → TerminalM Unit
  | 0 => pure ()
  | count + 1 => do
    Terminal.call (.moveTo region.left (Print.row region index))
    Terminal.write (Command.blanks region.width)
    blankRows region (index + 1) count

/-- The commands that blank a region. -/
def blankCommands (region : Region) : List Command :=
  (List.range region.height).flatMap fun index =>
    [.moveTo region.left (Print.row region index), .pad region.width]

/-- Blanks a region. In a file there is nothing to blank. -/
def clearRegion (r : Renderer) (region : Region) : TerminalM Unit :=
  if region.isEmpty then pure ()
  else match r.mode with
    | .file => pure ()
    | .console => blankRows region 0 region.height
    | .ansi | .auto => Command.send (blankCommands region)

/-- Blanks the whole screen. -/
def clearScreen (r : Renderer) : TerminalM Unit :=
  match r.mode with
  | .file => pure ()
  | .console => Terminal.call .clear
  | .ansi | .auto => Command.send [.code Escape.clearScreen]

end Renderer

end TextPane
