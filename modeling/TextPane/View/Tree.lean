import TextPane.Render.Renderer
import TextPane.View.Grid
import TextPane.View.Stack

/-! Trees of views.

A tree is what is there to be shown at one moment: leaves in stacks and grids of any nesting. It is
laid out as boxes, whatever its leaves are. -/
namespace TextPane

inductive View (α : Type) where
  | leaf (a : α)
  | stack (orientation : Orientation) (children : List (View α))
  | grid (columns rows : List Track) (gutter : Nat) (cells : List (Option (View α)))

namespace View

variable {α : Type} {m : Type → Type} [Monad m]

mutual

/-- A tree as a box, when each leaf is one and a region can be blanked. -/
def box (leaf : α → Box m) (clear : Region → m Unit) : View α → Box m
  | .leaf a => leaf a
  | .stack o children => Stack.box o (boxes leaf clear children)
  | .grid columns rows gutter cells =>
    Grid.box clear { columns, rows, gutter, cells := cellBoxes leaf clear cells }

def boxes (leaf : α → Box m) (clear : Region → m Unit) : List (View α) → List (Box m)
  | [] => []
  | v :: rest => v.box leaf clear :: boxes leaf clear rest

def cellBoxes (leaf : α → Box m) (clear : Region → m Unit) :
    List (Option (View α)) → List (Option (Box m))
  | [] => []
  | none :: rest => none :: cellBoxes leaf clear rest
  | some v :: rest => some (v.box leaf clear) :: cellBoxes leaf clear rest

end

end View

/-- A span as a box on a terminal. Measuring it touches nothing. -/
def Renderer.spanBox (r : Renderer) (s : Span) : Box TerminalM where
  measure limit := pure (s.measure limit)
  render := r.render s

/-- A tree of spans as a box on a terminal. -/
def View.onTerminal (r : Renderer) (v : View Span) : Box TerminalM :=
  v.box r.spanBox r.clearRegion

end TextPane
