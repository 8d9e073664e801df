import TextPane.Span.Visit
import TextPane.Wrap.Flow

/-! Spans in lines.

Measuring a span and rendering it in any mode go through the same lines: those of a flow that takes
in the texts and controls of the span in order. -/
namespace TextPane

namespace Flow

/-- The receiver that takes every line. -/
def takesAll : Nat → Bool := fun _ => false

/-- Lets a span flow in. -/
def visitor : Visitor (StateM Flow) where
  start _ := pure ()
  record _ := pure ()
  content text _ := modify fun f => (f.pushText takesAll text).1
  control c := modify fun f => f.pushControl c
  host h := modify fun f => (f.pushText takesAll h.text).1
  stop _ := modify fun f => (f.finish takesAll).1

/-- The flow at the end of a span. -/
def ofSpan (bounds : Size) (s : Span) : Flow := ((visitor.visit s).run (start bounds)).2

end Flow

namespace Span

/-- The lines of a span within the bounds. -/
def wrap (s : Span) (bounds : Size) : List Line := (Flow.ofSpan bounds s).lines

/-- The size that the span takes within the bounds. -/
def measure (s : Span) (bounds : Size) : Size := (Flow.ofSpan bounds s).size

end Span

end TextPane
