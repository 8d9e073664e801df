import TextPane.Scene.Release
import TextPane.Scene.Update

/-! Nodes that hold others.

A place that takes a node subscribes to it, and one that gives it up ends that subscription. Every
change of a node raises an update of it. -/
namespace TextPane.Scene

/-- Takes a node into a place of another one. -/
def enter (s : Scene) (parent child : NodeId) : Scene × Slot :=
  let (s, subscription) := s.subscribe child (.forward parent)
  (s, { node := child, subscription })

/-! ### Contents -/

/-- Replaces the span of a node. -/
def setSpan (s : Scene) (n : NodeId) (span : Span) : Scene :=
  match s.body n with
  | .content _ feed => (s.setBody n (.content span feed)).raise n
  | _ => s

/-- Binds a node to a new feed, whose number is the second part. The one before has ended then. -/
def bindFeed (s : Scene) (n : NodeId) : Scene × Nat :=
  let feed := s.feeds
  let s := { s with feeds := feed + 1 }
  match s.body n with
  | .content span _ => (s.setBody n (.content span (some feed)), feed)
  | _ => (s, feed)

/-- The node that a feed delivers into. -/
def fedBy? (s : Scene) (feed : Nat) : Option NodeId :=
  s.nodes.findIdx? fun node =>
    match node.body with
    | .content _ current => current == some feed
    | _ => false

/-- Delivers a span through a feed; the second part says whether the feed was still open. -/
def feed (s : Scene) (feed : Nat) (span : Span) : Scene × Bool :=
  match s.fedBy? feed with
  | some n => (s.setSpan n span, true)
  | none => (s, false)

/-! ### Stacks -/

/-- The places of a stack. -/
def slots (s : Scene) (n : NodeId) : List Slot := (s.body n).slots

/-- Adds a node at the end of a stack. -/
def push (s : Scene) (n child : NodeId) : Scene :=
  match s.body n with
  | .stack orientation slots =>
    let (s, slot) := s.enter n child
    (s.setBody n (.stack orientation (slots ++ [slot]))).raise n
  | _ => s

/-- Removes a node from its first place in a stack; the second part says whether it had one. -/
def remove (s : Scene) (n child : NodeId) : Scene × Bool :=
  match s.body n with
  | .stack orientation slots =>
    match slots.find? (·.node == child) with
    | none => (s, false)
    | some slot =>
      let s := s.setBody n (.stack orientation (slots.eraseP (·.node == child)))
      (((s.leave slot).raise n).sweep, true)
  | _ => (s, false)

/-- Removes all nodes from a stack. One that is empty already is left alone. -/
def clear (s : Scene) (n : NodeId) : Scene :=
  match s.body n with
  | .stack orientation (slot :: slots) =>
    (((s.setBody n (.stack orientation [])).leaveAll (slot :: slots)).raise n).sweep
  | _ => s

/-! ### Grids -/

/-- Replaces tracks of a grid. -/
def setTracks (s : Scene) (n : NodeId) (new : Grid Slot → Grid Slot) : Except LayoutError Scene :=
  match s.body n with
  | .grid g => do return (s.setBody n (.grid (← g.setTracks new))).raise n
  | _ => .ok s

/-- Replaces the columns of a grid. -/
def setColumns (s : Scene) (n : NodeId) (columns : List Track) : Except LayoutError Scene :=
  s.setTracks n fun g => { g with columns }

/-- Replaces the rows of a grid. -/
def setRows (s : Scene) (n : NodeId) (rows : List Track) : Except LayoutError Scene :=
  s.setTracks n fun g => { g with rows }

/-- Puts a node into a cell of a grid, and gives up the one that stood there. -/
def place (s : Scene) (n child : NodeId) (column row : Nat) : Except LayoutError Scene :=
  match s.body n with
  | .grid g =>
    let (subscribed, slot) := s.enter n child
    match g.place slot column row with
    | .error e => .error e
    | .ok filled =>
      let s := subscribed.setBody n (.grid filled)
      .ok (match g.cell? column row with
        | some old => s.leave old
        | none => s)
  | _ => .ok s

/-- Puts a node into a cell of a grid. -/
def setChild (s : Scene) (n child : NodeId) (column row : Nat) : Except LayoutError Scene := do
  return (← s.place n child column row).sweep.raise n

/-- The node in a cell of a grid. -/
def child? (s : Scene) (n : NodeId) (column row : Nat) : Option NodeId :=
  match s.body n with
  | .grid g => (g.cell? column row).map (·.node)
  | _ => none

/-- Sizes the columns and rows of a grid. -/
def layout (s : Scene) (r : Renderer) (n : NodeId) (available : Size) (pass : Pass) :
    SceneM GridLayout :=
  match s.body n with
  | .grid g =>
    Grid.layout { g with cells := g.cells.map (·.map fun slot => s.nodeBox r slot.node) } available pass
  | _ => pure { columns := [], rows := [], gutter := 0 }

end TextPane.Scene
