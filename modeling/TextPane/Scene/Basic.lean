import TextPane.Render.Renderer
import TextPane.Scene.Repaint
import TextPane.View.Notifier
import TextPane.View.Tree

/-! Scenes: views that are alive.

A scene holds the nodes that views are made of, the displays that show them and the terminal that all
of it goes to. Nodes know each other by number, and so can stand in several places. Each node has a
notifier; whoever shows a node listens there, and every place that holds a node has a subscription
of its own. -/
namespace TextPane

abbrev NodeId := Nat
abbrev DisplayId := Nat
abbrev QueueId := Nat
abbrev FactoryId := Nat

/-- A node held in a place, and the subscription of that place. -/
structure Slot where
  node : NodeId
  subscription : Nat
deriving DecidableEq, Repr

/-- A column of a table: the view at its head, and the factory that makes its cells. -/
structure TableColumn where
  header : NodeId
  factory : FactoryId
  track : Track := .auto
deriving DecidableEq, Repr

/-- A table: items and columns, and the grid that was built of them. -/
structure Table where
  items : List (List String) := []
  columns : List TableColumn := []
  gutter : Nat := 1
  grid : Slot
deriving DecidableEq, Repr

/-- A view that answers a fixed size and logs what is asked of it. Its first renderings raise
updates. -/
structure Probe where
  name : String
  size : Size
  renders : Nat := 0
  notifies : Nat := 1
  fails : Bool := false
deriving DecidableEq, Repr

/-- What a node is. -/
inductive Body where
  /-- A span, and the number of the feed that delivers into it. -/
  | content (span : Span) (feed : Option Nat)
  /-- Nodes in order. Without an orientation they are not laid out and cannot be shown. -/
  | stack (orientation : Option Orientation) (slots : List Slot)
  | grid (g : Grid Slot)
  | table (t : Table)
  | probe (p : Probe)
  /-- A node that nothing holds any more. -/
  | gone

/-- Whom an update reaches. -/
inductive Listener where
  /-- The node whose place holds the one that was updated. -/
  | forward (target : NodeId)
  /-- A counter. -/
  | watch (counter : Nat)
  | display (i : DisplayId)
deriving DecidableEq, Repr

structure Node where
  body : Body := .gone
  notifier : Notifier Listener := {}

instance : Inhabited Node := ⟨{}⟩

structure Display where
  renderer : Renderer
  child : Option Slot := none
  repaint : Repaint := {}
  /-- The queue that takes repaints; without one they are carried out at once. -/
  queue : Option QueueId := none

/-- One thing asked of a probe. -/
inductive ProbeCall where
  | measure (name : String) (limit : Size)
  | render (name : String) (region : Region)
deriving DecidableEq, Repr

structure Scene where
  terminal : Terminal
  nodes : Array Node := #[]
  displays : Array Display := #[]
  /-- The displays whose repaint is queued, first in first out. -/
  queues : Array (List DisplayId) := #[]
  /-- How often each counter was reached. -/
  hits : Array Nat := #[]
  /-- How many feeds there were. -/
  feeds : Nat := 0
  /-- Nodes held from outside, once for each time. -/
  held : List NodeId := []
  probed : Array ProbeCall := #[]

/-- Work on a scene that may fail. -/
abbrev SceneM := ExceptT Failure (StateM Scene)

namespace Scene

/-- Work on the terminal as part of work on the scene. -/
def onTerminal {α : Type} (work : TerminalM α) : SceneM α := fun s =>
  let (result, terminal) := work s.terminal
  (result, { s with terminal })

def node (s : Scene) (n : NodeId) : Node := (s.nodes[n]?).getD default

def body (s : Scene) (n : NodeId) : Body := (s.node n).body

def modifyNode (s : Scene) (n : NodeId) (f : Node → Node) : Scene :=
  { s with nodes := s.nodes.modify n f }

def setBody (s : Scene) (n : NodeId) (body : Body) : Scene :=
  s.modifyNode n fun node => { node with body }

def modifyDisplay (s : Scene) (i : DisplayId) (f : Display → Display) : Scene :=
  { s with displays := s.displays.modify i f }

def modifyQueue (s : Scene) (q : QueueId) (f : List DisplayId → List DisplayId) : Scene :=
  { s with queues := s.queues.modify q f }

/-- Whether something still holds a node. -/
def isAlive (s : Scene) (n : NodeId) : Bool :=
  match s.body n with
  | .gone => false
  | _ => true

/-- Adds a node; the second part is its number. -/
def addNode (s : Scene) (body : Body) : Scene × NodeId :=
  ({ s with nodes := s.nodes.push { body } }, s.nodes.size)

/-! ### Subscriptions -/

/-- Subscribes to a node; the second part is the number of the subscription. -/
def subscribe (s : Scene) (n : NodeId) (listener : Listener) : Scene × Nat :=
  let (notifier, id) := (s.node n).notifier.subscribe listener
  (s.modifyNode n fun node => { node with notifier }, id)

/-- Ends a subscription to a node; the second part says whether there was one. -/
def unsubscribe (s : Scene) (n : NodeId) (id : Nat) : Scene × Bool :=
  let (notifier, found) := (s.node n).notifier.unsubscribe id
  (s.modifyNode n fun node => { node with notifier }, found)

/-- Ends the subscription of a place. -/
def leave (s : Scene) (slot : Slot) : Scene := (s.unsubscribe slot.node slot.subscription).1

def leaveAll (s : Scene) (slots : List Slot) : Scene := slots.foldl leave s

/-- How many listen to a node. -/
def listenerCount (s : Scene) (n : NodeId) : Nat := (s.node n).notifier.count

/-- Starts a counter of the updates of a node; gives its number and that of its subscription. -/
def watch (s : Scene) (n : NodeId) : Scene × Nat × Nat :=
  let counter := s.hits.size
  let (s, id) := { s with hits := s.hits.push 0 }.subscribe n (.watch counter)
  (s, counter, id)

/-- How often a counter was reached. -/
def hitCount (s : Scene) (counter : Nat) : Nat := (s.hits[counter]?).getD 0

end Scene

/-! ### What holds what -/

/-- The places of a node that hold other nodes. -/
def Body.slots : Body → List Slot
  | .stack _ slots => slots
  | .grid g => g.contents
  | .table t => [t.grid]
  | .content .. | .probe _ | .gone => []

/-- The nodes that a node keeps alive. -/
def Body.keeps : Body → List NodeId
  | .table t => t.grid.node :: t.columns.map (·.header)
  | b => b.slots.map (·.node)

end TextPane
