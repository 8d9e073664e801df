import TextPane.Scene.Basic

/-! Letting nodes go.

A node lives as long as something holds it: a place in another node that lives, a table that has it
for a header, a display, or someone outside. When nothing does, its own places are given up and their
subscriptions ended, which may leave further nodes unheld. -/
namespace TextPane.Scene

/-- The nodes that something holds. -/
def owned (s : Scene) : List NodeId :=
  s.held ++ (s.displays.toList.filterMap (·.child)).map (·.node) ++
    s.nodes.toList.flatMap (·.body.keeps)

/-- Marks for the nodes that something holds. -/
def marks (s : Scene) : Array Bool :=
  s.owned.foldl (fun marks n => marks.set! n true) (Array.replicate s.nodes.size false)

/-- The nodes that live although nothing holds them. -/
def orphans (s : Scene) : List NodeId :=
  let marks := s.marks
  (List.range s.nodes.size).filter fun n => s.isAlive n && !(marks[n]?).getD false

/-- Ends a node and the subscriptions of its places. -/
def release (s : Scene) (n : NodeId) : Scene :=
  (s.leaveAll (s.body n).slots).setBody n .gone

/-- Releases what nothing holds, in so many rounds at most. -/
def sweepRounds : Nat → Scene → Scene
  | 0, s => s
  | rounds + 1, s =>
    match s.orphans with
    | [] => s
    | orphans => sweepRounds rounds (orphans.foldl release s)

/-- Releases what nothing holds, until all that lives is held. Each round ends a node, so there are
no more rounds than nodes. -/
def sweep (s : Scene) : Scene := sweepRounds s.nodes.size s

/-- Adds a node held from outside. -/
def create (s : Scene) (body : Body) : Scene × NodeId :=
  let (s, n) := s.addNode body
  ({ s with held := n :: s.held }, n)

/-- Holds a node once more from outside. -/
def hold (s : Scene) (n : NodeId) : Scene := { s with held := n :: s.held }

/-- Holds a node once less from outside. -/
def letGo (s : Scene) (n : NodeId) : Scene := { s with held := s.held.erase n }.sweep

end TextPane.Scene
