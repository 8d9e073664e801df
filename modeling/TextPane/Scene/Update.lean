import TextPane.Scene.Basic

/-! Updates and what they set off.

An update of a node reaches whoever listens to it: nodes that hold it raise it in turn, counters
count it, and displays ask for a repaint, which is carried out at once or put in a queue. A repaint
renders the tree of the moment. Rendering may raise further updates, within the repaint. -/
namespace TextPane

/-- A leaf of the tree of a scene. -/
inductive SceneLeaf where
  | span (s : Span)
  | probe (n : NodeId)

namespace Scene

/-! ### The tree of a node -/

/-- The tree of a node down to a depth. -/
def treeWithin (s : Scene) : Nat → NodeId → View SceneLeaf
  | 0, _ => .leaf (.span .empty)
  | depth + 1, n =>
    let slotTree (slot : Slot) : View SceneLeaf := s.treeWithin depth slot.node
    match s.body n with
    | .content span _ => .leaf (.span span)
    | .stack orientation slots => .stack (orientation.getD .vertical) (slots.map slotTree)
    | .grid g => .grid g.columns g.rows g.gutter (g.cells.map (·.map slotTree))
    | .table t => slotTree t.grid
    | .probe _ => .leaf (.probe n)
    | .gone => .leaf (.span .empty)

/-- The tree of a node. No node holds itself, so it is no deeper than there are nodes. -/
def tree (s : Scene) (n : NodeId) : View SceneLeaf := s.treeWithin s.nodes.size n

/-! ### Rendering -/

def probe? (s : Scene) (n : NodeId) : Option Probe :=
  match s.body n with
  | .probe p => some p
  | _ => none

/-- Raises the updates of one rendering of a probe, if there are renderings left that do. -/
def probeUpdates (raise : NodeId → Scene → Scene) (n : NodeId) (p : Probe) (s : Scene) : Scene :=
  match p.renders with
  | 0 => s
  | renders + 1 =>
    (List.replicate p.notifies n).foldl (fun s n => raise n s)
      (s.setBody n (.probe { p with renders }))

/-- Renders a probe: logs the call, raises updates and may fail. -/
def renderProbe (raise : NodeId → Scene → Scene) (n : NodeId) (region : Region) : SceneM Unit :=
  fun s =>
    match s.probe? n with
    | none => (.ok (), s)
    | some p =>
      let logged := { s with probed := s.probed.push (.render p.name region) }
      (if p.fails then .error .view else .ok (), probeUpdates raise n p logged)

/-- Measures a probe: logs the call. -/
def measureProbe (n : NodeId) (limit : Size) : SceneM Size := fun s =>
  match s.probe? n with
  | none => (.ok Size.zero, s)
  | some p => (.ok p.size, { s with probed := s.probed.push (.measure p.name limit) })

/-- A leaf as a box. -/
def leafBox (raise : NodeId → Scene → Scene) (r : Renderer) : SceneLeaf → Box SceneM
  | .span span =>
    { measure := fun limit => onTerminal ((r.spanBox span).measure limit)
      render := fun region => onTerminal ((r.spanBox span).render region) }
  | .probe n => { measure := measureProbe n, render := renderProbe raise n }

/-- A tree as a box. -/
def treeBox (raise : NodeId → Scene → Scene) (r : Renderer) (v : View SceneLeaf) : Box SceneM :=
  v.box (leafBox raise r) fun region => onTerminal (r.clearRegion region)

/-! ### Repainting -/

/-- Paints a display: clears the screen, renders the tree of its child all over it and flushes. -/
def paint (raise : NodeId → Scene → Scene) (r : Renderer) (child : Option NodeId) : SceneM Unit := do
  onTerminal r.clearScreen
  if let some n := child then
    let s ← get
    (treeBox raise r (s.tree n)).render (.ofSize s.terminal.size)
  onTerminal (Terminal.call .flush)

/-- Changes when a display is to repaint. -/
def setRepaint (s : Scene) (i : DisplayId) (repaint : Repaint) : Scene :=
  s.modifyDisplay i fun display => { display with repaint }

/-- Ends a repaint. -/
def finishRepaint (s : Scene) (i : DisplayId) : Scene :=
  s.modifyDisplay i fun display => { display with repaint := display.repaint.finish }

/-- Repaints a display as long as that is asked for, so many times at most. A paint that fails counts
as one. -/
def drainRounds (raise : NodeId → Scene → Scene) (i : DisplayId) : Nat → Scene → Scene
  | 0, s => s
  | rounds + 1, s =>
    match s.displays[i]? with
    | none => s
    | some display =>
      match display.repaint.start? with
      | none => s
      | some repaint =>
        let (_, s) := paint raise display.renderer (display.child.map (·.node)) (s.setRepaint i repaint)
        drainRounds raise i rounds (s.finishRepaint i)

/-- How many renderings are left that raise updates. -/
def restless (s : Scene) : Nat :=
  (s.nodes.toList.map fun node =>
    match node.body with
    | .probe p => p.renders
    | _ => 0).sum

/-- Repaints a display as long as that is asked for. A further repaint is asked for only by a rendering
that raises updates, and there is one less of these after it. -/
def drainWith (raise : NodeId → Scene → Scene) (i : DisplayId) (s : Scene) : Scene :=
  drainRounds raise i (s.restless + 1) s

/-- Asks a display for a repaint after an update. -/
def requestRepaint (raise : NodeId → Scene → Scene) (i : DisplayId) (s : Scene) : Scene :=
  match s.displays[i]? with
  | none => s
  | some display =>
    match display.repaint.request? with
    | none => s
    | some repaint =>
      let s := s.setRepaint i repaint
      match display.queue with
      | some q => s.modifyQueue q (· ++ [i])
      | none => drainWith raise i s

/-! ### Raising -/

/-- Lets an update reach a listener. -/
def deliver (raise : NodeId → Scene → Scene) (s : Scene) : Listener → Scene
  | .forward n => raise n s
  | .watch counter => { s with hits := s.hits.modify counter (· + 1) }
  | .display i => requestRepaint raise i s

/-- Raises an update of a node, with rounds nested up to a depth. -/
def raiseWithin : Nat → NodeId → Scene → Scene
  | 0, _, s => s
  | depth + 1, n, s => (s.node n).notifier.round.foldl (deliver (raiseWithin depth)) s

/-- How deep rounds may nest. An update passes from a node to those that hold it, and, where a
display repaints for it, on to another node below a display that does not repaint yet. -/
def depth (s : Scene) : Nat := (s.displays.size + 1) * (s.nodes.size + 1)

/-- Raises an update of a node. -/
def raise (s : Scene) (n : NodeId) : Scene := raiseWithin s.depth n s

/-- Repaints a display as long as that is asked for. -/
def drain (s : Scene) (i : DisplayId) : Scene := drainWith (raiseWithin s.depth) i s

/-- A node as a box. -/
def nodeBox (s : Scene) (r : Renderer) (n : NodeId) : Box SceneM :=
  treeBox (raiseWithin s.depth) r (s.tree n)

end Scene

end TextPane
