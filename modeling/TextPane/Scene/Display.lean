import TextPane.Scene.Release
import TextPane.Scene.Update

/-! Displays.

A display shows a child all over the terminal and repaints after its updates. It hides the cursor
while it is there and restores it when it is disposed of. Calls to the terminal that fail are
passed over. -/
namespace TextPane.Scene

/-- Makes a call of the terminal and passes over its failure. -/
def attempt (s : Scene) (c : Call) : Scene := (onTerminal (Terminal.call c) s).2

/-- Adds a queue; the second part is its number. -/
def createQueue (s : Scene) : Scene × QueueId :=
  ({ s with queues := s.queues.push [] }, s.queues.size)

/-- Adds a display; the second part is its number. -/
def createDisplay (s : Scene) (renderer : Renderer) (queue : Option QueueId) (hideCursor : Bool) :
    Scene × DisplayId :=
  let s := if hideCursor then s.attempt .hideCursor else s
  ({ s with displays := s.displays.push { renderer, queue } }, s.displays.size)

/-- Subscribes a display to the node it is to show. -/
def attach (s : Scene) (i : DisplayId) : Option NodeId → Scene × Option Slot
  | none => (s, none)
  | some n =>
    let (s, subscription) := s.subscribe n (.display i)
    (s, some { node := n, subscription })

/-- Ends the subscription of a display to what it showed. -/
def detach (s : Scene) : Option Slot → Scene
  | none => s
  | some slot => s.leave slot

/-- Replaces the child of a display, which does not repaint for that. -/
def setDisplayChild (s : Scene) (i : DisplayId) (child : Option NodeId) : Scene :=
  match s.displays[i]? with
  | none => s
  | some display =>
    if display.repaint.disposed then s
    else
      let (s, slot) := s.attach i child
      ((s.modifyDisplay i fun display => { display with child := slot }).detach display.child).sweep

/-- Repaints a display now, or right after the repaint that runs. -/
def refresh (s : Scene) (i : DisplayId) : Scene :=
  (s.modifyDisplay i fun display => { display with repaint := display.repaint.demand }).drain i

/-- Disposes of a display. A second time does nothing. -/
def dispose (s : Scene) (i : DisplayId) : Scene :=
  match s.displays[i]? with
  | none => s
  | some display =>
    if display.repaint.disposed then s
    else
      let s := s.modifyDisplay i fun display =>
        { display with child := none, repaint := display.repaint.dispose }
      (s.detach display.child).sweep.attempt .showCursor

/-! ### Queues -/

/-- How many repaints are queued. -/
def pending (s : Scene) (q : QueueId) : Nat := ((s.queues[q]?).getD []).length

/-- Carries out the first repaint of a queue; the second part says whether there was one. -/
def runNext (s : Scene) (q : QueueId) : Scene × Bool :=
  match (s.queues[q]?).getD [] with
  | [] => (s, false)
  | i :: rest => ((s.modifyQueue q fun _ => rest).drain i, true)

/-- Carries out queued repaints, so many at most; the second part is how many there were. -/
def runRounds (s : Scene) (q : QueueId) : Nat → Scene × Nat
  | 0 => (s, 0)
  | rounds + 1 =>
    match s.runNext q with
    | (s, false) => (s, 0)
    | (s, true) =>
      let (s, ran) := s.runRounds q rounds
      (s, ran + 1)

/-- Carries out all queued repaints, also those queued meanwhile. A display is queued again only after
a rendering that raises updates. -/
def runPending (s : Scene) (q : QueueId) : Scene × Nat :=
  s.runRounds q (s.pending q + s.displays.size * (s.restless + 1))

end TextPane.Scene
