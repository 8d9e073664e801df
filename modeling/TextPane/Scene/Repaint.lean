/-! When to repaint.

An update asks for a repaint unless one is asked for already. Whoever carries the repaint out first
takes the request, so an update that comes while a repaint runs asks anew, and one more repaint
follows however many such updates there were. No repaint starts while another runs, and none after
disposal. -/
namespace TextPane

structure Repaint where
  requested : Bool := false
  running : Bool := false
  disposed : Bool := false
  /-- How many repaints were finished. -/
  count : Nat := 0
deriving DecidableEq, Repr

namespace Repaint

/-- Asks for a repaint after an update, if that is news. -/
def request? (r : Repaint) : Option Repaint :=
  if r.disposed || r.requested then none else some { r with requested := true }

/-- Asks for a repaint in any case. -/
def demand (r : Repaint) : Repaint := { r with requested := true }

/-- Takes the request and starts a repaint, if there is one to start. A request that finds a repaint
running is left to it. -/
def start? (r : Repaint) : Option Repaint :=
  if !r.disposed && r.requested && !r.running then
    some { r with requested := false, running := true }
  else none

/-- Ends the repaint that runs. -/
def finish (r : Repaint) : Repaint := { r with running := false, count := r.count + 1 }

def dispose (r : Repaint) : Repaint := { r with disposed := true }

end Repaint

end TextPane
