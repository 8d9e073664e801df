import TextPane.Color
import TextPane.Geometry
import TextPane.Terminal.Mode

/-! Terminals and the calls made to them.

A terminal records every call that succeeds and remembers the two colours. Calls can be made to
fail: all succeed up to some number, then so many fail, then all succeed again. A call that fails
leaves no trace but that it was made. -/
namespace TextPane

/-- A call to a terminal. -/
inductive Call where
  | write (text : String)
  /-- Places the cursor; column and row count from zero. -/
  | moveTo (left top : Nat)
  | foreground (c : Color)
  | background (c : Color)
  | resetColor
  | hideCursor
  | showCursor
  | clear
  | flush
deriving DecidableEq, Repr

/-- Which calls fail, counted over the life of a terminal. -/
inductive Faults where
  | never
  /-- From call number `first` on, `count` calls, or all if there is no count. -/
  | after (first : Nat) (count : Option Nat)
deriving DecidableEq, Repr

/-- Whether call number `n` fails. -/
def Faults.hit : Faults → Nat → Bool
  | .never, _ => false
  | .after first none, n => first ≤ n
  | .after first (some count), n => first ≤ n && n < first + count

structure Terminal where
  size : Size
  redirected : Bool := false
  type : Option String := some "xterm"
  faults : Faults := .never
  /-- How many calls were made. -/
  made : Nat := 0
  foreground : Option Color := none
  background : Option Color := none
  /-- The calls that succeeded, in order. -/
  calls : Array Call := #[]

/-- Why rendering stopped. -/
inductive Failure where
  | terminal
  /-- A view could not be rendered. -/
  | view
deriving DecidableEq, Repr

/-- Work on a terminal that may fail. -/
abbrev TerminalM := ExceptT Failure (StateM Terminal)

namespace Terminal

/-- The terminal after a call that succeeded. -/
def record (t : Terminal) (c : Call) : Terminal :=
  let t := { t with calls := t.calls.push c }
  match c with
  | .foreground color => { t with foreground := some color }
  | .background color => { t with background := some color }
  | .resetColor => { t with foreground := none, background := none }
  | _ => t

/-- Makes a call. -/
def call (c : Call) : TerminalM Unit := fun t =>
  let counted := { t with made := t.made + 1 }
  if t.faults.hit t.made then (.error .terminal, counted) else (.ok (), counted.record c)

def write (text : String) : TerminalM Unit := call (.write text)

/-- The mode that suits the terminal. -/
def detectMode (t : Terminal) : Mode := Mode.detect t.redirected t.type

/-- The mode for the terminal when this one is asked for. -/
def resolve (t : Terminal) : Mode → Mode
  | .auto => t.detectMode
  | mode => mode

/-- All text written, in order. -/
def written (t : Terminal) : String :=
  t.calls.foldl (fun s c => match c with | .write text => s ++ text | _ => s) ""

end Terminal

end TextPane
