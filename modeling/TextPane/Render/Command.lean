import TextPane.Escape
import TextPane.Terminal.Basic

/-! Terminal output in escape sequences.

Commands are gathered and written in one piece, so a line reaches the terminal whole. Commands that
would write nothing are left out. -/
namespace TextPane

inductive Command where
  | moveTo (left top : Nat)
  | print (text : String)
  | code (escape : String)
  | pad (count : Nat)
deriving DecidableEq, Repr

namespace Command

/-- Whether the command writes nothing. -/
def isVoid : Command → Bool
  | .moveTo .. => false
  | .print text => text.isEmpty
  | .code escape => escape.isEmpty
  | .pad count => count == 0

def blanks (count : Nat) : String := String.ofList (List.replicate count ' ')

/-- What the command writes. On a terminal columns and rows count from one. -/
def encode : Command → String
  | .moveTo left top => Escape.moveTo (top + 1) (left + 1)
  | .print text => text
  | .code escape => escape
  | .pad count => blanks count

/-- The commands that write something. -/
def effective (commands : List Command) : List Command := commands.filter (!·.isVoid)

def encodeAll (commands : List Command) : String := String.join (commands.map encode)

/-- Writes all commands at once, if there are any. -/
def send (commands : List Command) : TerminalM Unit :=
  match effective commands with
  | [] => pure ()
  | effective => Terminal.write (encodeAll effective)

end Command

end TextPane
