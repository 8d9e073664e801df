import TextPane.Text.Blank
import TextPane.Text.Case

/-! Output modes.

What is written to a terminal depends on what it is: a file or pipe gets plain text, a terminal that
names its type gets escape sequences, and any other one is driven by console calls. -/
namespace TextPane

inductive Mode where
  /-- Whatever suits the terminal. -/
  | auto
  | ansi
  /-- Console calls for the cursor and the colours. -/
  | console
  | file
deriving DecidableEq, Repr

namespace Mode

def name : Mode → String
  | .auto => "auto"
  | .ansi => "ansi"
  | .console => "non_ansi"
  | .file => "file"

/-- The mode of that name, in any ASCII case and with blanks around it. -/
def parse? (s : String) : Option Mode :=
  match Text.lowerAscii (Text.trim s) with
  | "auto" => some .auto
  | "ansi" => some .ansi
  | "non_ansi" | "nonansi" | "non-ansi" => some .console
  | "file" => some .file
  | _ => none

/-- What is said of a name that no mode has. -/
def unknownMessage (s : String) : String :=
  "unknown output mode '" ++ s ++ "' (expected auto, ansi, non_ansi or file)"

/-- The mode that suits a terminal of this type. -/
def detect (redirected : Bool) (type : Option String) : Mode :=
  if redirected then .file
  else match type with
    | some t => if t = "" ∨ t = "dumb" then .console else .ansi
    | none => .console

end Mode

end TextPane
