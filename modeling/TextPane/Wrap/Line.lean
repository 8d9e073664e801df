import TextPane.Control

/-! Lines of wrapped text.

A line is text with controls in between. It knows how many columns its text takes. -/
namespace TextPane

inductive Fragment where
  | text (s : String)
  | control (c : Control)
deriving DecidableEq, Repr

structure Line where
  fragments : List Fragment := []
  width : Nat := 0
deriving DecidableEq, Repr

namespace Line

/-- Fragments with more text at the end, joined to the text that stands there. -/
def appendText (s : String) : List Fragment → List Fragment
  | [] => [.text s]
  | [.text t] => [.text (t ++ s)]
  | f :: rest => f :: appendText s rest

/-- The line with more text of this width. -/
def pushText (line : Line) (s : String) (width : Nat) : Line :=
  if s.isEmpty then line
  else { fragments := appendText s line.fragments, width := line.width + width }

def pushControl (line : Line) (c : Control) : Line :=
  { line with fragments := line.fragments ++ [.control c] }

def isEmpty (line : Line) : Bool := line.fragments.isEmpty

/-- The text without the controls. -/
def text (line : Line) : String :=
  String.join (line.fragments.map fun
    | .text s => s
    | .control _ => "")

/-- Whether a control stands in the line. -/
def hasControl (line : Line) : Bool :=
  line.fragments.any fun
    | .control _ => true
    | .text _ => false

end Line

end TextPane
