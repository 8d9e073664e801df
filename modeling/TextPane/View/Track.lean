import TextPane.Text.Blank
import TextPane.Text.Case

/-! Tracks: the columns and rows of a grid as they are asked for. -/
namespace TextPane

/-- How a track gets its extent. -/
inductive SizeMode where
  /-- So many cells. -/
  | fixed
  /-- A share, by weight, of what the other tracks leave. -/
  | star
  /-- As many cells as the content needs. -/
  | content
deriving DecidableEq, Repr

/-- What is wrong with a change to a grid. -/
inductive LayoutError where
  /-- Tracks cannot change once a child has been placed. -/
  | tracksLocked
  | cellOutOfRange (column row columns rows : Nat)
  | unknownSizeMode (name : String)
deriving DecidableEq, Repr

namespace LayoutError

def message : LayoutError → String
  | .tracksLocked => "grid columns and rows cannot change once a child has been placed"
  | .cellOutOfRange column row columns rows =>
    "cell (" ++ toString column ++ ", " ++ toString row ++ ") is outside a " ++
      toString columns ++ "x" ++ toString rows ++ " grid"
  | .unknownSizeMode name =>
    "unknown size mode '" ++ name ++ "' (expected fixed, star or size_to_content)"

end LayoutError

/-- The mode of that name, in any ASCII case and with blanks around it. -/
def SizeMode.parse (name : String) : Except LayoutError SizeMode :=
  match Text.lowerAscii (Text.trim name) with
  | "fixed" => .ok .fixed
  | "star" | "*" => .ok .star
  | "size_to_content" | "sizetocontent" | "auto" => .ok .content
  | _ => .error (.unknownSizeMode name)

/-- A column or row. The value is the length of a fixed track and the weight of a star. -/
structure Track where
  mode : SizeMode
  value : Nat := 0
deriving DecidableEq, Repr

namespace Track

def fixed (length : Nat) : Track := ⟨.fixed, length⟩

def star (weight : Nat) : Track := ⟨.star, weight⟩

def auto : Track := ⟨.content, 0⟩

/-- A track from the name of its mode. -/
def parse (name : String) (value : Nat) : Except LayoutError Track := do
  return ⟨← SizeMode.parse name, value⟩

def display (t : Track) : String :=
  match t.mode with
  | .fixed => toString t.value
  | .star => toString t.value ++ "*"
  | .content => "auto"

end Track

end TextPane
