import TextPane.Color

/-! Escape sequences.

The sequences that a terminal in escape mode obeys. Colours and text attributes are selected by
number; the cursor is placed by line and column, both counted from one. -/
namespace TextPane.Escape

/-- The escape character and a bracket, which open every sequence here. -/
def lead : String := "\x1b["

/-- Selects the graphic rendition with this number. -/
def rendition (n : Nat) : String := lead ++ toString n ++ "m"

/-- The number that selects a colour for the foreground: the light colours follow at a distance. -/
def colorNumber (c : Color) : Nat :=
  if c.index < 8 then 30 + c.index else 90 + (c.index - 8)

/-- The background numbers lie ten above those of the foreground. -/
def channelOffset : Channel → Nat
  | .foreground => 0
  | .background => 10

def color (c : Color) (channel : Channel) : String :=
  rendition (colorNumber c + channelOffset channel)

/-- Leaves the colour of a channel to the terminal. -/
def defaultColor (channel : Channel) : String :=
  rendition (39 + channelOffset channel)

/-- A colour by its red, green and blue parts. -/
def rgb (r g b : Nat) (channel : Channel) : String :=
  lead ++ toString (38 + channelOffset channel) ++ ";2;" ++ toString r ++ ";" ++ toString g ++ ";" ++
    toString b ++ "m"

/-- Switches all attributes and colours off. -/
def attributesOff : String := rendition 0

def clearScreen : String := lead ++ "2J"

def hideCursor : String := lead ++ "?25l"

def showCursor : String := lead ++ "?25h"

/-- Places the cursor; line and column count from one. -/
def moveTo (line column : Nat) : String :=
  lead ++ toString line ++ ";" ++ toString column ++ "H"

end TextPane.Escape
