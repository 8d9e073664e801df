import TextPane.Text.Case

/-! The colours of a console.

Sixteen colours, eight of them light. A colour is known by its name in any ASCII case; `reset` is a
name for leaving the colour to the console and so for none of the sixteen. -/
namespace TextPane

inductive Color where
  | black
  | red
  | green
  | yellow
  | blue
  | magenta
  | cyan
  | white
  | darkGray
  | lightRed
  | lightGreen
  | lightYellow
  | lightBlue
  | lightMagenta
  | lightCyan
  | lightGray
deriving DecidableEq, Repr

namespace Color

/-- The colours in palette order. -/
def palette : List Color :=
  [.black, .red, .green, .yellow, .blue, .magenta, .cyan, .white, .darkGray, .lightRed, .lightGreen,
    .lightYellow, .lightBlue, .lightMagenta, .lightCyan, .lightGray]

/-- The place of a colour in the palette. -/
def index (c : Color) : Nat := palette.findIdx (· == c)

def name : Color → String
  | .black => "black"
  | .red => "red"
  | .green => "green"
  | .yellow => "yellow"
  | .blue => "blue"
  | .magenta => "magenta"
  | .cyan => "cyan"
  | .white => "white"
  | .darkGray => "darkgray"
  | .lightRed => "lightred"
  | .lightGreen => "lightgreen"
  | .lightYellow => "lightyellow"
  | .lightBlue => "lightblue"
  | .lightMagenta => "lightmagenta"
  | .lightCyan => "lightcyan"
  | .lightGray => "lightgray"

/-- The name with its words capitalised. -/
def title : Color → String
  | .black => "Black"
  | .red => "Red"
  | .green => "Green"
  | .yellow => "Yellow"
  | .blue => "Blue"
  | .magenta => "Magenta"
  | .cyan => "Cyan"
  | .white => "White"
  | .darkGray => "DarkGray"
  | .lightRed => "LightRed"
  | .lightGreen => "LightGreen"
  | .lightYellow => "LightYellow"
  | .lightBlue => "LightBlue"
  | .lightMagenta => "LightMagenta"
  | .lightCyan => "LightCyan"
  | .lightGray => "LightGray"

/-- The name a terminal's palette gives the colour: there the light shade has the plain name and
the normal one is dark. -/
def paletteTitle : Color → String
  | .black => "Black"
  | .red => "DarkRed"
  | .green => "DarkGreen"
  | .yellow => "DarkYellow"
  | .blue => "DarkBlue"
  | .magenta => "DarkMagenta"
  | .cyan => "DarkCyan"
  | .white => "Grey"
  | .darkGray => "DarkGrey"
  | .lightRed => "Red"
  | .lightGreen => "Green"
  | .lightYellow => "Yellow"
  | .lightBlue => "Blue"
  | .lightMagenta => "Magenta"
  | .lightCyan => "Cyan"
  | .lightGray => "White"

/-- The colour of that name, in any ASCII case. -/
def ofName? (s : String) : Option Color :=
  let key := Text.lowerAscii s
  palette.find? (·.name == key)

end Color

/-- What a colour is applied to. -/
inductive Channel where
  | foreground
  | background
deriving DecidableEq, Repr

end TextPane
