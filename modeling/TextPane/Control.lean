import TextPane.Escape

/-! Controls: instructions that take no columns.

A control carries the escape sequence that carries it out. Colours and text attributes also have a
name, by which a console without escape sequences can follow them. -/
namespace TextPane

structure ColorControl where
  name : String
  channel : Channel
  code : String
deriving DecidableEq, Repr

namespace ColorControl

/-- The colour of that name. A name that no colour has stands for the terminal's own colour. -/
def named (name : String) (channel : Channel) : ColorControl :=
  { name := Text.lowerAscii name
    channel
    code := match Color.ofName? name with
      | some c => Escape.color c channel
      | none => Escape.defaultColor channel }

/-- Back to the terminal's own colour. -/
def reset (channel : Channel) : ColorControl := named "reset" channel

def rgb (r g b : Nat) (channel : Channel) : ColorControl :=
  { name := "rgb(" ++ toString r ++ "," ++ toString g ++ "," ++ toString b ++ ")"
    channel
    code := Escape.rgb r g b channel }

/-- The names that color controls know, in palette order. -/
def names : List String := Color.palette.map Color.name ++ ["reset"]

end ColorControl

structure StyleControl where
  name : String
  code : String
deriving DecidableEq, Repr

namespace StyleControl

/-- The text attributes by name, with the number of their rendition. -/
def attributes : List (String × Nat) :=
  [("attributes_off", 0), ("bold_on", 1), ("bold_off", 22), ("dim_on", 2), ("italic_on", 3),
    ("italic_off", 23), ("underline_on", 4), ("underline_off", 24), ("blink_on", 5),
    ("blink_off", 25), ("reverse_on", 7), ("reverse_off", 27), ("hidden_on", 8), ("hidden_off", 28)]

/-- The attribute of that name. -/
def named? (name : String) : Option StyleControl :=
  (attributes.lookup name).map fun n => { name, code := Escape.rendition n }

end StyleControl

inductive Control where
  | color (c : ColorControl)
  | style (s : StyleControl)
  /-- A sequence without a name. -/
  | code (text : String)
  | hideCursor
  | showCursor
deriving DecidableEq, Repr

/-- The escape sequence of a control. -/
def Control.escape : Control → String
  | .color c => c.code
  | .style s => s.code
  | .code text => text
  | .hideCursor => Escape.hideCursor
  | .showCursor => Escape.showCursor

end TextPane
