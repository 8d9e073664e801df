import TextPane.Escape
import TextPane.Terminal.Basic

/-! What is sent to a real terminal.

Every call has an escape sequence, also those by which a console is driven: colours are then chosen
by their number in the palette. -/
namespace TextPane

namespace Escape

/-- Chooses a colour by its place in the palette. -/
def paletteColor (c : Color) (channel : Channel) : String :=
  lead ++ toString (38 + channelOffset channel) ++ ";5;" ++ toString c.index ++ "m"

/-- Sets the title of the window. -/
def title (text : String) : String := "\x1b]0;" ++ text ++ "\x07"

/-- Shows the other screen of the terminal, which keeps no history. -/
def enterOtherScreen : String := lead ++ "?1049h"

def leaveOtherScreen : String := lead ++ "?1049l"

end Escape

/-- What is sent for a call. -/
def Call.sequence : Call → String
  | .write text => text
  | .moveTo left top => Escape.moveTo (top + 1) (left + 1)
  | .foreground c => Escape.paletteColor c .foreground
  | .background c => Escape.paletteColor c .background
  | .resetColor => Escape.attributesOff
  | .hideCursor => Escape.hideCursor
  | .showCursor => Escape.showCursor
  | .clear => Escape.clearScreen
  | .flush => ""

/-- All that was sent to a terminal. -/
def Terminal.sent (t : Terminal) : String := t.calls.foldl (fun s c => s ++ c.sequence) ""

end TextPane
