import TextPane.Text.Blank

/-! Wrap units.

For wrapping a text falls into words, blanks and line ends: maximal runs of characters that are not
blank, maximal runs of other blanks, and `\r\n`, `\n` or a lone `\r`. The units of a text put
together are the text. -/
namespace TextPane

inductive UnitKind where
  | word
  | space
  | newline
deriving DecidableEq, Repr

structure WrapUnit where
  kind : UnitKind
  text : List Char
deriving DecidableEq, Repr

namespace WrapUnit

/-- The sort of unit that a character belongs to. -/
def kindOf (c : Char) : UnitKind :=
  if c = '\n' ∨ c = '\r' then .newline else if Text.isBlank c then .space else .word

/-- Whether a character before a unit becomes part of it. -/
def absorbs (c : Char) (u : WrapUnit) : Bool :=
  match kindOf c with
  | .newline => c = '\r' ∧ u.text = ['\n']
  | kind => kind = u.kind

/-- The units of a text with one more character in front. -/
def cons (c : Char) : List WrapUnit → List WrapUnit
  | [] => [⟨kindOf c, [c]⟩]
  | u :: rest =>
    if absorbs c u then ⟨u.kind, c :: u.text⟩ :: rest else ⟨kindOf c, [c]⟩ :: u :: rest

/-- The units of a text, in order. -/
def ofChars : List Char → List WrapUnit
  | [] => []
  | c :: cs => cons c (ofChars cs)

end WrapUnit

end TextPane
