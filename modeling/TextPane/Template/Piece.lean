import TextPane.Template.Spec

/-! Templates in pieces.

A format text is literal text with placeholders in braces; a doubled brace is a literal one. A
placeholder names its argument by number, or takes the next one of those that are not named, and may
carry a format spec behind a colon. -/
namespace TextPane

inductive Piece where
  | literal (text : String)
  | argument (index : Nat) (spec : Option FormatSpec)
deriving DecidableEq, Repr

namespace Piece

def isArgument : Piece → Bool
  | .argument .. => true
  | .literal _ => false

/-- A literal character before the pieces. Neighbouring literals are one. -/
def cons (c : Char) : List Piece → List Piece
  | .literal text :: rest => .literal (String.singleton c ++ text) :: rest
  | pieces => .literal (String.singleton c) :: pieces

/-- The parts of a placeholder before and behind its first colon. -/
def splitColon (inner : List Char) : List Char × Option (List Char) :=
  match inner.dropWhile (· ≠ ':') with
  | _ :: spec => (inner.takeWhile (· ≠ ':'), some spec)
  | [] => (inner, none)

/-- The argument of a placeholder, given the number of the next unnamed one, and the number of the
one after it. -/
def argumentIndex (next : Nat) (name : List Char) : Except TemplateError (Nat × Nat) :=
  if name.isEmpty then .ok (next, next + 1)
  else match Text.wordOfChars? (Text.trimChars name) with
    | some index => .ok (index, next)
    | none => .error (.invalidIndex (String.ofList name))

/-- The spec of a placeholder, if it has one. -/
def argumentSpec : Option (List Char) → Except TemplateError (Option FormatSpec)
  | none => .ok none
  | some spec => do return some (← FormatSpec.parse (String.ofList spec))

mutual

/-- Reads from the byte `offset` on, outside placeholders. -/
def readText (next offset : Nat) : List Char → Except TemplateError (List Piece)
  | [] => .ok []
  | '\x7b' :: '\x7b' :: rest => do return cons '\x7b' (← readText next (offset + 2) rest)
  | '\x7b' :: rest => readPlaceholder next offset (offset + 1) [] rest
  | '\x7d' :: '\x7d' :: rest => do return cons '\x7d' (← readText next (offset + 2) rest)
  | '\x7d' :: _ => .error (.unmatchedBrace offset)
  | c :: rest => do return cons c (← readText next (offset + c.utf8Size) rest)

/-- Reads from the byte `offset` on, inside the placeholder that opened at `start` and reads `inner`
so far. -/
def readPlaceholder (next start offset : Nat) (inner : List Char) :
    List Char → Except TemplateError (List Piece)
  | [] => .error (.unclosedPlaceholder start)
  | '\x7d' :: rest => do
    let (name, spec) := splitColon inner
    let (index, next) ← argumentIndex next name
    let spec ← argumentSpec spec
    return .argument index spec :: (← readText next (offset + 1) rest)
  | c :: rest => readPlaceholder next start (offset + c.utf8Size) (inner ++ [c]) rest

end

/-- The pieces of a format text. -/
def parse (format : String) : Except TemplateError (List Piece) :=
  readText 0 0 format.toList

/-- The first argument that the pieces name beyond the `count` there are. -/
def firstMissing (count : Nat) (pieces : List Piece) : Option Nat :=
  pieces.findSome? fun
    | .argument index _ => if count ≤ index then some index else none
    | .literal _ => none

/-- The pieces of a format text for `count` arguments. -/
def parseFor (count : Nat) (format : String) : Except TemplateError (List Piece) := do
  let pieces ← parse format
  match firstMissing count pieces with
  | some index => throw (.argumentOutOfRange index count)
  | none => return pieces

end Piece

end TextPane
