import TextPane.Toml.Text

/-! Documents.

A document is lines of entries and headers. A header says in which table the entries behind it go.
A text that breaks any rule is no document. -/
namespace TextPane.Toml

/-! ### Between values -/

/-- The line behind a comment sign, without its end. -/
def comment? : List Char → Option (List Char)
  | [] => some []
  | '\n' :: rest => some ('\n' :: rest)
  | '\r' :: '\n' :: rest => some ('\r' :: '\n' :: rest)
  | c :: rest => if isPlain c then comment? rest else none

/-- Skips blanks and a comment up to the end of the line, and the line end. -/
def lineEnd? (cs : List Char) : Option (List Char) := do
  let cs ← match cs.dropWhile isSpace with
    | '#' :: rest => comment? rest
    | cs => pure cs
  match cs with
  | [] => return []
  | '\n' :: rest => return rest
  | '\r' :: '\n' :: rest => return rest
  | _ => failure

/-- Skips blanks, comments and line ends, so many lines at most. -/
def skipLines? : Nat → List Char → Option (List Char)
  | 0, cs => some cs
  | lines + 1, cs =>
    match cs.dropWhile isSpace with
    | '#' :: rest => do skipLines? lines (← comment? rest)
    | '\n' :: rest => skipLines? lines rest
    | '\r' :: '\n' :: rest => skipLines? lines rest
    | cs => some cs

/-- Skips blanks, comments and line ends. -/
def skipBlank? (cs : List Char) : Option (List Char) := skipLines? (cs.length + 1) cs

/-! ### Values -/

/-- The characters at which a value without quotes ends. -/
def endsScalar (c : Char) : Bool := c ∈ "=,[]\x7b\x7d \t#\r\n".toList

/-- Reads a value without quotes off the front. A blank may stand between a date and a time. -/
def bare? (cs : List Char) : Option (Value × List Char) := do
  let front := cs.takeWhile (!endsScalar ·)
  let back := cs.dropWhile (!endsScalar ·)
  match date? front, back with
  | some [], ' ' :: c :: more =>
    if c.isDigit then
      let joined := front ++ ' ' :: (c :: more).takeWhile (!endsScalar ·)
      return (← scalar? joined, (c :: more).dropWhile (!endsScalar ·))
    else return (.moment, back)
  | _, _ => return (← scalar? front, back)

/-- How deep arrays and tables in braces may nest. -/
def nestingLimit : Nat := 80

mutual

/-- Reads a value off the front, in so many steps at most. -/
def value? (steps room : Nat) (cs : List Char) : Option (Value × List Char) :=
  match steps with
  | 0 => none
  | steps + 1 =>
    match cs, room with
    | '[' :: _, 0 => none
    | '\x7b' :: _, 0 => none
    | '[' :: rest, room + 1 => items? steps room [] rest
    | '\x7b' :: rest, room + 1 => braces? steps room { origin := .inline } rest
    | '"' :: _, _ => (quoted? cs).map fun (text, rest) => (.text (String.ofList text), rest)
    | '\'' :: _, _ => (quoted? cs).map fun (text, rest) => (.text (String.ofList text), rest)
    | _, _ => bare? cs

/-- Reads the items of an array up to its end. -/
def items? (steps room : Nat) (read : List Value) (cs : List Char) : Option (Value × List Char) :=
  match steps with
  | 0 => none
  | steps + 1 => do
    match ← skipBlank? cs with
    | ']' :: rest => return (.array read.reverse false, rest)
    | cs =>
      let (v, rest) ← value? steps room cs
      match ← skipBlank? rest with
      | ',' :: rest => items? steps room (v :: read) rest
      | ']' :: rest => return (.array (v :: read).reverse false, rest)
      | _ => failure

/-- Reads the entries of a table in braces up to its end. -/
def braces? (steps room : Nat) (read : Table) (cs : List Char) : Option (Value × List Char) :=
  match steps with
  | 0 => none
  | steps + 1 => do
    match ← skipBlank? cs with
    | '\x7d' :: rest => return (read.toValue, rest)
    | cs =>
      let (path, key, rest) ← key? cs
      let (v, rest) ← value? steps room ((← skip? '=' rest).dropWhile isSpace)
      let read ← read.define path key v
      match ← skipBlank? rest with
      | ',' :: rest => braces? steps room read rest
      | '\x7d' :: rest => return (read.toValue, rest)
      | _ => failure

end

/-! ### Lines -/

/-- The tables so far, and the path to the one that entries go in. -/
structure Draft where
  root : Table := { origin := .header }
  path : List String := []

namespace Draft

/-- Reads the header of an array behind its two brackets. -/
def itemHeader? (d : Draft) (cs : List Char) : Option (Draft × List Char) := do
  let (path, key, rest) ← key? cs
  let rest ← skip? ']' (← skip? ']' rest)
  return ({ root := ← d.root.openItem path key, path := path ++ [key] }, rest)

/-- Reads the header of a table behind its bracket. -/
def tableHeader? (d : Draft) (cs : List Char) : Option (Draft × List Char) := do
  let (path, key, rest) ← key? cs
  let rest ← skip? ']' rest
  return ({ root := ← d.root.openTable path key, path := path ++ [key] }, rest)

/-- Reads an entry. -/
def entry? (d : Draft) (cs : List Char) : Option (Draft × List Char) := do
  let (path, key, rest) ← key? cs
  let (v, rest) ← value? (cs.length + 1) nestingLimit ((← skip? '=' rest).dropWhile isSpace)
  let root ← d.root.change false d.path fun table => table.define path key v
  return ({ d with root }, rest)

/-- Reads what a line holds besides blanks and a comment. -/
def line? (d : Draft) : List Char → Option (Draft × List Char)
  | '[' :: '[' :: rest => d.itemHeader? rest
  | '[' :: rest => d.tableHeader? rest
  | cs => d.entry? cs

/-- Reads lines to the end, so many at most. -/
def lines? (d : Draft) : Nat → List Char → Option Draft
  | 0, _ => none
  | lines + 1, cs => do
    match ← skipBlank? cs with
    | [] => return d
    | cs =>
      let (d, rest) ← d.line? cs
      d.lines? lines (← lineEnd? rest)

end Draft

/-- The document without the mark that may stand at its front. -/
def withoutMark : List Char → List Char
  | '\uFEFF' :: rest => rest
  | cs => cs

/-- The table that a text defines as a whole, if it is a document. -/
def parse? (text : String) : Option Table := do
  let cs := withoutMark text.toList
  return (← Draft.lines? {} (cs.length + 1) cs).root

end TextPane.Toml
