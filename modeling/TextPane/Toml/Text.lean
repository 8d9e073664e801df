import TextPane.Toml.Scalar

/-! Quoted text and keys.

Every reader takes what it reads off the front and gives the rest. Control characters other than the
tab stand in no text, except line ends where text may have several lines. -/
namespace TextPane.Toml

def isSpace (c : Char) : Bool := c == ' ' || c == '\t'

/-- Whether a character may stand as it is in text and in comments. -/
def isPlain (c : Char) : Bool := c == '\t' || (0x20 ≤ c.toNat && c.toNat != 0x7F)

/-- The character of a code point in hexadecimal digits. -/
def hexChar? (ds : List Char) : Option Char := do
  let n := (← ds.mapM (digit? 16)).foldl (fun n d => n * 16 + d) 0
  if n.isValidChar then return Char.ofNat n
  failure

/-- The character that stands for a letter behind a backslash. -/
def escape? : Char → Option Char
  | 'b' => some '\x08'
  | 't' => some '\t'
  | 'n' => some '\n'
  | 'f' => some '\x0c'
  | 'r' => some '\r'
  | 'e' => some '\x1b'
  | '"' => some '"'
  | '\\' => some '\\'
  | _ => none

/-- A character in front of text that is read. -/
def consText (c : Char) (read : Option (List Char × List Char)) : Option (List Char × List Char) :=
  read.map fun (text, rest) => (c :: text, rest)

/-- Reads text up to the quote, with escapes. -/
def basicText : List Char → Option (List Char × List Char)
  | [] => none
  | '"' :: rest => some ([], rest)
  | '\\' :: 'x' :: a :: b :: rest => do consText (← hexChar? [a, b]) (basicText rest)
  | '\\' :: 'u' :: a :: b :: c :: d :: rest => do consText (← hexChar? [a, b, c, d]) (basicText rest)
  | '\\' :: 'U' :: a :: b :: c :: d :: e :: f :: g :: h :: rest => do
    consText (← hexChar? [a, b, c, d, e, f, g, h]) (basicText rest)
  | '\\' :: c :: rest => do consText (← escape? c) (basicText rest)
  | c :: rest => if isPlain c then consText c (basicText rest) else none

/-- Reads text up to the apostrophe, without escapes. -/
def literalText : List Char → Option (List Char × List Char)
  | [] => none
  | '\'' :: rest => some ([], rest)
  | c :: rest => if isPlain c then consText c (literalText rest) else none

/-- Where reading stands in text of several lines: in the text, behind a backslash that has to end
its line, or in the blanks that such a backslash takes away. -/
inductive LineState where
  | text
  | ending
  | blanks
deriving DecidableEq, Repr

/-- Reads text of several lines up to three quotes. The last three of up to five quotes count. -/
def basicLines : LineState → List Char → Option (List Char × List Char)
  | _, [] => none
  | .ending, '\n' :: rest => basicLines .blanks rest
  | .ending, '\r' :: '\n' :: rest => basicLines .blanks rest
  | .ending, c :: rest => if isSpace c then basicLines .ending rest else none
  | .blanks, ' ' :: rest => basicLines .blanks rest
  | .blanks, '\t' :: rest => basicLines .blanks rest
  | .blanks, '\n' :: rest => basicLines .blanks rest
  | .blanks, '\r' :: '\n' :: rest => basicLines .blanks rest
  | _, '"' :: '"' :: '"' :: '"' :: '"' :: rest => some (['"', '"'], rest)
  | _, '"' :: '"' :: '"' :: '"' :: rest => some (['"'], rest)
  | _, '"' :: '"' :: '"' :: rest => some ([], rest)
  | _, '\\' :: 'x' :: a :: b :: rest => do consText (← hexChar? [a, b]) (basicLines .text rest)
  | _, '\\' :: 'u' :: a :: b :: c :: d :: rest => do
    consText (← hexChar? [a, b, c, d]) (basicLines .text rest)
  | _, '\\' :: 'U' :: a :: b :: c :: d :: e :: f :: g :: h :: rest => do
    consText (← hexChar? [a, b, c, d, e, f, g, h]) (basicLines .text rest)
  | _, '\\' :: '\n' :: rest => basicLines .blanks rest
  | _, '\\' :: '\r' :: '\n' :: rest => basicLines .blanks rest
  | _, '\\' :: c :: rest =>
    if isSpace c then basicLines .ending rest
    else do consText (← escape? c) (basicLines .text rest)
  | _, '\n' :: rest => consText '\n' (basicLines .text rest)
  | _, '\r' :: '\n' :: rest => consText '\r' (consText '\n' (basicLines .text rest))
  | _, c :: rest => if isPlain c then consText c (basicLines .text rest) else none

/-- Reads text of several lines up to three apostrophes. The last three of up to five count. -/
def literalLines : List Char → Option (List Char × List Char)
  | [] => none
  | '\'' :: '\'' :: '\'' :: '\'' :: '\'' :: rest => some (['\'', '\''], rest)
  | '\'' :: '\'' :: '\'' :: '\'' :: rest => some (['\''], rest)
  | '\'' :: '\'' :: '\'' :: rest => some ([], rest)
  | '\n' :: rest => consText '\n' (literalLines rest)
  | '\r' :: '\n' :: rest => consText '\r' (consText '\n' (literalLines rest))
  | c :: rest => if isPlain c then consText c (literalLines rest) else none

/-- The text behind a line end at its very front, which does not count. -/
def afterLineEnd : List Char → List Char
  | '\n' :: rest => rest
  | '\r' :: '\n' :: rest => rest
  | cs => cs

/-- Reads quoted text off the front, if a quote is there. -/
def quoted? : List Char → Option (List Char × List Char)
  | '"' :: '"' :: '"' :: rest => basicLines .text (afterLineEnd rest)
  | '"' :: rest => basicText rest
  | '\'' :: '\'' :: '\'' :: rest => literalLines (afterLineEnd rest)
  | '\'' :: rest => literalText rest
  | _ => none

/-! ### Keys -/

def isKeyChar (c : Char) : Bool := c.isAlphanum || c == '-' || c == '_'

/-- Reads one part of a key. -/
def keyPart? (cs : List Char) : Option (String × List Char) :=
  match cs with
  | '"' :: '"' :: '"' :: _ => none
  | '\'' :: '\'' :: '\'' :: _ => none
  | '"' :: rest => (basicText rest).map fun (text, rest) => (String.ofList text, rest)
  | '\'' :: rest => (literalText rest).map fun (text, rest) => (String.ofList text, rest)
  | cs =>
    if (cs.takeWhile isKeyChar).isEmpty then none
    else some (String.ofList (cs.takeWhile isKeyChar), cs.dropWhile isKeyChar)

/-- Reads the parts of a key with points between them, so many at most. -/
def keyParts? : Nat → List Char → Option (List String × List Char)
  | 0, _ => none
  | count + 1, cs => do
    let (part, rest) ← keyPart? (cs.dropWhile isSpace)
    match rest.dropWhile isSpace with
    | '.' :: more =>
      let (parts, rest) ← keyParts? count more
      return (part :: parts, rest)
    | rest => return ([part], rest)

/-- Reads a key and the blanks around it: the path to its last part, and that part. -/
def key? (cs : List Char) : Option (List String × String × List Char) := do
  let (parts, rest) ← keyParts? cs.length cs
  return (parts.dropLast, ← parts.getLast?, rest)

end TextPane.Toml
