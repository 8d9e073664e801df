import TextPane.Control
import TextPane.Text.Blank
import TextPane.Text.Compose
import TextPane.Text.Width

/-! Spans: styled text as a tree.

A span is text, a control, something that its host defines, or a container of spans. Text is stored
in composed form, so equal texts have equal widths. A container knows the sum of the lengths of its
children, so the length of a span is read off without a walk through the tree. The sum is kept in a
machine word: spans of a host may be so long that it starts over. -/
namespace TextPane

/-- A span whose meaning its host knows. Here it has a kind, a text and a length of its own. -/
structure HostSpan where
  kind : String
  text : String := ""
  length : Nat := 0
deriving DecidableEq, Repr

inductive Span where
  | empty
  | content (text : String) (length : Nat)
  | container (children : List Span) (length : Nat)
  | control (c : Control)
  | host (h : HostSpan)
deriving Repr

instance : Inhabited Span := ⟨.empty⟩

namespace Span

/-- Columns that the span takes when it is laid out on one line. -/
def length : Span → Nat
  | .empty | .control _ => 0
  | .content _ length => length
  | .container _ length => length
  | .host h => h.length

/-- A content span, also of empty text. -/
def ofString (s : String) : Span :=
  let text := Text.normalize s
  .content text (Text.displayWidth text)

/-- A content span, or the empty span where there is no text. -/
def ofText (s : String) : Span :=
  if s.isEmpty then .empty else ofString s

/-- The lengths of spans together. -/
def totalLength (children : List Span) : Nat := (children.map length).sum

/-- A container of the children. -/
def ofList (children : List Span) : Span :=
  .container children (Text.toWord (totalLength children))

def foreground (name : String) : Span := .control (.color (.named name .foreground))

def background (name : String) : Span := .control (.color (.named name .background))

def isEmpty : Span → Bool
  | .empty => true
  | _ => false

/-- The word for the sort of span. -/
def kind : Span → String
  | .empty => "empty"
  | .content .. => "content"
  | .container .. => "container"
  | .control _ => "control"
  | .host _ => "other"

/-! ### Text -/

mutual

/-- The visible text of a span, without its controls. -/
def plain : Span → String
  | .empty | .control _ => ""
  | .content text _ => text
  | .container children _ => plainAll children
  | .host h => h.text

def plainAll : List Span → String
  | [] => ""
  | s :: rest => s.plain ++ plainAll rest

end

mutual

/-- The text of a span with its controls written as escape sequences. -/
def ansi : Span → String
  | .empty => ""
  | .content text _ => text
  | .container children _ => ansiAll children
  | .control c => c.escape
  | .host h => h.text

def ansiAll : List Span → String
  | [] => ""
  | s :: rest => s.ansi ++ ansiAll rest

end

/-! ### Equality -/

mutual

/-- Equality by structure. Spans of a host are equal when their kinds and texts are. -/
def same : Span → Span → Bool
  | .empty, .empty => true
  | .content s m, .content t n => s == t && m == n
  | .container xs m, .container ys n => sameAll xs ys && m == n
  | .control c, .control d => c == d
  | .host g, .host h => g.kind == h.kind && g.text == h.text
  | _, _ => false

def sameAll : List Span → List Span → Bool
  | [], [] => true
  | x :: xs, y :: ys => same x y && sameAll xs ys
  | _, _ => false

end

instance : BEq Span := ⟨same⟩

end Span

/-! ### Containers -/

/-- The children of a container and the sum of their lengths. -/
structure Container where
  children : List Span
  length : Nat

namespace Container

def ofList (children : List Span) : Container :=
  { children, length := Text.toWord (Span.totalLength children) }

/-- The container with one more child. -/
def push (c : Container) (s : Span) : Container := ofList (c.children ++ [s])

/-- The container with more children, each adding its length to the sum. -/
def extend (c : Container) (more : List Span) : Container :=
  more.foldl
    (fun c s => { children := c.children ++ [s], length := Text.toWord (c.length + s.length) }) c

def toSpan (c : Container) : Span := .container c.children c.length

end Container

end TextPane
