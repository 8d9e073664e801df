import TextPane.Template.Argument
import TextPane.Template.Piece

/-! From values to spans.

A formatter turns a value into a span: a span stays itself, a type with a rule of its own follows
the rule, and anything else becomes its text. Of a template it makes a container, in which literal
text and arguments stay apart. Empty text always becomes the empty span. -/
namespace TextPane

/-- The types that a formatter can have a rule for. -/
inductive ValueType where
  | text
  | span
  | host (name : String)
deriving DecidableEq, Repr

/-- Rules by type; a rule sees the text of the value. -/
structure Formatter where
  rules : List (ValueType × (String → Span)) := []

namespace Formatter

instance : Inhabited Formatter := ⟨{}⟩

/-- The formatter with one more rule. A newer rule for a type replaces the older one. -/
def add (f : Formatter) (type : ValueType) (rule : String → Span) : Formatter :=
  { rules := (type, rule) :: f.rules }

def rule? (f : Formatter) (type : ValueType) : Option (String → Span) :=
  f.rules.lookup type

def knows (f : Formatter) (type : ValueType) : Bool := (f.rule? type).isSome

/-- Empty content is the empty span. -/
def collapse : Span → Span
  | .content text length => if text.isEmpty then .empty else .content text length
  | s => s

/-- The span of a value of a type, by its rule or else its text. -/
def formatAs (f : Formatter) (type : ValueType) (display : String) : Span :=
  match f.rule? type with
  | some rule => collapse (rule display)
  | none => Span.ofText display

/-- The span of a value that may be missing. -/
def format (f : Formatter) : Option Argument → Span
  | none => .empty
  | some (.span s) => s
  | some (.text s) => f.formatAs .text s
  | some (.host type display) => f.formatAs (.host type) display
  | some arg => Span.ofText arg.display

/-- The span of a template argument without a spec. Text takes no rule here. -/
def formatArgument (f : Formatter) : Argument → Span
  | .span s => s
  | .host type display => f.formatAs (.host type) display
  | arg => Span.ofText arg.display

/-- Content of the text, or nothing. -/
def contentIfAny (text : String) : List Span :=
  if text.isEmpty then [] else [Span.ofString text]

/-- The spans of one argument. A span with a spec is padded to its width by spans of its own. -/
def argumentSpans (f : Formatter) (index : Nat) (spec : Option FormatSpec) (arg : Argument) :
    Except TemplateError (List Span) :=
  match spec with
  | none => .ok [f.formatArgument arg]
  | some spec =>
    match arg with
    | .span s =>
      let (before, after) := spec.padding .left s.length
      .ok (contentIfAny before ++ [s] ++ contentIfAny after)
    | arg => do return [Span.ofText (← spec.apply index arg)]

/-- The spans of the pieces, in order. -/
def pieceSpans (f : Formatter) (args : Array Argument) : List Piece → Except TemplateError (List Span)
  | [] => .ok []
  | .literal text :: rest => do return Span.ofString text :: (← pieceSpans f args rest)
  | .argument index spec :: rest => do
    let here ← match args[index]? with
      | some arg => f.argumentSpans index spec arg
      | none => throw (.argumentOutOfRange index args.size)
    return here ++ (← pieceSpans f args rest)

/-- The text of literal pieces. -/
def literalText (pieces : List Piece) : String :=
  String.join (pieces.map fun
    | .literal text => text
    | .argument .. => "")

/-- The span of a template: a container, or plain text if no argument is in it. -/
def formatTemplate (f : Formatter) (format : String) (args : Array Argument) :
    Except TemplateError Span := do
  let pieces ← Piece.parseFor args.size format
  if pieces.any Piece.isArgument then
    return Span.ofList (← f.pieceSpans args pieces)
  else
    return Span.ofText (literalText pieces)

end Formatter

end TextPane
