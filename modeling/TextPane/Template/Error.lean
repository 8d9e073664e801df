import TextPane.Text.Quoted

/-! What can be wrong with a template. -/
namespace TextPane

inductive TemplateError where
  /-- A placeholder opens at this byte and never closes. -/
  | unclosedPlaceholder (offset : Nat)
  /-- A closing brace at this byte belongs to no placeholder. -/
  | unmatchedBrace (offset : Nat)
  | invalidIndex (text : String)
  | argumentOutOfRange (index count : Nat)
  | invalidSpec (spec : String)
  /-- The argument has no form that the spec asks for. -/
  | unsupportedSpec (index : Nat) (spec : String)
deriving DecidableEq, Repr

def TemplateError.message : TemplateError → String
  | .unclosedPlaceholder offset => "unclosed placeholder starting at byte " ++ toString offset
  | .unmatchedBrace offset => "unmatched '\x7d' at byte " ++ toString offset
  | .invalidIndex text => "invalid argument index " ++ Text.quoted text
  | .argumentOutOfRange index count =>
    "argument " ++ toString index ++ " out of range (" ++ toString count ++ " arguments supplied)"
  | .invalidSpec spec => "invalid format spec " ++ Text.quoted spec
  | .unsupportedSpec index spec =>
    "format spec " ++ Text.quoted spec ++ " not supported for argument " ++ toString index

end TextPane
