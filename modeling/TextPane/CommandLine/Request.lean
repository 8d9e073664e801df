import TextPane.Demo

/-! Command lines.

The demonstration is named as it stands; everything else is an option with a value behind it or
behind an equals sign. A value is looked at once the next argument shows that it is complete, so of
several faults the one that is met first in that order counts. Behind two dashes nothing is an option
any more. -/
namespace TextPane

/-- The options that have a value. -/
inductive Setting where
  | mode
  | config
  | ticks
  | interval
deriving DecidableEq, Repr

namespace Setting

/-- The name behind the dashes. -/
def name : Setting → String
  | .mode => "mode"
  | .config => "config"
  | .ticks => "ticks"
  | .interval => "interval-ms"

def display : Setting → String
  | .mode => "--mode <MODE>"
  | .config => "--config <CONFIG>"
  | .ticks => "--ticks <TICKS>"
  | .interval => "--interval-ms <INTERVAL_MS>"

def ofName? (s : String) : Option Setting :=
  [mode, config, ticks, interval].find? (·.name == s)

end Setting

/-- How the demonstration is called in messages. -/
def demoDisplay : String := "[DEMO]"

/-- What is wrong with a command line. -/
inductive UsageError where
  /-- There is no value where one is needed. -/
  | missingValue (what : String)
  | invalidValue (value what : String) (reason : Option String)
  | unexpectedArgument (argument : String)
  | unexpectedValue (value what : String)
  | repeated (what : String)
deriving DecidableEq, Repr

def UsageError.message : UsageError → String
  | .missingValue what => "error: a value is required for '" ++ what ++ "' but none was supplied"
  | .invalidValue value what reason =>
    "error: invalid value '" ++ value ++ "' for '" ++ what ++ "'" ++
      (match reason with
        | some r => ": " ++ r
        | none => "")
  | .unexpectedArgument argument => "error: unexpected argument '" ++ argument ++ "' found"
  | .unexpectedValue value what =>
    "error: unexpected value '" ++ value ++ "' for '" ++ what ++ "' found; no more were expected"
  | .repeated what => "error: the argument '" ++ what ++ "' cannot be used multiple times"

/-! ### Numbers -/

/-- Why a text is not a number of the kind asked for. -/
inductive NumberFault where
  | empty
  | digit
  | large
  | small
deriving DecidableEq, Repr

def NumberFault.message : NumberFault → String
  | .empty => "cannot parse integer from empty string"
  | .digit => "invalid digit found in string"
  | .large => "number too large to fit in target type"
  | .small => "number too small to fit in target type"

/-- Reads digits behind `soFar`, up to a limit. -/
def readDigits (limit : Nat) (excess : NumberFault) (soFar : Nat) : List Char → Except NumberFault Nat
  | [] => .ok soFar
  | c :: rest =>
    if !c.isDigit then .error .digit
    else
      let next := soFar * 10 + (c.toNat - '0'.toNat)
      if limit < next then .error excess else readDigits limit excess next rest

/-- Reads a number that may have a plus sign. -/
def readUnsigned (limit : Nat) : List Char → Except NumberFault Nat
  | [] => .error .empty
  | ['+'] => .error .digit
  | '+' :: ds => readDigits limit .large 0 ds
  | ds => readDigits limit .large 0 ds

/-- Reads a number that may have a sign, in 64 bits. -/
def readSigned : List Char → Except NumberFault Int
  | ['-'] => .error .digit
  | '-' :: ds => do return -(← readDigits (2 ^ (63 : Nat)) .small 0 ds : Nat)
  | ds => do return (← readUnsigned (2 ^ (63 : Nat) - 1) ds : Nat)

/-! ### Reading arguments -/

/-- What a command line asks to run. -/
structure Invocation where
  demo : Demo := .grid
  mode : Option Mode := none
  config : Option String := none
  ticks : Nat := 20
  /-- Milliseconds between two ticks. -/
  interval : Nat := 200
deriving DecidableEq, Repr

inductive Request where
  | run (i : Invocation)
  | help
  | version
deriving DecidableEq, Repr

/-- An argument whose value is not looked at yet. An option may still be without one. -/
inductive Pending where
  | setting (s : Setting) (value : Option String)
  | demo (value : String)
deriving DecidableEq, Repr

/-- How far a command line was read. -/
structure Reading where
  invocation : Invocation := {}
  seen : List Setting := []
  demoSeen : Bool := false
  pending : Option Pending := none
deriving DecidableEq, Repr

/-- What an option changes. -/
def Setting.apply (s : Setting) (value : String) (i : Invocation) : Except UsageError Invocation :=
  let invalid (reason : String) : UsageError := .invalidValue value s.display (some reason)
  match s with
  | .mode =>
    match Mode.parse? value with
    | some m => .ok { i with mode := some m }
    | none => .error (invalid (Mode.unknownMessage value))
  | .config =>
    if value.isEmpty then .error (.missingValue s.display) else .ok { i with config := some value }
  | .ticks =>
    match readSigned value.toList with
    | .error fault => .error (invalid fault.message)
    | .ok n =>
      if 0 ≤ n ∧ n < 2 ^ (32 : Nat) then .ok { i with ticks := n.toNat }
      else .error (invalid (toString n ++ " is not in 0..=4294967295"))
  | .interval =>
    match readUnsigned (2 ^ (64 : Nat) - 1) value.toList with
    | .error fault => .error (invalid fault.message)
    | .ok n => .ok { i with interval := n }

namespace Reading

/-- Takes an option with its value. -/
def take (r : Reading) (s : Setting) : Option String → Except UsageError Reading
  | none => .error (.missingValue s.display)
  | some value => do
    if s ∈ r.seen then throw (.repeated s.display)
    return { r with invocation := ← s.apply value r.invocation, seen := s :: r.seen }

/-- Takes the name of the demonstration. -/
def takeDemo (r : Reading) (value : String) : Except UsageError Reading :=
  match Demo.ofName? value with
  | some demo => .ok { r with invocation := { r.invocation with demo } }
  | none =>
    .error (if value.isEmpty then .missingValue demoDisplay
      else .invalidValue value demoDisplay none)

/-- Looks at what is pending. -/
def settle (r : Reading) : Except UsageError Reading :=
  let done := { r with pending := none }
  match r.pending with
  | none => .ok done
  | some (.setting s value) => done.take s value
  | some (.demo value) => done.takeDemo value

/-- Takes an argument that stands for itself. -/
def value (r : Reading) (argument : String) : Except UsageError Reading :=
  if r.demoSeen then .error (.unexpectedArgument argument)
  else do return { ← r.settle with demoSeen := true, pending := some (.demo argument) }

/-- The name of a long option and the value behind an equals sign. -/
def splitEquals (cs : List Char) : String × Option String :=
  match cs.dropWhile (· ≠ '=') with
  | [] => (String.ofList cs, none)
  | _ :: v => (String.ofList (cs.takeWhile (· ≠ '=')), some (String.ofList v))

/-- Ends reading with a request. -/
def stop (r : Reading) (request : Request) : Except UsageError (Reading ⊕ Request) := do
  let _ ← r.settle
  return .inr request

/-- Takes an option behind two dashes. -/
def long (r : Reading) (cs : List Char) : Except UsageError (Reading ⊕ Request) :=
  match splitEquals cs with
  | ("help", none) => r.stop .help
  | ("version", none) => r.stop .version
  | ("help", some v) => .error (.unexpectedValue v "--help")
  | ("version", some v) => .error (.unexpectedValue v "--version")
  | (name, v) =>
    match Setting.ofName? name, v with
    | none, _ => .error (.unexpectedArgument ("--" ++ name))
    | some s, none => do return .inl { ← r.settle with pending := some (.setting s none) }
    | some s, some v => do return .inl (← (← r.settle).take s (some v))

/-- Takes an option behind one dash, of which only the first letter counts. -/
def short (r : Reading) (c : Char) : Except UsageError (Reading ⊕ Request) :=
  match c with
  | 'h' => r.stop .help
  | 'V' => r.stop .version
  | c => .error (.unexpectedArgument ("-" ++ String.singleton c))

/-- Takes an argument that is neither an option nor behind two dashes. -/
def plain (r : Reading) (argument : String) : Except UsageError Reading :=
  match r.pending with
  | some (.setting s none) => .ok { r with pending := some (.setting s (some argument)) }
  | _ => r.value argument

/-- Reads the arguments behind two dashes. -/
def trailing (r : Reading) : List String → Except UsageError Request
  | [] => do return .run (← r.settle).invocation
  | argument :: rest => do trailing (← r.value argument) rest

/-- Reads arguments. -/
def arguments (r : Reading) : List String → Except UsageError Request
  | [] => do return .run (← r.settle).invocation
  | argument :: rest =>
    let proceed (step : Except UsageError (Reading ⊕ Request)) : Except UsageError Request := do
      match ← step with
      | .inl r => arguments r rest
      | .inr request => return request
    match argument.toList with
    | ['-', '-'] => r.trailing rest
    | '-' :: '-' :: cs => proceed (r.long cs)
    | '-' :: c :: _ => proceed (r.short c)
    | _ => do arguments (← r.plain argument) rest

end Reading

/-- What a command line asks for. -/
def Request.ofArguments (arguments : List String) : Except UsageError Request :=
  Reading.arguments {} arguments

end TextPane
