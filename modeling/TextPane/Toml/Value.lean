import TextPane.Number

/-! TOML values and the rules for defining them.

A document defines tables by headers, by passing through them on the way to others, by dotted keys
and inline. Nothing is defined twice, so how a table came about decides what may still be added to
it. -/
namespace TextPane.Toml

/-- A number with a point or an exponent, as it is written. -/
inductive Real where
  | nan
  | infinite
  /-- The value `digits · 10 ^ exponent`; the sign makes no difference to what fits. -/
  | decimal (digits : Nat) (exponent : Int)
deriving DecidableEq, Repr

/-- How a table came about. -/
inductive Origin where
  /-- By a header of its own, or as the whole document. -/
  | header
  /-- On the way to the table of a longer header. -/
  | passed
  /-- By a dotted key. -/
  | dotted
  /-- In braces. -/
  | inline
deriving DecidableEq, Repr

inductive Value where
  | text (s : String)
  | integer (n : Int)
  | real (r : Real)
  | boolean (b : Bool)
  /-- A date, a time or both. -/
  | moment
  /-- The second part says whether the items are tables that came of headers. -/
  | array (items : List Value) (ofTables : Bool)
  | table (origin : Origin) (entries : List (String × Value))

/-- The entries of a table, and how it came about. -/
structure Table where
  origin : Origin
  entries : List (String × Value) := []

namespace Table

def toValue (t : Table) : Value := .table t.origin t.entries

def find? (t : Table) (key : String) : Option Value := t.entries.lookup key

/-- Adds an entry at the end, or replaces the one with that key. -/
def put (t : Table) (key : String) (v : Value) : Table :=
  if (t.find? key).isSome then
    { t with entries := t.entries.map fun e => if e.1 == key then (key, v) else e }
  else { t with entries := t.entries ++ [(key, v)] }

/-- Whether a header or a dotted key may pass through a table. -/
def admits (t : Table) (dotted : Bool) : Bool :=
  match t.origin with
  | .inline => false
  | .header => !dotted
  | .passed | .dotted => true

/-- Changes the table at the end of a path, making tables on the way where there are none. From an
array of tables the way leads through the last one. -/
def change (dotted : Bool) (path : List String) (f : Table → Option Table) (t : Table) :
    Option Table :=
  match path with
  | [] => f t
  | key :: path =>
    match t.find? key with
    | none => do
      let made : Table := { origin := if dotted then .dotted else .passed }
      return t.put key (← made.change dotted path f).toValue
    | some (.table origin entries) =>
      let inner : Table := { origin, entries }
      if inner.admits dotted then do
        return t.put key (← inner.change dotted path f).toValue
      else none
    | some (.array items true) =>
      match items.getLast? with
      | some (.table origin entries) => do
        let last ← Table.change dotted path f { origin, entries }
        return t.put key (.array (items.dropLast ++ [last.toValue]) true)
      | _ => none
    | some _ => none

/-- Adds a new entry. The table that a dotted key ends in is one that dotted keys made. -/
def define (path : List String) (key : String) (v : Value) (t : Table) : Option Table :=
  t.change (!path.isEmpty) path fun t =>
    if (t.origin == .dotted) == path.isEmpty then none
    else if (t.find? key).isSome then none
    else some (t.put key v)

/-- Takes up the table of a header. One that was only passed so far is defined by that. -/
def openTable (path : List String) (key : String) (t : Table) : Option Table :=
  t.change false path fun t =>
    match t.find? key with
    | none => some (t.put key (.table .header []))
    | some (.table .passed entries) => some (t.put key (.table .header entries))
    | some _ => none

/-- Adds a table to the array of a header. -/
def openItem (path : List String) (key : String) (t : Table) : Option Table :=
  t.change false path fun t =>
    match t.find? key with
    | none => some (t.put key (.array [.table .header []] true))
    | some (.array items true) => some (t.put key (.array (items ++ [.table .header []]) true))
    | some _ => none

end Table

end TextPane.Toml
