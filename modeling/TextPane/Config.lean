import TextPane.Terminal.Mode
import TextPane.Toml.Document

/-! Settings.

Settings come from a text with a section for each matter. What a section leaves out has its default,
and what is not known is passed over. A text that is no document, or that has a value of the wrong
sort, counts as if there were none. -/
namespace TextPane

structure RenderSettings where
  mode : String := "auto"
  reset : Bool := true
  overwrite : Bool := true
deriving DecidableEq, Repr

structure Config where
  /-- The text that the settings come from. -/
  source : Option String := none
  render : RenderSettings := {}
  gridGutter : Nat := 0
  tableGutter : Nat := 1
  hideCursor : Bool := true
deriving DecidableEq, Repr

namespace Toml

/-- Integers are read in 128 bits, with a sign or without. -/
def fitsInteger (n : Int) : Bool := -(2 ^ (127 : Nat) : Int) ≤ n && n < (2 ^ (128 : Nat) : Int)

/-- From here on reals are nearest to infinity in double precision. -/
def realLimit : Nat := 2 ^ (1024 : Nat) - 2 ^ (970 : Nat)

/-- Whether a real fits in double precision. -/
def Real.fits : Real → Bool
  | .nan | .infinite => true
  | .decimal 0 _ => true
  | .decimal digits exponent =>
    let places := (Nat.toDigits 10 digits).length + exponent
    if places < 309 then true
    else if 309 < places then false
    else digits * 10 ^ exponent.toNat < realLimit * 10 ^ (-exponent).toNat

mutual

/-- Whether all numbers in a value can be held. -/
def Value.fits : Value → Bool
  | .integer n => fitsInteger n
  | .real r => r.fits
  | .array items _ => allFit items
  | .table _ entries => allEntriesFit entries
  | .text _ | .boolean _ | .moment => true

def allFit : List Value → Bool
  | [] => true
  | v :: rest => v.fits && allFit rest

def allEntriesFit : List (String × Value) → Bool
  | [] => true
  | (_, v) :: rest => v.fits && allEntriesFit rest

end

/-- The fields of a section in the order of their names. A section may also be an array of the
fields in that order; a date has none of them. In a table, other entries are passed over if they
can be held. -/
def fields? (names : List String) : Value → Option (List (Option Value))
  | .table _ entries =>
    if allEntriesFit (entries.filter fun e => !names.contains e.1) then
      some (names.map fun name => entries.lookup name)
    else none
  | .array items _ => some ((List.range names.length).map fun i => items[i]?)
  | .moment => some (names.map fun _ => none)
  | _ => none

/-- A field that is text, or its default. -/
def text? (default : String) : Option Value → Option String
  | none => some default
  | some (.text s) => some s
  | some _ => none

/-- A field that is a truth value, or its default. -/
def boolean? (default : Bool) : Option Value → Option Bool
  | none => some default
  | some (.boolean b) => some b
  | some _ => none

/-- A field that is a number of cells, or its default. -/
def cells? (default : Nat) : Option Value → Option Nat
  | none => some default
  | some (.integer n) => if 0 ≤ n ∧ n < 65536 then some n.toNat else none
  | some _ => none

end Toml

namespace Config
open Toml

/-- The fields of the section of that name in a document. -/
def section? (doc : Table) (name : String) (fields : List String) : Option (List (Option Value)) :=
  match doc.find? name with
  | none => some (fields.map fun _ => none)
  | some v => fields? fields v

def render? (doc : Table) : Option RenderSettings := do
  let fields ← section? doc "render" ["mode", "reset_after_render", "overwrite_on_render"]
  return { mode := ← text? "auto" (fields[0]?).join
           reset := ← boolean? true (fields[1]?).join
           overwrite := ← boolean? true (fields[2]?).join }

/-- The gutter that a section sets. -/
def gutter? (doc : Table) (name : String) (default : Nat) : Option Nat := do
  let fields ← section? doc name ["column_gutter"]
  cells? default (fields[0]?).join

def hideCursor? (doc : Table) : Option Bool := do
  let fields ← section? doc "screen" ["hide_cursor"]
  boolean? true (fields[0]?).join

/-- The settings of a text, if it is a document with values of the right sorts. -/
def parse? (source : String) : Option Config := do
  let doc ← Toml.parse? source
  let known := ["render", "grid", "table", "screen"]
  if !allEntriesFit (doc.entries.filter fun e => !known.contains e.1) then failure
  return { source := some source
           render := ← render? doc
           gridGutter := ← gutter? doc "grid" 0
           tableGutter := ← gutter? doc "table" 1
           hideCursor := ← hideCursor? doc }

/-- The settings of a file. Bytes that are no text count as if there were none. -/
def ofBytes (bytes : ByteArray) : Config :=
  ((String.fromUTF8? bytes).bind parse?).getD {}

/-- The settings of a file that may be missing. -/
def ofFile : Option ByteArray → Config
  | none => {}
  | some bytes => ofBytes bytes

/-- The output mode asked for. A name that no mode has asks for none in particular. -/
def mode (c : Config) : Mode := (Mode.parse? c.render.mode).getD .auto

end Config

end TextPane
