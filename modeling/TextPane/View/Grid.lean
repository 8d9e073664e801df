import TextPane.View.Box
import TextPane.View.Sizing

/-! Grids: boxes in columns and rows.

Columns are sized first, with every cell measured at the height of the whole; rows then, with every
cell measured at the width its column leaves it. The gutter stands behind every column but the
last and belongs to the column. -/
namespace TextPane

/-- The sizes of the columns and rows of a grid. -/
structure GridLayout where
  columns : List Nat
  rows : List Nat
  gutter : Nat
deriving DecidableEq, Repr

/-- A part of the region of a grid. -/
inductive GridArea where
  | cell (column row : Nat) (region : Region)
  /-- The gap behind the cells of a column in one row. -/
  | gutter (region : Region)
deriving DecidableEq, Repr

namespace GridLayout

/-- The gutter behind a column. -/
def padOf (l : GridLayout) (column : Nat) : Nat :=
  if column + 1 < l.columns.length then l.gutter else 0

/-- What a column leaves to its content. -/
def contentWidth (l : GridLayout) (column : Nat) : Nat :=
  (l.columns[column]?).getD 0 - l.padOf column

/-- The areas of one row from a column on, for the widths from there on. -/
def rowAreas (l : GridLayout) (overwrite : Bool) (row top height left column : Nat) :
    List Nat → List GridArea
  | [] => []
  | width :: rest =>
    let inner := l.contentWidth column
    let gap := width - inner
    let cell := GridArea.cell column row { left, top, width := inner, height, overwrite }
    let gutter :=
      if 0 < gap then [GridArea.gutter { left := addCells left inner, top, width := gap, height }]
      else []
    cell :: gutter ++ l.rowAreas overwrite row top height (addCells left width) (column + 1) rest

/-- The areas of the rows from one on, for the heights from there on. -/
def areasFrom (l : GridLayout) (overwrite : Bool) (left top row : Nat) : List Nat → List GridArea
  | [] => []
  | height :: rest =>
    l.rowAreas overwrite row top height left 0 l.columns ++
      l.areasFrom overwrite left (addCells top height) (row + 1) rest

/-- The areas of a grid in a region, row by row. -/
def areas (l : GridLayout) (region : Region) : List GridArea :=
  l.areasFrom region.overwrite region.left region.top 0 l.rows

end GridLayout

/-- A grid: tracks, the gutter, and the cells row by row. A cell may be empty. -/
structure Grid (α : Type) where
  columns : List Track := []
  rows : List Track := []
  gutter : Nat := 0
  cells : List (Option α) := [none]
  /-- Whether a cell was ever filled, after which the tracks are settled. -/
  locked : Bool := false
deriving DecidableEq

namespace Grid

/-- The tracks that count. An axis for which none are given is one star. -/
def effective (tracks : List Track) : List Track := if tracks.isEmpty then [.star 1] else tracks

section
variable {α β : Type}

def columnCount (g : Grid α) : Nat := max g.columns.length 1

def rowCount (g : Grid α) : Nat := max g.rows.length 1

/-- The place of a cell in row order, if it is in the grid. -/
def index? (g : Grid α) (column row : Nat) : Option Nat :=
  if column < g.columnCount ∧ row < g.rowCount then some (row * g.columnCount + column) else none

/-- What stands in a cell. -/
def cell? (g : Grid α) (column row : Nat) : Option α :=
  (g.index? column row).bind fun i => (g.cells[i]?).join

/-- All that stands in cells, row by row. -/
def contents (g : Grid α) : List α := g.cells.filterMap id

/-- The grid with every cell empty. -/
def blank (g : Grid α) : Grid α :=
  { g with cells := List.replicate (g.columnCount * g.rowCount) none }

/-- Replaces tracks, as long as they are not settled. -/
def setTracks (g : Grid α) (new : Grid α → Grid α) : Except LayoutError (Grid α) :=
  if g.locked then .error .tracksLocked else .ok (new g).blank

/-- Replaces the columns. -/
def setColumns (g : Grid α) (columns : List Track) : Except LayoutError (Grid α) :=
  g.setTracks fun g => { g with columns }

/-- Replaces the rows. -/
def setRows (g : Grid α) (rows : List Track) : Except LayoutError (Grid α) :=
  g.setTracks fun g => { g with rows }

/-- Fills a cell. -/
def place (g : Grid α) (a : α) (column row : Nat) : Except LayoutError (Grid α) :=
  match g.index? column row with
  | none => .error (.cellOutOfRange column row g.columnCount g.rowCount)
  | some i => .ok { g with cells := g.cells.set i (some a), locked := true }

end

variable {m : Type → Type} [Monad m]

/-- The largest of extents that are yet to be measured, in turn, and at least `soFar`. -/
def largest (soFar : Nat) : List (m Nat) → m Nat
  | [] => pure soFar
  | extent :: rest => do largest (max soFar (← extent)) rest

/-- What a column needs within a width, measured at the full height. -/
def columnNeed (g : Grid (Box m)) (height column width : Nat) : m Nat :=
  largest 0 ((List.range g.rowCount).filterMap fun row =>
    (g.cell? column row).map fun b => do return (← b.measure ⟨width, height⟩).width)

/-- What a row needs within a height, measured at the widths of the columns. -/
def rowNeed (g : Grid (Box m)) (widths : GridLayout) (row height : Nat) : m Nat :=
  largest 0 ((List.range g.columnCount).filterMap fun column =>
    (g.cell? column row).map fun b => do
      return (← b.measure ⟨widths.contentWidth column, height⟩).height)

/-- Sizes columns and rows for the available space. -/
def layout (g : Grid (Box m)) (available : Size) (pass : Pass) : m GridLayout := do
  let columns ← Track.solve (g.columnNeed available.height) (effective g.columns) available.width
    g.gutter pass
  let widths : GridLayout := { columns, rows := [], gutter := g.gutter }
  let rows ← Track.solve (g.rowNeed widths) (effective g.rows) available.height 0 pass
  return { widths with rows }

/-- The size of a grid within limits. -/
def measure (g : Grid (Box m)) (limit : Size) : m Size := do
  let l ← g.layout limit .measure
  return ⟨min l.columns.sum limit.width, min l.rows.sum limit.height⟩

/-- Renders areas in turn. Empty cells and gutters are cleared where the region is overwritten. -/
def renderAreas (g : Grid (Box m)) (clear : Region → m Unit) (overwrite : Bool) :
    List GridArea → m Unit
  | [] => pure ()
  | .cell column row region :: rest => do
    match g.cell? column row with
    | some b => b.render region
    | none => if overwrite then clear region
    renderAreas g clear overwrite rest
  | .gutter region :: rest => do
    if overwrite then clear region
    renderAreas g clear overwrite rest

/-- A grid as a box of its own. `clear` blanks a region. -/
def box (clear : Region → m Unit) (g : Grid (Box m)) : Box m where
  measure := g.measure
  render region := do
    if region.isEmpty then return
    let l ← g.layout region.size .render
    renderAreas g clear region.overwrite (l.areas region)

end Grid

end TextPane
