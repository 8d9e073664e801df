import TextPane.Scene.Container

/-! Tables.

A table shows items as rows of a grid: the first row holds the headers of the columns, and each
item has a row that is as high as its cells need. A cell is a view that a factory makes of the item,
and a factory may do anything to the scene meanwhile. Whenever items or columns change, the grid is
built anew, and the table listens to the new one. -/
namespace TextPane

/-- What makes a cell of an item. It may do to the scene what it likes, and it returns a node that is
held for whoever called it. No scene comes twice while a table is filled, so a factory that remembers
something from one call to the next is one of these, too. -/
abbrev Factory := Scene → List String → Scene × NodeId

abbrev Factories := FactoryId → Factory

/-- What a cell of the grid of a table is to hold: the head of a column, or what a factory makes of an
item. -/
inductive Filler where
  | header (n : NodeId)
  | made (factory : FactoryId) (item : List String)
deriving DecidableEq, Repr

/-- A cell, and what it is to hold. -/
structure Filling where
  column : Nat
  row : Nat
  filler : Filler
deriving DecidableEq, Repr

/-- What comes into a column of the grid of a table, from the top down: its header, and a cell for each
item. -/
def TableColumn.fillings (c : TableColumn) (column : Nat) (items : List (List String)) : List Filling :=
  ⟨column, 0, .header c.header⟩ ::
    items.zipIdx.map fun (item, row) => ⟨column, row + 1, .made c.factory item⟩

/-- What comes into the cells of the grid of a table, column by column. -/
def fillings (columns : List TableColumn) (items : List (List String)) : List Filling :=
  columns.zipIdx.flatMap fun (c, column) => c.fillings column items

/-- The view that a cell is to hold, held for whoever puts it there. -/
def Filler.view (s : Scene) (factories : Factories) : Filler → Scene × NodeId
  | .header n => (s.hold n, n)
  | .made factory item => factories factory s item

namespace Scene

/-- Adds a table without items and columns. -/
def createTable (s : Scene) (gutter : Nat) : Scene × NodeId :=
  let (s, grid) := s.addNode (.grid { gutter })
  let (s, n) := s.create .gone
  let (s, slot) := s.enter n grid
  (s.setBody n (.table { gutter, grid := slot }), n)

/-- The items of a table. -/
def items (s : Scene) (n : NodeId) : List (List String) :=
  match s.body n with
  | .table t => t.items
  | _ => []

/-- Puts views into the cells of a grid, until one is refused. -/
def fill (s : Scene) (factories : Factories) (grid : NodeId) :
    List Filling → Scene × Except LayoutError Unit
  | [] => (s, .ok ())
  | f :: rest =>
    let (s, view) := f.filler.view s factories
    match s.setChild grid view f.column f.row with
    | .error e => (s.letGo view, .error e)
    | .ok s => (s.letGo view).fill factories grid rest

/-- Settles the tracks of a grid for columns and so many items. -/
def settle (s : Scene) (grid : NodeId) (columns : List TableColumn) (items : Nat) :
    Except LayoutError Scene := do
  let s ← s.setColumns grid (columns.map (·.track))
  s.setRows grid (List.replicate (items + 1) .auto)

/-- Creates a grid for columns and items. Without columns it is left as it comes. -/
def buildGrid (s : Scene) (factories : Factories) (gutter : Nat) (columns : List TableColumn)
    (items : List (List String)) : Scene × Except LayoutError NodeId :=
  let (s, grid) := s.create (.grid { gutter })
  if columns.isEmpty then (s, .ok grid)
  else
    match s.settle grid columns items.length with
    | .error e => (s.letGo grid, .error e)
    | .ok s =>
      match s.fill factories grid (fillings columns items) with
      | (s, .error e) => (s.letGo grid, .error e)
      | (s, .ok ()) => (s, .ok grid)

/-- Gives a table further columns, other items and another grid, which it listens to. -/
def takeGrid (s : Scene) (n : NodeId) (t : Table) (new : List TableColumn)
    (items : List (List String)) (grid : NodeId) : Scene :=
  let (s, slot) := s.enter n grid
  s.setBody n (.table { t with columns := t.columns ++ new, items, grid := slot })

/-- Gives a table further columns, other items and the grid that was built for them, all of which it
holds from then on in place of whoever held them for the call. It leaves the grid that it had. -/
def install (s : Scene) (n : NodeId) (new : List TableColumn) (items : List (List String))
    (grid : NodeId) : Scene :=
  let s := { s with held := (grid :: new.map TableColumn.header).foldl List.erase s.held }
  match s.body n with
  | .table t => (((s.takeGrid n t new items grid).leave t.grid).sweep).raise n
  | _ => s.sweep

/-- Replaces what a table shows, with a grid built for it. -/
def rebuild (s : Scene) (factories : Factories) (n : NodeId) (t : Table) (new : List TableColumn)
    (items : List (List String)) : Scene × Except LayoutError Unit :=
  match s.buildGrid factories t.gutter (t.columns ++ new) items with
  | (s, .error e) => ((new.map TableColumn.header).foldl letGo s, .error e)
  | (s, .ok grid) => (s.install n new items grid, .ok ())

/-- Replaces the items of a table; the second part says whether that was refused. -/
def setItems (s : Scene) (factories : Factories) (n : NodeId) (items : List (List String)) :
    Scene × Except LayoutError Unit :=
  match s.body n with
  | .table t => s.rebuild factories n t [] items
  | _ => (s, .ok ())

/-- Adds a column at the end of a table, with a hold of its header; the second part says whether that
was refused. -/
def addColumn (s : Scene) (factories : Factories) (n : NodeId) (column : TableColumn) :
    Scene × Except LayoutError Unit :=
  match s.body n with
  | .table t => (s.hold column.header).rebuild factories n t [column] t.items
  | _ => (s, .ok ())

end Scene

/-- Makes cells that show one field of an item, with the number of items of a table behind it if one is
given. -/
def Factory.ofField (field : Nat) (total : Option NodeId) : Factory := fun s item =>
  let text := (item[field]?).getD ""
  let text := match total with
    | some n => text ++ "/" ++ toString (s.items n).length
    | none => text
  s.create (.content (.ofText text) none)

end TextPane
