import TextPane.View.Tree

/-! Layouts do not see what the boxes do.

A layout asks boxes for sizes and has them rendered, one after the other, and does nothing else. So
when the work of boxes is carried over to another sort of work in a way that keeps sequences
(`Carry`), laying out the carried boxes is the carried layout: for stacks (`Stack.map_box`), for grids
(`Grid.map_box`) and for trees of both (`View.map_box`). -/
namespace TextPane

/-- A way to carry one sort of work over to another: doing nothing stays that, and what is done in turn
is carried in turn. -/
structure Carry (m n : Type → Type) [Monad m] [Monad n] where
  run : {α : Type} → m α → n α
  run_pure : ∀ {α : Type} (a : α), run (pure a) = pure a
  run_bind : ∀ {α β : Type} (x : m α) (f : α → m β), run (x >>= f) = run x >>= fun a => run (f a)

section
variable {m n : Type → Type} [Monad m] [Monad n] (φ : Carry m n)

/-- A box whose work is carried over. -/
def Box.map (b : Box m) : Box n where
  measure limit := φ.run (b.measure limit)
  render region := φ.run (b.render region)

namespace Carry

/-- A choice between two pieces of work is carried over as one. -/
theorem run_ite {α : Type} (c : Prop) [Decidable c] (x y : m α) :
    φ.run (if c then x else y) = if c then φ.run x else φ.run y := by
  split <;> rfl

end Carry

/-! ### Stacks -/

namespace Stack

theorem run_measureAll (o : Orientation) (maxCross room cross : Nat) (boxes : List (Box m)) :
    φ.run (measureAll o maxCross room cross boxes) =
      measureAll o maxCross room cross (boxes.map (Box.map φ)) := by
  induction boxes generalizing room cross with
  | nil => exact φ.run_pure _
  | cons b rest ih =>
    simp only [measureAll, List.map_cons, Carry.run_ite, φ.run_pure, φ.run_bind, ih, Box.map]

theorem run_renderFrom (o : Orientation) (region : Region) (offset : Nat) (boxes : List (Box m)) :
    φ.run (renderFrom o region offset boxes) =
      renderFrom o region offset (boxes.map (Box.map φ)) := by
  induction boxes generalizing offset with
  | nil => exact φ.run_pure _
  | cons b rest ih =>
    simp only [renderFrom, List.map_cons, Carry.run_ite, φ.run_pure, φ.run_bind, ih, Box.map]

/-- A stack of carried boxes is the carried stack. -/
theorem map_box (o : Orientation) (boxes : List (Box m)) :
    (box o boxes).map φ = box o (boxes.map (Box.map φ)) := by
  simp only [Box.map, box, Box.mk.injEq]
  constructor
  · funext limit
    simp only [measure, φ.run_bind, run_measureAll, φ.run_pure]
  · funext region
    exact run_renderFrom φ o region 0 boxes

end Stack

/-! ### Grids -/

namespace Lane

theorem run_sizeContent (need : Nat → Nat → m Nat) (room : Nat) (lanes : List Lane) :
    φ.run (sizeContent need room lanes) =
      sizeContent (fun i available => φ.run (need i available)) room lanes := by
  induction lanes generalizing room with
  | nil => exact φ.run_pure _
  | cons l rest ih => simp only [sizeContent, Carry.run_ite, φ.run_bind, φ.run_pure, ih]

theorem run_sizeStars (need : Nat → Nat → m Nat) (pass : Pass) (pool total handed : Nat)
    (lanes : List Lane) :
    φ.run (sizeStars need pass pool total handed lanes) =
      sizeStars (fun i available => φ.run (need i available)) pass pool total handed lanes := by
  induction lanes generalizing handed with
  | nil => exact φ.run_pure _
  | cons l rest ih =>
    cases pass <;> simp only [sizeStars, Carry.run_ite, φ.run_bind, φ.run_pure, ih]

end Lane

theorem Track.run_solve (need : Nat → Nat → m Nat) (tracks : List Track) (available gutter : Nat)
    (pass : Pass) :
    φ.run (solve need tracks available gutter pass) =
      solve (fun i available => φ.run (need i available)) tracks available gutter pass := by
  simp only [solve, φ.run_bind, Carry.run_ite, φ.run_pure, Lane.run_sizeContent, Lane.run_sizeStars]

namespace Grid

/-- A grid with what stands in its cells replaced. -/
def map {α β : Type} (f : α → β) (g : Grid α) : Grid β :=
  { columns := g.columns, rows := g.rows, gutter := g.gutter
    cells := g.cells.map (Option.map f), locked := g.locked }

section
variable {α β : Type} (f : α → β) (g : Grid α)

@[simp] theorem columnCount_map : (g.map f).columnCount = g.columnCount := rfl

@[simp] theorem rowCount_map : (g.map f).rowCount = g.rowCount := rfl

@[simp] theorem cell?_map (column row : Nat) :
    (g.map f).cell? column row = (g.cell? column row).map f := by
  have hindex : (g.map f).index? column row = g.index? column row := rfl
  unfold cell?
  rw [hindex]
  cases g.index? column row with
  | none => rfl
  | some i =>
    simp only [map, Option.bind_some, List.getElem?_map]
    rcases g.cells[i]? with _ | _ | _ <;> rfl

end

theorem run_largest (soFar : Nat) (extents : List (m Nat)) :
    φ.run (largest soFar extents) = largest soFar (extents.map φ.run) := by
  induction extents generalizing soFar with
  | nil => exact φ.run_pure _
  | cons extent rest ih => simp only [largest, List.map_cons, φ.run_bind, ih]

theorem run_columnNeed (g : Grid (Box m)) (height column width : Nat) :
    φ.run (g.columnNeed height column width) =
      (g.map (Box.map φ)).columnNeed height column width := by
  simp only [columnNeed, run_largest, List.map_filterMap, cell?_map, rowCount_map, Option.map_map,
    Function.comp_def, φ.run_bind, φ.run_pure, Box.map]

theorem run_rowNeed (g : Grid (Box m)) (widths : GridLayout) (row height : Nat) :
    φ.run (g.rowNeed widths row height) = (g.map (Box.map φ)).rowNeed widths row height := by
  simp only [rowNeed, run_largest, List.map_filterMap, cell?_map, columnCount_map, Option.map_map,
    Function.comp_def, φ.run_bind, φ.run_pure, Box.map]

theorem run_layout (g : Grid (Box m)) (available : Size) (pass : Pass) :
    φ.run (g.layout available pass) = (g.map (Box.map φ)).layout available pass := by
  simp only [layout, φ.run_bind, φ.run_pure, Track.run_solve, run_columnNeed, run_rowNeed]
  rfl

theorem run_renderAreas (g : Grid (Box m)) (clear : Region → m Unit) (overwrite : Bool)
    (areas : List GridArea) :
    φ.run (g.renderAreas clear overwrite areas) =
      (g.map (Box.map φ)).renderAreas (fun region => φ.run (clear region)) overwrite areas := by
  induction areas with
  | nil => exact φ.run_pure _
  | cons area rest ih =>
    cases area with
    | cell column row region =>
      simp only [renderAreas, cell?_map]
      cases g.cell? column row with
      | none => simp only [Option.map_none, Carry.run_ite, φ.run_bind, ih]
      | some b => simp only [Option.map_some, φ.run_bind, ih, Box.map]
    | gutter region => simp only [renderAreas, Carry.run_ite, φ.run_bind, ih]

/-- A grid of carried boxes is the carried grid. -/
theorem map_box (clear : Region → m Unit) (g : Grid (Box m)) :
    (box clear g).map φ = box (fun region => φ.run (clear region)) (g.map (Box.map φ)) := by
  simp only [Box.map, box, Box.mk.injEq]
  constructor
  · funext limit
    simp only [measure, φ.run_bind, run_layout, φ.run_pure]
  · funext region
    simp only [Carry.run_ite, φ.run_bind, φ.run_pure, run_layout, run_renderAreas]

end Grid

/-! ### Trees -/

namespace View
variable {α : Type} (leaf : α → Box m) (clear : Region → m Unit)

mutual

/-- A tree of carried leaves is the carried tree. -/
theorem map_box : (v : View α) →
    (v.box leaf clear).map φ = v.box (fun a => (leaf a).map φ) fun region => φ.run (clear region)
  | .leaf a => rfl
  | .stack o children => by
    simp only [box, Stack.map_box, map_boxes children]
  | .grid columns rows gutter cells => by
    simp only [box, Grid.map_box, Grid.map, map_cellBoxes cells]

theorem map_boxes : (vs : List (View α)) →
    (boxes leaf clear vs).map (Box.map φ) =
      boxes (fun a => (leaf a).map φ) (fun region => φ.run (clear region)) vs
  | [] => rfl
  | v :: rest => by simp only [boxes, List.map_cons, map_box v, map_boxes rest]

theorem map_cellBoxes : (cells : List (Option (View α))) →
    (cellBoxes leaf clear cells).map (Option.map (Box.map φ)) =
      cellBoxes (fun a => (leaf a).map φ) (fun region => φ.run (clear region)) cells
  | [] => rfl
  | none :: rest => by simp only [cellBoxes, List.map_cons, Option.map_none, map_cellBoxes rest]
  | some v :: rest => by
    simp only [cellBoxes, List.map_cons, Option.map_some, map_box v, map_cellBoxes rest]

end

end View

end

/-! ### Trees with other leaves -/

namespace View
variable {α β : Type} (f : α → β)

mutual

/-- A tree with its leaves replaced. -/
def map : View α → View β
  | .leaf a => .leaf (f a)
  | .stack o children => .stack o (mapAll children)
  | .grid columns rows gutter cells => .grid columns rows gutter (mapCells cells)

def mapAll : List (View α) → List (View β)
  | [] => []
  | v :: rest => v.map :: mapAll rest

def mapCells : List (Option (View α)) → List (Option (View β))
  | [] => []
  | none :: rest => none :: mapCells rest
  | some v :: rest => some v.map :: mapCells rest

end

theorem mapAll_eq (vs : List (View α)) : mapAll f vs = vs.map (map f) := by
  induction vs with
  | nil => rfl
  | cons v rest ih => rw [mapAll, ih, List.map_cons]

theorem mapCells_eq (cells : List (Option (View α))) :
    mapCells f cells = cells.map (Option.map (map f)) := by
  induction cells with
  | nil => rfl
  | cons cell rest ih => cases cell <;> simp [mapCells, ih]

variable {m : Type → Type} [Monad m] (leaf : β → Box m) (clear : Region → m Unit)

mutual

/-- Laying out a tree with its leaves replaced is laying it out with other boxes for leaves. -/
theorem box_map : (v : View α) → (v.map f).box leaf clear = v.box (fun a => leaf (f a)) clear
  | .leaf a => rfl
  | .stack o children => by simp only [map, box, boxes_mapAll children]
  | .grid columns rows gutter cells => by simp only [map, box, cellBoxes_mapCells cells]

theorem boxes_mapAll : (vs : List (View α)) →
    boxes leaf clear (mapAll f vs) = boxes (fun a => leaf (f a)) clear vs
  | [] => rfl
  | v :: rest => by simp only [mapAll, boxes, box_map v, boxes_mapAll rest]

theorem cellBoxes_mapCells : (cells : List (Option (View α))) →
    cellBoxes leaf clear (mapCells f cells) = cellBoxes (fun a => leaf (f a)) clear cells
  | [] => rfl
  | none :: rest => by simp only [mapCells, cellBoxes, cellBoxes_mapCells rest]
  | some v :: rest => by simp only [mapCells, cellBoxes, box_map v, cellBoxes_mapCells rest]

end

end View

end TextPane
