import TextPane.Proofs.View.Areas
import TextPane.Proofs.View.Asking

/-! What a grid renders.

The areas of a grid tile a rectangle that begins where the region begins: as wide as the columns together
and as high as the rows together. Every cell has one area, and these come row by row. Rendering a grid is
measuring, to lay it out, and then filling its areas: a view is rendered in the area of its cell, and
everything else is blanked where the region is overwritten (`Grid.render_tiles`). -/
namespace TextPane

/-! ### Cells row by row -/

namespace Grid
variable {α : Type}

/-- The column and row of every cell, row by row. -/
def places (g : Grid α) : List (Nat × Nat) :=
  (List.range g.rowCount).flatMap fun row => (List.range g.columnCount).map fun column => (column, row)

end Grid

/-- The column and row of the cell that an area is of. -/
def GridArea.place? : GridArea → Option (Nat × Nat)
  | .cell column row _ => some (column, row)
  | .gutter _ => none

namespace GridLayout
variable (l : GridLayout) (overwrite : Bool)

theorem places_rowAreas (row top height left column : Nat) (widths : List Nat) :
    (l.rowAreas overwrite row top height left column widths).filterMap GridArea.place? =
      (List.range' column widths.length).map fun column => (column, row) := by
  induction widths generalizing left column with
  | nil => rfl
  | cons width rest ih =>
    rw [rowAreas, List.length_cons, List.range'_succ, List.map_cons, List.filterMap_append, ih]
    split <;> rfl

theorem places_areasFrom (left top row : Nat) (heights : List Nat) :
    (l.areasFrom overwrite left top row heights).filterMap GridArea.place? =
      (List.range' row heights.length).flatMap fun row =>
        (List.range' 0 l.columns.length).map fun column => (column, row) := by
  induction heights generalizing top row with
  | nil => rfl
  | cons height rest ih =>
    rw [areasFrom, List.length_cons, List.range'_succ, List.flatMap_cons, List.filterMap_append,
      places_rowAreas, ih]

theorem Fits.places {α : Type} {g : Grid α} {available : Size} {l : GridLayout} (h : l.Fits g available)
    (region : Region) : (l.areas region).filterMap GridArea.place? = g.places := by
  rw [areas, places_areasFrom, h.columns, h.rows, Grid.places, List.range_eq_range', List.range_eq_range']

end GridLayout

/-! ### Filling areas -/

namespace Grid
variable {ν σ : Type} (g : Grid ν)

/-- What stands in an area. A gutter is as good as an empty cell. -/
def occupant (area : GridArea) : Option ν := area.place?.bind fun place => g.cell? place.1 place.2

/-- What is asked for in an area. -/
def fills (overwrite : Bool) (area : GridArea) : List (Asked ν) :=
  match g.occupant area with
  | some v => [.render v area.region]
  | none => if overwrite then [.blank area.region] else []

theorem rendered_fills (overwrite : Bool) (areas : List GridArea) :
    (areas.flatMap (g.fills overwrite)).filterMap Asked.rendered? = areas.filterMap g.occupant := by
  induction areas with
  | nil => rfl
  | cons area rest ih =>
    rw [List.flatMap_cons, List.filterMap_append, ih, fills]
    cases hoccupant : g.occupant area with
    | some v => rw [List.filterMap_cons_some hoccupant]; rfl
    | none => cases overwrite <;> rw [List.filterMap_cons_none hoccupant] <;> rfl

variable (view : ν → Box (StateM σ)) (clear : Region → StateM σ Unit)

/-- The grid of views, with what the views are asked noted. -/
def noted : Grid (Box (Asking ν σ)) := g.map fun v => Asking.box v (view v)

/-- The grid of views as a box that notes what it asks for. -/
def asking : Box (Asking ν σ) :=
  box (fun region => Asking.ask (.blank region) (clear region)) (g.noted view)

theorem plain_noted : (g.noted view).map (Box.map Asking.plain) = g.map view := by
  simp only [noted, map, List.map_map, Function.comp_def, Option.map_map]
  rfl

/-- Dropping the notes leaves the grid of views. -/
theorem plain_asking : (g.asking view clear).map Asking.plain = box clear (g.map view) := by
  rw [asking, map_box, plain_noted]
  rfl

theorem plain_layout (available : Size) (pass : Pass) (s : σ) :
    ((g.noted view).layout available pass s).1 = (g.map view).layout available pass s := by
  have hrun := run_layout Asking.plain (g.noted view) available pass
  rw [plain_noted] at hrun
  exact congrFun hrun s

theorem asked_layout (available : Size) (pass : Pass) (s : σ) :
    ∀ e ∈ ((g.noted view).layout available pass s).2, e.IsMeasure := by
  refine Asking.measuring.layout (fun b hb => ?_) available pass s
  obtain ⟨cell, hcell, hb⟩ := List.mem_filterMap.mp hb
  obtain ⟨v?, _, rfl⟩ := List.mem_map.mp hcell
  obtain ⟨v, _, rfl⟩ := Option.map_eq_some_iff.mp hb
  exact Asking.measuring_box v (view v)

theorem asked_renderAreas (overwrite : Bool) (areas : List GridArea) (s : σ) :
    ((g.noted view).renderAreas (fun region => Asking.ask (.blank region) (clear region))
      overwrite areas s).2 = areas.flatMap (g.fills overwrite) := by
  induction areas generalizing s with
  | nil => rfl
  | cons area rest ih =>
    rw [List.flatMap_cons]
    cases area with
    | cell column row region =>
      have hoccupant : g.occupant (.cell column row region) = g.cell? column row := rfl
      simp only [renderAreas, fills, hoccupant, noted, cell?_map]
      cases g.cell? column row with
      | some v => exact congrArg _ (ih _)
      | none =>
        cases overwrite
        · exact ih s
        · exact congrArg _ (ih _)
    | gutter region =>
      have hoccupant : g.occupant (.gutter region) = none := rfl
      simp only [renderAreas, fills, hoccupant]
      cases overwrite
      · exact ih s
      · exact congrArg _ (ih _)

/-- A grid that is laid out fills its areas, and measured before. -/
theorem asked_render {region : Region} (hsome : region.isEmpty = false) (s : σ) :
    ((g.asking view clear).render region s).2 =
      ((g.noted view).layout region.size .render s).2 ++
        (((g.map view).layout region.size .render s).1.areas region).flatMap (g.fills region.overwrite) := by
  have hrender : (g.asking view clear).render region = (do
      let l ← (g.noted view).layout region.size .render
      (g.noted view).renderAreas (fun region => Asking.ask (.blank region) (clear region))
        region.overwrite (l.areas region)) := by
    show (if region.isEmpty = true then _ else _) = _
    rw [hsome]
    rfl
  rw [hrender, ← plain_layout g view region.size .render s]
  exact congrArg _ (g.asked_renderAreas view clear _ _ _)

/-! ### Tilings -/

/-- What a grid that is laid out may ask for when it is rendered in a region. -/
structure Tiled (g : Grid ν) (region : Region) (l : GridLayout) (asked : List (Asked ν)) : Prop where
  /-- The areas have each cell of what columns and rows take in just one of them. -/
  tiles : (l.taken region).Tiles ((l.areas region).map GridArea.region)
  inside : (l.taken region).Inside region
  /-- Every cell of the grid has one area. -/
  places : (l.areas region).filterMap GridArea.place? = g.places
  /-- The views are measured first. Then the areas are filled. -/
  filled : ∃ measured, (∀ e ∈ measured, e.IsMeasure) ∧
    asked = measured ++ (l.areas region).flatMap (g.fills region.overwrite)
  /-- The view in every cell is rendered once, row by row. -/
  rendered : asked.filterMap Asked.rendered? = g.places.filterMap fun place => g.cell? place.1 place.2
  blanked : region.overwrite = true →
    ∀ area ∈ l.areas region, g.occupant area = none → .blank area.region ∈ asked

/-- **The areas of a grid tile what its columns and rows take of a region**, whatever the views answer when
they are measured. Rendering the grid fills them. -/
theorem render_tiles {region : Region} (hregion : region.Bounded) (hsome : region.isEmpty = false)
    (s : σ) :
    ((g.asking view clear).render region s).1 = (box clear (g.map view)).render region s ∧
      g.Tiled region ((g.map view).layout region.size .render s).1
        ((g.asking view clear).render region s).2 := by
  have hplain := congrArg (fun b => b.render region s) (g.plain_asking view clear)
  refine ⟨hplain, ?_⟩
  have hfits := ((g.map view).ends_layout region.size .render).fst s
  have hplaces : _ = g.places := GridLayout.Fits.places hfits region
  have hmeasured := g.asked_layout view region.size .render s
  rw [asked_render g view clear hsome]
  generalize ((g.map view).layout region.size .render s).1 = l at hfits hplaces ⊢
  generalize ((g.noted view).layout region.size .render s).2 = measured at hmeasured ⊢
  refine ⟨l.tiles_areas hregion hfits.width hfits.height, l.taken_inside hfits.width hfits.height,
    hplaces, ⟨measured, hmeasured, rfl⟩, ?_, fun hoverwrite area harea hvacant => ?_⟩
  · have hnone : measured.filterMap Asked.rendered? = [] :=
      List.filterMap_eq_nil_iff.mpr fun e he => (hmeasured e he).rendered?
    rw [List.filterMap_append, hnone, List.nil_append, rendered_fills, ← hplaces, List.filterMap_filterMap]
    rfl
  · refine List.mem_append_right _ (List.mem_flatMap.mpr ⟨area, harea, ?_⟩)
    rw [fills, hvacant, hoverwrite]
    exact List.mem_singleton.mpr rfl

/-- Each time it is measured a view wants a column more than it is offered, and one more than that the next
time. -/
def swelling (_ : Nat) : Box (StateM Nat) where
  measure limit := fun extra => (⟨limit.width + extra, limit.height⟩, extra + 1)
  render _ := pure ()

/-- A column with less room than its gutter, at the edge of all columns. -/
theorem render_tiles_swelling :
    let g : Grid Nat :=
      { columns := [.fixed 0, .auto, .star 1], rows := [.auto, .star 2], gutter := 3
        cells := [some 0, none, some 1, none, some 2, none], locked := true }
    let region : Region := { left := 65525, top := 65531, width := 10, height := 4 }
    region.Bounded ∧ region.isEmpty = false ∧
      ((g.asking swelling fun _ => pure ()).render region 1).1 =
        (box (fun _ => pure ()) (g.map swelling)).render region 1 ∧
      g.Tiled region ((g.map swelling).layout region.size .render 1).1
        ((g.asking swelling fun _ => pure ()).render region 1).2 := by
  intro g region
  have hregion : region.Bounded := ⟨by decide, by decide⟩
  exact ⟨hregion, by decide, g.render_tiles swelling (fun _ => pure ()) hregion (by decide) 1⟩

end Grid

end TextPane
