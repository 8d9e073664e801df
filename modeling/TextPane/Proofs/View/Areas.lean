import TextPane.Proofs.View.Draws
import TextPane.Proofs.View.Ends
import TextPane.Proofs.View.Work

/-! Where a tree draws.

A layout hands each of its boxes a part of its own region, and no cell is in two of these parts: a
stack goes along its axis and never back, and the columns and rows of a grid together take no more
than there is (`Track.ends_solve`), with no cell of what they take left out (`GridLayout.tiles_areas`).
So what a tree draws, draw by draw, stays in the region of the tree and apart from all other draws
(`View.packs_draws`), however deep stacks and grids are nested. -/
namespace TextPane

namespace Region

/-- A cell is in a region. -/
def Has (region : Region) (row column : Nat) : Prop :=
  (region.top ≤ row ∧ row < region.top + region.height) ∧
    region.left ≤ column ∧ column < region.left + region.width

/-- No cell is in both regions. -/
def Apart (a b : Region) : Prop := ∀ row column, a.Has row column → ¬b.Has row column

/-- A region begins and ends in another one, even where it is empty. -/
structure Inside (a b : Region) : Prop where
  left : b.left ≤ a.left
  right : a.left + a.width ≤ b.left + b.width
  top : b.top ≤ a.top
  bottom : a.top + a.height ≤ b.top + b.height

/-- The region ends within the limit of columns and rows. -/
structure Bounded (region : Region) : Prop where
  columns : region.left + region.width ≤ cellLimit
  rows : region.top + region.height ≤ cellLimit

/-- Regions in a region, no cell in two of them. -/
structure Packs (region : Region) (parts : List Region) : Prop where
  inside : ∀ part ∈ parts, part.Inside region
  apart : parts.Pairwise Apart

/-- Regions in a region, each cell in just one of them. -/
structure Tiles (region : Region) (parts : List Region) : Prop where
  packs : region.Packs parts
  cover : ∀ row column, region.Has row column → ∃ part ∈ parts, part.Has row column

/-- A region falls into two, no cell in both. -/
structure Splits (region a b : Region) : Prop where
  first : a.Inside region
  second : b.Inside region
  apart : a.Apart b
  cover : ∀ row column, region.Has row column → a.Has row column ∨ b.Has row column

section Inside
variable {a b c : Region}

theorem Inside.refl (a : Region) : a.Inside a :=
  ⟨Nat.le_refl _, Nat.le_refl _, Nat.le_refl _, Nat.le_refl _⟩

/-- Whether regions are overwritten makes no difference to their cells. -/
theorem inside_same (left top width height : Nat) {overwrite overwrite' : Bool} :
    Inside ⟨left, top, width, height, overwrite⟩ ⟨left, top, width, height, overwrite'⟩ :=
  ⟨Nat.le_refl _, Nat.le_refl _, Nat.le_refl _, Nat.le_refl _⟩

theorem Inside.trans (hab : a.Inside b) (hbc : b.Inside c) : a.Inside c :=
  ⟨Nat.le_trans hbc.left hab.left, Nat.le_trans hab.right hbc.right, Nat.le_trans hbc.top hab.top,
    Nat.le_trans hab.bottom hbc.bottom⟩

theorem Inside.has (h : a.Inside b) {row column : Nat} (hcell : a.Has row column) :
    b.Has row column := by
  obtain ⟨hleft, hright, htop, hbottom⟩ := h
  obtain ⟨⟨h1, h2⟩, h3, h4⟩ := hcell
  exact ⟨⟨by omega, by omega⟩, by omega, by omega⟩

theorem Inside.bounded (h : a.Inside b) (hb : b.Bounded) : a.Bounded :=
  ⟨Nat.le_trans h.right hb.columns, Nat.le_trans h.bottom hb.rows⟩

theorem Inside.apart {a' b' : Region} (ha : a'.Inside a) (hb : b'.Inside b) (hab : a.Apart b) :
    a'.Apart b' := fun row column hcell hcell' =>
  hab row column (ha.has hcell) (hb.has hcell')

/-- A region that ends where another one begins, in columns. -/
theorem apart_of_columns (h : a.left + a.width ≤ b.left) : a.Apart b := by
  intro row column ha hb
  have hend : column < a.left + a.width := ha.2.2
  have hbegin : b.left ≤ column := hb.2.1
  omega

/-- A region that ends where another one begins, in rows. -/
theorem apart_of_rows (h : a.top + a.height ≤ b.top) : a.Apart b := by
  intro row column ha hb
  have hend : row < a.top + a.height := ha.1.2
  have hbegin : b.top ≤ row := hb.1.1
  omega

end Inside

section Packs
variable {a b c : Region} {parts others : List Region}

theorem packs_nil (a : Region) : a.Packs [] := ⟨fun _ h => absurd h List.not_mem_nil, .nil⟩

theorem packs_single (h : a.Inside b) : b.Packs [a] :=
  ⟨fun _ hpart => List.mem_singleton.mp hpart ▸ h, List.pairwise_singleton ..⟩

theorem Packs.mono (h : a.Packs parts) (hab : a.Inside b) : b.Packs parts :=
  ⟨fun part hpart => (h.inside part hpart).trans hab, h.apart⟩

/-- What is packed in the two halves of a region is packed in the region. -/
theorem Packs.append (ha : a.Packs parts) (hb : b.Packs others) (h : c.Splits a b) :
    c.Packs (parts ++ others) := by
  refine ⟨fun part hpart => ?_, List.pairwise_append.mpr ⟨ha.apart, hb.apart, ?_⟩⟩
  · rcases List.mem_append.mp hpart with hpart | hpart
    · exact (ha.inside part hpart).trans h.first
    · exact (hb.inside part hpart).trans h.second
  · intro part hpart other hother
    exact (ha.inside part hpart).apart (hb.inside other hother) h.apart

/-- What is packed in each of the parts that a region packs is packed in the region. -/
theorem Packs.flatMap {α : Type} {xs : List α} {part : α → Region} {inner : α → List Region}
    (h : a.Packs (xs.map part)) (hinner : ∀ x ∈ xs, (part x).Packs (inner x)) :
    a.Packs (xs.flatMap inner) := by
  induction xs with
  | nil => exact packs_nil a
  | cons x rest ih =>
    have hx := hinner x (List.mem_cons_self ..)
    obtain ⟨hfirst, hapart⟩ := List.pairwise_cons.mp h.apart
    have hrest := ih ⟨fun p hp => h.inside p (List.mem_cons_of_mem _ hp), hapart⟩
      fun y hy => hinner y (List.mem_cons_of_mem x hy)
    refine ⟨fun p hp => ?_, ?_⟩
    · rcases List.mem_append.mp hp with hp | hp
      · exact (hx.inside p hp).trans (h.inside _ (List.mem_cons_self ..))
      · exact hrest.inside p hp
    · refine List.pairwise_append.mpr ⟨hx.apart, hrest.apart, fun p hp q hq => ?_⟩
      obtain ⟨y, hy, hqy⟩ := List.mem_flatMap.mp hq
      have hxy := hfirst (part y) (List.mem_map.mpr ⟨y, hy, rfl⟩)
      have hin := (hinner y (List.mem_cons_of_mem x hy)).inside q hqy
      exact (hx.inside p hp).apart hin hxy

end Packs

section Tiles
variable {a b c : Region} {parts others : List Region}

theorem tiles_nil (h : ∀ row column, ¬a.Has row column) : a.Tiles [] :=
  ⟨packs_nil a, fun row column hcell => absurd hcell (h row column)⟩

theorem tiles_single (h : a.Inside b) (h' : b.Inside a) : b.Tiles [a] :=
  ⟨packs_single h, fun _ _ hcell => ⟨a, List.mem_singleton.mpr rfl, h'.has hcell⟩⟩

/-- What tiles the two halves of a region tiles the region. -/
theorem Tiles.append (ha : a.Tiles parts) (hb : b.Tiles others) (h : c.Splits a b) :
    c.Tiles (parts ++ others) := by
  refine ⟨ha.packs.append hb.packs h, fun row column hcell => ?_⟩
  rcases h.cover row column hcell with hfirst | hsecond
  · obtain ⟨part, hpart, hhas⟩ := ha.cover row column hfirst
    exact ⟨part, List.mem_append_left _ hpart, hhas⟩
  · obtain ⟨part, hpart, hhas⟩ := hb.cover row column hsecond
    exact ⟨part, List.mem_append_right _ hpart, hhas⟩

theorem Tiles.congr (h : a.Tiles parts) (hab : a.Inside b) (hba : b.Inside a) : b.Tiles parts :=
  ⟨h.packs.mono hab, fun row column hcell => h.cover row column (hba.has hcell)⟩

theorem splits_columns (left top width width' height : Nat) {overwrite overwrite' overwrite'' : Bool} :
    Splits ⟨left, top, width + width', height, overwrite⟩ ⟨left, top, width, height, overwrite'⟩
      ⟨left + width, top, width', height, overwrite''⟩ where
  first := ⟨Nat.le_refl _, Nat.add_le_add_left (Nat.le_add_right ..) _, Nat.le_refl _, Nat.le_refl _⟩
  second := ⟨Nat.le_add_right .., Nat.le_of_eq (Nat.add_assoc ..), Nat.le_refl _, Nat.le_refl _⟩
  apart := apart_of_columns (Nat.le_refl _)
  cover row column hcell := by
    obtain ⟨hrow, hleft, hright⟩ := hcell
    by_cases hfirst : column < left + width
    · exact .inl ⟨hrow, hleft, hfirst⟩
    · exact .inr ⟨hrow, Nat.not_lt.mp hfirst, Nat.add_assoc left width width' ▸ hright⟩

theorem splits_rows (left top width height height' : Nat) {overwrite overwrite' overwrite'' : Bool} :
    Splits ⟨left, top, width, height + height', overwrite⟩ ⟨left, top, width, height, overwrite'⟩
      ⟨left, top + height, width, height', overwrite''⟩ where
  first := ⟨Nat.le_refl _, Nat.le_refl _, Nat.le_refl _, Nat.add_le_add_left (Nat.le_add_right ..) _⟩
  second := ⟨Nat.le_refl _, Nat.le_refl _, Nat.le_add_right .., Nat.le_of_eq (Nat.add_assoc ..)⟩
  apart := apart_of_rows (Nat.le_refl _)
  cover row column hcell := by
    obtain ⟨⟨htop, hbottom⟩, hcolumn⟩ := hcell
    by_cases hfirst : row < top + height
    · exact .inl ⟨⟨htop, hfirst⟩, hcolumn⟩
    · exact .inr ⟨⟨Nat.not_lt.mp hfirst, Nat.add_assoc top height height' ▸ hbottom⟩, hcolumn⟩

end Tiles

end Region

/-! ### Parts of a region -/

namespace Orientation

/-- What lies behind an offset along the axis, however far that is. -/
def slice (o : Orientation) (region : Region) (offset extent : Nat) : Region :=
  match o with
  | .vertical => { region with top := region.top + offset, height := extent }
  | .horizontal => { region with left := region.left + offset, width := extent }

theorem slice_zero (o : Orientation) (region : Region) :
    o.slice region 0 (o.main region.size) = region := by
  cases o <;> rfl

theorem slice_splits (o : Orientation) (region : Region) (offset extent extent' : Nat) :
    (o.slice region offset (extent + extent')).Splits (o.slice region offset extent)
      (o.slice region (offset + extent) extent') := by
  cases o with
  | vertical =>
    simp only [slice, ← Nat.add_assoc]
    exact Region.splits_rows ..
  | horizontal =>
    simp only [slice, ← Nat.add_assoc]
    exact Region.splits_columns ..

variable {o : Orientation} {region : Region} {offset extent : Nat}

theorem slice_inside (hend : offset + extent ≤ o.main region.size) :
    (o.slice region offset extent).Inside region := by
  cases o with
  | vertical =>
    exact ⟨Nat.le_refl _, Nat.le_refl _, Nat.le_add_right ..,
      Nat.add_assoc .. ▸ Nat.add_le_add_left hend _⟩
  | horizontal =>
    exact ⟨Nat.le_add_right .., Nat.add_assoc .. ▸ Nat.add_le_add_left hend _, Nat.le_refl _,
      Nat.le_refl _⟩

/-- In a region that ends within the limit, no sum of an offset stops at the limit. -/
theorem part_eq_slice (hregion : region.Bounded) (hoffset : offset ≤ o.main region.size) :
    o.part region offset extent = o.slice region offset extent := by
  obtain ⟨hright, hbottom⟩ := hregion
  cases o with
  | vertical =>
    have hheight : offset ≤ region.height := hoffset
    have htop : addCells region.top offset = region.top + offset := Nat.min_eq_left (by omega)
    simp only [part, slice, htop]
  | horizontal =>
    have hwidth : offset ≤ region.width := hoffset
    have hleft : addCells region.left offset = region.left + offset := Nat.min_eq_left (by omega)
    simp only [part, slice, hleft]

end Orientation

/-- The region of an area. -/
def GridArea.region : GridArea → Region
  | .cell _ _ region => region
  | .gutter region => region

namespace GridLayout
variable (l : GridLayout) (overwrite : Bool)

/-- The areas of a row from a column on tile what the columns from there on take. -/
theorem tiles_rowAreas (row top height : Nat) {left column : Nat} {widths : List Nat}
    (hwidths : widths = l.columns.drop column) (hleft : left + widths.sum ≤ cellLimit) :
    Region.Tiles { left, top, width := widths.sum, height }
      ((l.rowAreas overwrite row top height left column widths).map GridArea.region) := by
  induction widths generalizing left column with
  | nil => exact Region.tiles_nil fun _ _ hcell => Nat.not_lt.mpr hcell.2.1 hcell.2.2
  | cons width rest ih =>
    rw [List.sum_cons] at hleft
    obtain ⟨hcolumn, hrest⟩ : l.columns[column]? = some width ∧ rest = l.columns.drop (column + 1) := by
      refine ⟨?_, ?_⟩
      · rw [← List.head?_drop, ← hwidths]
        rfl
      · rw [← List.drop_drop, ← hwidths]
        rfl
    have hinner : l.contentWidth column ≤ width := by
      rw [contentWidth, hcolumn]
      exact Nat.sub_le ..
    have hnext : addCells left width = left + width := Nat.min_eq_left (by omega)
    have hgap : addCells left (l.contentWidth column) = left + l.contentWidth column :=
      Nat.min_eq_left (by omega)
    have hend : left + width + rest.sum ≤ cellLimit := by omega
    have hlater := ih hrest hend
    rw [rowAreas, hnext, hgap, List.map_append, List.sum_cons]
    refine Region.Tiles.append (a := { left, top, width, height }) ?_ hlater (Region.splits_columns ..)
    -- The cell and the gutter behind it share the column.
    obtain ⟨gap, rfl⟩ := Nat.exists_eq_add_of_le hinner
    rw [Nat.add_sub_cancel_left]
    split
    · exact (Region.tiles_single (.refl _) (.refl _)).append (Region.tiles_single (.refl _) (.refl _))
        (Region.splits_columns ..)
    · next hnone =>
      rw [Nat.eq_zero_of_not_pos hnone]
      exact Region.tiles_single (Region.inside_same ..) (Region.inside_same ..)

/-- The areas of the rows from one on tile what these rows take. -/
theorem tiles_areasFrom {left : Nat} (hleft : left + l.columns.sum ≤ cellLimit) (row : Nat) {top : Nat}
    {heights : List Nat} (htop : top + heights.sum ≤ cellLimit) :
    Region.Tiles { left, top, width := l.columns.sum, height := heights.sum }
      ((l.areasFrom overwrite left top row heights).map GridArea.region) := by
  induction heights generalizing top row with
  | nil => exact Region.tiles_nil fun _ _ hcell => Nat.not_lt.mpr hcell.1.1 hcell.1.2
  | cons height rest ih =>
    rw [List.sum_cons] at htop
    have hnext : addCells top height = top + height := Nat.min_eq_left (by omega)
    have hcolumns : l.columns = l.columns.drop 0 := rfl
    have hrow := l.tiles_rowAreas overwrite row top height hcolumns hleft
    rw [areasFrom, hnext, List.map_append, List.sum_cons]
    exact hrow.append (ih (row + 1) (by omega)) (Region.splits_rows ..)

/-- What the columns and rows take of a region. -/
def taken (region : Region) : Region := { region with width := l.columns.sum, height := l.rows.sum }

theorem taken_inside {region : Region} (hcolumns : l.columns.sum ≤ region.width)
    (hrows : l.rows.sum ≤ region.height) : (l.taken region).Inside region :=
  ⟨Nat.le_refl _, Nat.add_le_add_left hcolumns _, Nat.le_refl _, Nat.add_le_add_left hrows _⟩

/-- The areas of a grid tile what its columns and rows take. -/
theorem tiles_areas {region : Region} (hregion : region.Bounded)
    (hcolumns : l.columns.sum ≤ region.width) (hrows : l.rows.sum ≤ region.height) :
    (l.taken region).Tiles ((l.areas region).map GridArea.region) := by
  obtain ⟨hright, hbottom⟩ := hregion
  exact (l.tiles_areasFrom region.overwrite (by omega) 0 (by omega)).congr
    (Region.inside_same ..) (Region.inside_same ..)

/-- The areas of a grid are packed in its region when the columns and rows fit. -/
theorem packs_areas {region : Region} (hregion : region.Bounded)
    (hcolumns : l.columns.sum ≤ region.width) (hrows : l.rows.sum ≤ region.height) :
    region.Packs ((l.areas region).map GridArea.region) :=
  (l.tiles_areas hregion hcolumns hrows).packs.mono (l.taken_inside hcolumns hrows)

end GridLayout

/-! ### Draws -/

/-- The region that something is drawn into. -/
def Draw.region : Draw → Region
  | .span _ region => region
  | .blank region => region

theorem Ends.value {α : Type} {P : α → Prop} {x : Drawing α} (h : Ends P x) : P x.value := by
  obtain ⟨proved, rfl⟩ := h
  exact proved.value.2

namespace Drawing

/-- Work that draws nothing. -/
def silent : Work Drawing where
  does x := x.draws = []
  pure _ := rfl
  bind {_ _ x f} hx hf := by
    show x.draws ++ (f x.value).draws = []
    rw [hx, hf]
    rfl

theorem draws_bind {α β : Type} (x : Drawing α) (f : α → Drawing β) :
    (x >>= f).draws = x.draws ++ (f x.value).draws := rfl

/-- Drawing only spans of these. -/
def among (spans : List Span) : Work Drawing where
  does x := ∀ d ∈ x.draws, ∀ s region, d = .span s region → s ∈ spans
  pure _ _ hd := absurd hd List.not_mem_nil
  bind hx hf d hd := (List.mem_append.mp hd).elim (hx d) (hf _ d)

end Drawing

/-- Measuring the box draws nothing, and rendering it draws in its region, nowhere twice. -/
structure Box.Packed (b : Box Drawing) : Prop where
  measures : Drawing.silent.Measures b
  renders : ∀ region : Region, region.Bounded →
    region.Packs ((b.render region).draws.map Draw.region)

/-- A stack draws along its axis and never back. -/
theorem Stack.packed (o : Orientation) {boxes : List (Box Drawing)} (h : ∀ b ∈ boxes, b.Packed) :
    (box o boxes).Packed := by
  refine ⟨Drawing.silent.measures_stack fun b hb => (h b hb).measures, fun region hregion => ?_⟩
  have hfrom (offset : Nat) (hoffset : offset ≤ o.main region.size) :
      (o.slice region offset (o.main region.size - offset)).Packs
        ((renderFrom o region offset boxes).draws.map Draw.region) := by
    induction boxes generalizing offset with
    | nil => exact Region.packs_nil _
    | cons b rest ih =>
      have hb := h b (List.mem_cons_self ..)
      by_cases hroom : o.main region.size - offset = 0
      · have hdraws : (renderFrom o region offset (b :: rest)).draws = [] := by
          simp only [renderFrom, hroom, if_true]
          rfl
        rw [hdraws]
        exact Region.packs_nil _
      let asked := b.measure (o.size (o.main region.size - offset) (o.cross region.size))
      let extent := min (o.main asked.value) (o.main region.size - offset)
      let first := o.slice region offset extent
      have hextent : extent ≤ o.main region.size - offset := Nat.min_le_right ..
      have hdraws : (renderFrom o region offset (b :: rest)).draws =
          (b.render first).draws ++ (renderFrom o region (offset + extent) rest).draws := by
        have hasked : asked.draws = [] := hb.measures _
        simp only [renderFrom, hroom, if_false]
        show asked.draws ++ ((b.render (o.part region offset extent)).draws ++ _) = _
        rw [hasked, List.nil_append, Orientation.part_eq_slice hregion hoffset]
      have hfirst : first.Bounded := (Orientation.slice_inside (by omega)).bounded hregion
      have hrest := ih (fun b' hb' => h b' (List.mem_cons_of_mem b hb')) (offset + extent) (by omega)
      have hsplits := o.slice_splits region offset extent (o.main region.size - (offset + extent))
      have hwhole : extent + (o.main region.size - (offset + extent)) = o.main region.size - offset := by
        omega
      rw [hwhole] at hsplits
      rw [hdraws, List.map_append]
      exact (hb.renders first hfirst).append hrest hsplits
  have hall := hfrom 0 (Nat.zero_le _)
  rwa [Nat.sub_zero, o.slice_zero] at hall

namespace Grid

/-- What is drawn in an area of a grid. -/
def areaDraws (g : Grid (Box Drawing)) (overwrite : Bool) : GridArea → List Draw
  | .cell column row region =>
    match g.cell? column row with
    | some b => (b.render region).draws
    | none => if overwrite then [.blank region] else []
  | .gutter region => if overwrite then [.blank region] else []

theorem draws_renderAreas (g : Grid (Box Drawing)) (overwrite : Bool) (areas : List GridArea) :
    (g.renderAreas Drawing.clearRegion overwrite areas).draws =
      areas.flatMap (g.areaDraws overwrite) := by
  induction areas with
  | nil => rfl
  | cons area rest ih =>
    rw [List.flatMap_cons, ← ih]
    cases area with
    | cell column row region =>
      simp only [renderAreas, areaDraws]
      cases g.cell? column row <;> cases overwrite <;> rfl
    | gutter region =>
      simp only [renderAreas, areaDraws]
      cases overwrite <;> rfl

/-- A grid draws in its areas. -/
theorem packed {g : Grid (Box Drawing)} (h : ∀ b ∈ g.contents, b.Packed) :
    (box Drawing.clearRegion g).Packed := by
  have hmeasures : ∀ b ∈ g.contents, Drawing.silent.Measures b := fun b hb => (h b hb).measures
  refine ⟨Drawing.silent.measures_grid hmeasures _, fun region hregion => ?_⟩
  cases hempty : region.isEmpty
  · let l := g.layout region.size .render
    have hdraws : ((box Drawing.clearRegion g).render region).draws =
        (l.value.areas region).flatMap (g.areaDraws region.overwrite) := by
      show Drawing.draws (if region.isEmpty = true then _ else _) = _
      rw [hempty, if_neg (by decide), Drawing.draws_bind, show l.draws = [] from
        Drawing.silent.layout hmeasures _ _, List.nil_append, draws_renderAreas]
    have hfits : GridLayout.Fits g region.size l.value := (g.ends_layout region.size .render).value
    have hareas := l.value.packs_areas hregion hfits.width hfits.height
    rw [hdraws, List.map_flatMap]
    apply hareas.flatMap
    intro area harea
    have hbounded : area.region.Bounded :=
      (hareas.inside _ (List.mem_map.mpr ⟨area, harea, rfl⟩)).bounded hregion
    have hblank (part : Region) (overwrite : Bool) :
        part.Packs ((if overwrite then [Draw.blank part] else []).map Draw.region) := by
      cases overwrite
      · exact Region.packs_nil part
      · exact Region.packs_single (.refl part)
    cases area with
    | gutter part => exact hblank part region.overwrite
    | cell column row part =>
      cases hcell : g.cell? column row with
      | none =>
        simp only [areaDraws, hcell]
        exact hblank part region.overwrite
      | some b =>
        simp only [areaDraws, hcell]
        exact (h b (mem_contents_of_cell? hcell)).renders part hbounded
  · have hdraws : ((box Drawing.clearRegion g).render region).draws = [] := by
      show Drawing.draws (if region.isEmpty = true then _ else _) = _
      rw [hempty]
      rfl
    rw [hdraws]
    exact Region.packs_nil region

end Grid

namespace View
variable (v : View Span)

/-- **A tree draws in its region, and nowhere twice**. -/
theorem packs_draws {region : Region} (hregion : region.Bounded) :
    region.Packs ((v.draws region).map Draw.region) := by
  have hinherits : Inherits Drawing.clearRegion Box.Packed :=
    ⟨fun o _ h => Stack.packed o h, fun _ h => Grid.packed h⟩
  have hleaf : ∀ s ∈ v.leaves, (Drawing.spanBox s).Packed := fun s _ =>
    ⟨fun _ => rfl, fun region _ => Region.packs_single (.refl region)⟩
  exact (hinherits.box v hleaf).renders region hregion

/-- The spans that a tree draws are its leaves. -/
theorem mem_leaves_of_draws {region part : Region} {s : Span} (h : .span s part ∈ v.draws region) :
    s ∈ v.leaves := by
  have hamong : (Drawing.among v.leaves).Renders (v.box Drawing.spanBox Drawing.clearRegion) := by
    apply (Drawing.among v.leaves).renders_view
    · intro s hs limit
      exact (Drawing.among v.leaves).pure _
    · intro region d hd s region' heq
      rw [List.mem_singleton.mp hd] at heq
      cases heq
    · intro s hs region d hd s' region' heq
      rw [List.mem_singleton.mp hd] at heq
      cases heq
      exact hs
  exact hamong region _ h s part rfl

end View

end TextPane
