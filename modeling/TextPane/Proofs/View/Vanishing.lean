import TextPane.Proofs.View.Areas
import TextPane.Proofs.Wrap.Narrowing

/-! Trees where there is no room.

Measured against a size without columns or without rows, a tree takes no more than that (`View.fits_drawn`),
and rendered into such a region it draws in such regions only (`View.hollow_drawn`).

Stacks measure no size when all boxes in them do, as each leaves the next all the room there was. Grids do not
look at the other axis: in no rows they give fixed columns their length, and columns their gutters, and in no
columns fixed rows their length. So a tree measures no size when none of its grids has such tracks
(`View.vanishes_drawn` with `Grid.vanishes_width` and `Grid.vanishes_height`). -/
namespace TextPane

/-! ### Trees whose grids are as they should be -/

namespace View
variable {α : Type}

mutual

/-- All grids of a tree are as `P` says of their columns, rows and gutters. -/
def EveryGrid (P : List Track → List Track → Nat → Prop) : View α → Prop
  | .leaf _ => True
  | .stack _ children => EveryGridAll P children
  | .grid columns rows gutter cells => P columns rows gutter ∧ EveryGridCells P cells

def EveryGridAll (P : List Track → List Track → Nat → Prop) : List (View α) → Prop
  | [] => True
  | v :: rest => v.EveryGrid P ∧ EveryGridAll P rest

def EveryGridCells (P : List Track → List Track → Nat → Prop) : List (Option (View α)) → Prop
  | [] => True
  | none :: rest => EveryGridCells P rest
  | some v :: rest => v.EveryGrid P ∧ EveryGridCells P rest

end

variable {m : Type → Type} [Monad m]

/-- A property that stacks have when all boxes in them have it, and grids that are as `P` says as well. -/
structure InheritsWhere (P : List Track → List Track → Nat → Prop) (clear : Region → m Unit)
    (Q : Box m → Prop) : Prop where
  stack : ∀ o boxes, (∀ b ∈ boxes, Q b) → Q (Stack.box o boxes)
  grid : ∀ g : Grid (Box m), P g.columns g.rows g.gutter → (∀ b ∈ g.contents, Q b) → Q (Grid.box clear g)

variable {P : List Track → List Track → Nat → Prop} {clear : Region → m Unit} {Q : Box m → Prop}
  {leaf : α → Box m}

mutual

/-- A tree whose grids are as `P` says has what it inherits from its leaves. -/
theorem InheritsWhere.box (hQ : InheritsWhere P clear Q) (hleaf : ∀ a, Q (leaf a)) : (v : View α) →
    v.EveryGrid P → Q (v.box leaf clear)
  | .leaf a, _ => hleaf a
  | .stack o children, h => hQ.stack o _ (hQ.boxes hleaf children h)
  | .grid _ _ _ cells, h => hQ.grid _ h.1 (hQ.cellBoxes hleaf cells h.2)

theorem InheritsWhere.boxes (hQ : InheritsWhere P clear Q) (hleaf : ∀ a, Q (leaf a)) :
    (vs : List (View α)) → EveryGridAll P vs → ∀ b ∈ View.boxes leaf clear vs, Q b
  | [], _, _, hb => absurd hb List.not_mem_nil
  | v :: rest, h, b, hb => by
    rcases List.mem_cons.mp hb with rfl | hb
    · exact hQ.box hleaf v h.1
    · exact hQ.boxes hleaf rest h.2 b hb

theorem InheritsWhere.cellBoxes (hQ : InheritsWhere P clear Q) (hleaf : ∀ a, Q (leaf a)) :
    (cells : List (Option (View α))) → EveryGridCells P cells →
    ∀ b ∈ (View.cellBoxes leaf clear cells).filterMap id, Q b
  | [], _, _, hb => absurd hb List.not_mem_nil
  | none :: rest, h, b, hb => hQ.cellBoxes hleaf rest h b hb
  | some v :: rest, h, b, hb => by
    rcases List.mem_cons.mp hb with rfl | hb
    · exact hQ.box hleaf v h.1
    · exact hQ.cellBoxes hleaf rest h.2 b hb

end

end View

/-! ### Tracks without content -/

namespace Track

/-- The track takes nothing where its content takes nothing. -/
def Lax (t : Track) : Prop := t.mode = .fixed → t.value = 0

/-- All rows take nothing where their contents take nothing. -/
def LaxRows (_ rows : List Track) (_ : Nat) : Prop := ∀ t ∈ rows, t.Lax

/-- All columns do, and no gutters stand between them. -/
def LaxColumns (columns _ : List Track) (gutter : Nat) : Prop :=
  (∀ t ∈ columns, t.Lax) ∧ (gutter = 0 ∨ columns.length ≤ 1)

end Track

namespace Lane

/-- The lane has got nothing and asks for nothing besides its content. -/
structure Slack (l : Lane) : Prop where
  size : l.size = 0
  pad : l.pad = 0
  track : l.track.Lax

theorem slack_ofTracks {gutter : Nat} (index : Nat) {tracks : List Track} (h : ∀ t ∈ tracks, t.Lax)
    (hgutter : gutter = 0 ∨ tracks.length ≤ 1) : ∀ l ∈ ofTracks gutter index tracks, l.Slack := by
  fun_induction ofTracks gutter index tracks with
  | case1 => simp
  | case2 index t =>
    intro l hl
    rw [List.mem_singleton.mp hl]
    exact ⟨rfl, rfl, h t (List.mem_cons_self ..)⟩
  | case3 index t rest hrest ih =>
    have hnone : gutter = 0 := by
      refine hgutter.resolve_right fun hlength => hrest ?_
      exact List.length_eq_zero_iff.mp (Nat.le_zero.mp (Nat.le_of_succ_le_succ hlength))
    intro l hl
    rcases List.mem_cons.mp hl with rfl | hl
    · exact ⟨rfl, hnone, h t (List.mem_cons_self ..)⟩
    · exact ih (fun t' ht' => h t' (List.mem_cons_of_mem t ht')) (.inl hnone) l hl

/-- Without content a lane gets nothing. -/
theorem Slack.extent {l : Lane} (h : l.Slack) (room : Nat) : min (addCells 0 l.pad) room = 0 := by
  rw [h.pad]
  exact Nat.zero_min room

/-- A lane that gets nothing stays as it is. -/
theorem Slack.unchanged {l : Lane} (h : l.Slack) : { l with size := 0 } = l :=
  congrArg (fun size => { l with size }) h.size.symm

theorem sizeFixed_slack {lanes : List Lane} (h : ∀ l ∈ lanes, l.Slack) (room : Nat) :
    sizeFixed room lanes = (lanes, room) := by
  induction lanes with
  | nil => rfl
  | cons l rest ih =>
    obtain ⟨hl, hrest⟩ := List.forall_mem_cons.mp h
    unfold sizeFixed
    split
    · next hfixed => simp only [hl.track hfixed, hl.extent, Nat.sub_zero, ih hrest, hl.unchanged]
    · simp only [ih hrest]

section
variable {m : Type → Type} [Monad m] [LawfulMonad m] {need : Nat → Nat → m Nat}
  (hneed : ∀ index available, Ends (· = 0) (need index available))
include hneed

theorem ends_sizeContent_slack {lanes : List Lane} (h : ∀ l ∈ lanes, l.Slack) (room : Nat) :
    Ends (· = (lanes, room)) (sizeContent need room lanes) := by
  induction lanes with
  | nil => exact ends_pure rfl
  | cons l rest ih =>
    obtain ⟨hl, hrest⟩ := List.forall_mem_cons.mp h
    unfold sizeContent
    split
    · refine (hneed _ _).bind fun wanted hwanted => ?_
      simp only [hwanted, hl.extent, Nat.sub_zero]
      exact (ih hrest).bind fun dealt hdealt => ends_pure (by rw [hdealt, hl.unchanged])
    · exact (ih hrest).bind fun dealt hdealt => ends_pure (by rw [hdealt])

theorem ends_sizeStars_slack {lanes : List Lane} (h : ∀ l ∈ lanes, l.Slack) (pool total handed : Nat) :
    Ends (· = lanes) (sizeStars need .measure pool total handed lanes) := by
  induction lanes generalizing handed with
  | nil => exact ends_pure rfl
  | cons l rest ih =>
    obtain ⟨hl, hrest⟩ := List.forall_mem_cons.mp h
    unfold sizeStars
    split
    · refine (hneed _ _).bind fun wanted hwanted => ?_
      simp only [hwanted, pure_bind, Nat.min_comm _ (addCells 0 l.pad), hl.extent]
      exact (ih hrest _).bind fun sized hsized => ends_pure (by rw [hsized, hl.unchanged])
    · exact (ih hrest _).bind fun sized hsized => ends_pure (by rw [hsized])

end

end Lane

section
variable {m : Type → Type} [Monad m] [LawfulMonad m]

/-- Where contents take nothing, tracks take nothing but fixed lengths and gutters. -/
theorem Track.ends_solve_lax {need : Nat → Nat → m Nat}
    (hneed : ∀ index available, Ends (· = 0) (need index available)) {tracks : List Track}
    (h : ∀ t ∈ tracks, t.Lax) {gutter : Nat} (hgutter : gutter = 0 ∨ tracks.length ≤ 1) (available : Nat) :
    Ends (fun sizes => sizes.sum = 0) (solve need tracks available gutter .measure) := by
  have hslack := Lane.slack_ofTracks 0 h hgutter
  have hnothing := Lane.extent_ofTracks gutter 0 tracks
  unfold solve
  rw [Lane.sizeFixed_slack hslack]
  refine (Lane.ends_sizeContent_slack hneed hslack _).bind fun dealt hdealt => ?_
  subst hdealt
  refine Ends.ite (fun _ => ?_) fun _ => ?_
  · refine (Lane.ends_sizeStars_slack hneed hslack _ _ _).bind fun sized hsized => ends_pure ?_
    rw [hsized]
    exact hnothing
  · rw [pure_bind]
    exact ends_pure hnothing

/-! ### Measuring -/

/-- A size within an empty one is empty. -/
theorem Size.Within.isEmpty {a b : Size} (h : a.Within b) (hb : b.isEmpty = true) : a.isEmpty = true := by
  simp only [Size.isEmpty, Bool.or_eq_true, beq_iff_eq] at hb ⊢
  exact hb.imp (fun hwidth => Nat.le_zero.mp (Nat.le_trans h.width (Nat.le_of_eq hwidth)))
    fun hheight => Nat.le_zero.mp (Nat.le_trans h.height (Nat.le_of_eq hheight))

/-- Against sizes such as these the box measures no size at all. -/
def Box.Vanishes (Z : Size → Prop) (b : Box m) : Prop :=
  ∀ limit, Z limit → Ends (· = Size.zero) (b.measure limit)

/-- A stack of boxes that vanish vanishes: each of them leaves the next all the room there was. -/
theorem Stack.vanishes {Z : Size → Prop} (o : Orientation) {boxes : List (Box m)}
    (h : ∀ b ∈ boxes, b.Vanishes Z) : (box o boxes).Vanishes Z := by
  intro limit hZ
  have hlimit : o.size (o.main limit) (o.cross limit) = limit := by cases o <;> rfl
  have hall : Ends (· = (o.main limit, 0)) (measureAll o (o.cross limit) (o.main limit) 0 boxes) := by
    induction boxes with
    | nil => exact ends_pure rfl
    | cons b rest ih =>
      obtain ⟨hb, hrest⟩ := List.forall_mem_cons.mp h
      unfold measureAll
      refine Ends.ite (fun _ => ends_pure rfl) fun _ => ?_
      rw [hlimit]
      refine (hb limit hZ).bind fun size hsize => ?_
      have hmain : o.main size = 0 := by cases o <;> rw [hsize] <;> rfl
      have hcross : o.cross size = 0 := by cases o <;> rw [hsize] <;> rfl
      rw [hmain, hcross, Nat.zero_min, Nat.sub_zero, Nat.max_self]
      exact ih hrest
  refine hall.bind fun taken htaken => ends_pure ?_
  rw [htaken, Nat.sub_self, Nat.zero_min]
  cases o <;> rfl

namespace Grid
variable {g : Grid (Box m)}

theorem ends_largest {extents : List (m Nat)} (h : ∀ extent ∈ extents, Ends (· = 0) extent)
    (soFar : Nat) : Ends (· = soFar) (largest soFar extents) := by
  induction extents with
  | nil => exact ends_pure rfl
  | cons extent rest ih =>
    obtain ⟨hfirst, hrest⟩ := List.forall_mem_cons.mp h
    refine hfirst.bind fun found hfound => ?_
    rw [hfound, Nat.max_zero]
    exact ih hrest

theorem ends_columnNeed {Z : Size → Prop} (h : ∀ b ∈ g.contents, b.Vanishes Z) {height : Nat}
    (hZ : ∀ width, Z ⟨width, height⟩) (column width : Nat) :
    Ends (· = 0) (g.columnNeed height column width) := by
  refine ends_largest (fun extent hextent => ?_) 0
  obtain ⟨row, _, hcell⟩ := List.mem_filterMap.mp hextent
  obtain ⟨b, hb, rfl⟩ := Option.map_eq_some_iff.mp hcell
  exact (h b (mem_contents_of_cell? hb) _ (hZ width)).bind fun size hsize => ends_pure (by rw [hsize]; rfl)

theorem ends_rowNeed {Z : Size → Prop} (h : ∀ b ∈ g.contents, b.Vanishes Z) {widths : GridLayout}
    (hZ : ∀ column height, Z ⟨widths.contentWidth column, height⟩) (row height : Nat) :
    Ends (· = 0) (g.rowNeed widths row height) := by
  refine ends_largest (fun extent hextent => ?_) 0
  obtain ⟨column, _, hcell⟩ := List.mem_filterMap.mp hextent
  obtain ⟨b, hb, rfl⟩ := Option.map_eq_some_iff.mp hcell
  exact (h b (mem_contents_of_cell? hb) _ (hZ column height)).bind fun size hsize =>
    ends_pure (by rw [hsize]; rfl)

theorem lax_effective {tracks : List Track} (h : ∀ t ∈ tracks, t.Lax) : ∀ t ∈ effective tracks, t.Lax := by
  cases tracks with
  | nil =>
    intro t ht hfixed
    rw [List.mem_singleton.mp ht] at hfixed
    cases hfixed
  | cons t rest => exact h

/-- Columns that together have no width leave none to their contents. -/
theorem contentWidth_eq_zero {l : GridLayout} (h : l.columns.sum = 0) (column : Nat) :
    l.contentWidth column = 0 := by
  have hnone : (l.columns[column]?).getD 0 = 0 := by
    cases hcolumn : l.columns[column]? with
    | none => rfl
    | some width => exact List.sum_eq_zero_iff_forall_eq_nat.mp h width (List.mem_of_getElem? hcolumn)
  rw [GridLayout.contentWidth, hnone, Nat.zero_sub]

/-- Without columns to stand in, rows of no fixed height vanish. -/
theorem vanishes_width (clear : Region → m Unit) (hrows : Track.LaxRows g.columns g.rows g.gutter)
    (h : ∀ b ∈ g.contents, b.Vanishes fun limit => limit.width = 0) :
    (box clear g).Vanishes fun limit => limit.width = 0 := by
  intro limit hlimit
  have hlayout : Ends (fun l => l.columns.sum = 0 ∧ l.rows.sum = 0) (g.layout limit .measure) := by
    refine (Track.ends_solve (g.columnNeed limit.height) _ _ _ _).bind fun columns hcolumns => ?_
    have hsum : columns.sum = 0 := Nat.le_zero.mp (hlimit ▸ hcolumns.2)
    let widths : GridLayout := { columns, rows := [], gutter := g.gutter }
    have hneed : ∀ row height, Ends (· = 0) (g.rowNeed widths row height) :=
      ends_rowNeed h fun column _ => contentWidth_eq_zero hsum column
    exact (Track.ends_solve_lax hneed (lax_effective hrows) (.inl rfl) _).bind fun rows hrows =>
      ends_pure ⟨hsum, hrows⟩
  refine hlayout.bind fun l hl => ends_pure ?_
  rw [hl.1, hl.2, Nat.zero_min, Nat.zero_min]
  rfl

/-- Without rows to stand in, columns of no fixed width and without gutters vanish. -/
theorem vanishes_height (clear : Region → m Unit) (hcolumns : Track.LaxColumns g.columns g.rows g.gutter)
    (h : ∀ b ∈ g.contents, b.Vanishes fun limit => limit.height = 0) :
    (box clear g).Vanishes fun limit => limit.height = 0 := by
  intro limit hlimit
  obtain ⟨hlax, hgutter⟩ := hcolumns
  have hlength : g.gutter = 0 ∨ (effective g.columns).length ≤ 1 := by
    rw [length_effective]
    omega
  have hlayout : Ends (fun l => l.columns.sum = 0 ∧ l.rows.sum = 0) (g.layout limit .measure) := by
    have hneed : ∀ column width, Ends (· = 0) (g.columnNeed limit.height column width) :=
      ends_columnNeed h fun _ => hlimit
    refine (Track.ends_solve_lax hneed (lax_effective hlax) hlength _).bind fun columns hcolumns => ?_
    refine (Track.ends_solve _ _ _ _ _).bind fun rows hrows => ends_pure ⟨hcolumns, ?_⟩
    exact Nat.le_zero.mp (hlimit ▸ hrows.2)
  refine hlayout.bind fun l hl => ends_pure ?_
  rw [hl.1, hl.2, Nat.zero_min, Nat.zero_min]
  rfl

end Grid

/-- The box measures no more than there is. -/
def Box.Fits (b : Box m) : Prop := ∀ limit, Ends (fun size => size.Within limit) (b.measure limit)

/-- Whatever boxes measure, the stack and the grid of them cut it down to what there is. -/
theorem Box.inherits_fits (clear : Region → m Unit) : View.Inherits clear (Box.Fits (m := m)) where
  stack o boxes _ limit := by
    refine (ends_any _).bind fun taken => fun _ => ends_pure ?_
    cases o with
    | vertical => exact ⟨Nat.min_le_right .., Nat.sub_le ..⟩
    | horizontal => exact ⟨Nat.sub_le .., Nat.min_le_right ..⟩
  grid g _ limit := (ends_any _).bind fun _ _ => ends_pure ⟨Nat.min_le_right .., Nat.min_le_right ..⟩

end

/-! ### Drawing -/

/-- Measuring the box draws nothing, and neither does rendering it, but in empty regions, where the region
is empty. -/
structure Box.Hollow (b : Box Drawing) : Prop where
  measures : Drawing.silent.Measures b
  renders : ∀ region : Region, region.isEmpty = true → ∀ d ∈ (b.render region).draws, d.region.isEmpty = true

/-- With room left along its axis, an empty region is empty across it. -/
theorem Orientation.isEmpty_part {o : Orientation} {region : Region} (hempty : region.isEmpty = true)
    {offset : Nat} (hroom : o.main region.size - offset ≠ 0) (offset' extent : Nat) :
    (o.part region offset' extent).isEmpty = true := by
  simp only [Region.isEmpty, Size.isEmpty, Region.size, Bool.or_eq_true, beq_iff_eq] at hempty ⊢
  cases o with
  | vertical =>
    have hheight : region.height ≠ 0 := fun hzero => hroom (by rw [main, Region.size, hzero, Nat.zero_sub])
    exact .inl (hempty.resolve_right hheight)
  | horizontal =>
    have hwidth : region.width ≠ 0 := fun hzero => hroom (by rw [main, Region.size, hzero, Nat.zero_sub])
    exact .inr (hempty.resolve_left hwidth)

/-- A stack hands its boxes nothing but empty regions then. -/
theorem Stack.hollow (o : Orientation) {boxes : List (Box Drawing)} (h : ∀ b ∈ boxes, b.Hollow) :
    (box o boxes).Hollow := by
  refine ⟨Drawing.silent.measures_stack fun b hb => (h b hb).measures, fun region hregion => ?_⟩
  have hfrom (offset : Nat) : ∀ d ∈ (renderFrom o region offset boxes).draws, d.region.isEmpty = true := by
    induction boxes generalizing offset with
    | nil => exact fun _ hd => absurd hd List.not_mem_nil
    | cons b rest ih =>
      obtain ⟨hb, hrest⟩ := List.forall_mem_cons.mp h
      unfold renderFrom
      by_cases hroom : o.main region.size - offset = 0
      · rw [if_pos hroom]
        exact fun _ hd => absurd hd List.not_mem_nil
      · rw [if_neg hroom, Drawing.draws_bind, hb.measures, List.nil_append, Drawing.draws_bind]
        refine List.forall_mem_append.mpr ⟨?_, ih hrest _⟩
        exact hb.renders _ (Orientation.isEmpty_part hregion hroom ..)
  exact hfrom 0

theorem Box.inherits_hollow : View.Inherits Drawing.clearRegion Box.Hollow where
  stack o _ h := Stack.hollow o h
  grid g h := by
    refine ⟨Drawing.silent.measures_grid (fun b hb => (h b hb).measures) _, fun region hregion => ?_⟩
    show ∀ d ∈ Drawing.draws (if region.isEmpty = true then _ else _), _
    rw [if_pos hregion]
    exact fun _ hd => absurd hd List.not_mem_nil

/-- What is drawn in empty regions calls nothing. -/
theorem Renderer.perform_hollow (r : Renderer) {draws : List Draw}
    (h : ∀ d ∈ draws, d.region.isEmpty = true) : r.perform draws = pure () := by
  induction draws with
  | nil => rfl
  | cons d rest ih =>
    obtain ⟨hd, hrest⟩ := List.forall_mem_cons.mp h
    have hdraw : r.draw d = pure () := by
      cases d with
      | span span region => exact funext fun t => if_pos hd
      | blank region => exact if_pos hd
    rw [perform, hdraw, pure_bind, ih hrest]

namespace View
variable (v : View Span)

/-- The tree as a box that draws. -/
abbrev drawn : Box Drawing := v.box Drawing.spanBox Drawing.clearRegion

theorem hollow_drawn : v.drawn.Hollow :=
  Box.inherits_hollow.box v fun span _ => ⟨fun _ => rfl, fun _ hregion d hd => by
    rw [List.mem_singleton.mp hd]
    exact hregion⟩

theorem fits_drawn : v.drawn.Fits :=
  (Box.inherits_fits _).box v fun span _ limit => ends_pure (span.measure_within limit)

/-- Against empty sizes a tree has no size when its grids are such that they vanish with their contents: a
text against no room has none. -/
theorem vanishes_drawn {P : List Track → List Track → Nat → Prop} {Z : Size → Prop}
    (hZ : ∀ limit, Z limit → limit.isEmpty = true)
    (hgrid : ∀ g : Grid (Box Drawing), P g.columns g.rows g.gutter → (∀ b ∈ g.contents, b.Vanishes Z) →
      (Grid.box Drawing.clearRegion g).Vanishes Z)
    (h : v.EveryGrid P) : v.drawn.Vanishes Z := by
  have hinherits : InheritsWhere P Drawing.clearRegion (Box.Vanishes Z) :=
    ⟨fun o _ => Stack.vanishes o, hgrid⟩
  have hspan (span : Span) : (Drawing.spanBox span).Vanishes Z :=
    fun limit hlimit => ends_pure (span.measure_of_isEmpty (hZ limit hlimit))
  exact hinherits.box hspan v h

/-- Measuring a tree of spans calls nothing of the terminal. -/
theorem measure_onTerminal (r : Renderer) (limit : Size) :
    (v.onTerminal r).measure limit = pure (v.drawn.measure limit).value := by
  have hsilent : Drawing.silent.Measures v.drawn := Drawing.silent.measures_view fun _ _ _ => rfl
  rw [r.onTerminal_eq v]
  show (do r.perform (v.drawn.measure limit).draws; pure (v.drawn.measure limit).value) = _
  rw [show (v.drawn.measure limit).draws = [] from hsilent limit, Renderer.perform, pure_bind]

end View

end TextPane
