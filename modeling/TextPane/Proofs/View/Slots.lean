import TextPane.Proofs.View.Tiling

/-! The slots of a grid.

The cells of a grid stand row by row in one list of slots, and cells of different columns or rows have
different slots (`Grid.index_inj`). Here the grid is laid out and rendered with every look into that list
one that fails where there is no such slot (`Grid.checkedBox`). As long as there are as many slots as columns
and rows make, none of these fails, whatever the boxes do (`Grid.checkedBox_eq`): contents are asked only for
tracks that there are (`Track.solve_congr`), and areas are those of cells of the grid. -/
namespace TextPane

/-! ### Tracks that there are -/

namespace Lane
variable {m : Type → Type} [Monad m] {need need' : Nat → Nat → m Nat}

theorem sizeContent_congr (room : Nat) {lanes : List Lane} (h : ∀ l ∈ lanes, need l.index = need' l.index) :
    sizeContent need room lanes = sizeContent need' room lanes := by
  induction lanes generalizing room with
  | nil => rfl
  | cons l rest ih =>
    have hrest (room : Nat) := ih room fun k hk => h k (List.mem_cons_of_mem l hk)
    simp only [sizeContent, h l (List.mem_cons_self ..), hrest]

theorem sizeStars_congr (pass : Pass) (pool total handed : Nat) {lanes : List Lane}
    (h : ∀ l ∈ lanes, need l.index = need' l.index) :
    sizeStars need pass pool total handed lanes = sizeStars need' pass pool total handed lanes := by
  induction lanes generalizing handed with
  | nil => rfl
  | cons l rest ih =>
    have hrest (handed : Nat) := ih handed fun k hk => h k (List.mem_cons_of_mem l hk)
    simp only [sizeStars, h l (List.mem_cons_self ..), hrest]

/-- Lanes numbered below a bound. -/
def Below (bound : Nat) (lanes : List Lane) : Prop := ∀ l ∈ lanes, l.index < bound

section Below
variable {bound : Nat} {l : Lane} {rest : List Lane}

theorem below_cons : Below bound (l :: rest) ↔ l.index < bound ∧ Below bound rest := List.forall_mem_cons

theorem below_ofTracks (gutter index : Nat) (tracks : List Track) :
    Below (index + tracks.length) (ofTracks gutter index tracks) := by
  fun_induction ofTracks gutter index tracks with
  | case1 => exact fun _ hl => absurd hl List.not_mem_nil
  | case2 index t =>
    intro l hl
    rw [List.mem_singleton.mp hl]
    exact Nat.lt_succ_self index
  | case3 index t rest _ ih =>
    rw [List.length_cons, ← Nat.add_assoc, Nat.add_right_comm]
    exact below_cons.mpr ⟨by show index < _; omega, ih⟩

theorem below_sizeFixed (room : Nat) {lanes : List Lane} (h : Below bound lanes) :
    Below bound (sizeFixed room lanes).1 := by
  induction lanes generalizing room with
  | nil => exact h
  | cons l rest ih =>
    obtain ⟨hl, hrest⟩ := below_cons.mp h
    unfold sizeFixed
    split <;> exact below_cons.mpr ⟨hl, ih _ hrest⟩

theorem ends_below_sizeContent [LawfulMonad m] (room : Nat) {lanes : List Lane} (h : Below bound lanes) :
    Ends (fun dealt => Below bound dealt.1) (sizeContent need room lanes) := by
  induction lanes generalizing room with
  | nil => exact ends_pure h
  | cons l rest ih =>
    obtain ⟨hl, hrest⟩ := below_cons.mp h
    unfold sizeContent
    split
    · refine (ends_any (need l.index (room - l.pad))).bind fun wanted _ => ?_
      exact (ih _ hrest).bind fun dealt hdealt => ends_pure (below_cons.mpr ⟨hl, hdealt⟩)
    · exact (ih _ hrest).bind fun dealt hdealt => ends_pure (below_cons.mpr ⟨hl, hdealt⟩)

end Below

end Lane

/-- Contents are asked only for tracks that there are. -/
theorem Track.solve_congr {m : Type → Type} [Monad m] [LawfulMonad m] {need need' : Nat → Nat → m Nat}
    (tracks : List Track) (available gutter : Nat) (pass : Pass)
    (h : ∀ i < tracks.length, need i = need' i) :
    solve need tracks available gutter pass = solve need' tracks available gutter pass := by
  have hlanes : Lane.Below tracks.length (Lane.ofTracks gutter 0 tracks) := by
    have hbelow := Lane.below_ofTracks gutter 0 tracks
    rwa [Nat.zero_add] at hbelow
  have hfixed := Lane.below_sizeFixed available hlanes
  simp only [solve]
  rw [Lane.sizeContent_congr _ fun l hl => h l.index (hfixed l hl)]
  refine (Lane.ends_below_sizeContent _ hfixed).congr fun dealt hdealt => ?_
  rw [Lane.sizeStars_congr pass _ _ 0 fun l hl => h l.index (hdealt l hl)]

/-- Work that could fail and does not. -/
def Carry.safe {m : Type → Type} [Monad m] [LawfulMonad m] : Carry m (OptionT m) where
  run := OptionT.lift
  run_pure := OptionT.lift_pure
  run_bind := OptionT.lift_bind

/-! ### Slots of cells -/

namespace Grid

section
variable {α : Type} {g : Grid α} {column row column' row' : Nat}

theorem index?_eq (hcolumn : column < g.columnCount) (hrow : row < g.rowCount) :
    g.index? column row = some (row * g.columnCount + column) := if_pos ⟨hcolumn, hrow⟩

theorem index_lt (hlength : g.cells.length = g.columnCount * g.rowCount) (hcolumn : column < g.columnCount)
    (hrow : row < g.rowCount) : row * g.columnCount + column < g.cells.length := by
  have hrows : (row + 1) * g.columnCount ≤ g.rowCount * g.columnCount :=
    Nat.mul_le_mul_right _ hrow
  rw [hlength, Nat.mul_comm g.columnCount]
  rw [Nat.add_mul, Nat.one_mul] at hrows
  omega

/-- The slot of a cell is that of no other one. -/
theorem index_inj (hcolumn : column < g.columnCount) (hcolumn' : column' < g.columnCount)
    (h : row * g.columnCount + column = row' * g.columnCount + column') : column = column' ∧ row = row' := by
  have hpos : 0 < g.columnCount := Nat.lt_of_le_of_lt (Nat.zero_le _) hcolumn
  have hrow : row = row' := by
    have hdiv := congrArg (· / g.columnCount) h
    simpa [Nat.mul_comm _ g.columnCount, Nat.mul_add_div hpos, Nat.div_eq_of_lt hcolumn,
      Nat.div_eq_of_lt hcolumn'] using hdiv
  rw [hrow] at h
  exact ⟨Nat.add_left_cancel h, hrow⟩

/-- The slot of a cell, if there is one. -/
def slot? (g : Grid α) (column row : Nat) : Option (Option α) := g.cells[row * g.columnCount + column]?

theorem slot?_eq (hlength : g.cells.length = g.columnCount * g.rowCount) (hcolumn : column < g.columnCount)
    (hrow : row < g.rowCount) : g.slot? column row = some (g.cell? column row) := by
  have hi := index_lt hlength hcolumn hrow
  rw [slot?, cell?, index?_eq hcolumn hrow, Option.bind_some, List.getElem?_eq_getElem hi]
  rfl

/-- The grid with a cell filled. From then on its tracks are fixed. -/
def fill (g : Grid α) (column row : Nat) (a : α) : Grid α :=
  { g with cells := g.cells.set (row * g.columnCount + column) (some a), locked := true }

theorem length_fill (column row : Nat) (a : α) : (g.fill column row a).cells.length = g.cells.length :=
  List.length_set

theorem place_eq (hcolumn : column < g.columnCount) (hrow : row < g.rowCount) (a : α) :
    g.place a column row = .ok (g.fill column row a) := by
  rw [place, index?_eq hcolumn hrow]
  rfl

theorem place_refused (h : ¬(column < g.columnCount ∧ row < g.rowCount)) (a : α) :
    g.place a column row = .error (.cellOutOfRange column row g.columnCount g.rowCount) := by
  rw [place, index?, if_neg h]

/-- A cell that is filled has what it is filled with, and no other cell has changed. -/
theorem cell?_fill (hlength : g.cells.length = g.columnCount * g.rowCount) (hcolumn : column < g.columnCount)
    (hrow : row < g.rowCount) (a : α) (column' row' : Nat) :
    (g.fill column row a).cell? column' row' =
      if column = column' ∧ row = row' then some a else g.cell? column' row' := by
  have hindex : (g.fill column row a).index? column' row' = g.index? column' row' := rfl
  by_cases hrange : column' < g.columnCount ∧ row' < g.rowCount
  · rw [cell?, hindex, cell?, index?_eq hrange.1 hrange.2, Option.bind_some, Option.bind_some, fill]
    by_cases hsame : column = column' ∧ row = row'
    · obtain ⟨rfl, rfl⟩ := hsame
      rw [if_pos ⟨rfl, rfl⟩, List.getElem?_set_self (index_lt hlength hcolumn hrow)]
      rfl
    · have hne : row * g.columnCount + column ≠ row' * g.columnCount + column' :=
        fun h => hsame (index_inj hcolumn hrange.1 h)
      rw [if_neg hsame, List.getElem?_set_ne hne]
  · have hother : ¬(column = column' ∧ row = row') := by
      rintro ⟨rfl, rfl⟩
      exact hrange ⟨hcolumn, hrow⟩
    rw [cell?, hindex, if_neg hother, cell?, index?, if_neg hrange]
    rfl

theorem mem_places {place : Nat × Nat} :
    place ∈ g.places ↔ place.1 < g.columnCount ∧ place.2 < g.rowCount := by
  rw [places, List.mem_flatMap]
  constructor
  · rintro ⟨row, hrow, hplace⟩
    obtain ⟨column, hcolumn, rfl⟩ := List.mem_map.mp hplace
    exact ⟨List.mem_range.mp hcolumn, List.mem_range.mp hrow⟩
  · rintro ⟨hcolumn, hrow⟩
    exact ⟨place.2, List.mem_range.mpr hrow, List.mem_map.mpr ⟨place.1, List.mem_range.mpr hcolumn, rfl⟩⟩

end

/-! ### Grids with every look checked -/

section Checked
variable {m : Type → Type} [Monad m] (g : Grid (Box m))

/-- The largest of extents of what stands in slots, measured in turn, and at least `soFar`. -/
def largestChecked (slot : Nat → Option (Option (Box m))) (extent : Nat → Box m → m Nat) (soFar : Nat) :
    List Nat → OptionT m Nat
  | [] => pure soFar
  | i :: rest => do
    match ← (slot i).getM with
    | some b => largestChecked slot extent (max soFar (← OptionT.lift (extent i b))) rest
    | none => largestChecked slot extent soFar rest

def columnNeedChecked (height column width : Nat) : OptionT m Nat :=
  largestChecked (fun row => g.slot? column row) (fun _ b => do return (← b.measure ⟨width, height⟩).width) 0
    (List.range g.rowCount)

def rowNeedChecked (widths : GridLayout) (row height : Nat) : OptionT m Nat :=
  largestChecked (fun column => g.slot? column row)
    (fun column b => do return (← b.measure ⟨widths.contentWidth column, height⟩).height) 0
    (List.range g.columnCount)

def layoutChecked (available : Size) (pass : Pass) : OptionT m GridLayout := do
  let columns ← Track.solve (g.columnNeedChecked available.height) (effective g.columns) available.width
    g.gutter pass
  let widths : GridLayout := { columns, rows := [], gutter := g.gutter }
  let rows ← Track.solve (g.rowNeedChecked widths) (effective g.rows) available.height 0 pass
  return { widths with rows }

def renderAreasChecked (clear : Region → m Unit) (overwrite : Bool) : List GridArea → OptionT m Unit
  | [] => pure ()
  | .cell column row region :: rest => do
    match ← (g.slot? column row).getM with
    | some b => OptionT.lift (b.render region)
    | none => if overwrite then OptionT.lift (clear region)
    renderAreasChecked clear overwrite rest
  | .gutter region :: rest => do
    if overwrite then OptionT.lift (clear region)
    renderAreasChecked clear overwrite rest

/-- A grid as a box of its own that fails where a cell has no slot. -/
def checkedBox (clear : Region → m Unit) (g : Grid (Box m)) : Box (OptionT m) where
  measure limit := do
    let l ← g.layoutChecked limit .measure
    return ⟨min l.columns.sum limit.width, min l.rows.sum limit.height⟩
  render region := do
    if region.isEmpty then return
    let l ← g.layoutChecked region.size .render
    renderAreasChecked g clear region.overwrite (l.areas region)

end Checked

section Lift
variable {m : Type → Type} [Monad m] [LawfulMonad m] {g : Grid (Box m)}

theorem largestChecked_eq {slot : Nat → Option (Option (Box m))} (extent : Nat → Box m → m Nat)
    (cell : Nat → Option (Box m)) (soFar : Nat) {is : List Nat} (h : ∀ i ∈ is, slot i = some (cell i)) :
    largestChecked slot extent soFar is =
      OptionT.lift (largest soFar (is.filterMap fun i => (cell i).map (extent i))) := by
  induction is generalizing soFar with
  | nil => exact (OptionT.lift_pure _).symm
  | cons i rest ih =>
    have hrest (soFar : Nat) := ih soFar fun k hk => h k (List.mem_cons_of_mem i hk)
    rw [largestChecked, h i (List.mem_cons_self ..), Option.getM_some, pure_bind]
    cases hcell : cell i with
    | none =>
      rw [List.filterMap_cons_none (by rw [hcell]; rfl)]
      exact hrest soFar
    | some b =>
      rw [List.filterMap_cons_some (by rw [hcell]; rfl), largest, OptionT.lift_bind]
      exact bind_congr fun answer => hrest _

section Slots
variable (hlength : g.cells.length = g.columnCount * g.rowCount)
include hlength

theorem columnNeedChecked_eq (height : Nat) {column : Nat} (hcolumn : column < g.columnCount) (width : Nat) :
    g.columnNeedChecked height column width = OptionT.lift (g.columnNeed height column width) :=
  largestChecked_eq _ (g.cell? column) 0 fun _ hrow => slot?_eq hlength hcolumn (List.mem_range.mp hrow)

theorem rowNeedChecked_eq (widths : GridLayout) {row : Nat} (hrow : row < g.rowCount) (height : Nat) :
    g.rowNeedChecked widths row height = OptionT.lift (g.rowNeed widths row height) :=
  largestChecked_eq _ (g.cell? · row) 0 fun _ hcolumn => slot?_eq hlength (List.mem_range.mp hcolumn) hrow

theorem layoutChecked_eq (available : Size) (pass : Pass) :
    g.layoutChecked available pass = OptionT.lift (g.layout available pass) := by
  have hsolve (need : Nat → Nat → m Nat) (checked : Nat → Nat → OptionT m Nat) (tracks : List Track)
      (room gutter : Nat)
      (h : ∀ i < max tracks.length 1, ∀ offered, checked i offered = OptionT.lift (need i offered)) :
      Track.solve checked (effective tracks) room gutter pass =
        OptionT.lift (Track.solve need (effective tracks) room gutter pass) := by
    refine Eq.trans ?_ (Track.run_solve Carry.safe need (effective tracks) room gutter pass).symm
    rw [← length_effective] at h
    exact Track.solve_congr _ _ _ _ fun i hi => funext (h i hi)
  rw [layoutChecked, layout, OptionT.lift_bind,
    hsolve _ _ _ _ _ fun column hcolumn => columnNeedChecked_eq hlength _ hcolumn]
  refine bind_congr fun columns => ?_
  dsimp only
  rw [OptionT.lift_bind, hsolve _ _ _ _ _ fun row hrow => rowNeedChecked_eq hlength _ hrow]
  exact bind_congr fun rows => (OptionT.lift_pure _).symm

theorem renderAreasChecked_eq (clear : Region → m Unit) (overwrite : Bool) {areas : List GridArea}
    (h : ∀ place ∈ areas.filterMap GridArea.place?, place ∈ g.places) :
    g.renderAreasChecked clear overwrite areas = OptionT.lift (g.renderAreas clear overwrite areas) := by
  induction areas with
  | nil => exact (OptionT.lift_pure _).symm
  | cons area rest ih =>
    cases area with
    | cell column row region =>
      obtain ⟨hplace, hrest⟩ := List.forall_mem_cons.mp h
      obtain ⟨hcolumn, hrow⟩ := mem_places.mp hplace
      rw [renderAreasChecked, renderAreas, slot?_eq hlength hcolumn hrow, Option.getM_some, pure_bind]
      cases g.cell? column row with
      | some b =>
        rw [OptionT.lift_bind]
        exact bind_congr fun _ => ih hrest
      | none =>
        cases overwrite
        · exact ih hrest
        · exact (bind_congr fun _ => ih hrest).trans (OptionT.lift_bind ..).symm
    | gutter region =>
      rw [renderAreasChecked, renderAreas]
      cases overwrite
      · exact ih h
      · exact (bind_congr fun _ => ih h).trans (OptionT.lift_bind ..).symm

/-- **A grid with as many slots as its columns and rows make finds every slot** that it looks for. -/
theorem checkedBox_eq (clear : Region → m Unit) : g.checkedBox clear = (box clear g).map Carry.safe := by
  simp only [checkedBox, box, Box.map, Box.mk.injEq]
  constructor
  · funext limit
    rw [layoutChecked_eq hlength]
    exact (bind_congr fun l => (OptionT.lift_pure _).symm).trans (OptionT.lift_bind ..).symm
  · funext region
    rw [Carry.run_ite]
    split
    · exact (OptionT.lift_pure _).symm
    · rw [layoutChecked_eq hlength]
      refine Eq.trans ?_ (OptionT.lift_bind ..).symm
      refine (g.ends_layout region.size .render).lift.congr fun l hfits => ?_
      exact renderAreasChecked_eq hlength clear _ fun place hplace => hfits.places region ▸ hplace

end Slots

end Lift

end Grid

end TextPane
