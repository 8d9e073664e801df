import TextPane.Proofs.Scene.Rendering

/-! What is left of what was there before.

A line that is shown in an overwritten region covers its row of the region from end to end, with its
characters and with blanks behind them. So once a span is rendered there, the cells of these rows are a
matter of the span alone (`Region.cell_covered`), and two screens that agreed outside of the region agree
in them too (`render_covers`).

The sequences of colours and text attributes have to select graphic renditions for that: one that places
the cursor elsewhere has the line written elsewhere, and the region keeps what it held
(`render_uncovers`). -/
namespace TextPane

/-! ### Screens cell by cell -/

namespace Screen
variable {size : Size} {a b : Screen}

/-- The cells of a screen are those within its size. -/
theorem Fits.isSome_cell? (h : a.Fits size) (row column : Nat) :
    (a.cell? row column).isSome = decide (row < size.height ∧ column < size.width) := by
  obtain ⟨hrows, hcolumns⟩ := h
  by_cases hrow : row < a.cells.length
  · have hwidth : a.cells[row].length = size.width := hcolumns _ (List.getElem_mem hrow)
    by_cases hcolumn : column < size.width <;> simp [cell?, ← hrows, hrow, hwidth, hcolumn]
  · simp [cell?, ← hrows, hrow]

/-- Screens of one size that agree in every cell have the same cells. -/
theorem Fits.cells_ext (ha : a.Fits size) (hb : b.Fits size)
    (h : ∀ row column, a.cell? row column = b.cell? row column) : a.cells = b.cells := by
  refine List.ext_getElem (by rw [ha.1, hb.1]) fun row hrow hrow' => List.ext_getElem? fun column => ?_
  have hcell := h row column
  simpa [cell?, List.getElem?_eq_getElem hrow, List.getElem?_eq_getElem hrow'] using hcell

end Screen

/-- What a row of an overwritten region shows where a line stands in it is no matter of what it showed
before. -/
theorem Region.cell_covered {region : Region} (hoverwrite : region.overwrite = true)
    {lines : List Line} {row column : Nat} (hcell : region.Has row column)
    (hrow : row < region.top + lines.length) (old old' : Cell) :
    region.cell region.top lines row column old = region.cell region.top lines row column old' := by
  obtain ⟨⟨htop, _⟩, hleft, hright⟩ := hcell
  have hline : row - region.top < lines.length := by omega
  simp only [Region.cell, Nat.not_lt.mpr htop, if_false, List.getElem?_eq_getElem hline, Line.cell,
    Nat.not_lt.mpr hleft, hoverwrite, hright, and_self, if_true]

namespace Renderer

/-- The cells after a rendering that did not fail, each by what it was before. -/
theorem cell?_render {r : Renderer} {s : Span} {region : Region} {t : Terminal} (htame : s.Tame)
    (hmode : r.mode ≠ .file) (hregion : region.Bounded) (hsome : region.isEmpty = false)
    (hok : (r.render s region t).1 = .ok ()) (row column : Nat) :
    (r.render s region t).2.screen.cell? row column =
      (t.screen.cell? row column).map
        (region.cell region.top (s.wrap region.size) row column) := by
  have hlines : (s.wrap region.size).length ≤ region.height := s.length_wrap_le region.size
  have hbottom := hregion.rows
  rw [render_eq_makeAll] at hok ⊢
  rw [Terminal.eq_after_of_makeAll hok, Terminal.screen_after, r.replayAll_renderCalls hsome,
    Print.cell?_linesCalls hmode (Region.left_lt hregion hsome)
      (fun _ hl => htame.plain_of_mem_wrap hl) _ _ (by omega)]
  rfl

/-- Rendering does not change the size of a terminal. -/
theorem size_render {r : Renderer} {s : Span} {region : Region} {t : Terminal}
    (hok : (r.render s region t).1 = .ok ()) : (r.render s region t).2.size = t.size := by
  rw [render_eq_makeAll] at hok ⊢
  rw [Terminal.eq_after_of_makeAll hok, Terminal.size_after]

/-- A span is rendered, and no call fails, into an overwritten region of two terminals of one size, which
show the same outside of the region. -/
structure Covering (r : Renderer) (s : Span) (region : Region) (t t' : Terminal) : Prop where
  mode : r.mode ≠ .file
  overwrite : region.overwrite = true
  nonempty : region.isEmpty = false
  columns : region.left + region.width ≤ t.size.width
  rows : region.top + region.height ≤ t.size.height
  limit : t.size.width ≤ cellLimit ∧ t.size.height ≤ cellLimit
  size : t'.size = t.size
  outside : ∀ row column, ¬region.Has row column →
    t.screen.cell? row column = t'.screen.cell? row column
  done : (r.render s region t).1 = .ok ()
  done' : (r.render s region t').1 = .ok ()

section Covering
variable {r : Renderer} {s : Span} {region : Region} {t t' : Terminal}

/-- Terminals of one size show the same outside of a region if they do so on the screen. -/
theorem outside_of_cells (hsize : t'.size = t.size)
    (h : ∀ row < t.size.height, ∀ column < t.size.width, ¬region.Has row column →
      t.screen.cell? row column = t'.screen.cell? row column) (row column : Nat)
    (hout : ¬region.Has row column) : t.screen.cell? row column = t'.screen.cell? row column := by
  by_cases hon : row < t.size.height ∧ column < t.size.width
  · exact h row hon.1 column hon.2 hout
  · have hnone := t.fits_screen.isSome_cell? row column
    have hnone' := t'.fits_screen.isSome_cell? row column
    rw [hsize] at hnone'
    rw [decide_eq_false hon, Option.isSome_eq_false_iff, Option.isNone_iff_eq_none] at hnone hnone'
    rw [hnone, hnone']

theorem Covering.bounded (h : Covering r s region t t') : region.Bounded :=
  ⟨Nat.le_trans h.columns h.limit.1, Nat.le_trans h.rows h.limit.2⟩

/-- In a cell of the region that a line covers both terminals show the same. -/
theorem Covering.cell?_eq (h : Covering r s region t t') (htame : s.Tame) {row column : Nat}
    (hcell : region.Has row column → row < region.top + (s.wrap region.size).length) :
    (r.render s region t).2.screen.cell? row column =
      (r.render s region t').2.screen.cell? row column := by
  rw [cell?_render htame h.mode h.bounded h.nonempty h.done,
    cell?_render htame h.mode h.bounded h.nonempty h.done']
  by_cases hhas : region.Has row column
  · have hsome : (t.screen.cell? row column).isSome = (t'.screen.cell? row column).isSome := by
      rw [t.fits_screen.isSome_cell?, t'.fits_screen.isSome_cell?, h.size]
    cases hold : t.screen.cell? row column <;> cases hold' : t'.screen.cell? row column <;>
      simp only [hold, hold', Option.isSome_none, Option.isSome_some, reduceCtorEq] at hsome
    · rfl
    · exact congrArg some (Region.cell_covered h.overwrite hhas (hcell hhas) _ _)
  · rw [h.outside row column hhas]

end Covering

/-- **An overwritten region keeps nothing in the rows of the lines.** A span whose colours and attributes
are graphic renditions is rendered into a region of two terminals that show the same outside of it. Then
they show the same in all cells but those of the region below the last line, and in all cells if the
span has as many lines as the region has rows. -/
theorem render_covers (r : Renderer) (s : Span) (region : Region) (t t' : Terminal) (htame : s.Tame)
    (h : Covering r s region t t') :
    (∀ row column, (region.Has row column → row < region.top + (s.measure region.size).height) →
      (r.render s region t).2.screen.cell? row column =
        (r.render s region t').2.screen.cell? row column) ∧
    ((s.measure region.size).height = region.height →
      (r.render s region t).2.screen.cells = (r.render s region t').2.screen.cells) := by
  rw [← s.length_wrap region.size]
  refine ⟨fun row column hcell => h.cell?_eq htame hcell, fun hheight => ?_⟩
  have hfits := (r.render s region t).2.fits_screen
  have hfits' := (r.render s region t').2.fits_screen
  rw [size_render h.done] at hfits
  rw [size_render h.done', h.size] at hfits'
  refine hfits.cells_ext hfits' fun row column => h.cell?_eq htame fun hhas => ?_
  rw [hheight]
  exact hhas.1.2

/-- Two lines cover a region of two rows over letters and over digits. -/
theorem render_covers_letters :
    let s : Span := .container [.content "ab " 3, .foreground "red", .content "c" 1] 4
    let region : Region := { left := 1, top := 0, width := 3, height := 2 }
    let t : Terminal := { size := ⟨5, 2⟩, calls := #[.write ".wxy.\n.wxy."] }
    let t' : Terminal := { size := ⟨5, 2⟩, calls := #[.write ".123.\n.456."] }
    let r : Renderer := { mode := .console }
    s.Tame ∧ Covering r s region t t' ∧ (s.measure region.size).height = region.height ∧
      (r.render s region t).2.screen.cells = (r.render s region t').2.screen.cells ∧
      (r.render s region t).2.screen.lines = [".ab .", ".c  ."] := by
  intro s region t t' r
  have htame : s.Tame := by
    apply Span.tame_container
    intro s hs
    rcases List.mem_cons.mp hs with rfl | hs
    · exact Span.tame_content 3 (by decide)
    rcases List.mem_cons.mp hs with rfl | hs
    · exact Span.tame_control (Control.Standard.named "red" .foreground).graphic
    · rw [List.mem_singleton.mp hs]
      exact Span.tame_content 1 (by decide)
  have hcovering : Covering r s region t t' := by
    have hcells : ∀ row < 2, ∀ column < 5, ¬region.Has row column →
        t.screen.cell? row column = t'.screen.cell? row column := by
      unfold Region.Has
      decide +kernel
    exact ⟨by decide, rfl, rfl, by decide, by decide, by decide, rfl, outside_of_cells rfl hcells,
      by decide +kernel, by decide +kernel⟩
  have hheight : (s.measure region.size).height = region.height := by decide +kernel
  exact ⟨htame, hcovering, hheight, (render_covers r s region t t' htame hcovering).2 hheight,
    by decide +kernel⟩

/-- A red whose sequence places the cursor in the second column, and a text. -/
def movingRed : Span :=
  .container [.control (.color { name := "red", channel := .foreground, code := Escape.moveTo 1 2 }),
    .content "x" 1] 1

theorem inked_movingRed : movingRed.Inked := Span.inked_colored _ 1 1 (by decide)

/-- A region is not covered where a colour carries a sequence that places the cursor elsewhere, though
the span has as many lines as the region has rows; and it is not covered below the last line. -/
theorem render_uncovers :
    (¬∀ (r : Renderer) (s : Span) (region : Region) (t t' : Terminal), s.Inked →
      Covering r s region t t' → (s.measure region.size).height = region.height →
      (r.render s region t).2.screen.cells = (r.render s region t').2.screen.cells) ∧
    ¬∀ (r : Renderer) (s : Span) (region : Region) (t t' : Terminal), s.Tame →
      Covering r s region t t' →
      (r.render s region t).2.screen.cells = (r.render s region t').2.screen.cells := by
  constructor
  · intro hcovers
    let region : Region := { left := 0, top := 0, width := 1, height := 1 }
    let t : Terminal := { size := ⟨2, 1⟩, calls := #[.write "a."] }
    let t' : Terminal := { size := ⟨2, 1⟩, calls := #[.write "b."] }
    have hcells : ∀ row < 1, ∀ column < 2, ¬region.Has row column →
        t.screen.cell? row column = t'.screen.cell? row column := by
      unfold Region.Has
      decide +kernel
    have hsame := hcovers { mode := .ansi } movingRed region t t' inked_movingRed
      ⟨by decide, rfl, rfl, by decide, by decide, by decide, rfl, outside_of_cells rfl hcells,
        by decide +kernel, by decide +kernel⟩ (by decide +kernel)
    exact absurd hsame (by decide +kernel)
  · intro hcovers
    let region : Region := { left := 0, top := 0, width := 1, height := 2 }
    let t : Terminal := { size := ⟨1, 2⟩, calls := #[.write "a\nb"] }
    let t' : Terminal := { size := ⟨1, 2⟩, calls := #[.write "a\nc"] }
    have hcells : ∀ row < 2, ∀ column < 1, ¬region.Has row column →
        t.screen.cell? row column = t'.screen.cell? row column := by
      unfold Region.Has
      decide +kernel
    have hsame := hcovers { mode := .ansi } (.content "x" 1) region t t' (Span.tame_content 1 (by decide))
      ⟨by decide, rfl, rfl, by decide, by decide, by decide, rfl, outside_of_cells rfl hcells,
        by decide +kernel, by decide +kernel⟩
    exact absurd hsame (by decide +kernel)

end Renderer

end TextPane
