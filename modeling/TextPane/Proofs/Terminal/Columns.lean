import TextPane.Proofs.View.Paint

/-! Columns of the screen.

A wide character has its glyph in the first cell that it takes and tails in the others, and what is put on the
screen later takes these cells one by one. So it may lose some of its cells and keep others: a glyph is left
without its tails, or tails without their glyph, and what stands behind is not shown in the column of its cell
(`screen_loses_column`). There is no other way to lose a column: a line keeps its columns exactly if no
character was split in it (`keepsColumns_iff_unsplit`), whatever was written where.

A cell does not tell which character it belongs to. So the characters put on the screen since it was last
cleared are listed, the newest first (`Terminal.stamps`), and every cell shows what the newest one that takes
it leaves there (`shows_screen`). In between stands what the cells alone can tell: the tails are the cells that
a glyph before them covers (`Tiled`). -/
namespace TextPane

namespace Screen

/-! ### Lines of cells -/

/-- The characters of a line of cells, without the tails. -/
def glyphs (cells : List Cell) : List Char := cells.filterMap fun
  | .glyph c => some c
  | .tail => none

/-- The columns that the glyphs before a cell take when they are shown without tails. -/
def reach (cells : List Cell) (column : Nat) : Nat := ((glyphs (cells.take column)).map glyphColumns).sum

/-- The glyph in the one cell is wide enough to cover the other one behind it. -/
def ReachesOver (cells : List Cell) (start column : Nat) : Prop :=
  ∃ c, cells[start]? = some (.glyph c) ∧ start < column ∧ column < start + glyphColumns c

/-- Without its tails a line shows every glyph in the column of its cell. -/
structure KeepsColumns (cells : List Cell) : Prop where
  /-- A tail stands directly behind a wide glyph that covers it, or behind other tails of this glyph. -/
  tail : ∀ column, cells[column]? = some .tail → ∃ start, ReachesOver cells start column ∧
    ∀ between, start < between → between < column → cells[between]? = some .tail
  /-- The glyphs before a glyph take as many columns as there are cells before it. -/
  glyph : ∀ column c, cells[column]? = some (.glyph c) → reach cells column = column

/-- The tails are the cells that a glyph before them covers. -/
def Tiled (cells : List Cell) : Prop :=
  ∀ column < cells.length, cells[column]? = some .tail ↔ ∃ start, ReachesOver cells start column

section Lines
variable {cells : List Cell} {column : Nat}

theorem lineText_eq (cells : List Cell) :
    lineText cells = String.ofList (Text.trimEndChars (glyphs cells)) := rfl

theorem glyph_or_tail (h : column < cells.length) :
    (∃ c, cells[column]? = some (.glyph c)) ∨ cells[column]? = some .tail := by
  rw [List.getElem?_eq_getElem h]
  cases cells[column] <;> simp

theorem lt_length_of_cell {cell : Cell} (h : cells[column]? = some cell) : column < cells.length :=
  (List.getElem?_eq_some_iff.mp h).1

theorem reach_succ_glyph {c : Char} (h : cells[column]? = some (.glyph c)) :
    reach cells (column + 1) = reach cells column + glyphColumns c := by
  simp [reach, glyphs, List.take_add_one, h]

theorem reach_succ_tail (h : cells[column]? = some .tail) :
    reach cells (column + 1) = reach cells column := by
  simp [reach, glyphs, List.take_add_one, h]

theorem reach_mono {a b : Nat} (h : a ≤ b) : reach cells a ≤ reach cells b := by
  obtain ⟨rest, hrest⟩ : cells.take a <+: cells.take b := List.take_prefix_take_left h
  simp [reach, glyphs, ← hrest]

theorem KeepsColumns.tiled (h : KeepsColumns cells) : Tiled cells := by
  intro column hcolumn
  refine ⟨fun htail => ?_, fun ⟨start, c, hstart, hlt, hcovered⟩ => ?_⟩
  · obtain ⟨start, hreaches, _⟩ := h.tail column htail
    exact ⟨start, hreaches⟩
  · rcases glyph_or_tail hcolumn with ⟨d, hglyph⟩ | htail
    · -- A glyph there would be shown behind all columns of the one that covers it.
      have hbefore : start + glyphColumns c ≤ column :=
        calc start + glyphColumns c = reach cells (start + 1) := by
              rw [reach_succ_glyph hstart, h.glyph start c hstart]
          _ ≤ reach cells column := reach_mono hlt
          _ = column := h.glyph column d hglyph
      omega
    · exact htail

/-- No glyph covers another one. -/
theorem Tiled.not_reachesOver (h : Tiled cells) {c : Char} (hglyph : cells[column]? = some (.glyph c))
    (start : Nat) : ¬ReachesOver cells start column := by
  intro hreaches
  rw [(h column (lt_length_of_cell hglyph)).mpr ⟨start, hreaches⟩] at hglyph
  cases hglyph

/-- The glyphs up to a cell reach as far as the last of them, and that one covers the cell. -/
def Filled (cells : List Cell) (column : Nat) : Prop :=
  ∃ start c, cells[start]? = some (.glyph c) ∧ start ≤ column ∧ column < start + glyphColumns c ∧
    reach cells (column + 1) = start + glyphColumns c

/-- The next glyph stands where those before it end. -/
theorem Filled.reach_eq (h : Tiled cells) (hfilled : Filled cells column) {c : Char}
    (hglyph : cells[column + 1]? = some (.glyph c)) : reach cells (column + 1) = column + 1 := by
  obtain ⟨start, d, hstart, hle, hlt, hreach⟩ := hfilled
  have hend : ¬column + 1 < start + glyphColumns d := fun hcovered =>
    h.not_reachesOver hglyph start ⟨d, hstart, by omega, hcovered⟩
  omega

theorem filled_of_glyph {c : Char} (hglyph : cells[column]? = some (.glyph c)) (hpos : 0 < glyphColumns c)
    (hreach : reach cells column = column) : Filled cells column :=
  ⟨column, c, hglyph, Nat.le_refl _, by omega, by rw [reach_succ_glyph hglyph, hreach]⟩

/-- A tail is covered by the last glyph before it. -/
theorem Filled.tail (h : Tiled cells) (hfilled : Filled cells column)
    (htail : cells[column + 1]? = some .tail) : Filled cells (column + 1) := by
  obtain ⟨start, c, hstart, hle, hlt, hreach⟩ := hfilled
  obtain ⟨start', d, hstart', hle', hlt'⟩ := (h _ (lt_length_of_cell htail)).mp htail
  have hnot : ¬start < start' := fun hbefore =>
    h.not_reachesOver hstart' start ⟨c, hstart, hbefore, by omega⟩
  have hnot' : ¬start' < start := fun hbefore =>
    h.not_reachesOver hstart start' ⟨d, hstart', hbefore, by omega⟩
  obtain rfl : start = start' := by omega
  obtain rfl : c = d := Cell.glyph.inj (Option.some.inj (hstart.symm.trans hstart'))
  exact ⟨start, c, hstart, by omega, hlt', by rw [reach_succ_tail htail, hreach]⟩

theorem Tiled.filled (h : Tiled cells)
    (hpos : ∀ (column : Nat) (c : Char), cells[column]? = some (.glyph c) → 0 < glyphColumns c)
    (hcolumn : column < cells.length) : Filled cells column := by
  induction column with
  | zero =>
    rcases glyph_or_tail hcolumn with ⟨c, hglyph⟩ | htail
    · exact filled_of_glyph hglyph (hpos _ c hglyph) rfl
    · obtain ⟨start, c, _, hlt, _⟩ := (h 0 hcolumn).mp htail
      omega
  | succ column ih =>
    have hfilled := ih (by omega)
    rcases glyph_or_tail hcolumn with ⟨c, hglyph⟩ | htail
    · exact filled_of_glyph hglyph (hpos _ c hglyph) (hfilled.reach_eq h hglyph)
    · exact hfilled.tail h htail

/-- A line keeps its columns if its tails are the cells that glyphs before them cover. -/
theorem Tiled.keepsColumns (h : Tiled cells)
    (hpos : ∀ (column : Nat) (c : Char), cells[column]? = some (.glyph c) → 0 < glyphColumns c) :
    KeepsColumns cells where
  tail column htail := by
    have hcolumn := lt_length_of_cell htail
    obtain ⟨start, c, hstart, hlt, hcovered⟩ := (h column hcolumn).mp htail
    exact ⟨start, ⟨c, hstart, hlt, hcovered⟩, fun between hafter hbefore =>
      (h between (by omega)).mpr ⟨start, c, hstart, hafter, by omega⟩⟩
  glyph column c hglyph := by
    have hcolumn := lt_length_of_cell hglyph
    cases column with
    | zero => rfl
    | succ column => exact (h.filled hpos (Nat.lt_of_succ_lt hcolumn)).reach_eq h hglyph

end Lines

/-! ### Characters on the screen -/

/-- A character put on the screen, and the cell that it begins in. -/
structure Stamp where
  row : Nat
  column : Nat
  glyph : Char
deriving DecidableEq, Repr

namespace Stamp

/-- The character takes the cell. -/
def Covers (p : Stamp) (row column : Nat) : Prop :=
  row = p.row ∧ p.column ≤ column ∧ column < p.column + glyphColumns p.glyph

instance (p : Stamp) (row column : Nat) : Decidable (p.Covers row column) :=
  inferInstanceAs (Decidable (_ ∧ _ ∧ _))

/-- What the character leaves in a cell that it takes: itself in the first one, tails in the others. -/
def cell (p : Stamp) (column : Nat) : Cell := if column = p.column then .glyph p.glyph else .tail

/-- Of the cells that the character takes on a screen of this width, newer characters took some and left
others. -/
def IsSplit (p : Stamp) (width : Nat) (newer : List Stamp) : Prop :=
  (∃ column < width, p.Covers p.row column ∧ ∃ q ∈ newer, q.Covers p.row column) ∧
    ∃ column < width, p.Covers p.row column ∧ ∀ q ∈ newer, ¬q.Covers p.row column

instance (p : Stamp) (width : Nat) (newer : List Stamp) : Decidable (p.IsSplit width newer) :=
  inferInstanceAs (Decidable (_ ∧ _))

end Stamp

/-- Of characters put one after the other, the newest first, none is split in this row. -/
def Unsplit (width row : Nat) (ps : List Stamp) : Prop :=
  ∀ i (h : i < ps.length), ps[i].row = row → ¬ps[i].IsSplit width (ps.take i)

instance (width row : Nat) (ps : List Stamp) : Decidable (Unsplit width row ps) :=
  inferInstanceAs (Decidable (∀ i (h : i < ps.length), ps[i].row = row → ¬ps[i].IsSplit width (ps.take i)))

/-- What characters, the newest first, leave in a cell that was blank. -/
def stamped (row column : Nat) : List Stamp → Cell
  | [] => .blank
  | p :: older => if p.Covers row column then p.cell column else stamped row column older

/-- Character number `i` is the newest one that takes the cell. -/
structure Holds (ps : List Stamp) (row column i : Nat) (p : Stamp) : Prop where
  stamp : ps[i]? = some p
  covers : p.Covers row column
  newest : ∀ q ∈ ps.take i, ¬q.Covers row column

section Holds
variable {ps : List Stamp} {row column i j : Nat} {p q : Stamp}

theorem Holds.le (h : Holds ps row column i p) (hq : ps[j]? = some q) (hcovers : q.Covers row column) :
    i ≤ j := by
  by_contra hlt
  have hmem : q ∈ ps.take i :=
    List.mem_of_getElem? ((List.getElem?_take_of_lt (Nat.lt_of_not_le hlt)).trans hq)
  exact h.newest q hmem hcovers

theorem Holds.unique (h : Holds ps row column i p) (h' : Holds ps row column j q) : i = j ∧ p = q := by
  obtain rfl : i = j := Nat.le_antisymm (h.le h'.stamp h'.covers) (h'.le h.stamp h.covers)
  exact ⟨rfl, Option.some.inj (h.stamp.symm.trans h'.stamp)⟩

/-- A cell is blank, or shows what the newest character that takes it leaves there. -/
theorem stamped_cases (ps : List Stamp) (row column : Nat) :
    stamped row column ps = .blank ∨
      ∃ i p, Holds ps row column i p ∧ stamped row column ps = p.cell column := by
  induction ps with
  | nil => exact .inl rfl
  | cons p older ih =>
    by_cases hcovers : p.Covers row column
    · exact .inr ⟨0, p, ⟨rfl, hcovers, by simp⟩, if_pos hcovers⟩
    · rw [stamped, if_neg hcovers]
      refine ih.imp_right fun ⟨i, q, hq, hcell⟩ => ⟨i + 1, q, ⟨hq.stamp, hq.covers, ?_⟩, hcell⟩
      simpa [hcovers] using hq.newest

theorem Holds.stamped_eq (h : Holds ps row column i p) : stamped row column ps = p.cell column := by
  induction ps generalizing i with
  | nil => cases h.stamp
  | cons q older ih =>
    cases i with
    | zero =>
      obtain rfl : q = p := Option.some.inj h.stamp
      exact if_pos h.covers
    | succ i =>
      have hnewest := h.newest
      rw [List.take_succ_cons, List.forall_mem_cons] at hnewest
      rw [stamped, if_neg hnewest.1]
      exact ih ⟨h.stamp, h.covers, hnewest.2⟩

end Holds

/-! ### Lines that characters left -/

/-- Every cell of the line shows what characters, the newest first, leave in this row. -/
def Stamped (ps : List Stamp) (row : Nat) (cells : List Cell) : Prop :=
  ∀ column < cells.length, cells[column]? = some (stamped row column ps)

section Stamped
variable {ps : List Stamp} {row i : Nat} {cells : List Cell} {p : Stamp}

/-- A tail belongs to a character that begins before it. -/
theorem Stamped.exists_of_tail (h : Stamped ps row cells) {column : Nat} (htail : cells[column]? = some .tail) :
    ∃ i p, Holds ps row column i p ∧ p.column < column := by
  have hcolumn := lt_length_of_cell htail
  have hcell : stamped row column ps = .tail := Option.some.inj ((h column hcolumn).symm.trans htail)
  rcases stamped_cases ps row column with hblank | ⟨i, p, hp, hshown⟩
  · rw [hblank] at hcell
    cases hcell
  · refine ⟨i, p, hp, Nat.lt_of_le_of_ne hp.covers.2.1 fun hhead => ?_⟩
    rw [hshown, Stamp.cell, if_pos hhead.symm] at hcell
    cases hcell

/-- A glyph is that of a blank cell, or that of a character which begins there. -/
theorem Stamped.glyph_cases (h : Stamped ps row cells) {column : Nat} {c : Char}
    (hglyph : cells[column]? = some (.glyph c)) :
    c = ' ' ∨ ∃ i p, Holds ps row column i p ∧ p.column = column ∧ p.glyph = c := by
  have hcolumn := lt_length_of_cell hglyph
  have hcell : stamped row column ps = .glyph c := Option.some.inj ((h column hcolumn).symm.trans hglyph)
  rcases stamped_cases ps row column with hblank | ⟨i, p, hp, hshown⟩
  · exact .inl (Cell.glyph.inj (hcell.symm.trans hblank))
  · rw [hshown, Stamp.cell] at hcell
    split at hcell
    · rename_i hhead
      exact .inr ⟨i, p, hp, hhead.symm, Cell.glyph.inj hcell⟩
    · cases hcell

theorem Stamped.glyphColumns_pos (h : Stamped ps row cells) (column : Nat) (c : Char)
    (hglyph : cells[column]? = some (.glyph c)) : 0 < glyphColumns c := by
  rcases h.glyph_cases hglyph with rfl | ⟨_, p, hp, rfl, rfl⟩
  · decide
  · have hcovered := hp.covers.2.2
    omega

/-- A glyph that covers another cell belongs to a character that takes both. -/
theorem Stamped.exists_of_reachesOver (h : Stamped ps row cells) {start column : Nat}
    (hreaches : ReachesOver cells start column) :
    ∃ i p, Holds ps row p.column i p ∧ p.column = start ∧ p.Covers row column := by
  obtain ⟨c, hstart, hlt, hcovered⟩ := hreaches
  rcases h.glyph_cases hstart with rfl | ⟨i, p, hp, rfl, rfl⟩
  · have hblank : glyphColumns ' ' = 1 := by decide
    omega
  · exact ⟨i, p, hp, rfl, hp.covers.1, by omega, hcovered⟩

/-- The glyph of a character that holds its first cell covers all others that it takes. -/
theorem Stamped.reachesOver (h : Stamped ps row cells) (hp : Holds ps row p.column i p) {column : Nat}
    (hcolumn : column < cells.length) (hcovers : p.Covers row column) (hlt : p.column < column) :
    ReachesOver cells p.column column := by
  refine ⟨p.glyph, ?_, hlt, hcovers.2.2⟩
  rw [h _ (by omega), hp.stamped_eq, Stamp.cell, if_pos rfl]

/-- A character that is not split holds all cells that it takes if it holds one. -/
theorem Unsplit.holds {width : Nat} (h : Unsplit width row ps) {a b : Nat} (hp : Holds ps row a i p)
    (ha : a < width) (hb : b < width) (hcovers : p.Covers row b) : Holds ps row b i p := by
  obtain ⟨hi, rfl⟩ := List.getElem?_eq_some_iff.mp hp.stamp
  refine ⟨hp.stamp, hcovers, fun q hq hqcovers => ?_⟩
  obtain rfl : row = ps[i].row := hcovers.1
  exact h i hi rfl ⟨⟨b, hb, hcovers, q, hq, hqcovers⟩, a, ha, hp.covers, hp.newest⟩

/-- If no character is split, the tails are the cells that glyphs before them cover. -/
theorem Unsplit.tiled (hunsplit : Unsplit cells.length row ps) (h : Stamped ps row cells) : Tiled cells := by
  intro column hcolumn
  refine ⟨fun htail => ?_, fun ⟨start, hreaches⟩ => ?_⟩
  · obtain ⟨i, p, hp, hlt⟩ := h.exists_of_tail htail
    obtain ⟨hrow, _, hcovered⟩ := hp.covers
    have hhead : Holds ps row p.column i p :=
      hunsplit.holds hp hcolumn (by omega) ⟨hrow, Nat.le_refl _, by omega⟩
    exact ⟨p.column, h.reachesOver hhead hcolumn hp.covers hlt⟩
  · have hlt : start < column := hreaches.choose_spec.2.1
    obtain ⟨i, p, hp, rfl, hcovers⟩ := h.exists_of_reachesOver hreaches
    have hheld : Holds ps row column i p := hunsplit.holds hp (by omega) hcolumn hcovers
    rw [h column hcolumn, hheld.stamped_eq, Stamp.cell, if_neg (by omega)]

/-- Where the tails are the cells that glyphs cover, a character that holds its first cell holds all others
that it takes. -/
theorem Tiled.holds_all (htiled : Tiled cells) (h : Stamped ps row cells) (hp : Holds ps row p.column i p)
    {column : Nat} (hcolumn : column < cells.length) (hcovers : p.Covers row column) :
    Holds ps row column i p := by
  obtain ⟨behind, rfl⟩ := Nat.exists_eq_add_of_le hcovers.2.1
  induction behind with
  | zero => exact hp
  | succ behind ih =>
    obtain ⟨hrow, _, hlt⟩ := hcovers
    have hheld : Holds ps row (p.column + behind) i p := ih (by omega) ⟨hrow, by omega, by omega⟩
    have htail : cells[p.column + (behind + 1)]? = some .tail :=
      (htiled _ hcolumn).mpr ⟨_, h.reachesOver hp hcolumn ⟨hrow, by omega, hlt⟩ (by omega)⟩
    -- A newer character that takes this cell would take the one before it as well.
    obtain ⟨j, q, hq, hbefore⟩ := h.exists_of_tail htail
    obtain ⟨hqrow, _, hqlt⟩ := hq.covers
    have hij : i ≤ j := hheld.le hq.stamp ⟨hqrow, by omega, by omega⟩
    have hji : j ≤ i := hq.le hp.stamp ⟨hrow, by omega, hlt⟩
    obtain rfl : i = j := Nat.le_antisymm hij hji
    obtain rfl : p = q := Option.some.inj (hp.stamp.symm.trans hq.stamp)
    exact hq

/-- Where the tails are the cells that glyphs cover, a character that holds a cell holds its first one. -/
theorem Tiled.holds_head (htiled : Tiled cells) (h : Stamped ps row cells) {column : Nat}
    (hcolumn : column < cells.length) (hp : Holds ps row column i p) : Holds ps row p.column i p := by
  by_cases hhead : column = p.column
  · exact hhead ▸ hp
  · have htail : cells[column]? = some .tail := by
      rw [h column hcolumn, hp.stamped_eq, Stamp.cell, if_neg hhead]
    obtain ⟨start, hreaches⟩ := (htiled column hcolumn).mp htail
    obtain ⟨j, q, hq, _, hcovers⟩ := h.exists_of_reachesOver hreaches
    obtain ⟨rfl, rfl⟩ := hp.unique (htiled.holds_all h hq hcolumn hcovers)
    exact hq

/-- If the tails are the cells that glyphs before them cover, no character is split. -/
theorem Tiled.unsplit (htiled : Tiled cells) (h : Stamped ps row cells) : Unsplit cells.length row ps := by
  rintro i hi rfl ⟨⟨b, hb, hcovers, q, hq, hqcovers⟩, a, ha, hacovers, hnewest⟩
  have hheld : Holds ps ps[i].row a i ps[i] := ⟨List.getElem?_eq_getElem hi, hacovers, hnewest⟩
  have hall := htiled.holds_all h (htiled.holds_head h ha hheld) hb hcovers
  exact hall.newest q hq hqcovers

/-- A line keeps its columns exactly if no character is split in it. -/
theorem Stamped.keepsColumns_iff (h : Stamped ps row cells) :
    KeepsColumns cells ↔ Unsplit cells.length row ps :=
  ⟨fun hkeeps => hkeeps.tiled.unsplit h, fun hunsplit => (hunsplit.tiled h).keepsColumns h.glyphColumns_pos⟩

end Stamped

/-! ### Characters put by calls -/

/-- The characters on the screen, the newest first, once it has taken one that is in no sequence. -/
def stampText (s : Screen) (ps : List Stamp) (c : Char) : List Stamp :=
  if c = '\x1b' ∨ c = '\n' ∨ c = '\r' then ps else ⟨s.row, s.column, c⟩ :: ps

/-- The characters on the screen once it has taken the next one of a text. -/
def stampChar (ps : List Stamp) : Screen × Scan → Char → List Stamp
  | (s, .text), c => s.stampText ps c
  | (s, .escape), c => if c = '[' then ps else s.stampText ps c
  | (_, .sequence parameters), c => if c = 'J' ∧ parameters = ['2'] then [] else ps

def stampAll (ps : List Stamp) (state : Screen × Scan) : List Char → List Stamp
  | [] => ps
  | c :: rest => stampAll (stampChar ps state c) (feedChar state c) rest

/-- The characters on the screen after a call. -/
def stampCall (ps : List Stamp) (s : Screen) : Call → List Stamp
  | .write text => stampAll ps (s, .text) text.toList
  | .clear => []
  | _ => ps

def stampCalls (ps : List Stamp) (s : Screen) : List Call → List Stamp
  | [] => ps
  | c :: rest => stampCalls (stampCall ps s c) (s.replay c) rest

/-- Every cell shows what the characters left there. -/
def Shows (s : Screen) (ps : List Stamp) : Prop :=
  ∀ row column cell, s.cell? row column = some cell → cell = stamped row column ps

section Shows
variable {s : Screen} {ps : List Stamp}

theorem shows_blank (size : Size) : (blank size).Shows [] := by
  intro row column cell hcell
  simp only [cell?, blank, Option.bind_eq_bind, Option.bind_eq_some_iff, List.getElem?_replicate,
    Option.ite_none_right_eq_some, Option.some.injEq] at hcell
  obtain ⟨cells, ⟨_, rfl⟩, hcell⟩ := hcell
  simp only [List.getElem?_replicate, Option.ite_none_right_eq_some, Option.some.injEq] at hcell
  exact hcell.2.symm

theorem shows_clear (s : Screen) : s.clear.Shows [] := by
  intro row column cell hcell
  simp only [cell?, clear, Option.bind_eq_bind, Option.bind_eq_some_iff, List.getElem?_map,
    Option.map_eq_some_iff] at hcell
  obtain ⟨_, ⟨cells, _, rfl⟩, hcell⟩ := hcell
  obtain ⟨_, _, rfl⟩ := Option.map_eq_some_iff.mp (List.getElem?_map ▸ hcell)
  rfl

theorem Shows.put (h : s.Shows ps) (c : Char) : (s.put c).Shows (⟨s.row, s.column, c⟩ :: ps) := by
  intro row column cell hcell
  rw [cell?_put] at hcell
  obtain ⟨old, hold, rfl⟩ := Option.map_eq_some_iff.mp hcell
  rw [h row column old hold]
  rfl

theorem Shows.feedText (h : s.Shows ps) (c : Char) : (s.feedText c).1.Shows (s.stampText ps c) := by
  unfold Screen.feedText stampText
  by_cases hescape : c = '\x1b'
  · rw [if_pos hescape, if_pos (.inl hescape)]
    exact h
  by_cases hfeed : c = '\n'
  · rw [if_neg hescape, if_pos hfeed, if_pos (.inr (.inl hfeed))]
    exact h
  by_cases hreturn : c = '\r'
  · rw [if_neg hescape, if_neg hfeed, if_pos hreturn, if_pos (.inr (.inr hreturn))]
    exact h
  · rw [if_neg hescape, if_neg hfeed, if_neg hreturn, if_neg (by simp [hescape, hfeed, hreturn])]
    exact h.put c

theorem Shows.feedChar (h : s.Shows ps) (scan : Scan) (c : Char) :
    (feedChar (s, scan) c).1.Shows (stampChar ps (s, scan) c) := by
  cases scan with
  | text => exact h.feedText c
  | escape =>
    simp only [Screen.feedChar, stampChar]
    split
    · exact h
    · exact h.feedText c
  | sequence parameters =>
    simp only [Screen.feedChar, stampChar, obey]
    by_cases hclears : c = 'J' ∧ parameters = ['2']
    · obtain ⟨rfl, rfl⟩ := hclears
      exact shows_clear s
    · rw [if_neg hclears]
      split
      · split
        · exact h
        · exact h
      · exact h

theorem Shows.feedAll (h : s.Shows ps) (scan : Scan) (cs : List Char) :
    (feedAll (s, scan) cs).1.Shows (stampAll ps (s, scan) cs) := by
  induction cs generalizing s scan ps with
  | nil => exact h
  | cons c rest ih => exact ih (h.feedChar scan c) (Screen.feedChar (s, scan) c).2

theorem Shows.replay (h : s.Shows ps) (c : Call) : (s.replay c).Shows (stampCall ps s c) := by
  cases c with
  | write text => exact h.feedAll .text text.toList
  | clear => exact shows_clear s
  | _ => exact h

theorem Shows.replayAll (h : s.Shows ps) (cs : List Call) :
    (s.replayAll cs).Shows (stampCalls ps s cs) := by
  induction cs generalizing s ps with
  | nil => exact h
  | cons c rest ih => exact ih (h.replay c)

end Shows

end Screen

namespace Terminal
open Screen (KeepsColumns Unsplit Stamped Stamp)

/-- The characters put on the screen since it was last cleared, the newest first. -/
def stamps (t : Terminal) : List Stamp := Screen.stampCalls [] (Screen.blank t.size) t.calls.toList

/-- Every cell of the screen shows the newest character that takes it. -/
theorem shows_screen (t : Terminal) : t.screen.Shows t.stamps := by
  rw [t.screen_eq]
  exact (Screen.shows_blank t.size).replayAll _

/-- **A line keeps its columns exactly if no character was split in it.** Whatever calls were made, a line of
the screen is shown without its tails. Each tail stands behind the glyph that covers it, and each glyph is
shown in the column of its cell, if and only if no character put in that row lost some of its cells to newer
ones and kept others. -/
theorem keepsColumns_iff_unsplit (t : Terminal) (row : Nat) (cells : List Cell)
    (hline : t.screen.cells[row]? = some cells) :
    t.screen.lines[row]? = some (String.ofList (Text.trimEndChars (Screen.glyphs cells))) ∧
      (KeepsColumns cells ↔ Unsplit t.size.width row t.stamps) := by
  have hwidth : cells.length = t.size.width := t.fits_screen.2 cells (List.mem_of_getElem? hline)
  have hstamped : Stamped t.stamps row cells := fun column hcolumn => by
    have hcell : t.screen.cell? row column = some cells[column] := by
      simp [Screen.cell?, hline, hcolumn]
    rw [← t.shows_screen row column _ hcell, List.getElem?_eq_getElem hcolumn]
  refine ⟨?_, hwidth ▸ hstamped.keepsColumns_iff⟩
  rw [Screen.lines, List.getElem?_map, hline, Option.map_some, Screen.lineText_eq]

/-- Two letters take both cells of a wide character, the next one stays whole, and the last is cut off at the
edge. -/
theorem keepsColumns_iff_unsplit_edge :
    let t : Terminal := { size := ⟨5, 1⟩, calls := #[.write "가나다", .moveTo 0 0, .write "xy"] }
    let cells : List Cell := [.glyph 'x', .glyph 'y', .glyph '나', .tail, .glyph '다']
    t.screen.cells[0]? = some cells ∧ t.screen.lines[0]? = some "xy나다" ∧ KeepsColumns cells := by
  intro t cells
  have hline : t.screen.cells[0]? = some cells := by decide +kernel
  obtain ⟨hshown, hkeeps⟩ := t.keepsColumns_iff_unsplit 0 cells hline
  exact ⟨hline, hshown.trans (by decide +kernel), hkeeps.mpr (by decide +kernel)⟩

/-- A wide character and a letter are written, and another letter over one cell of the wide character. -/
def overtyped (column : Nat) : Terminal :=
  { size := ⟨4, 1⟩, calls := #[.write "가b", .moveTo column 0, .write "x"] }

/-- A letter put into the first cell of a wide character leaves its tail behind, and one put into the second
cell leaves its glyph. What stands behind them is then shown a column too far to the left, or to the right. -/
theorem screen_loses_column :
    (overtyped 0).screen.cells = [[.glyph 'x', .tail, .glyph 'b', .blank]] ∧
    (overtyped 0).screen.lines = ["xb"] ∧
    (overtyped 1).screen.cells = [[.glyph '가', .glyph 'x', .glyph 'b', .blank]] ∧
    (overtyped 1).screen.lines = ["가xb"] ∧
    (¬∀ cells ∈ (overtyped 0).screen.cells, KeepsColumns cells) ∧
    ¬∀ cells ∈ (overtyped 1).screen.cells, KeepsColumns cells := by
  have hbefore : (overtyped 0).screen.cells = [[.glyph 'x', .tail, .glyph 'b', .blank]] := by
    decide +kernel
  have hbehind : (overtyped 1).screen.cells = [[.glyph '가', .glyph 'x', .glyph 'b', .blank]] := by
    decide +kernel
  refine ⟨hbefore, by decide +kernel, hbehind, by decide +kernel, fun hkeeps => ?_, fun hkeeps => ?_⟩
  · have hline := hkeeps _ (hbefore ▸ List.mem_singleton_self _)
    exact absurd (hline.glyph 2 'b' rfl) (by decide +kernel)
  · have hline := hkeeps _ (hbehind ▸ List.mem_singleton_self _)
    exact absurd (hline.glyph 1 'x' rfl) (by decide +kernel)

end Terminal

end TextPane
