import Mathlib.Data.List.Basic
import TextPane.Escape
import TextPane.Proofs.Text.Digits
import TextPane.Terminal.Screen

/-! What written text does to the screen.

Of a written text the screen takes characters one by one, each into as many cells from the cursor on as it
has columns (`cell?_put`), a printable one into a single cell (`cell?_print`), and whole sequences one by one:
a move places the cursor (`feedAll_moveTo`) and a graphic rendition leaves the screen alone
(`feedAll_rendition`). What is written outside the cells is lost, so the screen keeps its size. -/
namespace TextPane

namespace Text

/-- The ASCII characters that are seen, the blank among them. -/
def isPrintable (c : Char) : Bool := 0x20 ≤ c.toNat && c.toNat < 0x7F

theorem toNat_of_isPrintable {c : Char} (h : isPrintable c) : 0x20 ≤ c.toNat ∧ c.toNat < 0x7F := by
  simpa [isPrintable] using h

theorem not_isControl_of_isPrintable {c : Char} (h : isPrintable c) : isControl c = false := by
  have hc := toNat_of_isPrintable h
  simp only [isControl, Bool.or_eq_false_iff, Bool.and_eq_false_iff, decide_eq_false_iff_not]
  omega

theorem ne_of_isPrintable {c : Char} (h : isPrintable c) : c ≠ '\x1b' ∧ c ≠ '\n' ∧ c ≠ '\r' := by
  refine ⟨?_, ?_, ?_⟩ <;> rintro rfl <;> exact absurd h (by decide)

end Text

namespace Screen

/-- A cell by its row and column. -/
def cell? (s : Screen) (row column : Nat) : Option Cell := s.cells[row]? >>= (·[column]?)

/-- Writes characters from the cursor on. -/
def print (s : Screen) (cs : List Char) : Screen := cs.foldl put s

/-- Takes characters that are written in one piece. -/
def feedAll (state : Screen × Scan) (cs : List Char) : Screen × Scan := cs.foldl feedChar state

theorem feedAll_append (state : Screen × Scan) (a b : List Char) :
    feedAll state (a ++ b) = feedAll (feedAll state a) b := List.foldl_append

theorem print_append (s : Screen) (a b : List Char) : s.print (a ++ b) = (s.print a).print b :=
  List.foldl_append

theorem feed_eq (s : Screen) (text : String) : s.feed text = (feedAll (s, .text) text.toList).1 := rfl

/-! ### Characters -/

theorem length_putTails (line : List Cell) (column count : Nat) :
    (putTails line column count).length = line.length := by
  induction count with
  | zero => rfl
  | succ count ih => rw [putTails, List.length_set, ih]

theorem getElem?_putTails (cells : List Cell) (start count column : Nat) :
    (putTails cells start count)[column]? =
      cells[column]?.map fun old => if start ≤ column ∧ column < start + count then .tail else old := by
  induction count with
  | zero => simp [putTails, show ¬(start ≤ column ∧ column < start) by omega]
  | succ count ih =>
    rw [putTails, List.getElem?_set, length_putTails, ih]
    by_cases hlast : start + count = column
    · subst hlast
      by_cases hlength : start + count < cells.length <;> simp [hlength]
    · have hiff : (start ≤ column ∧ column < start + (count + 1)) ↔
          start ≤ column ∧ column < start + count := by omega
      simp only [hlast, if_false, hiff]

/-- A character takes as many cells from the cursor on as it has columns: its glyph stands in the first one,
tails in the others. -/
theorem cell?_put (s : Screen) (c : Char) (row column : Nat) :
    (s.put c).cell? row column =
      (s.cell? row column).map fun old =>
        if row = s.row ∧ s.column ≤ column ∧ column < s.column + glyphColumns c then
          if column = s.column then .glyph c else .tail
        else old := by
  unfold put
  split
  · rename_i hnone
    have hnowhere : ¬(row = s.row ∧ s.column ≤ column ∧ column < s.column + glyphColumns c) := by omega
    simp [hnowhere]
  · rename_i w hwidth
    simp only [cell?, List.getElem?_modify, Option.bind_eq_bind]
    cases s.cells[row]? with
    | none => rfl
    | some line =>
      by_cases hrow : s.row = row
      · subst hrow
        simp only [if_true, Option.map_eq_map, Option.map_some, Option.bind_some, getElem?_putTails,
          List.getElem?_set, hwidth, true_and]
        by_cases hhead : s.column = column
        · subst hhead
          by_cases hlength : s.column < line.length
          · simp only [hlength, if_true, Option.map_some, getElem?_pos, Nat.le_refl, true_and]
            rw [if_neg (by omega), if_pos (by omega)]
          · simp [hlength]
        · have hiff : (s.column + 1 ≤ column ∧ column < s.column + 1 + w) ↔
              s.column ≤ column ∧ column < s.column + (w + 1) := by omega
          simp only [hhead, Ne.symm hhead, if_false, hiff]
      · simp [hrow, Ne.symm hrow]

/-! ### Printable characters -/

theorem glyphColumns_eq {c : Char} (h : Text.isPrintable c) : glyphColumns c = 1 := by
  have hc := Text.toNat_of_isPrintable h
  have hlow : c.toNat < 0xA0 := by omega
  simp only [glyphColumns, Text.not_isControl_of_isPrintable h, Bool.false_eq_true, if_false,
    Text.charColumns, hlow, if_true]

theorem put_eq {c : Char} (h : Text.isPrintable c) (s : Screen) :
    s.put c =
      { s with
        cells := s.cells.modify s.row (·.set s.column (.glyph c))
        column := s.column + 1 } := by
  simp [put, glyphColumns_eq h, putTails]

/-- A printable character changes the cell at the cursor only. -/
theorem cell?_put_printable {c : Char} (h : Text.isPrintable c) (s : Screen) (row column : Nat) :
    (s.put c).cell? row column =
      (s.cell? row column).map fun old =>
        if row = s.row ∧ column = s.column then .glyph c else old := by
  rw [cell?_put, glyphColumns_eq h]
  congr 1
  funext old
  by_cases hcolumn : column = s.column
  · simp [hcolumn]
  · rw [if_neg (by omega), if_neg fun h => hcolumn h.2]

/-- Characters go into the cells from the cursor on, and nowhere else. -/
theorem cell?_print {cs : List Char} (h : ∀ c ∈ cs, Text.isPrintable c) (s : Screen)
    (row column : Nat) :
    (s.print cs).cell? row column =
      (s.cell? row column).map fun old =>
        if row = s.row ∧ s.column ≤ column then (cs[column - s.column]?.map .glyph).getD old
        else old := by
  induction cs generalizing s with
  | nil => simp [print]
  | cons c rest ih =>
    have hc := h c (List.mem_cons_self ..)
    have hrest := ih (fun d hd => h d (List.mem_cons_of_mem c hd)) (s.put c)
    rw [show s.print (c :: rest) = (s.put c).print rest from rfl, hrest, cell?_put_printable hc,
      Option.map_map, put_eq hc]
    congr 1
    funext old
    simp only [Function.comp_apply]
    by_cases hrow : row = s.row
    · by_cases hbefore : column < s.column
      · have h1 : ¬s.column + 1 ≤ column := by omega
        have h2 : ¬s.column ≤ column := by omega
        have h3 : column ≠ s.column := by omega
        simp [h1, h2, h3]
      · by_cases hat : column = s.column
        · have h1 : ¬s.column + 1 ≤ s.column := by omega
          simp [hrow, hat, h1]
        · have h1 : s.column + 1 ≤ column := by omega
          have h2 : s.column ≤ column := by omega
          have h3 : column - s.column = column - (s.column + 1) + 1 := by omega
          simp [hrow, hat, h1, h2, h3]
    · simp [hrow]

theorem feedAll_print {cs : List Char} (h : ∀ c ∈ cs, Text.isPrintable c) (s : Screen) :
    feedAll (s, .text) cs = (s.print cs, .text) := by
  induction cs generalizing s with
  | nil => rfl
  | cons c rest ih =>
    have hrest := ih (fun d hd => h d (List.mem_cons_of_mem c hd)) (s.put c)
    obtain ⟨hescape, hfeed, hreturn⟩ := Text.ne_of_isPrintable (h c (List.mem_cons_self ..))
    have hput : feedChar (s, .text) c = (s.put c, .text) := by
      simp [feedChar, feedText, hescape, hfeed, hreturn]
    simp only [feedAll, List.foldl_cons, hput]
    exact hrest

/-! ### Sequences -/

/-- Parameters are gathered up to the first letter. -/
theorem feedAll_parameters {cs : List Char} (h : ∀ c ∈ cs, c.isAlpha = false) (s : Screen)
    (before : List Char) :
    feedAll (s, .sequence before) cs = (s, .sequence (before ++ cs)) := by
  induction cs generalizing before with
  | nil => simp [feedAll]
  | cons c rest ih =>
    have hrest := ih (fun d hd => h d (List.mem_cons_of_mem c hd)) (before ++ [c])
    have hc : feedChar (s, .sequence before) c = (s, .sequence (before ++ [c])) := by
      simp [feedChar, h c (List.mem_cons_self ..)]
    rw [List.append_assoc, List.singleton_append] at hrest
    simp only [feedAll, List.foldl_cons, hc]
    exact hrest

/-- A sequence is obeyed at its first letter. -/
theorem feedAll_sequence {parameters : List Char} (h : ∀ c ∈ parameters, c.isAlpha = false)
    {final : Char} (hfinal : final.isAlpha = true) (s : Screen) :
    feedAll (s, .text) (Escape.lead.toList ++ parameters ++ [final]) =
      (s.obey parameters final, .text) := by
  have hlead : feedAll (s, .text) Escape.lead.toList = (s, .sequence []) := rfl
  rw [feedAll_append, feedAll_append, hlead, feedAll_parameters h]
  simp [feedAll, feedChar, hfinal]

theorem isAlpha_of_all {cs : List Char} (h : cs.all (!·.isAlpha) = true) :
    ∀ c ∈ cs, c.isAlpha = false := fun c hc => by simpa using List.all_eq_true.mp h c hc

theorem isAlpha_of_mem_digits {n : Nat} {c : Char} (h : c ∈ (toString n).toList) :
    c.isAlpha = false := Text.isAlpha_of_isDigit (Text.isDigit_of_mem_digits h)

/-- A number below the limit of a word is read as it was written. -/
theorem parameter_digits {n : Nat} (h : n < Text.wordLimit) : parameter (toString n).toList = n := by
  rw [parameter, Text.wordOfChars?_digits h, Option.getD_some]

/-- A move places the cursor. -/
theorem feedAll_moveTo {line column : Nat} (hline : line < Text.wordLimit)
    (hcolumn : column < Text.wordLimit) (s : Screen) :
    feedAll (s, .text) (Escape.moveTo line column).toList =
      (s.moveTo (column - 1) (line - 1), .text) := by
  have hsemicolon : ';' ∉ (toString line).toList := fun h =>
    absurd (Text.isDigit_of_mem_digits h) (by decide)
  have hsemicolon' : ';' ∉ (toString column).toList := fun h =>
    absurd (Text.isDigit_of_mem_digits h) (by decide)
  have hsplit : splitParameters ((toString line).toList ++ ';' :: (toString column).toList) =
      [(toString line).toList, (toString column).toList] := by
    rw [splitParameters, List.splitOn_append_cons_self_of_not_mem hsemicolon,
      List.splitOn_eq_singleton hsemicolon']
  have halpha : ∀ c ∈ (toString line).toList ++ ';' :: (toString column).toList,
      c.isAlpha = false := by
    intro c hc
    rcases List.mem_append.mp hc with hc | hc
    · exact isAlpha_of_mem_digits hc
    rcases List.mem_cons.mp hc with rfl | hc
    · rfl
    · exact isAlpha_of_mem_digits hc
  have htext : (Escape.moveTo line column).toList =
      Escape.lead.toList ++ ((toString line).toList ++ ';' :: (toString column).toList) ++ ['H'] := by
    simp [Escape.moveTo]
  rw [htext, feedAll_sequence halpha rfl]
  simp only [obey, if_true, hsplit, List.getElem?_cons_succ, List.getElem?_cons_zero, Option.getD_some,
    parameter_digits hline, parameter_digits hcolumn]

/-- A graphic rendition leaves the screen alone. -/
theorem feedAll_rendition {parameters : List Char} (h : ∀ c ∈ parameters, c.isAlpha = false)
    (s : Screen) :
    feedAll (s, .text) (Escape.lead.toList ++ parameters ++ ['m']) = (s, .text) := by
  rw [feedAll_sequence h rfl]
  simp [obey]

end Screen

end TextPane
