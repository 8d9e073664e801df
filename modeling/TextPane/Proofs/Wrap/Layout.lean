import Mathlib.Data.List.Basic
import TextPane.Text.Width

/-! Words on lines.

Words are put on lines one after the other: a word goes on the line so far if it fits there behind a space,
and opens the next line if it does not (`Layout.fill`). So each line opens with a word that the line before
had no room for (`Layout.filled_fill`), and no way to break the words into lines makes for fewer of them
(`Layout.length_fill_le`): a line that is less full never makes for more lines, and any line for one more at
worst. -/
namespace TextPane.Layout

/-- Columns that words take on a line, with one between each two of them. -/
def columns (line : List String) : Nat := (line.map Text.displayWidth).sum + (line.length - 1)

/-- The words fall into consecutive lines, and none of them takes more columns than there are. -/
structure Fits (width : Nat) (words : List String) (layout : List (List String)) : Prop where
  words : layout.flatten = words
  fits : ∀ line ∈ layout, columns line ≤ width

instance (width : Nat) (words : List String) (layout : List (List String)) :
    Decidable (Fits width words layout) :=
  decidable_of_iff (layout.flatten = words ∧ ∀ line ∈ layout, columns line ≤ width)
    ⟨fun h => ⟨h.1, h.2⟩, fun h => ⟨h.words, h.fits⟩⟩

/-- The lines of words that follow those of a line: each word goes on the line if it fits there behind a
space. -/
def fill (width : Nat) (line : List String) : List String → List (List String)
  | [] => [line]
  | w :: rest =>
    if columns line + 1 + Text.displayWidth w ≤ width then fill width (line ++ [w]) rest
    else line :: fill width [w] rest

/-- The words of a line with a space between each two of them. -/
def joined (line : List String) : String := " ".intercalate line

/-- The text of a line behind which another one comes: it ends in a space if there is room for it. -/
def broken (width : Nat) (line : List String) : String :=
  if columns line < width then joined line ++ " " else joined line

/-- The texts of lines. -/
def texts (width : Nat) : List (List String) → List String
  | [] => []
  | [line] => [joined line]
  | line :: rest => broken width line :: texts width rest

theorem columns_singleton (w : String) : columns [w] = Text.displayWidth w := by simp [columns]

theorem columns_append {line : List String} (hline : line ≠ []) (w : String) :
    columns (line ++ [w]) = columns line + 1 + Text.displayWidth w := by
  have hlength : line.length ≠ 0 := mt List.length_eq_zero_iff.mp hline
  simp only [columns, List.map_append, List.sum_append, List.length_append, List.map_cons, List.map_nil,
    List.sum_singleton, List.length_singleton]
  omega

theorem columns_le_append (line more : List String) : columns line ≤ columns (line ++ more) := by
  simp only [columns, List.map_append, List.sum_append, List.length_append]
  omega

variable {width : Nat}

theorem length_fill_pos (line rest : List String) : 0 < (fill width line rest).length := by
  induction rest generalizing line with
  | nil => exact Nat.one_pos
  | cons w rest ih =>
    unfold fill
    split
    · exact ih _
    · exact Nat.succ_pos _

/-- Words that fit on the line go there. -/
theorem fill_append {line : List String} (hline : line ≠ []) (more rest : List String)
    (hfits : columns (line ++ more) ≤ width) :
    fill width line (more ++ rest) = fill width (line ++ more) rest := by
  induction more generalizing line with
  | nil => rw [List.append_nil]; rfl
  | cons w more ih =>
    rw [List.append_cons] at hfits
    have hw : columns line + 1 + Text.displayWidth w ≤ width := by
      rw [← columns_append hline]
      exact Nat.le_trans (columns_le_append _ more) hfits
    rw [List.cons_append, fill, if_pos hw, ih (by simp) hfits, ← List.append_cons]

/-- A line that is less full makes for no more lines, and any line for one more at worst. -/
theorem length_fill_ahead {line line' : List String} (hline : line ≠ []) (hline' : line' ≠ [])
    (rest : List String) :
    (columns line ≤ columns line' → (fill width line rest).length ≤ (fill width line' rest).length) ∧
      (fill width line rest).length ≤ (fill width line' rest).length + 1 := by
  induction rest generalizing line line' with
  | nil => exact ⟨fun _ => Nat.le_refl _, Nat.le_succ _⟩
  | cons w rest ih =>
    have hcolumns := columns_append hline w
    have hcolumns' := columns_append hline' w
    -- Behind this word, a line that it opened is no fuller than one on which it was put.
    have hopened := (@ih [w] (line' ++ [w]) (by simp) (by simp)).1 (by
      rw [columns_singleton, hcolumns']
      exact Nat.le_add_left ..)
    have hput := (@ih (line ++ [w]) [w] (by simp) (by simp)).2
    have hboth := @ih (line ++ [w]) (line' ++ [w]) (by simp) (by simp)
    simp only [fill]
    split
    · split
      · exact ⟨fun hle => hboth.1 (by omega), hboth.2⟩
      · exact ⟨fun _ => hput, Nat.le_succ_of_le hput⟩
    · split
      · exact ⟨fun hle => by omega, Nat.succ_le_succ hopened⟩
      · exact ⟨fun _ => Nat.le_refl _, Nat.le_succ _⟩

/-- **Filling lines is optimal.** -/
theorem length_fill_le (w : String) (rest : List String) {layout : List (List String)}
    (h : Fits width (w :: rest) layout) : (fill width [w] rest).length ≤ layout.length := by
  obtain ⟨hwords, hfits⟩ := h
  induction layout generalizing w rest with
  | nil => cases hwords
  | cons line layout ih =>
    have hfits' := fun l hl => hfits l (List.mem_cons_of_mem line hl)
    cases line with
    | nil => exact Nat.le_succ_of_le (ih w rest hwords hfits')
    | cons v more =>
      rw [List.flatten_cons, List.cons_append] at hwords
      obtain ⟨rfl, rfl⟩ := List.cons.inj hwords
      rw [fill_append (by simp) more _ (hfits _ (List.mem_cons_self ..))]
      cases hlater : layout.flatten with
      | nil => exact Nat.succ_le_of_lt (Nat.succ_pos _)
      | cons u later =>
        have hrest := ih u later hlater hfits'
        have hline :
            (fill width ([v] ++ more) (u :: later)).length ≤ (fill width [u] later).length + 1 := by
          rw [fill]
          split
          · exact (length_fill_ahead (by simp) (by simp) later).2
          · exact Nat.le_refl _
        exact Nat.le_trans hline (Nat.succ_le_succ hrest)

/-- What lines are like that are filled: they hold the words in order, each opens with a word that had no
room on the line before, and none is too wide. -/
structure Filled (width : Nat) (words : List String) (layout : List (List String)) : Prop where
  fits : Fits width words layout
  nonempty : ∀ line ∈ layout, line ≠ []
  chain : layout.IsChain fun line next =>
    ∀ w ∈ next.head?, width < columns line + 1 + Text.displayWidth w

theorem head_fill (line rest : List String) :
    ∃ more later, fill width line rest = (line ++ more) :: later := by
  induction rest generalizing line with
  | nil => exact ⟨[], [], by simp [fill]⟩
  | cons w rest ih =>
    unfold fill
    split
    · obtain ⟨more, later, hfill⟩ := ih (line ++ [w])
      exact ⟨w :: more, later, by rw [hfill, List.append_assoc]; rfl⟩
    · exact ⟨[], _, by rw [List.append_nil]⟩

theorem filled_fill {line rest : List String} (hline : line ≠ []) (hfits : columns line ≤ width)
    (hrest : ∀ w ∈ rest, Text.displayWidth w ≤ width) :
    Filled width (line ++ rest) (fill width line rest) := by
  induction rest generalizing line with
  | nil =>
    exact ⟨⟨by simp [fill], by simpa [fill] using hfits⟩, by simpa [fill] using hline, .singleton _⟩
  | cons w rest ih =>
    obtain ⟨hw, hrest⟩ := List.forall_mem_cons.mp hrest
    unfold fill
    split
    · next hroom =>
      have hmore := @ih (line ++ [w]) (by simp) (by rwa [columns_append hline]) hrest
      rwa [← List.append_cons] at hmore
    · next hover =>
      have hnext := @ih [w] (by simp) (by rwa [columns_singleton]) hrest
      obtain ⟨more, later, hfill⟩ := @head_fill width [w] rest
      refine ⟨⟨?_, List.forall_mem_cons.mpr ⟨hfits, hnext.fits.fits⟩⟩,
        List.forall_mem_cons.mpr ⟨hline, hnext.nonempty⟩, ?_⟩
      · rw [List.flatten_cons, hnext.fits.words]
        rfl
      · have hchain := hnext.chain
        rw [hfill] at hchain ⊢
        refine .cons_cons (fun v hv => ?_) hchain
        obtain rfl : w = v := by simpa using hv
        exact Nat.lt_of_not_le hover

theorem length_texts (layout : List (List String)) : (texts width layout).length = layout.length := by
  fun_induction texts width layout <;> simp_all

theorem texts_cons (line : List String) {layout : List (List String)} (h : layout ≠ []) :
    texts width (line :: layout) = broken width line :: texts width layout := by
  cases layout with
  | nil => exact absurd rfl h
  | cons next rest => rfl

end TextPane.Layout
