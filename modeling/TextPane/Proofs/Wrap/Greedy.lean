import TextPane.Proofs.Wrap.Layout
import TextPane.Proofs.Wrap.Offers
import TextPane.Proofs.Wrap.Reach

/-! Greedy wrapping.

A flow that takes in words with single spaces between them fills its lines, though it places the spaces as
units of their own. So it makes for as few lines as any way to break the words into lines
(`Flow.pushText_fewest`). A space behind which the line is broken stays at the end of the line if there is
room for it. -/
namespace TextPane

namespace Layout
variable {width : Nat}

/-! ### Words with spaces between them -/

/-- A word that fits on a line: characters that are not blank and take some columns. -/
structure Word (width : Nat) (w : String) : Prop where
  solid : ∀ c ∈ w.toList, Text.isBlank c = false
  shows : 1 ≤ Text.displayWidth w
  fits : Text.displayWidth w ≤ width

instance (width : Nat) (w : String) : Decidable (Word width w) :=
  decidable_of_iff
    (w.toList.any Text.isBlank = false ∧ 1 ≤ Text.displayWidth w ∧ Text.displayWidth w ≤ width)
    ⟨fun h => ⟨by simpa using h.1, h.2.1, h.2.2⟩, fun h => ⟨by simpa using h.solid, h.shows, h.fits⟩⟩

theorem Word.ne_nil {w : String} (h : Word width w) : w.toList ≠ [] := by
  intro hnil
  have hshows := h.shows
  rw [Text.displayWidth, hnil] at hshows
  cases hshows

theorem Word.kindOf {w : String} (h : Word width w) : ∀ c ∈ w.toList, WrapUnit.kindOf c = .word := by
  intro c hc
  exact WrapUnit.kindOf_eq_word_iff.mpr (h.solid c hc)

/-- The unit between two words. -/
def space : WrapUnit := ⟨.space, [' ']⟩

def unit (w : String) : WrapUnit := ⟨.word, w.toList⟩

/-- Words each behind a space. -/
def spaced (words : List String) : List WrapUnit := words.flatMap fun w => [space, unit w]

theorem ofChars_joined {w : String} {rest : List String} (hw : Word width w)
    (hrest : ∀ v ∈ rest, Word width v) :
    WrapUnit.ofChars (joined (w :: rest)).toList = unit w :: spaced rest := by
  induction rest generalizing w with
  | nil =>
    have hunit : WrapUnit.ofChars (w.toList ++ []) = [unit w] :=
      WrapUnit.ofChars_run (by decide) hw.ne_nil hw.kindOf (by simp)
    rwa [List.append_nil] at hunit
  | cons v rest ih =>
    obtain ⟨hv, hrest⟩ := List.forall_mem_cons.mp hrest
    have hspaced := ih hv hrest
    -- The text behind the space begins with a word.
    have hbehind : ∀ c ∈ (joined (v :: rest)).toList.head?, WrapUnit.kindOf c ≠ .space := by
      obtain ⟨d, ds, hchars⟩ := List.exists_cons_of_ne_nil hv.ne_nil
      intro c hc
      rw [← WrapUnit.flatMap_ofChars (joined (v :: rest)).toList, hspaced, List.flatMap_cons, unit,
        hchars] at hc
      obtain rfl : d = c := by simpa using hc
      rw [hv.kindOf d (hchars ▸ List.mem_cons_self ..)]
      decide
    calc WrapUnit.ofChars (joined (w :: v :: rest)).toList
        = WrapUnit.ofChars (w.toList ++ ([' '] ++ (joined (v :: rest)).toList)) := by
          simp [joined, String.intercalate_cons_cons]
      _ = unit w :: WrapUnit.ofChars ([' '] ++ (joined (v :: rest)).toList) :=
          WrapUnit.ofChars_run (by decide) hw.ne_nil hw.kindOf (by simp; decide)
      _ = unit w :: space :: WrapUnit.ofChars (joined (v :: rest)).toList := by
          have hblank : ∀ c ∈ [' '], WrapUnit.kindOf c = .space := by simp; decide
          rw [WrapUnit.ofChars_run (by decide) (by simp) hblank hbehind]
          rfl
      _ = unit w :: spaced (v :: rest) := by
          rw [hspaced]
          rfl

theorem joined_append {line : List String} (hline : line ≠ []) (w : String) :
    joined (line ++ [w]) = joined line ++ " " ++ w := by
  induction line with
  | nil => exact absurd rfl hline
  | cons v line ih =>
    cases line with
    | nil => simp [joined, String.intercalate_cons_cons]
    | cons u line =>
      have hrest := ih (by simp)
      simp only [joined, List.cons_append, String.intercalate_cons_cons] at hrest ⊢
      rw [hrest]
      simp only [String.append_assoc]

end Layout

/-! ### Flows -/

namespace Flow
open Layout

/-- Where a flow stands with room for another line: the lines taken have these texts, and the line being
filled has this one, of so many columns. -/
structure Stands (limit : Size) (done : List String) (text : String) (columns : Nat) (f : Flow) : Prop where
  bounds : f.bounds = limit
  full : f.full = false
  lines : f.lines.map Line.text = done
  count : f.count = done.length
  text : f.line.text = text
  width : f.line.width = columns
  blank : f.line.isEmpty = true → columns = 0

section Stands
variable {limit : Size} {done : List String} {text : String} {columns : Nat} {f : Flow}

theorem stands_start (h : limit.isEmpty = false) : Stands limit [] "" 0 (start limit) :=
  ⟨rfl, h, rfl, rfl, rfl, rfl, fun _ => rfl⟩

theorem Stands.room (h : Stands limit done text columns f) : f.room = limit.width - columns := by
  rw [Flow.room, h.bounds, h.width]

theorem Stands.flags (h : Stands limit done text columns f) (touched endedInWord : Bool) :
    Stands limit done text columns { f with touched, endedInWord } :=
  ⟨h.bounds, h.full, h.lines, h.count, h.text, h.width, h.blank⟩

theorem Stands.append (h : Stands limit done text columns f) (cs : List Char) :
    Stands limit done (text ++ String.ofList cs) (columns + Text.charsWidth cs)
      (f.append cs (Text.charsWidth cs)) where
  bounds := h.bounds
  full := h.full
  lines := h.lines
  count := h.count
  text := by rw [Flow.append, Line.text_pushText, h.text]
  width := by rw [← h.width]; exact width_put f.line (fair_whole cs)
  blank hempty := by
    have hboth := isEmpty_put f.line (cs, Text.charsWidth cs)
    obtain ⟨hline, hcs⟩ := Bool.and_eq_true_iff.mp (hboth.symm.trans hempty)
    have hnil : cs = [] := List.isEmpty_iff.mp hcs
    rw [h.blank hline, hnil]
    rfl

theorem Stands.breakLine (h : Stands limit done text columns f) (hroom : done.length + 1 < limit.height) :
    Stands limit (done ++ [text]) "" 0 (f.breakLine takesAll).1 := by
  have hlines := lines_breakLine h.full
  rw [breakLine_taken takesAll f h.full rfl] at hlines ⊢
  refine ⟨h.bounds, ?_, ?_, ?_, rfl, rfl, fun _ => rfl⟩
  · simpa [h.bounds, h.count] using hroom
  · rw [hlines, List.map_append, h.lines, List.map_singleton, h.text]
  · rw [List.length_append, h.count]
    rfl

/-- What fits the bounds is put on the line if it fits there; else the line is broken, and what is no space
opens the next one. -/
theorem Stands.place (h : Stands limit done text columns f) (isSpace : Bool)
    (hopens : isSpace = true → columns ≠ 0) {cs : List Char} (hcs : Text.charsWidth cs ≤ limit.width)
    (hcolumns : columns ≤ limit.width) :
    (columns + Text.charsWidth cs ≤ limit.width →
      Stands limit done (text ++ String.ofList cs) (columns + Text.charsWidth cs)
        (f.place takesAll isSpace cs).1) ∧
    (limit.width < columns + Text.charsWidth cs → done.length + 1 < limit.height →
      Stands limit (done ++ [text]) (if isSpace then "" else String.ofList cs)
        (if isSpace then 0 else Text.charsWidth cs) (f.place takesAll isSpace cs).1) := by
  have hskip : ¬(isSpace = true ∧ f.line.width = 0) := fun hskip =>
    hopens hskip.1 (h.width.symm.trans hskip.2)
  rw [place_takesAll]
  simp only [if_neg hskip, h.room, h.bounds]
  refine ⟨fun hfits => ?_, fun hover hheight => ?_⟩
  · rw [if_pos (Nat.le_sub_of_add_le' hfits)]
    exact h.append cs
  · have hnext := h.breakLine hheight
    have hnone : ¬Text.charsWidth cs ≤ limit.width - columns := by omega
    cases isSpace with
    | true => simpa [hnone, hcs] using hnext
    | false => simpa [hnone, hcs, hnext.full] using hnext.append cs

/-- A space behind a word stays if there is room for it, and the line is broken for it if not. -/
theorem Stands.space (h : Stands limit done text columns f) (hpos : columns ≠ 0)
    (hle : columns ≤ limit.width) :
    (columns < limit.width →
      Stands limit done (text ++ " ") (columns + 1) (f.absorb (.unit false Layout.space))) ∧
    (columns = limit.width → done.length + 1 < limit.height →
      Stands limit (done ++ [text]) "" 0 (f.absorb (.unit false Layout.space))) := by
  have hwidth : Text.charsWidth [' '] = 1 := by decide
  have hfits : Text.charsWidth [' '] ≤ limit.width := by omega
  have hplaced := (h.flags true f.endedInWord).place true (fun _ => hpos) hfits hle
  rw [hwidth] at hplaced
  rw [absorb_unit h.full]
  exact ⟨fun hlt => (hplaced.1 hlt).flags _ _,
    fun heq hheight => (hplaced.2 (by omega) hheight).flags _ _⟩

/-- A word goes on the line if it fits there, and opens the next line if not. -/
theorem Stands.word (h : Stands limit done text columns f) (opens : Bool)
    (hopens : opens = true → f.endedInWord = false) {w : String} (hw : Word limit.width w)
    (hle : columns ≤ limit.width) :
    (columns + Text.displayWidth w ≤ limit.width →
      Stands limit done (text ++ w) (columns + Text.displayWidth w) (f.absorb (.unit opens (unit w)))) ∧
    (limit.width < columns + Text.displayWidth w → done.length + 1 < limit.height →
      Stands limit (done ++ [text]) w (Text.displayWidth w) (f.absorb (.unit opens (unit w)))) := by
  have hgoesOn : ¬(opens = true ∧ f.endedInWord = true ∧ f.cut = true) := by
    rintro ⟨ho, he, -⟩
    simp [hopens ho] at he
  have hpush : { f with touched := true }.push opens (unit w) =
      (Flow.place takesAll { f with touched := true } false w.toList).1 := if_neg hgoesOn
  have hplaced := (h.flags true f.endedInWord).place false nofun hw.fits hle
  rw [String.ofList_toList] at hplaced
  rw [absorb_unit h.full, hpush]
  exact ⟨fun hfits => (hplaced.1 hfits).flags _ _,
    fun hover hheight => (hplaced.2 hover hheight).flags _ _⟩

end Stands

/-- The line being filled holds these words, and there is room for another line. -/
structure Fills (limit : Size) (done : List String) (line : List String) (f : Flow) : Prop where
  stands : Stands limit done (joined line) (Layout.columns line) f
  nonempty : line ≠ []
  shows : Layout.columns line ≠ 0
  fits : Layout.columns line ≤ limit.width

section Fills
variable {limit : Size} {done : List String} {f : Flow}

/-- A word that stands alone on the line. -/
theorem Fills.one {w : String} (hw : Word limit.width w) (h : Stands limit done w (Text.displayWidth w) f) :
    Fills limit done [w] f where
  stands := by rwa [columns_singleton]
  nonempty := by simp
  shows := by
    rw [columns_singleton]
    exact Nat.ne_of_gt hw.shows
  fits := by
    rw [columns_singleton]
    exact hw.fits

/-- Behind words on a line, a space and a word do what filling lines does. -/
theorem Fills.next {line : List String} (h : Fills limit done line f) {w : String} (hw : Word limit.width w) :
    (Layout.columns line + 1 + Text.displayWidth w ≤ limit.width →
      Fills limit done (line ++ [w]) (f.absorbAll (Atom.ofUnits false [Layout.space, unit w]))) ∧
    (limit.width < Layout.columns line + 1 + Text.displayWidth w → done.length + 1 < limit.height →
      Fills limit (done ++ [broken limit.width line]) [w]
        (f.absorbAll (Atom.ofUnits false [Layout.space, unit w]))) := by
  have hspace := h.stands.space h.shows h.fits
  have hcolumns := columns_append h.nonempty w
  refine ⟨fun hfits => ?_, fun hover hheight => .one hw ?_⟩
  · refine ⟨?_, by simp, by omega, by omega⟩
    rw [joined_append h.nonempty, hcolumns]
    exact ((hspace.1 (by omega)).word false nofun hw (by omega)).1 hfits
  · have hle := h.fits
    unfold broken
    split
    · next hlt => exact ((hspace.1 hlt).word false nofun hw hlt).2 hover hheight
    · next hfull =>
      have hbroken := hspace.2 (by omega) hheight
      have hopened := (hbroken.word false nofun hw (Nat.zero_le _)).1
      rw [Nat.zero_add, String.empty_append] at hopened
      exact hopened hw.fits

/-- With the rest of the words taken in, the lines are filled. -/
theorem Fills.lines_finish {line rest : List String} (h : Fills limit done line f)
    (hrest : ∀ w ∈ rest, Word limit.width w)
    (hheight : done.length + (fill limit.width line rest).length ≤ limit.height) :
    ((f.absorbAll (Atom.ofUnits false (spaced rest))).finish takesAll).1.lines.map Line.text =
      done ++ texts limit.width (fill limit.width line rest) := by
  induction rest generalizing f done line with
  | nil =>
    have hstands := h.stands
    have hkept : ¬(f.line.isEmpty = true ∧ f.touched = true) := by
      rintro ⟨hempty, -⟩
      exact h.shows (hstands.blank hempty)
    show (f.finish takesAll).1.lines.map Line.text = done ++ [joined line]
    rw [finish, if_neg hkept, lines_breakLine hstands.full, List.map_append, hstands.lines,
      List.map_singleton, hstands.text]
  | cons w rest ih =>
    obtain ⟨hw, hrest⟩ := List.forall_mem_cons.mp hrest
    obtain ⟨hput, hopened⟩ := h.next hw
    have hfill : fill limit.width line (w :: rest) = _ := fill.eq_2 ..
    rw [hfill] at hheight ⊢
    split at hheight
    · next hfits =>
      rw [if_pos hfits]
      exact ih (hput hfits) hrest hheight
    · next hover =>
      -- The word opens a line, so there was room for one behind the line that it did not fit on.
      have hlater := @length_fill_pos limit.width [w] rest
      rw [List.length_cons] at hheight
      have hroom : done.length + 1 < limit.height := by omega
      have hheight' : (done ++ [broken limit.width line]).length + (fill limit.width [w] rest).length ≤
          limit.height := by
        rw [List.length_append, List.length_singleton]
        omega
      rw [if_neg hover, texts_cons line (List.ne_nil_of_length_pos hlater), List.append_cons]
      exact ih (hopened (Nat.lt_of_not_le hover) hroom) hrest hheight'

/-- Words with spaces between them fill the lines, where there is room for as many as that takes. -/
theorem lines_pushText {w : String} {rest : List String} (hw : Word limit.width w)
    (hrest : ∀ v ∈ rest, Word limit.width v)
    (hheight : (fill limit.width [w] rest).length ≤ limit.height) :
    (((start limit).pushText takesAll (joined (w :: rest))).1.finish takesAll).1.lines.map Line.text =
      texts limit.width (fill limit.width [w] rest) := by
  have hshows := hw.shows
  have hfits := hw.fits
  have hline := @length_fill_pos limit.width [w] rest
  have hlimit : limit.isEmpty = false := by
    rw [Size.isEmpty, Bool.or_eq_false_iff, beq_eq_false_iff_ne, beq_eq_false_iff_ne]
    omega
  have hfirst := ((stands_start hlimit).word true (fun _ => rfl) hw (Nat.zero_le _)).1
  rw [Nat.zero_add, String.empty_append] at hfirst
  have hfilled := (Fills.one hw (hfirst hfits)).lines_finish hrest (by rwa [List.length_nil, Nat.zero_add])
  rw [pushText_takesAll, Inflow.atoms, ofChars_joined hw hrest]
  exact hfilled

end Fills

/-- **Greedy wrapping is optimal.** Words that fit on a line are pushed as one text with single spaces between
them, where the lines of some way to break them into lines find room. Then the lines hold the words in order,
with no line too wide; each line behind the first opens with a word that did not fit on the line before behind
a space; and no way to break the words into lines makes for fewer. -/
theorem pushText_fewest (bounds : Size) (words : List String) (hwords : words ≠ [])
    (hword : ∀ w ∈ words, Word bounds.width w)
    (hheight : ∃ layout, Fits bounds.width words layout ∧ layout.length ≤ bounds.height) :
    let lines := (((start bounds).pushText takesAll (" ".intercalate words)).1.finish takesAll).1.lines
    ∃ layout, Filled bounds.width words layout ∧ lines.map Line.text = texts bounds.width layout ∧
      lines.length = layout.length ∧
      ∀ other, Fits bounds.width words other → lines.length ≤ other.length := by
  intro lines
  obtain ⟨w, rest, rfl⟩ := List.ne_nil_iff_exists_cons.mp hwords
  obtain ⟨hw, hrest⟩ := List.forall_mem_cons.mp hword
  obtain ⟨enough, henough, hle⟩ := hheight
  have htexts : lines.map Line.text = texts bounds.width (fill bounds.width [w] rest) :=
    lines_pushText hw hrest (Nat.le_trans (length_fill_le w rest henough) hle)
  have hlength : lines.length = (fill bounds.width [w] rest).length := by
    rw [← List.length_map (f := Line.text), htexts, length_texts]
  have hfits : Layout.columns [w] ≤ bounds.width := by
    rw [columns_singleton]
    exact hw.fits
  have hfilled := filled_fill (by simp) hfits fun v hv => (hrest v hv).fits
  refine ⟨_, hfilled, htexts, hlength, fun other hother => ?_⟩
  rw [hlength]
  exact length_fill_le w rest hother

/-- A space stays behind the first line; the second one has no room for any. -/
theorem pushText_fewest_sentence :
    let words := ["a", "quick", "brown", "fox", "ran"]
    let lines := (((start ⟨9, 3⟩).pushText takesAll (" ".intercalate words)).1.finish takesAll).1.lines
    words ≠ [] ∧ (∀ w ∈ words, Word 9 w) ∧
      (∃ layout, Fits 9 words layout ∧ layout.length ≤ 3) ∧
      lines.map Line.text = ["a quick ", "brown fox", "ran"] ∧
      ∃ layout, Filled 9 words layout ∧ lines.map Line.text = texts 9 layout ∧
        lines.length = layout.length ∧ ∀ other, Fits 9 words other → lines.length ≤ other.length := by
  intro words lines
  have hword : ∀ w ∈ words, Word 9 w := by decide +kernel
  have hheight : ∃ layout, Fits 9 words layout ∧ layout.length ≤ 3 :=
    ⟨[["a", "quick"], ["brown"], ["fox", "ran"]], by decide +kernel, by decide⟩
  exact ⟨by decide, hword, hheight, by decide +kernel,
    pushText_fewest ⟨9, 3⟩ words (by decide) hword hheight⟩

end Flow

end TextPane
