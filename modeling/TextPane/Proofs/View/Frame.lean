import TextPane.Proofs.View.Modes

/-! A tree leaves alone what is outside of its region.

Rendering may stop at any call that fails, and then the calls up to that one have been made. So calls
are confined to a region (`Call.Confined`) when no part of them, from the first on, changes a cell outside
of it. A line is no wider than the region it was wrapped for, each begins by placing the cursor in its row
of the region, and so what draws a thing is confined to the region of the thing
(`Renderer.confined_drawCalls`), and what draws a tree to the region of the tree
(`Renderer.confined_performCalls`). -/
namespace TextPane

/-! ### Cells outside of a region -/

namespace Screen

/-- Characters leave alone the cells of other rows, and those before and behind them. -/
theorem cell?_print_outside {cs : List Char} (h : ∀ c ∈ cs, Text.isPrintable c) (s : Screen)
    {row column : Nat} (hout : row = s.row → s.column ≤ column → s.column + cs.length ≤ column) :
    (s.print cs).cell? row column = s.cell? row column := by
  have hsame : (fun old => if row = s.row ∧ s.column ≤ column then
      (cs[column - s.column]?.map Cell.glyph).getD old else old) = id := by
    funext old
    by_cases hat : row = s.row ∧ s.column ≤ column
    · have hend := hout hat.1 hat.2
      have hnone : cs[column - s.column]? = none := List.getElem?_eq_none (by omega)
      rw [if_pos hat, hnone]
      rfl
    · rw [if_neg hat]
      rfl
  rw [cell?_print h, hsame, Option.map_id]
  rfl

/-- What is printed from the left of a row of a region, and is no longer than the row, stays in it. -/
theorem cell?_print_row {region : Region} {cs : List Char} (h : ∀ c ∈ cs, Text.isPrintable c)
    (hlength : cs.length ≤ region.width) {top : Nat} (htop : region.top ≤ top)
    (hbottom : top < region.top + region.height) (s : Screen) {row column : Nat}
    (hout : ¬region.Has row column) :
    ((s.moveTo region.left top).print cs).cell? row column = s.cell? row column := by
  rw [cell?_print_outside h]
  · rfl
  · intro hrow hcolumn
    change row = top at hrow
    change region.left ≤ column at hcolumn
    show region.left + cs.length ≤ column
    by_contra hlt
    exact hout ⟨⟨by omega, by omega⟩, by omega, by omega⟩

end Screen

namespace Call

/-- However many of the calls are made, in order, no cell outside of the region changes. -/
def Confined (region : Region) (cs : List Call) : Prop :=
  ∀ made, made <+: cs → ∀ (s : Screen) (row column : Nat), ¬region.Has row column →
    (s.replayAll made).cell? row column = s.cell? row column

/-- The calls print characters from the cursor on; only some of them, in order, if not all calls are
made. -/
structure Prints (cs : List Call) (text : List Char) : Prop where
  all : ∀ s : Screen, s.replayAll cs = s.print text
  part : ∀ made, made <+: cs → ∃ printed, printed <+: text ∧
    ∀ s : Screen, s.replayAll made = s.print printed

/-- Of calls in two parts, part of the first is made, or all of it and part of the second. -/
theorem prefix_append_cases {made a b : List Call} (h : made <+: a ++ b) :
    made <+: a ∨ ∃ rest, rest <+: b ∧ made = a ++ rest := by
  rcases List.prefix_or_prefix_of_prefix h (List.prefix_append a b) with hmade | ⟨rest, rfl⟩
  · exact .inl hmade
  · exact .inr ⟨rest, (List.prefix_append_right_inj a).mp h, rfl⟩

section Prints

theorem prints_nil : Prints [] [] := by
  refine ⟨fun s => rfl, fun made hmade => ⟨[], List.nil_prefix, fun s => ?_⟩⟩
  rw [List.prefix_nil.mp hmade]
  rfl

theorem prints_write {text : String} (h : ∀ c ∈ text.toList, Text.isPrintable c) :
    Prints [.write text] text.toList := by
  have hall (s : Screen) : s.replayAll [.write text] = s.print text.toList :=
    congrArg Prod.fst (Screen.feedAll_print h s)
  refine ⟨hall, fun made hmade => ?_⟩
  rcases List.prefix_cons_iff.mp hmade with rfl | ⟨rest, rfl, hrest⟩
  · exact ⟨[], List.nil_prefix, fun s => rfl⟩
  · rw [List.prefix_nil.mp hrest]
    exact ⟨text.toList, List.prefix_rfl, hall⟩

/-- Calls that the screen does not see print nothing. -/
theorem prints_unseen {cs : List Call} (h : ∀ c ∈ cs, c.isSeen = false) : Prints cs [] := by
  have hall (made : List Call) (hmade : ∀ c ∈ made, c.isSeen = false) (s : Screen) :
      s.replayAll made = s := by
    have hnone : seen made = [] := List.filter_eq_nil_iff.mpr fun c hc => by simp [hmade c hc]
    rw [← Screen.replayAll_seen, hnone]
    rfl
  exact ⟨hall cs h, fun made hmade =>
    ⟨[], List.nil_prefix, hall made fun c hc => h c (hmade.subset hc)⟩⟩

theorem Prints.append {a b : List Call} {text rest : List Char} (ha : Prints a text)
    (hb : Prints b rest) : Prints (a ++ b) (text ++ rest) := by
  refine ⟨fun s => ?_, fun made hmade => ?_⟩
  · rw [Screen.replayAll_append, Screen.print_append, ha.all, hb.all]
  · rcases prefix_append_cases hmade with hmade | ⟨more, hmore, rfl⟩
    · obtain ⟨printed, hprinted, hmade⟩ := ha.part made hmade
      exact ⟨printed, hprinted.trans (List.prefix_append text rest), hmade⟩
    · obtain ⟨printed, hprinted, hmore⟩ := hb.part more hmore
      refine ⟨text ++ printed, (List.prefix_append_right_inj text).mpr hprinted, fun s => ?_⟩
      rw [Screen.replayAll_append, Screen.print_append, ha.all, hmore]

end Prints

section Confined
variable {region : Region} {cs : List Call}

theorem confined_nil (region : Region) : Confined region [] := fun made hmade _ _ _ _ => by
  rw [List.prefix_nil.mp hmade]
  rfl

theorem confined_single {c : Call} (h : ∀ (s : Screen) (row column : Nat), ¬region.Has row column →
    (s.replay c).cell? row column = s.cell? row column) : Confined region [c] := by
  intro made hmade s row column hout
  rcases List.prefix_cons_iff.mp hmade with rfl | ⟨rest, rfl, hrest⟩
  · rfl
  · rw [List.prefix_nil.mp hrest]
    exact h s row column hout

theorem Confined.append {more : List Call} (h : Confined region cs) (hmore : Confined region more) :
    Confined region (cs ++ more) := by
  intro made hmade s row column hout
  rcases prefix_append_cases hmade with hmade | ⟨rest, hrest, rfl⟩
  · exact h made hmade s row column hout
  · rw [Screen.replayAll_append, hmore rest hrest _ row column hout]
    exact h cs List.prefix_rfl s row column hout

theorem Confined.mono {outer : Region} (h : Confined region cs) (hinside : region.Inside outer) :
    Confined outer cs := fun made hmade s row column hout =>
  h made hmade s row column fun hin => hout (hinside.has hin)

/-- A move to a row of the region and what is printed there stay in the row. -/
theorem Prints.confined {text : List Char} (h : Prints cs text) (htext : ∀ c ∈ text, Text.isPrintable c)
    (hlength : text.length ≤ region.width) {top : Nat} (htop : region.top ≤ top)
    (hbottom : top < region.top + region.height) :
    Confined region (.moveTo region.left top :: cs) := by
  intro made hmade s row column hout
  rcases List.prefix_cons_iff.mp hmade with rfl | ⟨rest, rfl, hrest⟩
  · rfl
  · obtain ⟨printed, hprinted, hmade⟩ := h.part rest hrest
    have hshort : printed.length ≤ region.width := Nat.le_trans hprinted.length_le hlength
    show ((s.moveTo region.left top).replayAll rest).cell? row column = _
    rw [hmade]
    exact Screen.cell?_print_row (fun c hc => htext c (hprinted.subset hc)) hshort htop hbottom s hout

end Confined

end Call

/-! ### Lines -/

namespace Print
open Call (Confined Prints)

/-- By console calls fragments print their text. -/
theorem prints_fragments {fs : List Fragment}
    (htext : ∀ c, .char c ∈ fs.flatMap Fragment.marks → Text.isPrintable c) (k : Colors) :
    Prints (fragmentsCalls k fs) (Line.text { fragments := fs }).toList := by
  induction fs generalizing k with
  | nil => exact Call.prints_nil
  | cons f rest ih =>
    have hrest := ih (fun c hc => htext c (List.mem_append_right _ hc))
      (k.afterAll (fragmentCalls k f))
    rw [fragmentsCalls]
    cases f with
    | text t =>
      rw [Line.toList_text_cons_text]
      exact (Call.prints_write fun c hc =>
        htext c (List.mem_append_left _ (List.mem_map.mpr ⟨c, hc, rfl⟩))).append hrest
    | control c =>
      rw [Line.toList_text_cons_control, ← List.nil_append (Line.text _).toList]
      refine Prints.append (Call.prints_unseen ?_) hrest
      cases c with
      | color c =>
        intro call hcall
        by_contra hseen
        have hmem : call ∈ Call.seen (colorCalls k c) :=
          List.mem_filter.mpr ⟨hcall, by simpa using hseen⟩
        rw [seen_colorCalls] at hmem
        exact absurd hmem List.not_mem_nil
      | _ => exact fun call hcall => absurd hcall List.not_mem_nil

theorem prints_padding (region : Region) (l : Line) :
    Prints (paddingCalls region l) (List.replicate (padding region l) ' ') := by
  unfold paddingCalls
  split
  · have hblanks := Call.prints_write (Renderer.blanks_printable (padding region l))
    rwa [Command.blanks, String.toList_ofList] at hblanks
  · next hnone =>
    rw [Nat.eq_zero_of_not_pos hnone]
    exact Call.prints_nil

/-- A line with its blanks is as long as the region is wide, or shorter. -/
theorem length_rowText_le {region : Region} {l : Line} (h : l.Plain) (hwidth : l.width ≤ region.width) :
    (l.rowText region).length ≤ region.width := by
  have hlength := h.width
  simp only [Line.rowText, List.length_append, List.length_replicate, padding]
  split <;> omega

/-- The calls for a line stay in its row of the region. -/
theorem confined_lineCalls {mode : Mode} (hmode : mode ≠ .file) {region : Region} {l : Line}
    (h : l.Plain) (hwidth : l.width ≤ region.width) (hleft : region.left < cellLimit) (k : Colors)
    {index : Nat} (hindex : index < region.height) (hrow : region.top + index ≤ cellLimit) :
    Confined region (lineCalls mode region k index l) := by
  have htop : row region index = region.top + index := row_eq hrow
  have hlength := length_rowText_le h hwidth
  have hescape (hlines : lineCalls mode region k index l = [.write (escapeText region index l)]) :
      Confined region [.write (escapeText region index l)] := by
    apply Call.confined_single
    intro s r c hout
    have hline := replayAll_lineCalls hmode h hleft k index s
    rw [hlines] at hline
    show (s.replayAll [.write (escapeText region index l)]).cell? r c = _
    rw [hline]
    exact Screen.cell?_print_row h.rowText hlength (by omega) (by omega) s hout
  cases mode with
  | file => exact absurd rfl hmode
  | ansi => exact hescape rfl
  | auto => exact hescape rfl
  | console =>
    have hprints : Prints (fragmentsCalls k l.fragments ++ paddingCalls region l) (l.rowText region) :=
      (prints_fragments (fun c hc => h.text c (Line.mem_text.mpr hc)) k).append
        (prints_padding region l)
    exact hprints.confined h.rowText hlength (by omega) (by omega)

/-- The calls for lines stay in their rows of the region. -/
theorem confined_linesCalls {mode : Mode} (hmode : mode ≠ .file) {region : Region}
    (hleft : region.left < cellLimit) (hrows : region.top + region.height ≤ cellLimit)
    {lines : List Line} (h : ∀ l ∈ lines, l.Plain ∧ l.width ≤ region.width) (k : Colors) {index : Nat}
    (hindex : index + lines.length ≤ region.height) :
    Confined region (linesCalls mode region k index lines) := by
  induction lines generalizing k index with
  | nil => exact Call.confined_nil region
  | cons l rest ih =>
    obtain ⟨hplain, hwidth⟩ := h l (List.mem_cons_self ..)
    rw [List.length_cons] at hindex
    exact (confined_lineCalls hmode hplain hwidth hleft k (by omega) (by omega)).append
      (ih (fun m hm => h m (List.mem_cons_of_mem l hm)) _ (by omega))

end Print

/-! ### Drawing -/

namespace Renderer
open Call (Confined Prints)

/-- The calls that blank rows stay in these rows of the region. -/
theorem confined_blankRowCalls {region : Region} (hrows : region.top + region.height ≤ cellLimit)
    {index count : Nat} (hindex : index + count ≤ region.height) :
    Confined region (blankRowCalls region index count) := by
  induction count generalizing index with
  | zero => exact Call.confined_nil region
  | succ count ih =>
    have htop : Print.row region index = region.top + index := Print.row_eq (by omega)
    have hblanks := Call.prints_write (blanks_printable region.width)
    have hrow : Confined region [.moveTo region.left (Print.row region index),
        .write (Command.blanks region.width)] :=
      hblanks.confined (blanks_printable _) (by simp [Command.blanks]) (by omega) (by omega)
    exact hrow.append (ih (by omega))

/-- Undoing colours and attributes changes no cell. -/
theorem confined_undoCalls (region : Region) (mode : Mode) : Confined region (undoCalls mode) := by
  have hsingle (c : Call) (h : undoCalls mode = [c]) : Confined region [c] := by
    apply Call.confined_single
    intro s row column _
    have hundo := replayAll_undoCalls mode s
    rw [h] at hundo
    show (s.replayAll [c]).cell? row column = _
    rw [hundo]
  cases mode with
  | file => exact Call.confined_nil region
  | console => exact hsingle _ rfl
  | ansi => exact hsingle _ rfl
  | auto => exact hsingle _ rfl

section Draw
variable {r : Renderer} (hmode : r.mode ≠ .file)
include hmode

/-- The calls that blank a region stay in it. -/
theorem confined_blankCalls {region : Region} (hregion : region.Bounded) :
    Confined region (r.blankCalls region) := by
  cases hempty : region.isEmpty
  · have hleft := Region.left_lt hregion hempty
    have hcalls : Confined region (blankRowCalls region 0 region.height) :=
      confined_blankRowCalls hregion.rows (by omega)
    have hescape (h : r.blankCalls region = [.write (Command.encodeAll (blankCommands region))]) :
        Confined region [.write (Command.encodeAll (blankCommands region))] := by
      apply Call.confined_single
      intro s row column hout
      have hblank := replayAll_blankCalls hmode hleft hempty s
      rw [h] at hblank
      show (s.replayAll [.write (Command.encodeAll (blankCommands region))]).cell? row column = _
      rw [hblank]
      exact hcalls _ List.prefix_rfl s row column hout
    unfold blankCalls at hescape ⊢
    simp only [hempty, Bool.false_eq_true, if_false] at hescape ⊢
    cases hr : r.mode with
    | file => exact absurd hr hmode
    | console => exact hcalls
    | ansi => exact hescape (by rw [hr])
    | auto => exact hescape (by rw [hr])
  · rw [blankCalls, hempty, if_pos rfl]
    exact Call.confined_nil region

/-- The calls that draw a thing stay in its region. -/
theorem confined_drawCalls {d : Draw} (h : Able d) (k : Colors) :
    Confined d.region (r.drawCalls k d) := by
  cases d with
  | blank region => exact confined_blankCalls hmode h.bounded
  | span s region =>
    show Confined region (r.renderCalls s region k)
    unfold renderCalls
    cases hempty : region.isEmpty
    · have hregion : region.Bounded := h.bounded
      have hlines : ∀ l ∈ s.wrap region.size, l.Plain ∧ l.width ≤ region.width := fun l hl =>
        ⟨(h.tame s region rfl).plain_of_mem_wrap hl, Span.width_le_of_mem_wrap hl⟩
      have hheight : (s.wrap region.size).length ≤ region.height := s.length_wrap_le region.size
      have hundo (b : Bool) : Confined region (if b then undoCalls r.mode else []) := by
        cases b
        · exact Call.confined_nil region
        · exact confined_undoCalls region r.mode
      rw [if_neg (by decide)]
      exact (Print.confined_linesCalls hmode (Region.left_lt hregion hempty) hregion.rows hlines k
        (by omega)).append (hundo _)
    · rw [if_pos rfl]
      exact Call.confined_nil region

/-- **What draws a tree stays in its region**, however many of the calls are made. -/
theorem confined_performCalls {region : Region} {ds : List Draw} (h : ∀ d ∈ ds, Able d)
    (hinside : ∀ d ∈ ds, d.region.Inside region) (k : Colors) :
    Confined region (r.performCalls k ds) := by
  induction ds generalizing k with
  | nil => exact Call.confined_nil region
  | cons d rest ih =>
    have hd := (confined_drawCalls hmode (h d (List.mem_cons_self ..)) k).mono
      (hinside d (List.mem_cons_self ..))
    exact hd.append (ih (fun e he => h e (List.mem_cons_of_mem d he))
      (fun e he => hinside e (List.mem_cons_of_mem d he)) _)

end Draw

end Renderer

/-! ### Calls that fail -/

namespace Terminal

/-- Calls are made up to one that fails, and the screen is what those leave. -/
theorem screen_makeAll (cs : List Call) (t : Terminal) :
    ∃ made, made <+: cs ∧ (makeAll cs t).2.screen = t.screen.replayAll made := by
  induction cs generalizing t with
  | nil => exact ⟨[], List.prefix_rfl, rfl⟩
  | cons c rest ih =>
    rw [makeAll]
    rcases call_cases c t with hc | hc
    · rw [bind_of_error hc]
      exact ⟨[], List.nil_prefix, rfl⟩
    · obtain ⟨made, hmade, hscreen⟩ := ih (t.after [c])
      rw [bind_of_ok hc, hscreen, screen_after]
      exact ⟨c :: made, List.cons_prefix_cons.mpr ⟨rfl, hmade⟩, rfl⟩

end Terminal

/-- Rendering a tree of tame spans changes no cell outside of its region, whichever calls fail. -/
theorem View.cell?_render_outside {v : View Span} (h : ∀ s ∈ v.leaves, s.Tame) {r : Renderer}
    (hmode : r.mode ≠ .file) {region : Region} (hregion : region.Bounded) (t : Terminal)
    {row column : Nat} (hout : ¬region.Has row column) :
    ((v.onTerminal r).render region t).2.screen.cell? row column = t.screen.cell? row column := by
  have hinside : ∀ d ∈ v.draws region, d.region.Inside region := fun d hd =>
    (v.packs_draws hregion).inside _ (List.mem_map.mpr ⟨d, hd, rfl⟩)
  have hconfined := Renderer.confined_performCalls hmode (View.able_draws h hregion) hinside t.colors
  obtain ⟨made, hmade, hscreen⟩ := Terminal.screen_makeAll (r.performCalls t.colors (v.draws region)) t
  rw [Renderer.render_eq_perform, Renderer.perform_eq_makeAll, hscreen]
  exact hconfined made hmade t.screen row column hout

end TextPane
