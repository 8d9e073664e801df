import TextPane.Proofs.Render.Cells
import TextPane.Proofs.View.Areas
import TextPane.Proofs.View.Paint

/-! The modes of a terminal show the same.

A console is told by calls what escape sequences tell a terminal in one write: a line with what it is
coloured, or all the rows of a region to be blanked. Replayed, both come to the same screen, line by line
(`Print.replayAll_lineCalls`) and row by row (`replayAll_blankCalls`). So a tree of tame spans, drawn in
two modes over the same cells, leaves the same cells (`cells_performCalls_mode`). -/
namespace TextPane

theorem Region.left_lt {region : Region} (h : region.Bounded) (hempty : region.isEmpty = false) :
    region.left < cellLimit := by
  have hwidth : region.width ≠ 0 := by
    intro hzero
    simp [Region.isEmpty, Size.isEmpty, Region.size, hzero] at hempty
  have := h.columns
  omega

namespace Renderer
open Screen (feedAll)

/-! ### Blanking -/

/-- The commands that blank rows of a region, from row number `index` on. -/
def blankRowCommands (region : Region) (index count : Nat) : List Command :=
  (List.range' index count).flatMap fun index =>
    [.moveTo region.left (Print.row region index), .pad region.width]

theorem blanks_printable (count : Nat) : ∀ c ∈ (Command.blanks count).toList, Text.isPrintable c := by
  intro c hc
  rw [Command.blanks, String.toList_ofList] at hc
  rw [List.eq_of_mem_replicate hc]
  decide

/-- A row is blanked by one move and blanks, however these are told. -/
theorem replayAll_blankRow (region : Region) (index : Nat) (s : Screen) :
    s.replayAll [.moveTo region.left (Print.row region index), .write (Command.blanks region.width)] =
      (s.moveTo region.left (Print.row region index)).print (Command.blanks region.width).toList :=
  congrArg Prod.fst (Screen.feedAll_print (blanks_printable _) _)

/-- The escape sequences that blank rows do what the console calls do. -/
theorem feedAll_blankRowCommands {region : Region} (hleft : region.left < cellLimit)
    (index count : Nat) (s : Screen) :
    feedAll (s, .text) (Command.encodeAll (blankRowCommands region index count)).toList =
      (s.replayAll (blankRowCalls region index count), .text) := by
  induction count generalizing index s with
  | zero => rfl
  | succ count ih =>
    have hlimit : cellLimit + 1 < Text.wordLimit := by decide
    have hrow : Print.row region index ≤ cellLimit := Nat.min_le_right ..
    have htext : (Command.encodeAll (blankRowCommands region index (count + 1))).toList =
        (Escape.moveTo (Print.row region index + 1) (region.left + 1)).toList ++
          ((Command.blanks region.width).toList ++
            (Command.encodeAll (blankRowCommands region (index + 1) count)).toList) := by
      simp [blankRowCommands, List.range'_succ, Command.encodeAll, Command.encode, String.toList_join]
    have hcalls : blankRowCalls region index (count + 1) =
        [.moveTo region.left (Print.row region index), .write (Command.blanks region.width)] ++
          blankRowCalls region (index + 1) count := rfl
    rw [htext, Screen.feedAll_append, Screen.feedAll_append,
      Screen.feedAll_moveTo (by omega) (by omega), Screen.feedAll_print (blanks_printable _), ih, hcalls,
      Screen.replayAll_append, replayAll_blankRow]
    rfl

/-- A region is blanked row by row in every mode. -/
theorem replayAll_blankCalls {r : Renderer} (hmode : r.mode ≠ .file) {region : Region}
    (hleft : region.left < cellLimit) (hempty : region.isEmpty = false) (s : Screen) :
    s.replayAll (r.blankCalls region) = s.replayAll (blankRowCalls region 0 region.height) := by
  have hescape : s.feed (Command.encodeAll (blankCommands region)) =
      s.replayAll (blankRowCalls region 0 region.height) := by
    have hcommands : blankCommands region = blankRowCommands region 0 region.height := by
      rw [blankCommands, List.range_eq_range']
      rfl
    rw [hcommands, Screen.feed_eq, feedAll_blankRowCommands hleft]
  simp only [blankCalls, hempty, Bool.false_eq_true, if_false]
  cases hr : r.mode with
  | file => exact absurd hr hmode
  | console => rfl
  | ansi => exact hescape
  | auto => exact hescape

/-! ### Drawing -/

/-- What may be drawn for all modes to agree on it. -/
structure Able (d : Draw) : Prop where
  bounded : d.region.Bounded
  tame : ∀ s region, d = .span s region → s.Tame

/-- What a span leaves on the screen is what its lines leave. -/
theorem replayAll_renderCalls (r : Renderer) {s : Span} {region : Region}
    (hempty : region.isEmpty = false) (k : Colors) (screen : Screen) :
    screen.replayAll (r.renderCalls s region k) =
      screen.replayAll (Print.linesCalls r.mode region k 0 (s.wrap region.size)) := by
  have hundo (b : Bool) (screen : Screen) :
      screen.replayAll (if b then undoCalls r.mode else []) = screen := by
    cases b
    · rfl
    · exact replayAll_undoCalls r.mode screen
  simp only [renderCalls, hempty, Bool.false_eq_true, if_false]
  rw [Screen.replayAll_append, hundo]

section Modes
variable {r r' : Renderer} (hmode : r.mode ≠ .file) (hmode' : r'.mode ≠ .file)
include hmode hmode'

/-- Lines are shown in one mode as in the other. -/
theorem replayAll_linesCalls_mode {region : Region} (hleft : region.left < cellLimit)
    {lines : List Line} (h : ∀ l ∈ lines, l.Plain) (k k' : Colors) (index : Nat) (s : Screen) :
    s.replayAll (Print.linesCalls r.mode region k index lines) =
      s.replayAll (Print.linesCalls r'.mode region k' index lines) := by
  induction lines generalizing k k' index s with
  | nil => rfl
  | cons l rest ih =>
    have hl := h l (List.mem_cons_self ..)
    rw [Print.linesCalls, Print.linesCalls, Screen.replayAll_append, Screen.replayAll_append,
      Print.replayAll_lineCalls hmode hl hleft, Print.replayAll_lineCalls hmode' hl hleft]
    exact ih (fun m hm => h m (List.mem_cons_of_mem l hm)) _ _ _ _

/-- One thing is drawn in one mode as in the other. -/
theorem replayAll_drawCalls_mode {d : Draw} (h : Able d) (k k' : Colors) (s : Screen) :
    s.replayAll (r.drawCalls k d) = s.replayAll (r'.drawCalls k' d) := by
  cases hempty : d.region.isEmpty
  · cases d with
    | span span region =>
      have hsome : region.isEmpty = false := hempty
      have hleft : region.left < cellLimit := Region.left_lt h.bounded hsome
      have hplain : ∀ l ∈ span.wrap region.size, l.Plain := fun _ hl =>
        (h.tame span region rfl).plain_of_mem_wrap hl
      show s.replayAll (r.renderCalls span region k) = s.replayAll (r'.renderCalls span region k')
      rw [r.replayAll_renderCalls hsome, r'.replayAll_renderCalls hsome]
      exact replayAll_linesCalls_mode hmode hmode' hleft hplain k k' 0 s
    | blank region =>
      have hsome : region.isEmpty = false := hempty
      have hleft : region.left < cellLimit := Region.left_lt h.bounded hsome
      show s.replayAll (r.blankCalls region) = s.replayAll (r'.blankCalls region)
      rw [replayAll_blankCalls hmode hleft hsome, replayAll_blankCalls hmode' hleft hsome]
  · cases d <;> simp only [Draw.region] at hempty <;>
      simp only [drawCalls, renderCalls, blankCalls, hempty, if_true]

/-- **Drawn in two modes, the same is shown.** What is drawn over the same cells in two modes, by
renderers that need not reset alike, leaves the same cells. -/
theorem cells_performCalls_mode {ds : List Draw} (h : ∀ d ∈ ds, Able d) (k k' : Colors)
    {a b : Screen} (hcells : a.cells = b.cells) :
    (a.replayAll (r.performCalls k ds)).cells = (b.replayAll (r'.performCalls k' ds)).cells := by
  have hsame (k k' : Colors) (s : Screen) :
      s.replayAll (r.performCalls k ds) = s.replayAll (r'.performCalls k' ds) := by
    induction ds generalizing k k' s with
    | nil => rfl
    | cons d rest ih =>
      rw [performCalls, performCalls, Screen.replayAll_append, Screen.replayAll_append,
        replayAll_drawCalls_mode hmode hmode' (h d (List.mem_cons_self ..)) k k']
      exact ih (fun e he => h e (List.mem_cons_of_mem d he)) _ _ _
  rw [hsame k k' a]
  exact cells_performCalls hmode' ds k' k' hcells

end Modes

end Renderer

/-- The draws of a tree of tame spans can be drawn in all modes. -/
theorem View.able_draws {v : View Span} (h : ∀ s ∈ v.leaves, s.Tame) {region : Region}
    (hregion : region.Bounded) : ∀ d ∈ v.draws region, Renderer.Able d := by
  intro d hd
  refine ⟨((v.packs_draws hregion).inside _ (List.mem_map.mpr ⟨d, hd, rfl⟩)).bounded hregion, ?_⟩
  rintro s part rfl
  exact h s (v.mem_leaves_of_draws hd)

end TextPane
