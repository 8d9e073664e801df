import TextPane.Proofs.Terminal.Replay
import TextPane.Proofs.View.Draws

/-! What a painting shows.

A terminal is painted by clearing it and drawing a tree all over it. Whatever is drawn begins by
placing the cursor, and changes of colour are not seen on the screen, so what the cells hold after a
drawing is a matter of the cells before it, and not of the cursor or the colours
(`cells_performCalls`). After a clearing these cells are blank. So a painting shows what it shows on
a blank terminal (`paint_shows`). -/
namespace TextPane

/-! ### Cells -/

namespace Screen

/-- The screen has rows and columns of this size. -/
def Fits (size : Size) (s : Screen) : Prop :=
  s.cells.length = size.height ∧ ∀ line ∈ s.cells, line.length = size.width

theorem fits_blank (size : Size) : (blank size).Fits size := by
  refine ⟨List.length_replicate, fun line hline => ?_⟩
  rw [List.eq_of_mem_replicate hline]
  exact List.length_replicate

section Fits
variable {size : Size} {s : Screen}

theorem Fits.clear (h : s.Fits size) : s.clear.Fits size := by
  refine ⟨by simp [Screen.clear, h.1], fun line hline => ?_⟩
  obtain ⟨old, hold, rfl⟩ := List.mem_map.mp hline
  simpa using h.2 old hold

/-- A clearing leaves all cells blank. -/
theorem Fits.cells_clear (h : s.Fits size) : s.clear.cells = (blank size).cells := by
  refine List.eq_replicate_iff.mpr ⟨by simp [Screen.clear, h.1], fun line hline => ?_⟩
  obtain ⟨old, hold, rfl⟩ := List.mem_map.mp hline
  exact List.eq_replicate_iff.mpr ⟨by simpa using h.2 old hold, by simp⟩

theorem Fits.put (h : s.Fits size) (c : Char) : (s.put c).Fits size := by
  unfold Screen.put
  split
  · exact h
  · refine ⟨by simp [h.1], fun line hline => ?_⟩
    obtain ⟨row, hrow, rfl⟩ := List.mem_iff_getElem.mp hline
    simp only [List.length_modify] at hrow
    have hold : s.cells[row].length = size.width := h.2 _ (List.getElem_mem hrow)
    simp only [List.getElem_modify]
    split
    · rw [length_putTails, List.length_set, hold]
    · exact hold

theorem Fits.feedText (h : s.Fits size) (c : Char) : (s.feedText c).1.Fits size := by
  unfold Screen.feedText
  split
  · exact h
  split
  · exact h
  split
  · exact h
  · exact h.put c

theorem Fits.obey (h : s.Fits size) (parameters : List Char) (final : Char) :
    (s.obey parameters final).Fits size := by
  unfold Screen.obey
  split
  · exact h
  split
  · exact h.clear
  · exact h

theorem Fits.feedChar (h : s.Fits size) (scan : Scan) (c : Char) :
    (feedChar (s, scan) c).1.Fits size := by
  cases scan with
  | text => exact h.feedText c
  | escape =>
    simp only [Screen.feedChar]
    split
    · exact h
    · exact h.feedText c
  | sequence parameters =>
    simp only [Screen.feedChar]
    split
    · exact h.obey parameters c
    · exact h

theorem Fits.feedAll (h : s.Fits size) (scan : Scan) (cs : List Char) :
    (feedAll (s, scan) cs).1.Fits size := by
  induction cs generalizing s scan with
  | nil => exact h
  | cons c rest ih => exact ih (h.feedChar scan c) (Screen.feedChar (s, scan) c).2

theorem Fits.replay (h : s.Fits size) (c : Call) : (s.replay c).Fits size := by
  cases c with
  | write text => exact h.feedAll .text text.toList
  | clear => exact h.clear
  | _ => exact h

theorem Fits.replayAll (h : s.Fits size) (cs : List Call) : (s.replayAll cs).Fits size := by
  induction cs generalizing s with
  | nil => exact h
  | cons c rest ih => exact ih (h.replay c)

end Fits

end Screen

/-- The screen of a terminal is as large as the terminal. -/
theorem Terminal.fits_screen (t : Terminal) : t.screen.Fits t.size := by
  rw [t.screen_eq]
  exact (Screen.fits_blank t.size).replayAll _

/-! ### Calls that the screen sees -/

namespace Call

/-- Whether the screen sees a call. -/
def isSeen : Call → Bool
  | .write _ | .moveTo .. | .clear => true
  | _ => false

def seen (cs : List Call) : List Call := cs.filter isSeen

/-- What the cells and the cursor are after the call is a matter of the cells alone. -/
def Homes (c : Call) : Prop := ∀ a b : Screen, a.cells = b.cells → a.replay c = b.replay c

/-- If there are calls at all, the first one places the cursor. -/
def Homing (cs : List Call) : Prop := ∀ c ∈ cs.head?, c.Homes

theorem seen_append (a b : List Call) : seen (a ++ b) = seen a ++ seen b := List.filter_append ..

theorem homing_nil : Homing [] := fun c hc => absurd hc (by simp)

theorem Homes.homing {c : Call} (h : c.Homes) (rest : List Call) : Homing (c :: rest) := by
  intro d hd
  obtain rfl : c = d := Option.some.inj hd
  exact h

theorem homes_moveTo (left top : Nat) : (Call.moveTo left top).Homes := fun a b h => by
  simp only [Screen.replay, Screen.moveTo, h]

/-- A text that begins with a move places the cursor. -/
theorem homes_write (line column : Nat) (text : String) :
    (Call.write (Escape.moveTo line column ++ text)).Homes := fun a b h => by
  have halpha : ∀ c ∈ (toString line).toList ++ ';' :: (toString column).toList,
      c.isAlpha = false := by
    intro c hc
    rcases List.mem_append.mp hc with hc | hc
    · exact Screen.isAlpha_of_mem_digits hc
    rcases List.mem_cons.mp hc with rfl | hc
    · rfl
    · exact Screen.isAlpha_of_mem_digits hc
  have htext : (Escape.moveTo line column).toList =
      Escape.lead.toList ++ ((toString line).toList ++ ';' :: (toString column).toList) ++ ['H'] := by
    simp [Escape.moveTo]
  have hfinal : Char.isAlpha 'H' = true := rfl
  simp only [Screen.replay, Screen.feed_eq, String.toList_append,
    Screen.feedAll_append (b := text.toList), htext, Screen.feedAll_sequence halpha hfinal, Screen.obey,
    if_true, Screen.moveTo, h]

end Call

namespace Screen
open Call (seen Homing)

theorem replayAll_seen (s : Screen) (cs : List Call) : s.replayAll (seen cs) = s.replayAll cs := by
  induction cs generalizing s with
  | nil => rfl
  | cons c rest ih =>
    have hrest := ih (s.replay c)
    cases c <;> exact hrest

/-- Calls that begin by placing the cursor do the same on the same cells. -/
theorem cells_replayAll {cs : List Call} (hcs : Homing cs) {a b : Screen} (h : a.cells = b.cells) :
    (a.replayAll cs).cells = (b.replayAll cs).cells := by
  cases cs with
  | nil => exact h
  | cons c rest =>
    have hc : a.replay c = b.replay c := hcs c rfl a b h
    show ((a.replay c).replayAll rest).cells = ((b.replay c).replayAll rest).cells
    rw [hc]

end Screen

namespace Print
open Call (seen Homing)

theorem seen_colorCalls (k : Colors) (c : ColorControl) : seen (colorCalls k c) = [] := by
  obtain ⟨foreground, background⟩ := k
  unfold colorCalls
  split <;> cases foreground <;> cases background <;> rfl

/-- The colours at the start make no difference to what the screen sees of fragments. -/
theorem seen_fragmentsCalls (j k : Colors) (fs : List Fragment) :
    seen (fragmentsCalls j fs) = seen (fragmentsCalls k fs) := by
  induction fs generalizing j k with
  | nil => rfl
  | cons f rest ih =>
    have hf : seen (fragmentCalls j f) = seen (fragmentCalls k f) := by
      cases f with
      | text s => rfl
      | control c =>
        cases c with
        | color c => simp only [fragmentCalls, seen_colorCalls]
        | _ => rfl
    rw [fragmentsCalls, fragmentsCalls, Call.seen_append, Call.seen_append, hf, ih]

theorem seen_lineCalls (mode : Mode) (region : Region) (j k : Colors) (index : Nat) (l : Line) :
    seen (lineCalls mode region j index l) = seen (lineCalls mode region k index l) := by
  cases mode with
  | console =>
    simp only [lineCalls, List.cons_append]
    show _ :: seen _ = _ :: seen _
    rw [Call.seen_append, Call.seen_append, seen_fragmentsCalls j k]
  | _ => rfl

theorem seen_linesCalls (mode : Mode) (region : Region) (j k : Colors) (index : Nat)
    (lines : List Line) :
    seen (linesCalls mode region j index lines) = seen (linesCalls mode region k index lines) := by
  induction lines generalizing j k index with
  | nil => rfl
  | cons l rest ih =>
    rw [linesCalls, linesCalls, Call.seen_append, Call.seen_append, seen_lineCalls mode region j k, ih]

/-- Every line begins with a move to its row. -/
theorem homing_lineCalls {mode : Mode} (hmode : mode ≠ .file) (region : Region) (k : Colors)
    (index : Nat) (l : Line) (rest : List Call) : Homing (lineCalls mode region k index l ++ rest) := by
  have hescape : (Call.write (escapeText region index l)).Homes := by
    rw [escapeText_eq, String.append_assoc]
    exact Call.homes_write _ _ _
  cases mode with
  | file => exact absurd rfl hmode
  | console => exact (Call.homes_moveTo _ _).homing _
  | ansi => exact hescape.homing _
  | auto => exact hescape.homing _

end Print

namespace Renderer
open Call (seen Homing)
open Terminal (makeAll makeAll_single)

/-! ### Drawing -/

theorem seen_drawCalls (r : Renderer) (j k : Colors) (d : Draw) :
    seen (r.drawCalls j d) = seen (r.drawCalls k d) := by
  cases d with
  | blank region => rfl
  | span s region =>
    simp only [drawCalls, renderCalls]
    split
    · rfl
    · rw [Call.seen_append, Call.seen_append, Print.seen_linesCalls r.mode region j k]

theorem homes_blankCommands {region : Region} (h : region.isEmpty = false) :
    (Call.write (Command.encodeAll (blankCommands region))).Homes := by
  obtain ⟨count, hcount⟩ := Region.height_eq_succ h
  have htext : Command.encodeAll (blankCommands region) =
      Escape.moveTo (Print.row region 0 + 1) (region.left + 1) ++
        Command.encodeAll (.pad region.width ::
          ((List.range count).map Nat.succ).flatMap fun index =>
            [.moveTo region.left (Print.row region index), .pad region.width]) := by
    rw [blankCommands, hcount, List.range_succ_eq_map, List.flatMap_cons, ← String.toList_inj]
    simp [Command.encodeAll, Command.encode, String.toList_join]
  rw [htext]
  exact Call.homes_write _ _ _

/-- Whatever is drawn begins by placing the cursor. -/
theorem homing_drawCalls {r : Renderer} (hmode : r.mode ≠ .file) (k : Colors) (d : Draw) :
    Homing (r.drawCalls k d) := by
  cases d with
  | span s region =>
    simp only [drawCalls, renderCalls]
    split
    · exact Call.homing_nil
    cases s.wrap region.size with
    | nil => simpa [Print.linesCalls] using Call.homing_nil
    | cons l rest =>
      rw [Print.linesCalls, List.append_assoc]
      exact Print.homing_lineCalls hmode region k 0 l _
  | blank region =>
    simp only [drawCalls, blankCalls]
    cases hempty : region.isEmpty
    · have hescape := homes_blankCommands hempty
      obtain ⟨count, hcount⟩ := Region.height_eq_succ hempty
      simp only [Bool.false_eq_true, if_false]
      cases r.mode with
      | file => exact Call.homing_nil
      | console =>
        rw [hcount]
        exact (Call.homes_moveTo _ _).homing _
      | ansi => exact hescape.homing _
      | auto => exact hescape.homing _
    · exact Call.homing_nil

/-- What a drawing leaves in the cells is a matter of the cells before it. -/
theorem cells_performCalls {r : Renderer} (hmode : r.mode ≠ .file) (ds : List Draw) (j k : Colors)
    {a b : Screen} (h : a.cells = b.cells) :
    (a.replayAll (r.performCalls j ds)).cells = (b.replayAll (r.performCalls k ds)).cells := by
  induction ds generalizing j k a b with
  | nil => exact h
  | cons d rest ih =>
    rw [performCalls, performCalls, Screen.replayAll_append, Screen.replayAll_append]
    apply ih
    rw [← Screen.replayAll_seen, r.seen_drawCalls j k, Screen.replayAll_seen]
    exact Screen.cells_replayAll (homing_drawCalls hmode k d) h

/-! ### Painting -/

/-- The calls that clear the screen. -/
def clearCalls : Mode → List Call
  | .file => []
  | .console => [.clear]
  | .ansi | .auto => [.write Escape.clearScreen]

theorem clearScreen_eq_makeAll (r : Renderer) : r.clearScreen = makeAll (clearCalls r.mode) := by
  unfold clearScreen clearCalls
  cases r.mode with
  | file => rfl
  | console => exact (makeAll_single _).symm
  | ansi => exact (makeAll_single _).symm
  | auto => exact (makeAll_single _).symm

theorem replayAll_clearCalls {mode : Mode} (hmode : mode ≠ .file) (s : Screen) :
    s.replayAll (clearCalls mode) = s.clear := by
  have hescape : s.feed Escape.clearScreen = s.clear := by
    have halpha : ∀ c ∈ ['2'], c.isAlpha = false := Screen.isAlpha_of_all (by decide)
    exact congrArg Prod.fst (Screen.feedAll_sequence halpha (show Char.isAlpha 'J' = true from rfl) s)
  cases mode with
  | file => exact absurd rfl hmode
  | console => rfl
  | ansi => exact hescape
  | auto => exact hescape

end Renderer

/-- What a blank terminal of this size shows once a tree was rendered all over it. -/
def View.shown (v : View Span) (r : Renderer) (size : Size) : List String :=
  ((v.onTerminal r).render (.ofSize size) { size }).2.screen.lines

namespace Renderer

/-- Paints a tree, if there is one, all over a terminal of this size. -/
def paint (r : Renderer) (size : Size) (v : Option (View Span)) : TerminalM Unit := do
  r.clearScreen
  if let some v := v then (v.onTerminal r).render (.ofSize size)
  Terminal.call .flush

/-- The calls that paint a tree when the colours are `k`. -/
def paintCalls (r : Renderer) (size : Size) (k : Colors) (v : Option (View Span)) : List Call :=
  clearCalls r.mode ++
    ((v.map fun v => r.performCalls k (v.draws (.ofSize size))).getD [] ++ [.flush])

theorem afterAll_clearCalls (mode : Mode) (k : Colors) : k.afterAll (clearCalls mode) = k := by
  cases mode <;> rfl

/-- **A painting shows the tree** and nothing of what was there before, whatever the terminal did
before, as long as no call fails. -/
theorem paint_shows {r : Renderer} (hmode : r.mode ≠ .file) (v : Option (View Span)) {t : Terminal}
    (hreliable : t.Reliable) :
    ∃ cs, r.paint t.size v t = (.ok (), t.after cs) ∧
      ∀ tree ∈ v, (t.after cs).screen.lines = tree.shown r t.size := by
  refine ⟨r.paintCalls t.size t.colors v, ?_, ?_⟩
  · have hclear : r.clearScreen t = (.ok (), t.after (clearCalls r.mode)) := by
      rw [clearScreen_eq_makeAll, Terminal.makeAll_of_reliable hreliable]
    have hcleared : (t.after (clearCalls r.mode)).Reliable := hreliable.after _
    have hcolors : (t.after (clearCalls r.mode)).colors = t.colors := by
      rw [Terminal.colors_after, afterAll_clearCalls]
    rw [paint, bind_of_ok hclear, paintCalls, Terminal.after_append, ← hcolors]
    generalize t.after (clearCalls r.mode) = cleared at hcleared
    have hflush {u : Terminal} (hu : u.Reliable) :
        Terminal.call .flush u = (.ok (), u.after [.flush]) :=
      Terminal.call_of_hit (hu _ (Nat.le_refl _)) _
    cases v with
    | none => exact hflush hcleared
    | some tree =>
      have hdraw := r.perform_eq_makeAll (tree.draws (.ofSize t.size)) cleared
      rw [Terminal.makeAll_of_reliable hcleared] at hdraw
      simp only [render_eq_perform, Option.map_some, Option.getD_some, bind_of_ok hdraw,
        Terminal.after_append]
      exact hflush (hcleared.after _)
  · rintro tree rfl
    have hreliable' : Terminal.Reliable { size := t.size } := fun _ _ => rfl
    have hcells : t.screen.clear.cells = (Terminal.screen { size := t.size }).cells :=
      t.fits_screen.cells_clear
    rw [View.shown, render_eq_perform, perform_eq_makeAll, Terminal.makeAll_of_reliable hreliable',
      Terminal.screen_after, Terminal.screen_after, paintCalls, Screen.replayAll_append,
      replayAll_clearCalls hmode, Screen.replayAll_append]
    exact congrArg (List.map Screen.lineText) (cells_performCalls hmode _ _ _ hcells)

end Renderer

end TextPane
