import TextPane.Proofs.Terminal.Calls
import TextPane.Render.Renderer

/-! The calls that rendering makes.

What a line is printed with depends on the mode, on the row and, on a console, on the two colours of
the moment: a name without a colour resets both, and the other one is set again. So the calls are a
function of the lines and of the colours at the start, and rendering is making them in turn
(`render_eq_makeAll`), whether calls fail or not. -/
namespace TextPane

namespace Print
open Terminal (makeAll makeAll_single)

/-- The calls that change one colour when the colours are `k`. -/
def colorCalls (k : Colors) (c : ColorControl) : List Call :=
  match Color.ofName? c.name, c.channel with
  | some color, .foreground => [.foreground color]
  | some color, .background => [.background color]
  | none, .foreground => .resetColor :: (k.background.map Call.background).toList
  | none, .background => .resetColor :: (k.foreground.map Call.foreground).toList

def fragmentCalls (k : Colors) : Fragment → List Call
  | .text s => [.write s]
  | .control (.color c) => colorCalls k c
  | .control _ => []

/-- The calls for fragments in turn, each with the colours that the ones before it leave. -/
def fragmentsCalls (k : Colors) : List Fragment → List Call
  | [] => []
  | f :: rest => fragmentCalls k f ++ fragmentsCalls (k.afterAll (fragmentCalls k f)) rest

/-- What a line number `index` is written as in escape sequences. -/
def escapeText (region : Region) (index : Nat) (l : Line) : String :=
  Command.encodeAll (lineCommands region index l)

/-- The calls for blanks behind a line on a console. -/
def paddingCalls (region : Region) (l : Line) : List Call :=
  if 0 < padding region l then [.write (Command.blanks (padding region l))] else []

/-- The calls for line number `index` of a region when the colours are `k`. -/
def lineCalls (mode : Mode) (region : Region) (k : Colors) (index : Nat) (l : Line) : List Call :=
  match mode with
  | .file => [.write (l.text ++ "\n")]
  | .console =>
    .moveTo region.left (row region index) :: fragmentsCalls k l.fragments ++ paddingCalls region l
  | .ansi | .auto => [.write (escapeText region index l)]

/-- The calls for lines on consecutive rows, from row number `index` on. -/
def linesCalls (mode : Mode) (region : Region) (k : Colors) (index : Nat) : List Line → List Call
  | [] => []
  | l :: rest =>
    let cs := lineCalls mode region k index l
    cs ++ linesCalls mode region (k.afterAll cs) (index + 1) rest

/-- Whether printing a fragment by console calls changes a colour. -/
def colors : Fragment → Bool
  | .control (.color _) => true
  | _ => false

/-- Whether printing a line in a mode does something that should be undone. -/
def touches (mode : Mode) (l : Line) : Bool :=
  match mode with
  | .file => false
  | .console => l.fragments.any colors
  | .ansi | .auto => l.hasControl

/-! ### Printing as making calls -/

/-- From `p` on, the work makes the calls `cs` up to the first that fails, and notes whether there is
something to undo. -/
structure Makes (work : PrintM Unit) (undo : Bool) (p : Print) (cs : List Call) : Prop where
  result : (work p).1 = (makeAll cs p.terminal).1
  terminal : (work p).2.terminal = (makeAll cs p.terminal).2
  touched : (work p).1 = .ok () → (work p).2.touched = (p.touched || undo)

theorem makes_nothing (p : Print) : Makes (pure ()) false p [] :=
  ⟨rfl, rfl, fun _ => (Bool.or_false _).symm⟩

theorem makes_touch (p : Print) : Makes touch true p [] :=
  ⟨rfl, rfl, fun _ => by simp only [Bool.or_true]; rfl⟩

theorem makes_onTerminal (work : TerminalM Unit) (cs : List Call) (p : Print)
    (h : work p.terminal = makeAll cs p.terminal) : Makes (onTerminal work) false p cs := by
  refine ⟨?_, ?_, fun _ => ?_⟩
  · rw [← h]
    rfl
  · rw [← h]
    rfl
  · rw [Bool.or_false]
    rfl

/-- Work done in turn makes the calls of the first part and then those of the second, which may
depend on the colours that the first part leaves. -/
theorem Makes.bind {a b : PrintM Unit} {ua ub : Bool} {p : Print} {cs ds : List Call}
    (ha : Makes a ua p cs)
    (hb : ∀ q : Print, q.terminal = p.terminal.after cs → Makes b ub q ds) :
    Makes (do a; b) (ua || ub) p (cs ++ ds) := by
  obtain ⟨hresult, hterminal, htouched⟩ := ha
  rcases hmade : makeAll cs p.terminal with ⟨e | _, t⟩ <;> rw [hmade] at hresult hterminal
  · have hfailed : a p = (.error e, (a p).2) := Prod.ext hresult rfl
    have hsplit := bind_of_error hfailed fun _ => b
    have hcalls := bind_of_error hmade fun _ => makeAll ds
    rw [← Terminal.makeAll_append] at hcalls
    exact ⟨by rw [hsplit, hcalls], by rw [hsplit, hcalls]; exact hterminal, fun h => by
      rw [hsplit] at h
      cases h⟩
  · have hdone : a p = (.ok (), (a p).2) := Prod.ext hresult rfl
    have hsplit := bind_of_ok hdone fun _ => b
    have hcalls := bind_of_ok hmade fun _ => makeAll ds
    rw [← Terminal.makeAll_append] at hcalls
    have hafter : t = p.terminal.after cs := by
      rw [← Terminal.eq_after_of_makeAll (by rw [hmade]), hmade]
    obtain ⟨hr, ht, hu⟩ := hb (a p).2 (hterminal.trans hafter)
    rw [hterminal] at hr ht
    refine ⟨by rw [hsplit, hcalls]; exact hr, by rw [hsplit, hcalls]; exact ht, fun h => ?_⟩
    rw [hsplit] at h ⊢
    rw [hu h, htouched hresult, Bool.or_assoc]

theorem makes_changeColor (c : ColorControl) (p : Print) :
    Makes (onTerminal (changeColor c)) false p (colorCalls p.terminal.colors c) := by
  apply makes_onTerminal
  have hrestore (keep : Option Call) : makeAll keep.toList = restore keep := by
    cases keep with
    | none => rfl
    | some d => exact makeAll_single d
  unfold changeColor colorCalls
  cases Color.ofName? c.name <;> cases c.channel
  · rw [Terminal.makeAll, hrestore]
    rfl
  · rw [Terminal.makeAll, hrestore]
    rfl
  · rw [makeAll_single]
  · rw [makeAll_single]

theorem makes_fragment (f : Fragment) (p : Print) :
    Makes (consoleFragment f) (colors f) p (fragmentCalls p.terminal.colors f) := by
  cases f with
  | text s => exact makes_onTerminal (Terminal.write s) _ p (by rw [fragmentCalls, makeAll_single]; rfl)
  | control c =>
    cases c with
    | color c =>
      have hchange (q : Print) (hq : q.terminal = p.terminal.after []) :
          Makes (onTerminal (changeColor c)) false q (colorCalls p.terminal.colors c) := by
        have hcolors := makes_changeColor c q
        rwa [hq] at hcolors
      exact (makes_touch p).bind hchange
    | _ => exact makes_nothing p

theorem makes_fragments (fs : List Fragment) (p : Print) :
    Makes (consoleFragments fs) (fs.any colors) p (fragmentsCalls p.terminal.colors fs) := by
  induction fs generalizing p with
  | nil => exact makes_nothing p
  | cons f rest ih =>
    apply (makes_fragment f p).bind
    intro q hq
    have hrest := ih q
    rwa [hq, Terminal.colors_after] at hrest

theorem makes_padding (region : Region) (l : Line) (p : Print) :
    Makes (if 0 < padding region l then
        onTerminal (Terminal.write (Command.blanks (padding region l))) else pure ())
      false p (paddingCalls region l) := by
  unfold paddingCalls
  split
  · exact makes_onTerminal _ _ p (by rw [makeAll_single]; rfl)
  · exact makes_nothing p

theorem makes_consoleLine (region : Region) (index : Nat) (l : Line) (p : Print) :
    Makes (consoleLine region index l) (l.fragments.any colors) p
      (lineCalls .console region p.terminal.colors index l) := by
  have hmove : Makes (onTerminal (Terminal.call (.moveTo region.left (row region index)))) false p
      [.moveTo region.left (row region index)] :=
    makes_onTerminal _ _ p (by rw [makeAll_single])
  have hline := hmove.bind fun q hq => by
    have hfragments := makes_fragments l.fragments q
    rw [hq] at hfragments
    exact hfragments.bind fun q' _ => makes_padding region l q'
  simp only [Bool.false_or, Bool.or_false] at hline
  exact hline

/-- Commands that write nothing can be left out. -/
theorem encodeAll_effective (commands : List Command) :
    Command.encodeAll (Command.effective commands) = Command.encodeAll commands := by
  induction commands with
  | nil => rfl
  | cons c rest ih =>
    unfold Command.encodeAll Command.effective at ih ⊢
    rw [List.filter_cons]
    cases hc : c.isVoid
    · simp [ih]
    · have hempty : c.encode = "" := by
        cases c <;> simp_all [Command.isVoid, Command.encode, Command.blanks]
      simp [ih, hempty]

/-- Commands that begin with a move are written at once. -/
theorem send_moveTo (left top : Nat) (rest : List Command) :
    Command.send (.moveTo left top :: rest) =
      makeAll [.write (Command.encodeAll (.moveTo left top :: rest))] := by
  rw [← encodeAll_effective]
  rw [makeAll_single]
  simp [Command.send, Command.effective, Command.isVoid, Terminal.write]

theorem makes_ansiLine (region : Region) (index : Nat) (l : Line) (p : Print) :
    Makes (ansiLine region index l) l.hasControl p [.write (escapeText region index l)] := by
  have hsend (q : Print) : Makes (onTerminal (Command.send (lineCommands region index l))) false q
      [.write (escapeText region index l)] :=
    makes_onTerminal _ _ q (by rw [lineCommands, List.cons_append, send_moveTo]; rfl)
  unfold ansiLine
  cases l.hasControl
  · simpa using hsend p
  · simpa using (makes_touch p).bind fun q _ => hsend q

theorem makes_line (mode : Mode) (region : Region) (index : Nat) (l : Line) (p : Print) :
    Makes (line mode region index l) (touches mode l) p
      (lineCalls mode region p.terminal.colors index l) := by
  cases mode with
  | file =>
    exact makes_onTerminal (Terminal.write (l.text ++ "\n")) _ p (by rw [lineCalls, makeAll_single]; rfl)
  | console => exact makes_consoleLine region index l p
  | ansi => exact makes_ansiLine region index l p
  | auto => exact makes_ansiLine region index l p

theorem makes_linesFrom (mode : Mode) (region : Region) (index : Nat) (ls : List Line) (p : Print) :
    Makes (linesFrom mode region index ls) (ls.any (touches mode)) p
      (linesCalls mode region p.terminal.colors index ls) := by
  induction ls generalizing index p with
  | nil => exact makes_nothing p
  | cons l rest ih =>
    apply (makes_line mode region index l p).bind
    intro q hq
    have hrest := ih (index + 1) q
    rwa [hq, Terminal.colors_after] at hrest

end Print

namespace Renderer
open Terminal (makeAll makeAll_single)

/-- The calls that undo colours and attributes. -/
def undoCalls : Mode → List Call
  | .file => []
  | .console => [.resetColor]
  | .ansi | .auto => [.write Escape.attributesOff]

/-- The calls that render a span into a region when the colours are `k`. -/
def renderCalls (r : Renderer) (s : Span) (region : Region) (k : Colors) : List Call :=
  let lines := s.wrap region.size
  if region.isEmpty then []
  else Print.linesCalls r.mode region k 0 lines ++
    if r.reset && lines.any (Print.touches r.mode) then undoCalls r.mode else []

theorem undo_eq_makeAll (mode : Mode) : undo mode = makeAll (undoCalls mode) := by
  cases mode with
  | file => rfl
  | console => exact (makeAll_single _).symm
  | ansi => exact (makeAll_single _).symm
  | auto => exact (makeAll_single _).symm

/-- Rendering a span is making calls that depend on the colours at the start alone. -/
theorem render_eq_makeAll (r : Renderer) (s : Span) (region : Region) (t : Terminal) :
    r.render s region t = makeAll (r.renderCalls s region t.colors) t := by
  cases hempty : region.isEmpty
  · simp only [render, renderCalls, hempty, Bool.false_eq_true, if_false, Print.lines]
    obtain ⟨hresult, hterminal, htouched⟩ :=
      Print.makes_linesFrom r.mode region 0 (s.wrap region.size) { terminal := t }
    generalize Print.linesFrom r.mode region 0 (s.wrap region.size) { terminal := t } = printed
      at hresult hterminal htouched
    obtain ⟨result, p⟩ := printed
    rcases hmade : makeAll (Print.linesCalls r.mode region t.colors 0 (s.wrap region.size)) t with
      ⟨e | _, t'⟩
    · have hfailed : (result, p.terminal) = (.error e, t') := by
        rw [← hmade]
        exact Prod.ext hresult hterminal
      obtain ⟨rfl, rfl⟩ := Prod.mk.inj hfailed
      rw [Terminal.makeAll_append, bind_of_error hmade]
    · have hdone : (result, p.terminal) = (.ok (), t') := by
        rw [← hmade]
        exact Prod.ext hresult hterminal
      obtain ⟨rfl, rfl⟩ := Prod.mk.inj hdone
      have hundo : p.touched = (s.wrap region.size).any (Print.touches r.mode) := htouched rfl
      rw [Terminal.makeAll_append, bind_of_ok hmade]
      simp only [hundo, undo_eq_makeAll]
      cases r.reset <;> cases (s.wrap region.size).any (Print.touches r.mode) <;> rfl
  · simp only [render, renderCalls, hempty, if_true]
    rfl

end Renderer

end TextPane
