import TextPane.Proofs.Render.Calls
import TextPane.Proofs.Wrap.Lines

/-! What rendering delivers.

In every mode rendering a span delivers the lines that measuring it counts, one for each row: to a
file as text with a line end behind it; by console calls as a move of the cursor to the row and what
is written before the next move; in escape sequences as one write that begins with the move.

`render_delivers` says so of every span and of every region that stays within the limit of rows and
columns. -/
namespace TextPane

/-- All that calls write, in order. -/
def Call.written (cs : List Call) : String :=
  String.join (cs.map fun
    | .write text => text
    | _ => "")

/-- Whether a call places the cursor. -/
def Call.moves : Call → Bool
  | .moveTo .. => true
  | _ => false

/-- A line with its controls written as escape sequences. -/
def Line.encoded (l : Line) : String :=
  String.join (l.fragments.map fun
    | .text s => s
    | .control c => c.escape)

/-- The blanks behind a line of a region. -/
def Line.blanks (region : Region) (l : Line) : String := Command.blanks (Print.padding region l)

/-- Console calls that deliver lines on the rows from `top` on: a move to each row, then what is
written of its line before the next move. -/
inductive Rows (region : Region) : Nat → List Line → List Call → Prop where
  | done (top : Nat) : Rows region top [] []
  | row {top : Nat} {l : Line} {rest : List Line} {body cs : List Call}
    (still : ∀ c ∈ body, c.moves = false) (carried : Call.written body = l.text ++ l.blanks region)
    (later : Rows region (top + 1) rest cs) :
    Rows region top (l :: rest) (.moveTo region.left top :: body ++ cs)

/-- Writes that deliver lines on the rows from `top` on, each beginning with a move. -/
def rowWrites (region : Region) (top : Nat) : List Line → List Call
  | [] => []
  | l :: rest =>
    .write (Escape.moveTo (top + 1) (region.left + 1) ++ l.encoded ++ l.blanks region) ::
      rowWrites region (top + 1) rest

/-- What calls of a mode deliver to a region: these lines and no others. Colours and attributes may be
undone at the end. -/
def Delivers (mode : Mode) (region : Region) (lines : List Line) (cs : List Call) : Prop :=
  match mode with
  | .file => cs = lines.map fun l => .write (l.text ++ "\n")
  | .console =>
    ∃ body undo, Rows region region.top lines body ∧ cs = body ++ undo ∧
      (undo = [] ∨ undo = [.resetColor])
  | .ansi | .auto =>
    ∃ undo, cs = rowWrites region region.top lines ++ undo ∧
      (undo = [] ∨ undo = [.write Escape.attributesOff])

namespace Call

theorem written_append (a b : List Call) : written (a ++ b) = written a ++ written b := by
  rw [← String.toList_inj]
  simp [written, String.toList_join]

end Call

namespace Print

/-- Changing a colour writes nothing and does not move the cursor. -/
theorem colorCalls_still (k : Colors) (c : ColorControl) :
    (∀ d ∈ colorCalls k c, d.moves = false) ∧ Call.written (colorCalls k c) = "" := by
  obtain ⟨foreground, background⟩ := k
  unfold colorCalls
  split <;> cases foreground <;> cases background <;>
    simp [Call.moves, Call.written, String.join]

theorem fragmentCalls_still (k : Colors) (f : Fragment) :
    (∀ d ∈ fragmentCalls k f, d.moves = false) ∧
      Call.written (fragmentCalls k f) = (match f with | .text s => s | .control _ => "") := by
  cases f with
  | text s => simp [fragmentCalls, Call.moves, Call.written, String.join]
  | control c =>
    cases c with
    | color c => exact colorCalls_still k c
    | _ => simp [fragmentCalls, Call.written, String.join]

/-- What fragments write between two moves is their text. -/
theorem fragmentsCalls_still (k : Colors) (fs : List Fragment) :
    (∀ d ∈ fragmentsCalls k fs, d.moves = false) ∧
      Call.written (fragmentsCalls k fs) = Line.text { fragments := fs } := by
  induction fs generalizing k with
  | nil => exact ⟨by simp [fragmentsCalls], rfl⟩
  | cons f rest ih =>
    obtain ⟨hstill, hwritten⟩ := fragmentCalls_still k f
    obtain ⟨hstills, hwrittens⟩ := ih (k.afterAll (fragmentCalls k f))
    constructor
    · intro d hd
      rcases List.mem_append.mp hd with hd | hd
      · exact hstill d hd
      · exact hstills d hd
    · rw [fragmentsCalls, Call.written_append, hwritten, hwrittens, ← String.toList_inj]
      cases f <;> simp [Line.text, String.toList_join]

theorem paddingCalls_still (region : Region) (l : Line) :
    (∀ d ∈ paddingCalls region l, d.moves = false) ∧
      Call.written (paddingCalls region l) = l.blanks region := by
  unfold paddingCalls Line.blanks
  split
  · simp [Call.moves, Call.written, String.join]
  · next h =>
    rw [Nat.eq_zero_of_not_pos h]
    simp [Call.written, Command.blanks, String.join]

/-- A row within the limit is where it should be. -/
theorem row_eq {region : Region} {index : Nat} (h : region.top + index ≤ cellLimit) :
    row region index = region.top + index := Nat.min_eq_left h

theorem rows_linesCalls (region : Region) (k : Colors) (index : Nat) (lines : List Line)
    (h : region.top + index + lines.length ≤ cellLimit) :
    Rows region (region.top + index) lines (linesCalls .console region k index lines) := by
  induction lines generalizing k index with
  | nil => exact .done _
  | cons l rest ih =>
    rw [List.length_cons] at h
    have hrow : row region index = region.top + index := row_eq (by omega)
    obtain ⟨hstill, hwritten⟩ := fragmentsCalls_still k l.fragments
    obtain ⟨hstill', hwritten'⟩ := paddingCalls_still region l
    have hlater := ih (k.afterAll (lineCalls .console region k index l)) (index + 1) (by omega)
    have hcarried : Call.written (fragmentsCalls k l.fragments ++ paddingCalls region l) =
        l.text ++ l.blanks region := by
      rw [Call.written_append, hwritten, hwritten']
      rfl
    rw [linesCalls, lineCalls, hrow]
    exact .row (fun d hd => (List.mem_append.mp hd).elim (hstill d) (hstill' d)) hcarried hlater

theorem escapeText_eq (region : Region) (index : Nat) (l : Line) :
    escapeText region index l =
      Escape.moveTo (row region index + 1) (region.left + 1) ++ l.encoded ++ l.blanks region := by
  have hcode : (fun f => (fragmentCommand f).encode) =
      (fun f : Fragment => match f with | .text s => s | .control c => c.escape) := by
    funext f
    cases f <;> rfl
  rw [← String.toList_inj]
  simp [escapeText, lineCommands, Command.encodeAll, Command.encode, Line.encoded, Line.blanks,
    String.toList_join, ← hcode, Function.comp_def]

theorem linesCalls_ansi {mode : Mode} (hmode : mode = .ansi ∨ mode = .auto) (region : Region)
    (k : Colors) (index : Nat) (lines : List Line)
    (h : region.top + index + lines.length ≤ cellLimit) :
    linesCalls mode region k index lines = rowWrites region (region.top + index) lines := by
  induction lines generalizing k index with
  | nil => rfl
  | cons l rest ih =>
    rw [List.length_cons] at h
    have hline : lineCalls mode region k index l = [.write (escapeText region index l)] := by
      rcases hmode with rfl | rfl <;> rfl
    rw [linesCalls, rowWrites, ih _ (index + 1) (by omega), hline, escapeText_eq,
      row_eq (by omega), List.singleton_append, Nat.add_assoc]

theorem linesCalls_file (region : Region) (k : Colors) (index : Nat) (lines : List Line) :
    linesCalls .file region k index lines = lines.map fun l => .write (l.text ++ "\n") := by
  induction lines generalizing k index with
  | nil => rfl
  | cons l rest ih =>
    rw [linesCalls, ih]
    rfl

end Print

namespace Renderer

/-- The calls of a renderer deliver the lines of the span. -/
theorem delivers_renderCalls (r : Renderer) (s : Span) (region : Region) (k : Colors)
    (hempty : region.isEmpty = false) (hheight : region.top + region.height ≤ cellLimit) :
    Delivers r.mode region (s.wrap region.size) (r.renderCalls s region k) := by
  have hrows : region.top + 0 + (s.wrap region.size).length ≤ cellLimit := by
    have hlines : (s.wrap region.size).length ≤ region.height := s.length_wrap_le region.size
    omega
  have hundo (b : Bool) (cs : List Call) :
      (if b then cs else []) = [] ∨ (if b then cs else []) = cs := by
    cases b
    · exact .inl rfl
    · exact .inr rfl
  simp only [renderCalls, hempty, Bool.false_eq_true, if_false]
  cases r.mode with
  | file =>
    rw [Print.linesCalls_file]
    simp [Delivers, undoCalls]
  | console => exact ⟨_, _, Print.rows_linesCalls region k 0 _ hrows, rfl, hundo _ _⟩
  | ansi =>
    rw [Print.linesCalls_ansi (.inl rfl) region k 0 _ hrows]
    exact ⟨_, rfl, hundo _ _⟩
  | auto =>
    rw [Print.linesCalls_ansi (.inr rfl) region k 0 _ hrows]
    exact ⟨_, rfl, hundo _ _⟩

/-- **Rendering delivers what measuring counts.** There are as many lines as the span measures rows,
the widest has the columns that it measures, and none holds a line end; and these lines, whatever the
mode, are what the calls of rendering deliver when none of them fails. -/
theorem render_delivers (s : Span) (region : Region) (hempty : region.isEmpty = false)
    (hheight : region.top + region.height ≤ cellLimit) :
    (s.wrap region.size).length = (s.measure region.size).height ∧
    Line.widest (s.wrap region.size) = (s.measure region.size).width ∧
    (∀ l ∈ s.wrap region.size, '\n' ∉ l.text.toList ∧ '\r' ∉ l.text.toList) ∧
    ∀ (r : Renderer) (t : Terminal), ∃ cs : List Call,
      Delivers r.mode region (s.wrap region.size) cs ∧
      r.render s region t = Terminal.makeAll cs t ∧
      (t.Spares cs.length → r.render s region t = (.ok (), t.after cs)) := by
  refine ⟨s.length_wrap region.size, s.widest_wrap region.size,
    fun _ hl => Span.not_lineEnd_of_mem_wrap hl, fun r t => ?_⟩
  have hmakes := r.render_eq_makeAll s region t
  refine ⟨_, r.delivers_renderCalls s region t.colors hempty hheight, hmakes, fun hspares => ?_⟩
  rw [hmakes]
  exact Terminal.makeAll_of_spares _ hspares

/-- Two words that do not fit on one line, with a colour between them. -/
theorem render_delivers_words :
    let s : Span := .container [.content "ab " 3, .foreground "red", .content "cd" 2] 5
    let region : Region := { left := 2, top := 1, width := 4, height := 3 }
    region.isEmpty = false ∧ region.top + region.height ≤ cellLimit ∧
      s.measure region.size = ⟨3, 2⟩ ∧
      (s.wrap region.size).length = 2 ∧ Line.widest (s.wrap region.size) = 3 ∧
      ∀ (r : Renderer) (size : Size), ∃ cs : List Call,
        Delivers r.mode region (s.wrap region.size) cs ∧
        r.render s region { size } = (.ok (), Terminal.after { size } cs) := by
  intro s region
  have hmeasure : s.measure region.size = ⟨3, 2⟩ := by decide +kernel
  obtain ⟨hheight, hwidth, _, hcalls⟩ := render_delivers s region (by decide) (by decide)
  refine ⟨by decide, by decide, hmeasure, by rw [hheight, hmeasure], by rw [hwidth, hmeasure],
    fun r size => ?_⟩
  obtain ⟨cs, hdelivers, _, hspares⟩ := hcalls r { size }
  exact ⟨cs, hdelivers, hspares fun _ _ => rfl⟩

end Renderer

end TextPane
