import TextPane.Proofs.Render.Delivery

/-! Lower bounds.

The height of the bounds only cuts. While there is room for another line in the lower bounds, a flow in
them does what a flow in the higher ones does (`Flow.Alike`), and then it takes nothing more, while the
other one only adds lines to those it took (`Flow.Led`). So in lower bounds the same lines come out, up
to as many as the bounds are high, and a span that is rendered as high as it measures shows all the lines
that were measured (`Renderer.lines_take_height`). -/
namespace TextPane

namespace Flow

/-- The flow in bounds of this height. -/
def lowered (f : Flow) (height : Nat) : Flow := { f with bounds := ⟨f.bounds.width, height⟩ }

/-- A change of the line being filled and of what is noted beside it, the same in bounds of any
height. -/
structure Mild (m : Flow → Flow) : Prop where
  lowered : ∀ f height, m (f.lowered height) = (m f).lowered height
  changes : ∀ f, ∃ line endedInWord cut touched, m f = { f with line, endedInWord, cut, touched }

theorem mild_append (text : List Char) (width : Nat) : Mild fun f => f.append text width :=
  ⟨fun _ _ => rfl, fun _ => ⟨_, _, _, _, rfl⟩⟩

theorem mild_appendCut (text : List Char) : Mild fun f => f.appendCut text :=
  ⟨fun _ _ => rfl, fun _ => ⟨_, _, _, _, rfl⟩⟩

theorem mild_uncut : Mild fun f => { f with cut := false } :=
  ⟨fun _ _ => rfl, fun _ => ⟨_, _, _, _, rfl⟩⟩

theorem mild_endedInWord (endedInWord : Bool) : Mild fun f => { f with endedInWord } :=
  ⟨fun _ _ => rfl, fun _ => ⟨_, _, _, _, rfl⟩⟩

theorem mild_touch : Mild fun f => { f with touched := true } :=
  ⟨fun _ _ => rfl, fun _ => ⟨_, _, _, _, rfl⟩⟩

theorem mild_control (c : Control) : Mild fun f => { f with line := f.line.pushControl c } :=
  ⟨fun _ _ => rfl, fun _ => ⟨_, _, _, _, rfl⟩⟩

/-! ### Two flows in bounds of different heights -/

/-- These are the first lines taken, so many or all that there will be. -/
structure Led (height : Nat) (first : List Line) (g : Flow) : Prop where
  reached : g.full = false → height ≤ g.lines.length
  first : first = g.lines.take height

/-- A flow in lower bounds, and the same flow in the higher ones; both have room for another line. -/
structure Alike (limit : Size) (height : Nat) (f g : Flow) : Prop where
  counted : Counted limit g
  opened : g.full = false
  room : g.count < height
  le : height ≤ limit.height
  eq : f = g.lowered height

/-- What flowed into `g` has flowed into `f` in lower bounds: they are alike, or there is no room for
another line in the lower bounds, and the lines taken there lead those taken in the higher ones. -/
inductive Beside (limit : Size) (height : Nat) (f g : Flow) : Prop where
  | alike (h : Alike limit height f g)
  | ended (hfull : f.full = true) (hled : Led height f.lines g)

theorem Led.map {height : Nat} {first : List Line} {g : Flow} (h : Led height first g)
    {m : Flow → Flow} (hm : Mild m) : Led height first (m g) := by
  obtain ⟨_, _, _, _, hg⟩ := hm.changes g
  rw [hg]
  exact ⟨h.reached, h.first⟩

/-- Lines that lead go on to lead, whatever flows in. -/
theorem stable_led (refuses : Nat → Bool) (height : Nat) (first : List Line) :
    Stable refuses (fun _ => True) (fun _ => True) (Led height first) where
  breakLine g h hfull := by
    have hreached := h.reached hfull
    cases hr : refuses g.offers.length
    · have hlines : (g.breakLine refuses).1.lines = g.lines ++ [g.line] := by
        rw [breakLine_taken refuses g hfull hr, lines_cons _ _ _ rfl]
        rfl
      refine ⟨fun _ => ?_, ?_⟩
      · rw [hlines, List.length_append]
        exact Nat.le_add_right_of_le hreached
      · rw [hlines, List.take_append_of_le_length hreached]
        exact h.first
    · have hlines : (g.breakLine refuses).1.lines = g.lines := by
        rw [breakLine_refused refuses g hfull hr, lines_cons _ _ _ rfl]
        exact List.append_nil _
      exact ⟨fun _ => hlines ▸ hreached, hlines ▸ h.first⟩
  append _ _ h _ _ _ := h.map (mild_append _ _)
  appendCut _ _ h _ _ := h.map (mild_appendCut _)
  control _ c h _ := h.map (mild_control c)
  flags _ _ _ _ h := ⟨h.reached, h.first⟩

section Beside
variable (refuses : Nat → Bool) {limit : Size} {height : Nat} {f g : Flow}

theorem Alike.map (h : Alike limit height f g) {m : Flow → Flow} (hm : Mild m) :
    Alike limit height (m f) (m g) := by
  have heq : m f = (m g).lowered height := by rw [h.eq, hm.lowered]
  obtain ⟨_, _, _, _, hg⟩ := hm.changes g
  rw [hg] at heq ⊢
  exact ⟨{ h.counted with }, h.opened, h.room, h.le, heq⟩

theorem Beside.map (h : Beside limit height f g) {m : Flow → Flow} (hm : Mild m) :
    Beside limit height (m f) (m g) := by
  cases h with
  | alike h => exact .alike (h.map hm)
  | ended hfull hled =>
    obtain ⟨_, _, _, _, hf⟩ := hm.changes f
    rw [hf]
    exact .ended hfull (hled.map hm)

/-- The lines in the lower bounds are the first ones. -/
theorem Beside.lines (h : Beside limit height f g) : f.lines = g.lines.take height := by
  cases h with
  | alike h =>
    have hlength : g.lines.length ≤ height := h.counted.count ▸ Nat.le_of_lt h.room
    rw [List.take_of_length_le hlength, h.eq]
    rfl
  | ended _ hled => exact hled.first

theorem beside_start (width : Nat) {height' : Nat} (hle : height ≤ height') :
    Beside ⟨width, height'⟩ height (start ⟨width, height⟩) (start ⟨width, height'⟩) := by
  cases hempty : Size.isEmpty ⟨width, height⟩
  · have hsome : width ≠ 0 ∧ height ≠ 0 := by simpa [Size.isEmpty] using hempty
    have hopen : Size.isEmpty ⟨width, height'⟩ = false := by
      simp only [Size.isEmpty, Bool.or_eq_false_iff, beq_eq_false_iff_ne]
      exact ⟨hsome.1, by omega⟩
    exact .alike ⟨counted_start _, hopen, Nat.pos_of_ne_zero hsome.2, hle,
      by simp [start, lowered, hempty, hopen]⟩
  · refine .ended hempty ⟨fun hopen => ?_, List.take_nil.symm⟩
    have hzero : width = 0 ∨ height = 0 := by simpa [Size.isEmpty] using hempty
    have hsome : width ≠ 0 ∧ height' ≠ 0 := by simpa [start, Size.isEmpty] using hopen
    rw [hzero.resolve_left hsome.1]
    exact Nat.zero_le _

/-- A line is broken off alike. It may be the last one that there is room for in the lower bounds. -/
theorem Alike.breakLine (h : Alike limit height f g) :
    Beside limit height (f.breakLine refuses).1 (g.breakLine refuses).1 ∧
      (f.breakLine refuses).2 = (g.breakLine refuses).2 := by
  have hnext := counted_breakLine refuses h.counted h.opened
  obtain ⟨hcounted, hopen, hroom, hle, rfl⟩ := h
  cases hr : refuses g.offers.length
  · rw [breakLine_taken refuses g hopen hr] at hnext ⊢
    rw [breakLine_taken refuses (g.lowered height) hopen hr]
    refine ⟨?_, rfl⟩
    by_cases hlast : height ≤ g.count + 1
    · have hlength := hnext.count
      exact .ended (decide_eq_true hlast) ⟨fun _ => hlength ▸ hlast,
        (List.take_of_length_le (hlength ▸ hroom)).symm⟩
    · have hfull :
          decide ((g.lowered height).bounds.height ≤ (g.lowered height).count + 1) = false :=
        decide_eq_false hlast
      have hfull' : decide (g.bounds.height ≤ g.count + 1) = false := by
        rw [hcounted.bounds]
        exact decide_eq_false (by omega)
      refine .alike ⟨hnext, hfull', Nat.lt_of_not_le hlast, hle, ?_⟩
      rw [hfull, hfull']
      rfl
  · rw [breakLine_refused refuses g hopen hr] at hnext ⊢
    rw [breakLine_refused refuses (g.lowered height) hopen hr]
    exact ⟨.alike ⟨hnext, hopen, hroom, hle, rfl⟩, rfl⟩

/-- A word or a run of blanks is placed alike. -/
theorem Alike.place (h : Alike limit height f g) (isSpace : Bool) (text : List Char) :
    Beside limit height (f.place refuses isSpace text).1 (g.place refuses isSpace text).1 ∧
      (f.place refuses isSpace text).2 = (g.place refuses isSpace text).2 := by
  have hroom : f.room = g.room := by rw [h.eq]; rfl
  have hline : f.line.width = g.line.width := by rw [h.eq]; rfl
  have hwidth : f.bounds.width = g.bounds.width := by rw [h.eq]; rfl
  unfold Flow.place
  simp only [hroom, hline, hwidth]
  split
  · exact ⟨.alike h, rfl⟩
  split
  · exact ⟨.alike (h.map (mild_append text _)), rfl⟩
  split
  · obtain ⟨hbeside, hanswer⟩ := h.breakLine refuses
    have hbounds := breakLine_bounds refuses f
    have hbounds' := breakLine_bounds refuses g
    generalize f.breakLine refuses = broken at hbeside hanswer hbounds ⊢
    generalize g.breakLine refuses = broken' at hbeside hanswer hbounds' ⊢
    obtain ⟨f', _ | _⟩ := broken <;> obtain ⟨g', _ | _⟩ := broken' <;> cases hanswer
    · exact ⟨hbeside, rfl⟩
    dsimp only at hbeside hbounds hbounds' ⊢
    rw [hbounds, hbounds', hwidth]
    cases hbeside with
    | alike h' =>
      have hfull : f'.full = g'.full := h'.eq ▸ rfl
      simp only [hfull]
      split
      · exact ⟨.alike h', rfl⟩
      split
      · exact ⟨.alike (h'.map (mild_append text _)), rfl⟩
      · exact ⟨.alike (h'.map (mild_appendCut text)), rfl⟩
    | ended hfull hled =>
      rw [if_pos (.inl hfull)]
      split
      · exact ⟨.ended hfull hled, rfl⟩
      split
      · exact ⟨.ended hfull (hled.map (mild_append text _)), rfl⟩
      · exact ⟨.ended hfull (hled.map (mild_appendCut text)), rfl⟩
  · exact ⟨.alike (h.map (mild_appendCut text)), rfl⟩

theorem Alike.pushUnit (h : Alike limit height f g) (isFirst : Bool) (u : WrapUnit) :
    Beside limit height (f.pushUnit refuses isFirst u).1 (g.pushUnit refuses isFirst u).1 ∧
      (f.pushUnit refuses isFirst u).2 = (g.pushUnit refuses isFirst u).2 := by
  -- What is noted of a unit that was taken in is noted of both.
  have hnoted {p q : Flow × Bool} {m : Flow → Flow} (hm : Mild m)
      (hpq : Beside limit height p.1 q.1 ∧ p.2 = q.2) :
      Beside limit height (if p.2 then m p.1 else p.1) (if q.2 then m q.1 else q.1) := by
    rw [hpq.2]
    split
    · exact hpq.1.map hm
    · exact hpq.1
  have hgoesOn : (isFirst = true ∧ f.endedInWord = true ∧ f.cut = true) =
      (isFirst = true ∧ g.endedInWord = true ∧ g.cut = true) := by rw [h.eq]; rfl
  have hplace (isSpace : Bool) := h.place refuses isSpace u.text
  have hpushed (p q : Flow × Bool) (hpq : Beside limit height p.1 q.1 ∧ p.2 = q.2) :=
    And.intro (hnoted (mild_endedInWord (u.kind = .word)) hpq) hpq.2
  unfold Flow.pushUnit
  apply hpushed
  cases u.kind with
  | newline => exact ⟨hnoted mild_uncut (h.breakLine refuses), (h.breakLine refuses).2⟩
  | space => exact hplace true
  | word =>
    simp only [hgoesOn]
    split
    · exact ⟨.alike h, rfl⟩
    · exact hplace false

theorem Beside.pushUnits (h : Beside limit height f g) (isFirst : Bool) (us : List WrapUnit) :
    Beside limit height (f.pushUnits refuses isFirst us).1 (g.pushUnits refuses isFirst us).1 := by
  induction us generalizing f g isFirst with
  | nil => exact h
  | cons u rest ih =>
    cases h with
    | alike h =>
      have hfull : f.full = g.full := h.eq ▸ rfl
      obtain ⟨hbeside, hanswer⟩ := h.pushUnit refuses isFirst u
      unfold Flow.pushUnits
      rw [hfull, h.opened]
      generalize f.pushUnit refuses isFirst u = pushed at hbeside hanswer ⊢
      generalize g.pushUnit refuses isFirst u = pushed' at hbeside hanswer ⊢
      obtain ⟨f', _ | _⟩ := pushed <;> obtain ⟨g', _ | _⟩ := pushed' <;> cases hanswer
      · exact hbeside
      · exact ih hbeside false
    | ended hfull hled =>
      have hstays : f.pushUnits refuses isFirst (u :: rest) = (f, true) := if_pos hfull
      rw [hstays]
      have hall := (stable_led refuses height f.lines).pushUnits (u :: rest) (fun _ _ => trivial)
      exact .ended hfull (hall isFirst g hled)

theorem Beside.pushText (h : Beside limit height f g) (s : String) :
    Beside limit height (f.pushText refuses s).1 (g.pushText refuses s).1 := by
  unfold Flow.pushText
  split
  · exact h
  · exact (h.map mild_touch).pushUnits refuses true _

theorem Beside.pushControl (h : Beside limit height f g) (c : Control) :
    Beside limit height (f.pushControl c) (g.pushControl c) := by
  have htouched := h.map mild_touch
  cases h with
  | alike h =>
    have hopen : f.full = false := h.eq ▸ h.opened
    have hf : f.pushControl c = { f with touched := true, line := f.line.pushControl c } :=
      if_neg (by simp [hopen])
    have hg : g.pushControl c = { g with touched := true, line := g.line.pushControl c } :=
      if_neg (by simp [h.opened])
    rw [hf, hg]
    exact htouched.map (mild_control c)
  | ended hfull hled =>
    have hf : f.pushControl c = { f with touched := true } := if_pos hfull
    rw [hf]
    exact .ended hfull ((stable_led takesAll height f.lines).pushControl g c hled trivial)

theorem Beside.pour (h : Beside limit height f g) (ins : List Inflow) :
    Beside limit height (f.pour refuses ins) (g.pour refuses ins) := by
  induction ins generalizing f g with
  | nil => exact h
  | cons i rest ih =>
    cases i with
    | text s => exact ih (h.pushText refuses s)
    | control c => exact ih (h.pushControl c)

theorem Beside.finish (h : Beside limit height f g) :
    Beside limit height (f.finish refuses).1 (g.finish refuses).1 := by
  cases h with
  | alike h =>
    have hline : f.line = g.line := h.eq ▸ rfl
    have htouched : f.touched = g.touched := h.eq ▸ rfl
    unfold Flow.finish
    rw [hline, htouched]
    split
    · exact .alike h
    · exact (h.breakLine refuses).1
  | ended hfull hled =>
    have hstays : (f.finish refuses).1 = f := by
      unfold Flow.finish Flow.breakLine
      rw [if_pos hfull, ite_self]
    rw [hstays]
    exact .ended hfull ((stable_led refuses height f.lines).finish g hled)

end Beside

/-- The flow of texts and controls with its last line asked for. -/
def poured (refuses : Nat → Bool) (bounds : Size) (ins : List Inflow) : Flow :=
  (((start bounds).pour refuses ins).finish refuses).1

/-- In lower bounds the same lines are taken, up to as many as the bounds are high. -/
theorem lines_poured (refuses : Nat → Bool) (ins : List Inflow) (width : Nat) {height height' : Nat}
    (hle : height ≤ height') :
    (poured refuses ⟨width, height⟩ ins).lines =
      (poured refuses ⟨width, height'⟩ ins).lines.take height :=
  (((beside_start width hle).pour refuses ins).finish refuses).lines

end Flow

/-- A span has all its lines in bounds that are as high as it measures. -/
theorem Span.wrap_measured (s : Span) (limit : Size) :
    s.wrap ⟨limit.width, (s.measure limit).height⟩ = s.wrap limit := by
  have hle : (s.measure limit).height ≤ limit.height := by
    rw [← length_wrap]
    exact length_wrap_le s limit
  have hlines := Flow.lines_poured Flow.takesAll s.inflows limit.width hle
  have hwrap (bounds : Size) : s.wrap bounds = (Flow.poured Flow.takesAll bounds s.inflows).lines := by
    rw [wrap, Flow.ofSpan_eq]
    rfl
  rw [hwrap, hlines, ← hwrap, ← length_wrap, List.take_length]

namespace Renderer
open Terminal (makeAll)

/-- A region without area is delivered no line. -/
theorem delivers_nothing (mode : Mode) (region : Region) : Delivers mode region [] [] := by
  cases mode with
  | file => rfl
  | console => exact ⟨[], [], .done _, rfl, .inl rfl⟩
  | ansi => exact ⟨[], rfl, .inl rfl⟩
  | auto => exact ⟨[], rfl, .inl rfl⟩

/-- **Height only cuts.** Whatever flows in, and whichever lines are refused: the lines taken in bounds
of some height are the first of those taken in higher bounds of the same width. So a region as wide as
the bounds of measuring and as high as the span measured is delivered all the lines that were measured,
in every mode. -/
theorem lines_take_height (refuses : Nat → Bool) (ins : List Inflow) (width : Nat) {height height' : Nat}
    (hle : height ≤ height') :
    (Flow.poured refuses ⟨width, height⟩ ins).lines =
        (Flow.poured refuses ⟨width, height'⟩ ins).lines.take height ∧
      ∀ (s : Span) (limit : Size) (region : Region),
        region.size = ⟨limit.width, (s.measure limit).height⟩ →
        s.wrap region.size = s.wrap limit ∧
        (region.top + region.height ≤ cellLimit → ∀ (r : Renderer) (t : Terminal), ∃ cs : List Call,
          Delivers r.mode region (s.wrap limit) cs ∧ r.render s region t = makeAll cs t ∧
          (t.Spares cs.length → r.render s region t = (.ok (), t.after cs))) := by
  refine ⟨Flow.lines_poured refuses ins width hle, fun s limit region hsize => ?_⟩
  have hwrap : s.wrap region.size = s.wrap limit := by rw [hsize, s.wrap_measured]
  refine ⟨hwrap, fun hheight r t => ⟨r.renderCalls s region t.colors, ?_,
    r.render_eq_makeAll s region t, fun hspares => ?_⟩⟩
  · rw [← hwrap]
    cases hempty : region.isEmpty
    · exact r.delivers_renderCalls s region t.colors hempty hheight
    · rw [s.wrap_of_isEmpty hempty, renderCalls, if_pos hempty]
      exact delivers_nothing r.mode region
  · rw [r.render_eq_makeAll]
    exact Terminal.makeAll_of_spares _ hspares

/-- Of three words in one column the first two come out where there is room for two lines. Measured with
room to spare they fill three rows. -/
theorem lines_take_height_words :
    let ins : List Inflow := [.text "a b", .control (.color (.named "red" .foreground)), .text " c"]
    let s : Span := .container [.content "a b" 3, .foreground "red", .content " c" 2] 5
    let region : Region := { left := 0, top := 4, width := 1, height := 3 }
    2 ≤ 9 ∧
      (Flow.poured Flow.takesAll ⟨1, 2⟩ ins).lines.map Line.text = ["a", "b"] ∧
      (Flow.poured Flow.takesAll ⟨1, 2⟩ ins).lines =
        (Flow.poured Flow.takesAll ⟨1, 9⟩ ins).lines.take 2 ∧
      region.size = ⟨1, (s.measure ⟨1, 9⟩).height⟩ ∧ region.top + region.height ≤ cellLimit ∧
      (s.wrap region.size).map Line.text = ["a", "b", "c"] ∧
      ∃ cs : List Call, Delivers .console region (s.wrap ⟨1, 9⟩) cs ∧
        render { mode := .console } s region { size := ⟨5, 9⟩ } =
          (.ok (), Terminal.after { size := ⟨5, 9⟩ } cs) := by
  intro ins s region
  have hsize : region.size = ⟨1, (s.measure ⟨1, 9⟩).height⟩ := by decide +kernel
  obtain ⟨hlines, hrender⟩ := lines_take_height Flow.takesAll ins 1 (show 2 ≤ 9 by decide)
  obtain ⟨-, hcalls⟩ := hrender s ⟨1, 9⟩ region hsize
  obtain ⟨cs, hdelivers, -, hspares⟩ := hcalls (by decide) { mode := .console } { size := ⟨5, 9⟩ }
  exact ⟨by decide, by decide +kernel, hlines, hsize, by decide, by decide +kernel, cs, hdelivers,
    hspares fun _ _ => rfl⟩

end Renderer

end TextPane
