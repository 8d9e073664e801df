import TextPane.Proofs.Wrap.Atoms

/-! Lines without the controls.

Controls ride on lines and take no room, and while text flows in nothing that is decided depends on
them. So the lines of a flow without their controls are those of the texts alone
(`Flow.unstyled_absorbAll`). Only at the end does it matter whether the line being filled holds controls:
they are handed over on a line of their own, where the texts alone would leave none
(`Span.wrap_unstyled`). -/
namespace TextPane

/-! ### Lines -/

namespace Line

/-- The line without its controls. -/
def unstyled (line : Line) : Line :=
  { fragments := if line.text.isEmpty then [] else [.text line.text], width := line.width }

@[simp] theorem width_unstyled (line : Line) : line.unstyled.width = line.width := rfl

@[simp] theorem isEmpty_unstyled (line : Line) : line.unstyled.isEmpty = line.text.isEmpty := by
  unfold unstyled isEmpty
  cases line.text.isEmpty <;> rfl

@[simp] theorem text_unstyled (line : Line) : line.unstyled.text = line.text := by
  unfold unstyled
  cases h : line.text.isEmpty
  · simp [text]
  · rw [String.isEmpty_iff.mp h]
    rfl

theorem text_pushText (line : Line) (s : String) (width : Nat) :
    (line.pushText s width).text = line.text ++ s := by
  apply String.toList_injective
  simp [toList_text, Mark.char?, List.filterMap_map, Function.comp_def]

theorem unstyled_pushText (line : Line) (s : String) (width : Nat) :
    (line.pushText s width).unstyled = line.unstyled.pushText s width := by
  unfold unstyled
  rw [text_pushText]
  cases hs : s.isEmpty
  · cases ht : line.text.isEmpty <;> simp_all [pushText, appendText]
  · simp [pushText, String.isEmpty_iff.mp hs]

/-- A control adds no text. -/
theorem unstyled_pushControl (line : Line) (c : Control) :
    (line.pushControl c).unstyled = line.unstyled := by
  have htext : (line.pushControl c).text = line.text := by
    apply String.toList_injective
    simp [toList_text, Mark.char?]
  unfold unstyled
  rw [htext]
  rfl

theorem map_text_unstyled (lines : List Line) : (lines.map unstyled).map text = lines.map text := by
  simp [Function.comp_def]

theorem widest_map_unstyled (lines : List Line) : widest (lines.map unstyled) = widest lines := by
  simp [widest, Function.comp_def]

end Line

/-! ### Flows -/

namespace Atom

def isUnit : Atom → Bool
  | .unit .. => true
  | .control _ => false

theorem filter_ofUnits (opens : Bool) (us : List WrapUnit) :
    (ofUnits opens us).filter isUnit = ofUnits opens us := by
  induction us generalizing opens with
  | nil => rfl
  | cons u rest ih => exact congrArg (Atom.unit opens u :: ·) (ih false)

end Atom

namespace Flow

/-- The flow with no controls on its lines. -/
def unstyled (f : Flow) : Flow :=
  { f with
    line := f.line.unstyled
    offers := f.offers.map fun o => { o with line := o.line.unstyled } }

theorem lines_unstyled (f : Flow) : f.unstyled.lines = f.lines.map Line.unstyled := by
  simp [lines, unstyled, List.filter_map, Function.comp_def]

section Moves
variable (f : Flow)

theorem unstyled_breakLine :
    f.unstyled.breakLine takesAll = ((f.breakLine takesAll).1.unstyled, true) := by
  cases hfull : f.full
  · rw [breakLine_taken takesAll f hfull rfl, breakLine_taken takesAll f.unstyled hfull rfl]
    rfl
  · simp [breakLine, hfull, unstyled]

theorem unstyled_append (text : List Char) (width : Nat) :
    (f.append text width).unstyled = f.unstyled.append text width := by
  simp [append, unstyled, Line.unstyled_pushText]

theorem unstyled_appendCut (text : List Char) :
    (f.appendCut text).unstyled = f.unstyled.appendCut text := by
  simp [appendCut_eq, unstyled, Line.unstyled_pushText, room]

theorem unstyled_place (isSpace : Bool) (text : List Char) :
    f.unstyled.place takesAll isSpace text = ((f.place takesAll isSpace text).1.unstyled, true) := by
  rw [place_takesAll, place_takesAll, unstyled_breakLine]
  simp only [apply_ite unstyled, unstyled_append, unstyled_appendCut]
  rfl

theorem unstyled_push (opens : Bool) (u : WrapUnit) :
    f.unstyled.push opens u = (f.push opens u).unstyled := by
  unfold push
  cases u.kind with
  | newline =>
    rw [unstyled_breakLine]
    rfl
  | space => simp only [unstyled_place]
  | word =>
    simp only [unstyled_place, apply_ite unstyled]
    rfl

end Moves

theorem unstyled_absorb_unit (f : Flow) (opens : Bool) (u : WrapUnit) :
    (f.absorb (.unit opens u)).unstyled = f.unstyled.absorb (.unit opens u) := by
  cases hfull : f.full
  · have hunstyled : f.unstyled.full = false := hfull
    have hpush := unstyled_push { f with touched := true } opens u
    rw [absorb_unit hfull, absorb_unit hunstyled]
    exact congrArg (fun g : Flow => { g with endedInWord := decide (u.kind = UnitKind.word) }) hpush.symm
  · have hunstyled : f.unstyled.full = true := hfull
    rw [absorb_full hfull, absorb_full hunstyled]
    rfl

/-- A control only touches. -/
theorem unstyled_absorb_control (f : Flow) (c : Control) :
    (f.absorb (.control c)).unstyled = { f.unstyled with touched := true } := by
  cases hfull : f.full
  · rw [absorb_control hfull]
    simp only [unstyled, Line.unstyled_pushControl]
  · rw [absorb_full hfull]
    rfl

/-- The units flow in alike with the controls and without them. Only whether anything flowed in may
differ. -/
theorem unstyled_absorbAll (as : List Atom) {f g : Flow} (h : f.unstyled = { g with touched := f.touched }) :
    (f.absorbAll as).unstyled =
      { g.absorbAll (as.filter Atom.isUnit) with touched := (f.absorbAll as).touched } := by
  induction as generalizing f g with
  | nil => exact h
  | cons a rest ih =>
    cases a with
    | unit opens u =>
      refine ih (g := g.absorb (.unit opens u)) ?_
      rw [unstyled_absorb_unit, h, touched_absorb, ← touched_absorb g (.unit opens u)]
      rfl
    | control c =>
      refine ih (g := g) ?_
      rw [unstyled_absorb_control, h, touched_absorb]

/-! ### The last line -/

/-- The line being filled holds controls and no text, and there is room for it. -/
def Hangs (f : Flow) : Prop := f.full = false ∧ f.line.text = "" ∧ f.line.isEmpty = false

instance (f : Flow) : Decidable f.Hangs := inferInstanceAs (Decidable (_ ∧ _ ∧ _))

/-- A line without text takes no columns. -/
theorem stable_textless (refuses : Nat → Bool) :
    Stable refuses (fun _ => True) (fun _ => True) fun f => f.line.text = "" → f.line.width = 0 := by
  have hpush (line : Line) (s : String) (width : Nat) (h : line.text = "" → line.width = 0)
      (htext : (line.pushText s width).text = "") : (line.pushText s width).width = 0 := by
    rw [Line.text_pushText, String.append_eq_empty_iff] at htext
    rw [htext.2]
    exact h htext.1
  refine ⟨fun f _ hfull _ => ?_, fun f u h _ _ _ => hpush _ _ _ h, fun f u h _ _ => hpush _ _ _ h, ?_,
    fun _ _ _ _ h => h⟩
  · rw [breakLine_line refuses f hfull]
  · intro f c h _ htext
    exact h (by rw [← Line.text_unstyled, ← Line.unstyled_pushControl, Line.text_unstyled, htext])

theorem lines_finish (f : Flow) :
    (f.finish takesAll).1.lines =
      f.lines ++ if f.full ∨ (f.line.isEmpty ∧ f.touched) then [] else [f.line] := by
  unfold finish
  cases hfull : f.full
  · simp only [Bool.false_eq_true, false_or]
    split
    · exact (List.append_nil _).symm
    · exact lines_breakLine hfull
  · simp [breakLine, hfull]

/-- Controls alone leave a line that holds them. -/
theorem line_absorbAll_controls {f : Flow} (hfull : f.full = false) {as : List Atom}
    (has : as.filter Atom.isUnit = []) :
    (f.absorbAll as).line.fragments.length = f.line.fragments.length + as.length := by
  induction as generalizing f with
  | nil => rfl
  | cons a rest ih =>
    cases a with
    | unit opens u => cases has
    | control c =>
      have hf := absorb_control hfull c
      have hrest := ih (show (f.absorb (.control c)).full = false by rw [hf]; exact hfull) has
      show ((f.absorb (.control c)).absorbAll rest).line.fragments.length = _
      rw [hrest, hf, List.length_cons]
      simp [Line.pushControl]
      omega

/-- A flow hands over the lines that it hands over without the controls, and where controls hang on the
line being filled, one line more. -/
theorem lines_finish_unstyled {f g : Flow} (h : f.unstyled = { g with touched := f.touched })
    (hwidth : f.line.text = "" → f.line.width = 0) (htouched : g.touched = true → f.touched = true)
    (hcontrols : g.touched = false → f.touched = true → f.full = false → f.line.isEmpty = false) :
    (f.finish takesAll).1.lines.map Line.unstyled =
      (g.finish takesAll).1.lines ++ if g.touched ∧ f.Hangs then [({} : Line)] else [] := by
  have hlines : g.lines = f.lines.map Line.unstyled := (lines_unstyled f ▸ congrArg lines h).symm
  have hline : g.line = f.line.unstyled := (congrArg line h).symm
  have hfull : g.full = f.full := (congrArg full h).symm
  rw [lines_finish, lines_finish, hlines, hline, hfull, List.map_append, List.append_assoc]
  congr 1
  cases hroom : f.full
  case true => simp [Hangs, hroom]
  cases htext : g.touched
  case false =>
    have hkept : ¬(f.line.isEmpty ∧ f.touched) := fun ⟨hempty, hf⟩ => by
      rw [hcontrols htext hf hroom] at hempty
      cases hempty
    simp [hkept]
  have hf := htouched htext
  cases hempty : f.line.isEmpty
  · cases hblank : f.line.text.isEmpty
    · have hsome : f.line.text ≠ "" := fun htext => by simp [htext] at hblank
      simp [Hangs, hblank, hsome]
    · have hnone := String.isEmpty_iff.mp hblank
      have hbare : f.line.unstyled = {} := by
        rw [Line.unstyled, hwidth hnone, if_pos hblank]
      simpa [Hangs, hroom, hnone, hempty] using hbare
  · have hnone : f.line.text = "" := by
      rw [Line.text, List.isEmpty_iff.mp hempty]
      rfl
    simp [Hangs, hempty, hf, hnone]

end Flow

/-! ### Spans -/

namespace Span

mutual

/-- The span without its controls. -/
def unstyled : Span → Span
  | .empty | .control _ => .empty
  | .content text length => .content text length
  | .container children length => .container (unstyledAll children) length
  | .host h => .host h

def unstyledAll : List Span → List Span
  | [] => []
  | .control _ :: rest => unstyledAll rest
  | s :: rest => s.unstyled :: unstyledAll rest

end

theorem atoms_text (text : String) :
    [Inflow.text text].flatMap Inflow.atoms =
      ([Inflow.text text].flatMap Inflow.atoms).filter Atom.isUnit := by
  rw [List.flatMap_singleton]
  exact (Atom.filter_ofUnits true _).symm

/-- The atoms of spans in a row. -/
def atomsAll (ss : List Span) : List Atom := (inflowsAll ss).flatMap Inflow.atoms

theorem atomsAll_cons (s : Span) (rest : List Span) : atomsAll (s :: rest) = s.atoms ++ atomsAll rest :=
  List.flatMap_append

mutual

theorem atoms_unstyled : (s : Span) → s.unstyled.atoms = s.atoms.filter Atom.isUnit
  | .empty | .control _ => rfl
  | .content text _ => atoms_text text
  | .container children _ => atoms_unstyledAll children
  | .host h => atoms_text h.text

theorem atoms_unstyledAll :
    (ss : List Span) → atomsAll (unstyledAll ss) = (atomsAll ss).filter Atom.isUnit
  | [] => rfl
  | s :: rest => by
    have hs := atoms_unstyled s
    have hrest := atoms_unstyledAll rest
    rw [atomsAll_cons, List.filter_append, ← hs, ← hrest]
    cases s with
    | control c => rfl
    | _ => exact atomsAll_cons _ _

end

theorem units_text (text : String) :
    text = "" ↔ ([Inflow.text text].flatMap Inflow.atoms).filter Atom.isUnit = [] := by
  rw [← atoms_text, List.flatMap_singleton]
  constructor
  · rintro rfl
    rfl
  · intro hatoms
    have hmarks := Inflow.flatMap_marks_atoms (.text text)
    rw [hatoms] at hmarks
    exact String.toList_eq_nil_iff.mp (List.map_eq_nil_iff.mp hmarks.symm)

mutual

/-- A span has text just where it has units. -/
theorem plain_eq_empty : (s : Span) → (s.plain = "" ↔ s.atoms.filter Atom.isUnit = [])
  | .empty | .control _ => iff_of_true rfl rfl
  | .content text _ => units_text text
  | .container children _ => plainAll_eq_empty children
  | .host h => units_text h.text

theorem plainAll_eq_empty :
    (ss : List Span) → (plainAll ss = "" ↔ (atomsAll ss).filter Atom.isUnit = [])
  | [] => iff_of_true rfl rfl
  | s :: rest => by
    rw [plainAll, atomsAll_cons, List.filter_append, List.append_eq_nil_iff, ← plain_eq_empty s,
      ← plainAll_eq_empty rest, String.append_eq_empty_iff]

end

/-- The flow before its last line is offered. -/
def poured (s : Span) (limit : Size) : Flow := (Flow.start limit).absorbAll s.atoms

/-- The span has text, and controls behind it hang on a line of their own. -/
def Trails (s : Span) (limit : Size) : Prop := s.plain ≠ "" ∧ (s.poured limit).Hangs

instance (s : Span) (limit : Size) : Decidable (s.Trails limit) := inferInstanceAs (Decidable (_ ∧ _))

/-- The lines of a span without their controls are those of the span without its controls, and one
empty line more where controls trail. -/
theorem map_unstyled_wrap (s : Span) (limit : Size) :
    (s.wrap limit).map Line.unstyled =
      s.unstyled.wrap limit ++ if s.Trails limit then [({} : Line)] else [] := by
  let f := s.poured limit
  let g := s.unstyled.poured limit
  have hsame : f.unstyled = { g with touched := f.touched } := by
    have hall := Flow.unstyled_absorbAll s.atoms
      (show (Flow.start limit).unstyled = { Flow.start limit with touched := false } from rfl)
    rwa [← atoms_unstyled] at hall
  have htext : g.touched = true ↔ s.plain ≠ "" := by
    rw [Ne, plain_eq_empty, ← atoms_unstyled]
    simp [g, poured, Flow.touched_absorbAll, Flow.start]
  have hall : f.touched = !s.atoms.isEmpty := by
    simp [f, poured, Flow.touched_absorbAll, Flow.start]
  have hwidth : f.line.text = "" → f.line.width = 0 := by
    have hpour := (Flow.stable_textless Flow.takesAll).pour s.inflows (fun _ _ _ _ => trivial)
      (fun _ _ => trivial) (Flow.start limit) (fun _ => rfl)
    rwa [Flow.pour_takesAll] at hpour
  have htouched : g.touched = true → f.touched = true := by
    intro hg
    rw [hall]
    cases hatoms : s.atoms with
    | nil => exact absurd (by simp [hatoms]) (mt (plain_eq_empty s).mpr (htext.mp hg))
    | cons => rfl
  have hcontrols : g.touched = false → f.touched = true → f.full = false → f.line.isEmpty = false := by
    intro hg hf hroom
    have hstart : (Flow.start limit).full = false := by
      refine Bool.eq_false_iff.mpr fun hstart => ?_
      have hfull : f = _ := Flow.absorbAll_full hstart s.atoms
      rw [hfull] at hroom
      exact Bool.eq_false_iff.mp hroom hstart
    have hnone : s.atoms.filter Atom.isUnit = [] :=
      (plain_eq_empty s).mp (Classical.not_not.mp fun h => Bool.eq_false_iff.mp hg (htext.mpr h))
    have hlength : f.line.fragments.length = 0 + s.atoms.length :=
      Flow.line_absorbAll_controls hstart hnone
    have hsome : s.atoms ≠ [] := by simpa [hall] using hf
    have hpos := List.length_pos_iff.mpr hsome
    exact List.isEmpty_eq_false_iff.mpr (List.length_pos_iff.mp (by omega))
  have hlines := Flow.lines_finish_unstyled hsame hwidth htouched hcontrols
  simp only [htext] at hlines
  rw [wrap, Flow.ofSpan_takesAll, wrap, Flow.ofSpan_takesAll]
  exact hlines

/-- Without its controls a span has the same lines of text and measures the same, but for the empty
line on which controls trail. -/
theorem wrap_unstyled (s : Span) (limit : Size) :
    (s.wrap limit).map Line.text =
        (s.unstyled.wrap limit).map Line.text ++ (if s.Trails limit then [""] else []) ∧
      s.measure limit =
        ⟨(s.unstyled.measure limit).width,
          (s.unstyled.measure limit).height + (if s.Trails limit then 1 else 0)⟩ := by
  have hlines := map_unstyled_wrap s limit
  have htexts : (s.wrap limit).map Line.text =
      (s.unstyled.wrap limit).map Line.text ++ (if s.Trails limit then [""] else []) := by
    rw [← Line.map_text_unstyled, hlines, List.map_append]
    split <;> rfl
  have hwidth : (s.measure limit).width = (s.unstyled.measure limit).width := by
    rw [← widest_wrap, ← widest_wrap, ← Line.widest_map_unstyled, hlines]
    split
    · exact (Line.widest_append ..).trans (Nat.max_zero _)
    · rw [List.append_nil]
  have hheight : (s.measure limit).height =
      (s.unstyled.measure limit).height + (if s.Trails limit then 1 else 0) := by
    have hlength := congrArg List.length hlines
    rw [List.length_map, length_wrap, List.length_append, length_wrap] at hlength
    rw [hlength]
    split <;> rfl
  exact ⟨htexts, by rw [← hwidth, ← hheight]⟩

/-- A colour behind a line end takes a line. -/
theorem wrap_unstyled_trailing :
    ¬∀ (s : Span) (limit : Size), s.measure limit = s.unstyled.measure limit ∧
      (s.wrap limit).map Line.text = (s.unstyled.wrap limit).map Line.text := by
  intro h
  obtain ⟨hsize, -⟩ := h (.container [.content "a\n" 1, .foreground "red"] 1) ⟨5, 5⟩
  exact absurd hsize (by decide +kernel)

end Span

end TextPane
