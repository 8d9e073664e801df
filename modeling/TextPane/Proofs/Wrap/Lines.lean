import TextPane.Proofs.Wrap.Inflow
import TextPane.Proofs.Wrap.Unit

/-! The lines of a flow.

A line is a row of marks: characters with controls in between. What a flow counts is what it hands
over: its size is the number of lines taken and the widest of them (`counted_ofSpan`). No line is wider
than the bounds and none holds a line end, and there are no more lines than the bounds are high. -/
namespace TextPane

/-! ### Marks -/

/-- A character or a control of a line. -/
inductive Mark where
  | char (c : Char)
  | control (c : Control)
deriving DecidableEq, Repr

def Mark.char? : Mark → Option Char
  | .char c => some c
  | .control _ => none

def Fragment.marks : Fragment → List Mark
  | .text s => s.toList.map .char
  | .control c => [.control c]

namespace Line

def marks (line : Line) : List Mark := line.fragments.flatMap Fragment.marks

theorem marks_appendText (s : String) (fs : List Fragment) :
    (appendText s fs).flatMap Fragment.marks = fs.flatMap Fragment.marks ++ s.toList.map .char := by
  fun_induction appendText s fs with
  | case1 => simp [Fragment.marks]
  | case2 t => simp [Fragment.marks]
  | case3 f rest _ ih => simp only [List.flatMap_cons, ih, List.append_assoc]

@[simp] theorem marks_pushText (line : Line) (s : String) (width : Nat) :
    (line.pushText s width).marks = line.marks ++ s.toList.map .char := by
  unfold pushText
  split
  · next h => simp [String.isEmpty_iff.mp h]
  · exact marks_appendText s line.fragments

@[simp] theorem marks_pushControl (line : Line) (c : Control) :
    (line.pushControl c).marks = line.marks ++ [.control c] := by
  simp [marks, pushControl, Fragment.marks]

@[simp] theorem marks_empty : ({} : Line).marks = [] := rfl

/-- The text of a line is its marks without the controls. -/
theorem toList_text (line : Line) : line.text.toList = line.marks.filterMap Mark.char? := by
  unfold text marks
  rw [String.toList_join, List.flatMap_map, List.filterMap_flatMap]
  congr 1
  funext f
  cases f <;> simp [Fragment.marks, Mark.char?, List.filterMap_map, Function.comp_def]

theorem mem_text {line : Line} {c : Char} : c ∈ line.text.toList ↔ .char c ∈ line.marks := by
  rw [toList_text, List.mem_filterMap]
  constructor
  · rintro ⟨m, hm, hc⟩
    cases m <;> simp_all [Mark.char?]
  · exact fun h => ⟨_, h, rfl⟩

theorem width_pushText_le (line : Line) (s : String) (width : Nat) :
    (line.pushText s width).width ≤ line.width + width := by
  unfold pushText
  split
  · exact Nat.le_add_right ..
  · exact Nat.le_refl _

/-- The widest of the lines. -/
def widest (lines : List Line) : Nat := (lines.map width).foldl max 0

theorem widest_append (lines : List Line) (line : Line) :
    widest (lines ++ [line]) = max (widest lines) line.width := by
  simp [widest]

theorem widest_le {lines : List Line} {limit : Nat} (h : ∀ l ∈ lines, l.width ≤ limit) :
    widest lines ≤ limit := by
  suffices hfold : ∀ start ≤ limit, (lines.map width).foldl max start ≤ limit from hfold 0 (Nat.zero_le _)
  induction lines with
  | nil => exact fun _ hstart => hstart
  | cons l rest ih =>
    intro start hstart
    exact ih (fun k hk => h k (List.mem_cons_of_mem l hk)) _
      (Nat.max_le.mpr ⟨hstart, h l (List.mem_cons_self ..)⟩)

end Line

namespace Text

/-- What is cut off a text to fit is made of its leading clusters, and it fits. -/
theorem fitClusters_eq (room : Nat) (clusters : List (List Char)) :
    ∃ leading, leading <+: clusters ∧ (fitClusters room clusters).1 = leading.flatten ∧
      (fitClusters room clusters).2 = (leading.map clusterWidth).sum ∧
      (fitClusters room clusters).2 ≤ room := by
  induction clusters generalizing room with
  | nil => exact ⟨[], List.prefix_rfl, rfl, rfl, Nat.zero_le _⟩
  | cons cluster rest ih =>
    unfold fitClusters
    simp only
    split
    · next hfits =>
      obtain ⟨leading, hpre, htaken, hused, hle⟩ := ih (room - clusterWidth cluster)
      refine ⟨cluster :: leading, List.cons_prefix_cons.mpr ⟨rfl, hpre⟩, by simp [htaken],
        by simp [hused], ?_⟩
      simp only
      omega
    · exact ⟨[], List.nil_prefix, rfl, rfl, Nat.zero_le _⟩

theorem flatten_clustersFrom (t : Tail) (cs : List Char) :
    (clustersFrom t cs).1 ++ (clustersFrom t cs).2.flatten = cs := by
  fun_induction clustersFrom t cs with
  | case1 => rfl
  | case2 t c cs _ rest later hrest ih => rw [hrest] at ih; simpa using ih
  | case3 t c cs _ rest later hrest ih => rw [hrest] at ih; simpa using ih

/-- The clusters of a text put together are the text. -/
theorem flatten_clusters (cs : List Char) : (clusters cs).flatten = cs := by
  cases cs with
  | nil => rfl
  | cons c cs => simpa [clusters] using flatten_clustersFrom (Tail.start c) cs

/-- Whole leading clusters of a text are the beginning of it. -/
theorem flatten_prefix {cs : List Char} {leading : List (List Char)} (h : leading <+: clusters cs) :
    leading.flatten <+: cs := by
  obtain ⟨later, hlater⟩ := h
  exact ⟨later.flatten, by rw [← List.flatten_append, hlater, flatten_clusters]⟩

end Text

namespace Flow

/-! ### Counting -/

theorem lines_cons (f : Flow) (o : Offer) (offers : List Offer) (h : f.offers = o :: offers) :
    f.lines = (offers.filter (·.taken)).reverse.map (·.line) ++ if o.taken then [o.line] else [] := by
  cases ho : o.taken <;> simp [lines, h, ho]

/-- What a flow counts is what was taken of it. It is full when there is no room for another line. -/
structure Counted (limit : Size) (f : Flow) : Prop where
  bounds : f.bounds = limit
  count : f.count = f.lines.length
  widest : f.widest = Line.widest f.lines
  full : f.full = (limit.isEmpty || decide (limit.height ≤ f.count))
  height : f.count ≤ limit.height
  empty : limit.isEmpty = true → f.offers = []

theorem counted_start (limit : Size) : Counted limit (start limit) where
  bounds := rfl
  count := rfl
  widest := rfl
  full := by
    obtain ⟨width, height⟩ := limit
    simp only [start, Size.isEmpty]
    cases width <;> cases height <;> rfl
  height := Nat.zero_le _
  empty := fun _ => rfl

theorem counted_breakLine (refuses : Nat → Bool) {limit : Size} {f : Flow} (h : Counted limit f)
    (hfull : f.full = false) : Counted limit (f.breakLine refuses).1 := by
  have hroom : limit.isEmpty = false ∧ f.count < limit.height := by simpa [h.full] using hfull
  have hempty (offers : List Offer) (he : limit.isEmpty = true) : offers = [] := by
    simp [hroom.1] at he
  cases hr : refuses f.offers.length
  · rw [breakLine_taken refuses f hfull hr]
    refine ⟨h.bounds, ?_, ?_, ?_, hroom.2, hempty _⟩
    · rw [lines_cons _ _ _ rfl]
      simpa [lines] using h.count
    · rw [lines_cons _ _ _ rfl]
      simpa [Line.widest_append, lines] using congrArg (max · f.line.width) h.widest
    · simp [h.bounds, hroom.1]
  · rw [breakLine_refused refuses f hfull hr]
    refine ⟨h.bounds, ?_, ?_, h.full, h.height, hempty _⟩
    · rw [lines_cons _ _ _ rfl]
      simpa [lines] using h.count
    · rw [lines_cons _ _ _ rfl]
      simpa [lines] using h.widest

theorem stable_counted (refuses : Nat → Bool) (limit : Size) :
    Stable refuses (fun _ => True) (fun _ => True) (Counted limit) where
  breakLine _ h hfull := counted_breakLine refuses h hfull
  append _ _ h _ _ _ := { h with }
  appendCut _ _ h _ _ := { h with }
  control _ _ h _ := { h with }
  flags _ _ _ _ h := { h with }

/-! ### What every line is like -/

/-- The line being filled and all lines offered are as `Q` says. -/
def Every (Q : Line → Prop) (f : Flow) : Prop := Q f.line ∧ ∀ o ∈ f.offers, Q o.line

theorem Every.breakLine {Q : Line → Prop} (hQ : Q {}) (refuses : Nat → Bool) {f : Flow}
    (h : Every Q f) (hfull : f.full = false) : Every Q (f.breakLine refuses).1 := by
  have hoffers (o : Offer) (ho : o.line = f.line) : ∀ p ∈ o :: f.offers, Q p.line := by
    intro p hp
    rcases List.mem_cons.mp hp with rfl | hp
    · rw [ho]
      exact h.1
    · exact h.2 p hp
  cases hr : refuses f.offers.length
  · rw [breakLine_taken refuses f hfull hr]
    exact ⟨hQ, hoffers _ rfl⟩
  · rw [breakLine_refused refuses f hfull hr]
    exact ⟨hQ, hoffers _ rfl⟩

theorem Every.lines {Q : Line → Prop} {f : Flow} (h : Every Q f) : ∀ l ∈ f.lines, Q l := by
  intro l hl
  obtain ⟨o, ho, rfl⟩ := List.mem_map.mp hl
  exact h.2 o (List.mem_filter.mp (List.mem_reverse.mp ho)).1

theorem appendCut_eq (f : Flow) (text : List Char) :
    f.appendCut text =
      { f with
        line := f.line.pushText (String.ofList (Text.fitClusters f.room (Text.clusters text)).1)
          (Text.fitClusters f.room (Text.clusters text)).2
        cut := true } := rfl

/-- Lines hold nothing but what flows in. -/
theorem stable_marks (refuses : Nat → Bool) (M : Mark → Prop) :
    Stable refuses (fun u => u.kind ≠ .newline → ∀ c ∈ u.text, M (.char c)) (fun c => M (.control c))
      (Every fun l => ∀ m ∈ l.marks, M m) := by
  have happend (f : Flow) (cs : List Char) (width : Nat) (h : ∀ m ∈ f.line.marks, M m)
      (hcs : ∀ c ∈ cs, M (.char c)) :
      ∀ m ∈ (f.line.pushText (String.ofList cs) width).marks, M m := by
    intro m hm
    rw [Line.marks_pushText, String.toList_ofList] at hm
    rcases List.mem_append.mp hm with hm | hm
    · exact h m hm
    · obtain ⟨c, hc, rfl⟩ := List.mem_map.mp hm
      exact hcs c hc
  refine ⟨fun f h hfull => h.breakLine (by simp) refuses hfull, ?_, ?_, ?_, fun _ _ _ _ h => h⟩
  · intro f u h hU hadmits _
    exact ⟨happend f u.text _ h.1 (hU hadmits.ne_newline), h.2⟩
  · intro f u h hU hadmits
    obtain ⟨leading, hpre, htaken, _⟩ := Text.fitClusters_eq f.room (Text.clusters u.text)
    have hkept : ∀ c ∈ leading.flatten, M (.char c) := fun c hc =>
      hU hadmits.ne_newline c ((Text.flatten_prefix hpre).subset hc)
    rw [appendCut_eq, htaken]
    exact ⟨happend f _ _ h.1 hkept, h.2⟩
  · intro f c h hK
    refine ⟨fun m hm => ?_, h.2⟩
    rw [Line.marks_pushControl] at hm
    rcases List.mem_append.mp hm with hm | hm
    · exact h.1 m hm
    · rw [List.mem_singleton.mp hm]
      exact hK

/-- No line gets wider than the bounds. -/
theorem stable_width (refuses : Nat → Bool) (limit : Size) :
    Stable refuses (fun _ => True) (fun _ => True)
      (fun f => f.bounds = limit ∧ Every (·.width ≤ limit.width) f) := by
  have happend (f : Flow) (s : String) (width : Nat) (hb : f.bounds = limit)
      (h : f.line.width ≤ limit.width) (hw : width ≤ f.room) :
      (f.line.pushText s width).width ≤ limit.width := by
    have hle := Line.width_pushText_le f.line s width
    unfold room at hw
    rw [hb] at hw
    omega
  refine ⟨fun f h hfull => ?_, ?_, ?_, fun _ _ h _ => h, fun _ _ _ _ h => h⟩
  · exact ⟨by rw [breakLine_bounds, h.1], h.2.breakLine (Nat.zero_le _) refuses hfull⟩
  · intro f u h _ _ hw
    exact ⟨h.1, happend f _ _ h.1 h.2.1 hw, h.2.2⟩
  · intro f u h _ _
    obtain ⟨_, _, _, _, hle⟩ := Text.fitClusters_eq f.room (Text.clusters u.text)
    rw [appendCut_eq]
    exact ⟨h.1, happend f _ _ h.1 h.2.1 hle, h.2.2⟩

end Flow

/-! ### The lines of a span -/

namespace Span

/-- What holds of a flow into which nothing has flowed and is kept by all moves holds at the end of
a span. -/
theorem ofSpan_of_stable {U : WrapUnit → Prop} {K : Control → Prop} {P : Flow → Prop}
    (hP : Flow.Stable Flow.takesAll U K P) (limit : Size) (s : Span) (h : P (Flow.start limit))
    (hU : ∀ text, .text text ∈ s.inflows → ∀ u ∈ WrapUnit.ofChars text.toList, U u)
    (hK : ∀ c, .control c ∈ s.inflows → K c) : P (Flow.ofSpan limit s) := by
  rw [Flow.ofSpan_eq]
  exact hP.finish _ (hP.pour s.inflows hU hK _ h)

theorem counted_ofSpan (limit : Size) (s : Span) : Flow.Counted limit (Flow.ofSpan limit s) :=
  ofSpan_of_stable (Flow.stable_counted _ limit) limit s (Flow.counted_start limit)
    (fun _ _ _ _ => trivial) (fun _ _ => trivial)

/-- A span measures as many rows as it has lines. -/
theorem length_wrap (s : Span) (limit : Size) : (s.wrap limit).length = (s.measure limit).height :=
  (counted_ofSpan limit s).count.symm

/-- A span measures as many columns as the widest of its lines. -/
theorem widest_wrap (s : Span) (limit : Size) :
    Line.widest (s.wrap limit) = (s.measure limit).width :=
  (counted_ofSpan limit s).widest.symm

theorem length_wrap_le (s : Span) (limit : Size) : (s.wrap limit).length ≤ limit.height := by
  rw [length_wrap]
  exact (counted_ofSpan limit s).height

theorem wrap_of_isEmpty (s : Span) {limit : Size} (h : limit.isEmpty = true) : s.wrap limit = [] := by
  simp [wrap, Flow.lines, (counted_ofSpan limit s).empty h]

theorem width_le_of_mem_wrap {s : Span} {limit : Size} {l : Line} (hl : l ∈ s.wrap limit) :
    l.width ≤ limit.width := by
  have h := ofSpan_of_stable (Flow.stable_width _ limit) limit s
    ⟨rfl, Nat.zero_le _, fun o ho => absurd ho (List.not_mem_nil)⟩ (fun _ _ _ _ => trivial)
    (fun _ _ => trivial)
  exact h.2.lines l hl

/-- The marks of a line are characters other than line ends, and controls of the span. -/
theorem mem_marks_wrap {s : Span} {limit : Size} {M : Mark → Prop}
    (hchar : ∀ text, .text text ∈ s.inflows → ∀ c ∈ text.toList, c ≠ '\n' → c ≠ '\r' → M (.char c))
    (hcontrol : ∀ c, .control c ∈ s.inflows → M (.control c)) {l : Line} (hl : l ∈ s.wrap limit) :
    ∀ m ∈ l.marks, M m := by
  have h := ofSpan_of_stable (Flow.stable_marks _ M) limit s
    ⟨by simp [Flow.start], fun o ho => absurd ho (List.not_mem_nil)⟩
    (fun text htext u hu hk c hc => by
      obtain ⟨hn, hr⟩ := WrapUnit.not_lineEnd_of_mem hu hk hc
      exact hchar text htext c (WrapUnit.mem_of_mem_ofChars hu hc) hn hr)
    hcontrol
  exact h.lines l hl

/-- No line of a span holds a line end. -/
theorem not_lineEnd_of_mem_wrap {s : Span} {limit : Size} {l : Line} (hl : l ∈ s.wrap limit) :
    '\n' ∉ l.text.toList ∧ '\r' ∉ l.text.toList := by
  have h := mem_marks_wrap (M := fun m => m ≠ .char '\n' ∧ m ≠ .char '\r')
    (fun text _ c _ hn hr => by simp [hn, hr]) (fun c _ => by simp) hl
  constructor <;> intro hc
  · exact (h _ (Line.mem_text.mp hc)).1 rfl
  · exact (h _ (Line.mem_text.mp hc)).2 rfl

end Span

end TextPane
