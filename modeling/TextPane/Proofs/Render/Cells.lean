import TextPane.Proofs.Render.Delivery
import TextPane.Proofs.Terminal.Replay

/-! What rendering shows.

A span of printable text, named and mixed colours and text attributes is shown where it is rendered:
the cells of its rows hold the characters of its lines, the rest of an overwritten row is blank, and all
other cells are what they were. `render_shows` says so of console calls and of escape sequences, from
whatever the screen showed before.

Every such character takes one column (`clusters_printable`), so the width of a line is the number of
its characters. -/
namespace TextPane

/-! ### Printable text -/

namespace Text

theorem breakClass_of_isPrintable {c : Char} (h : isPrintable c) : breakClass c = .other := by
  have hc := toNat_of_isPrintable h
  obtain ⟨_, hfeed, hreturn⟩ := ne_of_isPrintable h
  have hlow : c.toNat < 0x80 := by omega
  have hblank : ¬c < ' ' := fun hlt => absurd (UInt32.lt_iff_toNat_lt.mp hlt) (by
    show ¬c.toNat < 32
    omega)
  have hdelete : c ≠ '\x7f' := by
    rintro rfl
    exact absurd h (by decide)
  simp [breakClass, hlow, asciiBreakClass, hfeed, hreturn, hblank, hdelete]

theorem start_of_isPrintable {c : Char} (h : isPrintable c) : Tail.start c = ⟨.other, .nothing⟩ := by
  simp [Tail.start, breakClass_of_isPrintable h]

/-- Behind a printable character every printable character begins a cluster. -/
theorem clustersFrom_printable {cs : List Char} (h : ∀ c ∈ cs, isPrintable c) :
    clustersFrom ⟨.other, .nothing⟩ cs = ([], cs.map fun c => [c]) := by
  induction cs with
  | nil => rfl
  | cons c rest ih =>
    have hc := h c (List.mem_cons_self ..)
    have hrest := ih fun d hd => h d (List.mem_cons_of_mem c hd)
    simp [clustersFrom, breakClass_of_isPrintable hc, Tail.joins, start_of_isPrintable hc, hrest]

/-- Printable characters are clusters of their own. -/
theorem clusters_printable {cs : List Char} (h : ∀ c ∈ cs, isPrintable c) :
    clusters cs = cs.map fun c => [c] := by
  cases cs with
  | nil => rfl
  | cons c rest =>
    have hrest := clustersFrom_printable fun d hd => h d (List.mem_cons_of_mem c hd)
    simp [clusters, start_of_isPrintable (h c (List.mem_cons_self ..)), hrest]

theorem clusterWidth_printable {c : Char} (h : isPrintable c) : clusterWidth [c] = 1 := by
  have hc := toNat_of_isPrintable h
  obtain ⟨_, hfeed, hreturn⟩ := ne_of_isPrintable h
  have hlow : c.toNat ≤ 0xA0 := by omega
  have hplain : ¬(Ahead.plain.style = some .emoji) := by decide
  simp [clusterWidth, not_isControl_of_isPrintable h, columns, columnsAhead, columnsBefore, hlow, hfeed,
    hreturn, hplain]

theorem charsWidth_printable {cs : List Char} (h : ∀ c ∈ cs, isPrintable c) :
    charsWidth cs = cs.length := by
  have hascii : cs.all isAscii = true := by
    refine List.all_eq_true.mpr fun c hc => decide_eq_true ?_
    have := toNat_of_isPrintable (h c hc)
    omega
  rw [charsWidth, if_pos hascii, asciiWidth, List.countP_eq_length]
  intro c hc
  simp [not_isControl_of_isPrintable (h c hc)]

/-- What is cut off printable text to fit takes as many columns as it has characters. -/
theorem fitClusters_printable {cs : List Char} (h : ∀ c ∈ cs, isPrintable c) (room : Nat) :
    (fitClusters room (clusters cs)).2 = (fitClusters room (clusters cs)).1.length := by
  obtain ⟨leading, hpre, htaken, hused, _⟩ := fitClusters_eq room (clusters cs)
  rw [hused, htaken, List.length_flatten]
  congr 1
  apply List.map_congr_left
  intro cluster hcluster
  have hmem := hpre.subset hcluster
  rw [clusters_printable h] at hmem
  obtain ⟨c, hc, rfl⟩ := List.mem_map.mp hmem
  exact clusterWidth_printable (h c hc)

end Text

/-! ### Spans of printable text -/

/-- Named and mixed colours and the named text attributes. -/
inductive Control.Standard : Control → Prop where
  | named (name : String) (channel : Channel) : Standard (.color (.named name channel))
  | rgb (r g b : Nat) (channel : Channel) : Standard (.color (.rgb r g b channel))
  | style {name : String} {s : StyleControl} (h : StyleControl.named? name = some s) :
    Standard (.style s)

/-- Sequences that select graphic renditions, one behind the other. -/
def Escape.IsRenditions (code : String) : Prop :=
  ∃ renditions : List (List Char), (∀ parameters ∈ renditions, ∀ d ∈ parameters, d.isAlpha = false) ∧
    code.toList = renditions.flatMap fun parameters => Escape.lead.toList ++ parameters ++ ['m']

/-- Colours and text attributes, under whatever name, that select graphic renditions. -/
inductive Control.Graphic : Control → Prop where
  | color {c : ColorControl} (h : Escape.IsRenditions c.code) : Graphic (.color c)
  | style {s : StyleControl} (h : Escape.IsRenditions s.code) : Graphic (.style s)

/-- The text is printable but for line ends, and all controls are colours and text attributes. -/
structure Span.Plain (s : Span) : Prop where
  text : ∀ text, .text text ∈ s.inflows → ∀ c ∈ text.toList,
    c = '\n' ∨ c = '\r' ∨ Text.isPrintable c
  control : ∀ c, .control c ∈ s.inflows → c.Standard

/-- The text is printable but for line ends, and all controls select graphic renditions. -/
structure Span.Tame (s : Span) : Prop where
  text : ∀ text, .text text ∈ s.inflows → ∀ c ∈ text.toList,
    c = '\n' ∨ c = '\r' ∨ Text.isPrintable c
  control : ∀ c, .control c ∈ s.inflows → c.Graphic

/-- A line of printable text with graphic renditions, as wide as it has characters. -/
structure Line.Plain (l : Line) : Prop where
  text : ∀ c ∈ l.text.toList, Text.isPrintable c
  control : ∀ c, .control c ∈ l.marks → c.Graphic
  width : l.width = l.text.toList.length

theorem Escape.rendition_eq (n : Nat) :
    (Escape.rendition n).toList = Escape.lead.toList ++ (toString n).toList ++ ['m'] := by
  simp [Escape.rendition]

/-- Colours and text attributes are graphic renditions. -/
theorem Control.Standard.rendition {c : Control} (h : c.Standard) :
    ∃ parameters : List Char, (∀ d ∈ parameters, d.isAlpha = false) ∧
      c.escape.toList = Escape.lead.toList ++ parameters ++ ['m'] := by
  have hnumber (n : Nat) : ∃ parameters : List Char, (∀ d ∈ parameters, d.isAlpha = false) ∧
      (Escape.rendition n).toList = Escape.lead.toList ++ parameters ++ ['m'] :=
    ⟨_, fun _ hd => Screen.isAlpha_of_mem_digits hd, Escape.rendition_eq n⟩
  cases h with
  | named name channel =>
    simp only [Control.escape, ColorControl.named]
    split
    · exact hnumber _
    · exact hnumber _
  | rgb r g b channel =>
    refine ⟨(toString (38 + Escape.channelOffset channel)).toList ++ [';', '2', ';'] ++
      (toString r).toList ++ [';'] ++ (toString g).toList ++ [';'] ++ (toString b).toList, ?_, ?_⟩
    · have hdigits (n : Nat) : ∀ d ∈ (toString n).toList, d.isAlpha = false :=
        fun _ hd => Screen.isAlpha_of_mem_digits hd
      simp only [List.forall_mem_append]
      have hsemicolon : ∀ d ∈ [';'], d.isAlpha = false := Screen.isAlpha_of_all (by decide)
      have hrgb : ∀ d ∈ [';', '2', ';'], d.isAlpha = false := Screen.isAlpha_of_all (by decide)
      exact ⟨⟨⟨⟨⟨⟨hdigits _, hrgb⟩, hdigits _⟩, hsemicolon⟩, hdigits _⟩, hsemicolon⟩, hdigits _⟩
    · simp [Control.escape, ColorControl.rgb, Escape.rgb]
  | style h =>
    obtain ⟨n, _, rfl⟩ := Option.map_eq_some_iff.mp h
    exact hnumber n

theorem Control.Standard.graphic {c : Control} (h : c.Standard) : c.Graphic := by
  have hrenditions : Escape.IsRenditions c.escape := by
    obtain ⟨parameters, halpha, hescape⟩ := h.rendition
    exact ⟨[parameters], by simpa using halpha, by simpa using hescape⟩
  cases h with
  | named name channel => exact .color hrenditions
  | rgb r g b channel => exact .color hrenditions
  | style h => exact .style hrenditions

/-- Graphic renditions leave the screen alone. -/
theorem Control.Graphic.feedAll_escape {c : Control} (h : c.Graphic) (s : Screen) :
    Screen.feedAll (s, .text) c.escape.toList = (s, .text) := by
  have hall (renditions : List (List Char))
      (halpha : ∀ parameters ∈ renditions, ∀ d ∈ parameters, d.isAlpha = false) :
      Screen.feedAll (s, .text)
        (renditions.flatMap fun parameters => Escape.lead.toList ++ parameters ++ ['m']) =
          (s, .text) := by
    induction renditions with
    | nil => rfl
    | cons parameters rest ih =>
      rw [List.flatMap_cons, Screen.feedAll_append,
        Screen.feedAll_rendition (halpha _ (List.mem_cons_self ..))]
      exact ih fun p hp => halpha p (List.mem_cons_of_mem _ hp)
  have hrenditions : Escape.IsRenditions c.escape := by
    cases h with
    | color h => exact h
    | style h => exact h
  obtain ⟨renditions, halpha, hescape⟩ := hrenditions
  rw [hescape]
  exact hall renditions halpha

theorem Span.Plain.tame {s : Span} (h : s.Plain) : s.Tame :=
  ⟨h.text, fun c hc => (h.control c hc).graphic⟩

theorem Span.tame_content {text : String} (length : Nat)
    (h : text.toList.all Text.isPrintable = true) : (Span.content text length).Tame := by
  refine ⟨fun t ht c hc => ?_, fun c hc => ?_⟩
  · cases List.mem_singleton.mp ht
    exact .inr (.inr (List.all_eq_true.mp h c hc))
  · cases List.mem_singleton.mp hc

theorem Span.tame_control {c : Control} (h : c.Graphic) : (Span.control c).Tame := by
  refine ⟨fun t ht => ?_, fun d hd => ?_⟩
  · cases List.mem_singleton.mp ht
  · cases List.mem_singleton.mp hd
    exact h

/-- A container is tame when all that it holds is. -/
theorem Span.tame_container {children : List Span} (length : Nat) (h : ∀ s ∈ children, s.Tame) :
    (Span.container children length).Tame := by
  have hmem {i : Inflow} (hi : i ∈ Span.inflowsAll children) : ∃ s ∈ children, i ∈ s.inflows := by
    clear h
    induction children with
    | nil => cases hi
    | cons s rest ih =>
      rcases List.mem_append.mp hi with hi | hi
      · exact ⟨s, List.mem_cons_self .., hi⟩
      · obtain ⟨s', hs', hi⟩ := ih hi
        exact ⟨s', List.mem_cons_of_mem s hs', hi⟩
  refine ⟨fun t ht => ?_, fun c hc => ?_⟩
  · obtain ⟨s, hs, ht⟩ := hmem ht
    exact (h s hs).text t ht
  · obtain ⟨s, hs, hc⟩ := hmem hc
    exact (h s hs).control c hc

theorem Line.length_pushText (l : Line) (cs : List Char) (width : Nat) :
    (l.pushText (String.ofList cs) width).text.toList.length = l.text.toList.length + cs.length := by
  simp [toList_text, List.filterMap_map, Function.comp_def, Mark.char?]

/-- Lines of printable text stay as wide as they have characters. -/
theorem Flow.stable_printable (refuses : Nat → Bool) :
    Stable refuses (fun u => u.kind ≠ .newline → ∀ c ∈ u.text, Text.isPrintable c) (fun _ => True)
      (Every fun l => l.width = l.text.toList.length) := by
  have hpush (l : Line) (cs : List Char) (h : l.width = l.text.toList.length) :
      (l.pushText (String.ofList cs) cs.length).width =
        (l.pushText (String.ofList cs) cs.length).text.toList.length := by
    rw [Line.length_pushText]
    unfold Line.pushText
    split
    · next hempty =>
      have hnil : cs = [] := by simpa using hempty
      simp [h, hnil]
    · simp [h]
  refine ⟨?_, ?_, ?_, ?_, fun _ _ _ _ h => h⟩
  · intro f h hfull
    exact Every.breakLine (Q := fun l => l.width = l.text.toList.length) rfl refuses h hfull
  · intro f u h hU hadmits _
    rw [Text.charsWidth_printable (hU hadmits.ne_newline)]
    exact ⟨hpush f.line u.text h.1, h.2⟩
  · intro f u h hU hadmits
    rw [appendCut_eq, Text.fitClusters_printable (hU hadmits.ne_newline)]
    exact ⟨hpush f.line _ h.1, h.2⟩
  · intro f c h _
    have hline : (f.line.pushControl c).text.toList = f.line.text.toList := by
      simp [Line.toList_text, Mark.char?]
    refine ⟨?_, h.2⟩
    show f.line.width = (f.line.pushControl c).text.toList.length
    rw [hline]
    exact h.1

/-- A printable character, or a control that changes colours or attributes. -/
def Mark.Plain : Mark → Prop
  | .char c => Text.isPrintable c = true
  | .control c => c.Graphic

/-- The lines of a tame span are plain. -/
theorem Span.Tame.plain_of_mem_wrap {s : Span} (h : s.Tame) {limit : Size} {l : Line}
    (hl : l ∈ s.wrap limit) : l.Plain := by
  have hmarks := mem_marks_wrap (M := Mark.Plain)
    (fun text htext c hc hn hr => ((h.text text htext c hc).resolve_left hn).resolve_left hr)
    h.control hl
  have hwidth := ofSpan_of_stable (Flow.stable_printable _) limit s
    ⟨rfl, fun o ho => absurd ho List.not_mem_nil⟩
    (fun text htext u hu hk c hc => by
      obtain ⟨hn, hr⟩ := WrapUnit.not_lineEnd_of_mem hu hk hc
      exact ((h.text text htext c (WrapUnit.mem_of_mem_ofChars hu hc)).resolve_left hn).resolve_left hr)
    (fun _ _ => trivial)
  exact ⟨fun c hc => hmarks _ (Line.mem_text.mp hc), fun c hc => hmarks _ hc, hwidth.lines l hl⟩

/-- The lines of a plain span are plain. -/
theorem Span.plain_of_mem_wrap {s : Span} (h : s.Plain) {limit : Size} {l : Line}
    (hl : l ∈ s.wrap limit) : l.Plain := h.tame.plain_of_mem_wrap hl

/-! ### One row -/

/-- The cell in a column of a row that shows a line, where it was `old` before. -/
def Line.cell (region : Region) (l : Line) (column : Nat) (old : Cell) : Cell :=
  if column < region.left then old
  else match l.text.toList[column - region.left]? with
    | some c => .glyph c
    | none => if region.overwrite ∧ column < region.left + region.width then .blank else old

/-- The cell in a column of a row, where the rows from `top` on show lines and it was `old` before. -/
def Region.cell (region : Region) (top : Nat) (lines : List Line) (row column : Nat) (old : Cell) :
    Cell :=
  if row < top then old
  else match lines[row - top]? with
    | some l => l.cell region column old
    | none => old

namespace Line

/-- The characters that a line takes up in a region. -/
def rowText (region : Region) (l : Line) : List Char :=
  l.text.toList ++ List.replicate (Print.padding region l) ' '

theorem Plain.rowText {region : Region} {l : Line} (h : l.Plain) :
    ∀ c ∈ l.rowText region, Text.isPrintable c := by
  intro c hc
  rcases List.mem_append.mp hc with hc | hc
  · exact h.text c hc
  · rw [List.eq_of_mem_replicate hc]
    rfl

/-- Writing a line with its blanks at the left of a region shows it. -/
theorem Plain.cell?_print {region : Region} {l : Line} (h : l.Plain) (s : Screen)
    (top row column : Nat) :
    ((s.moveTo region.left top).print (l.rowText region)).cell? row column =
      (s.cell? row column).map fun old =>
        if row = top then l.cell region column old else old := by
  rw [Screen.cell?_print h.rowText]
  show (s.cell? row column).map _ = _
  congr 1
  funext old
  show (if row = top ∧ region.left ≤ column then
    ((l.rowText region)[column - region.left]?.map Cell.glyph).getD old else old) = _
  by_cases hrow : row = top
  · simp only [hrow, true_and, if_true, cell]
    by_cases hleft : column < region.left
    · simp [hleft, Nat.not_le.mpr hleft]
    · simp only [hleft, Nat.not_lt.mp hleft, if_true, if_false, Line.rowText, List.getElem?_append,
        List.getElem?_replicate, Print.padding, h.width]
      by_cases htext : column - region.left < l.text.toList.length
      · simp only [htext, if_true, List.getElem?_eq_getElem, Option.map_some, Option.getD_some]
      · simp only [htext, if_false, List.getElem?_eq_none (Nat.not_lt.mp htext)]
        have hiff : column - region.left - l.text.toList.length <
            region.width - l.text.toList.length ↔ column < region.left + region.width := by omega
        cases region.overwrite
        · simp
        · by_cases hwidth : column < region.left + region.width
          · simp only [if_true, hiff, hwidth, and_self]
            rfl
          · simp only [if_true, hiff, hwidth, and_false, if_false]
            rfl
  · simp [hrow]

end Line

/-! ### Rendering -/

namespace Line
variable (fs : List Fragment)

theorem toList_text_cons_text (s : String) :
    (text { fragments := .text s :: fs }).toList = s.toList ++ (text { fragments := fs }).toList := by
  simp [text, String.toList_join]

theorem toList_text_cons_control (c : Control) :
    (text { fragments := .control c :: fs }).toList = (text { fragments := fs }).toList := by
  simp [text, String.toList_join]

theorem toList_encoded_cons_text (s : String) :
    (encoded { fragments := .text s :: fs }).toList =
      s.toList ++ (encoded { fragments := fs }).toList := by
  simp [encoded, String.toList_join]

theorem toList_encoded_cons_control (c : Control) :
    (encoded { fragments := .control c :: fs }).toList =
      c.escape.toList ++ (encoded { fragments := fs }).toList := by
  simp [encoded, String.toList_join]

end Line

namespace Print
open Screen (feedAll)

/-- In escape sequences fragments write their text. -/
theorem feedAll_fragments {fs : List Fragment}
    (htext : ∀ c, .char c ∈ fs.flatMap Fragment.marks → Text.isPrintable c)
    (hcontrol : ∀ c, .control c ∈ fs.flatMap Fragment.marks → c.Graphic) (s : Screen) :
    feedAll (s, .text) (Line.encoded { fragments := fs }).toList =
      (s.print (Line.text { fragments := fs }).toList, .text) := by
  induction fs generalizing s with
  | nil => rfl
  | cons f rest ih =>
    have hrest (s : Screen) := ih (fun c hc => htext c (List.mem_append_right _ hc))
      (fun c hc => hcontrol c (List.mem_append_right _ hc)) s
    cases f with
    | text t =>
      have ht : ∀ c ∈ t.toList, Text.isPrintable c := fun c hc =>
        htext c (List.mem_append_left _ (List.mem_map.mpr ⟨c, hc, rfl⟩))
      rw [Line.toList_encoded_cons_text, Line.toList_text_cons_text, Screen.feedAll_append,
        Screen.print_append, ← hrest, Screen.feedAll_print ht]
    | control c =>
      have hgraphic := hcontrol c (List.mem_append_left _ (List.mem_singleton.mpr rfl))
      rw [Line.toList_encoded_cons_control, Line.toList_text_cons_control, Screen.feedAll_append,
        hgraphic.feedAll_escape]
      exact hrest s

/-- By console calls fragments write their text. -/
theorem replayAll_fragments {fs : List Fragment}
    (htext : ∀ c, .char c ∈ fs.flatMap Fragment.marks → Text.isPrintable c) (k : Colors)
    (s : Screen) :
    s.replayAll (fragmentsCalls k fs) = s.print (Line.text { fragments := fs }).toList := by
  induction fs generalizing k s with
  | nil => rfl
  | cons f rest ih =>
    have hrest := ih (fun c hc => htext c (List.mem_append_right _ hc))
      (k.afterAll (fragmentCalls k f))
    rw [fragmentsCalls, Screen.replayAll_append, hrest]
    cases f with
    | text t =>
      have ht : ∀ c ∈ t.toList, Text.isPrintable c := fun c hc =>
        htext c (List.mem_append_left _ (List.mem_map.mpr ⟨c, hc, rfl⟩))
      have hprinted : s.replayAll (fragmentCalls k (.text t)) = s.print t.toList :=
        congrArg Prod.fst (Screen.feedAll_print ht s)
      rw [hprinted, Line.toList_text_cons_text, Screen.print_append]
    | control c =>
      rw [Line.toList_text_cons_control]
      congr 1
      cases c with
      | color c =>
        obtain ⟨foreground, background⟩ := k
        simp only [fragmentCalls, colorCalls]
        split <;> cases foreground <;> cases background <;> rfl
      | _ => rfl

/-- Printing a plain line writes it at the left of its row. -/
theorem replayAll_lineCalls {mode : Mode} (hmode : mode ≠ .file) {region : Region} {l : Line}
    (h : l.Plain) (hleft : region.left < cellLimit) (k : Colors) (index : Nat) (s : Screen) :
    s.replayAll (lineCalls mode region k index l) =
      (s.moveTo region.left (row region index)).print (l.rowText region) := by
  have htext : ∀ c, .char c ∈ l.marks → Text.isPrintable c := fun c hc =>
    h.text c (Line.mem_text.mpr hc)
  have hblanks : ∀ c ∈ (l.blanks region).toList, Text.isPrintable c := fun c hc =>
    h.rowText c (List.mem_append_right _ (by simpa [Line.blanks, Command.blanks] using hc))
  have hrowText : l.rowText region = l.text.toList ++ (l.blanks region).toList := by
    simp [Line.rowText, Line.blanks, Command.blanks]
  have hescape : (s.feed (escapeText region index l)) =
      (s.moveTo region.left (row region index)).print (l.rowText region) := by
    have hlimit : cellLimit + 1 < Text.wordLimit := by decide
    have hrow : row region index ≤ cellLimit := Nat.min_le_right ..
    have hencoded (s : Screen) : feedAll (s, .text) l.encoded.toList = (s.print l.text.toList, .text) :=
      feedAll_fragments htext h.control s
    rw [escapeText_eq, Screen.feed_eq, String.toList_append, String.toList_append,
      Screen.feedAll_append, Screen.feedAll_append, Screen.feedAll_moveTo (by omega) (by omega),
      hencoded, Screen.feedAll_print hblanks, hrowText, Screen.print_append]
    rfl
  cases mode with
  | file => exact absurd rfl hmode
  | console =>
    rw [lineCalls, List.cons_append]
    show (s.moveTo region.left (row region index)).replayAll _ = _
    rw [Screen.replayAll_append, replayAll_fragments htext, hrowText, Screen.print_append, paddingCalls]
    split
    · exact congrArg Prod.fst (Screen.feedAll_print hblanks _)
    · next hnone =>
      rw [Line.blanks, Nat.eq_zero_of_not_pos hnone]
      rfl
  | ansi => exact hescape
  | auto => exact hescape

/-- Printing plain lines shows them on consecutive rows. -/
theorem cell?_linesCalls {mode : Mode} (hmode : mode ≠ .file) {region : Region}
    (hleft : region.left < cellLimit) {lines : List Line} (h : ∀ l ∈ lines, l.Plain) (k : Colors)
    (index : Nat) (hrows : region.top + index + lines.length ≤ cellLimit) (s : Screen)
    (row column : Nat) :
    (s.replayAll (linesCalls mode region k index lines)).cell? row column =
      (s.cell? row column).map (region.cell (region.top + index) lines row column) := by
  induction lines generalizing k index s with
  | nil =>
    have hnone : region.cell (region.top + index) [] row column = id := by
      funext old
      simp [Region.cell]
    rw [hnone, Option.map_id]
    rfl
  | cons l rest ih =>
    rw [List.length_cons] at hrows
    have hl := h l (List.mem_cons_self ..)
    have hrest := ih (fun m hm => h m (List.mem_cons_of_mem l hm))
      (k.afterAll (lineCalls mode region k index l)) (index + 1) (by omega)
      (s.replayAll (lineCalls mode region k index l))
    rw [linesCalls, Screen.replayAll_append, hrest, replayAll_lineCalls hmode hl hleft,
      hl.cell?_print, row_eq (by omega), Option.map_map]
    congr 1
    funext old
    simp only [Function.comp_apply, Region.cell]
    by_cases hrow : row < region.top + index
    · have h1 : row < region.top + (index + 1) := by omega
      have h2 : row ≠ region.top + index := by omega
      simp [hrow, h1, h2]
    · by_cases hat : row = region.top + index
      · have h1 : region.top + index < region.top + (index + 1) := by omega
        simp [hat, h1]
      · have h1 : ¬row < region.top + (index + 1) := by omega
        have h2 : row - (region.top + index) = row - (region.top + (index + 1)) + 1 := by omega
        simp [hrow, hat, h1, h2]

end Print

namespace Renderer

/-- Undoing colours and attributes leaves the screen alone. -/
theorem replayAll_undoCalls (mode : Mode) (s : Screen) : s.replayAll (undoCalls mode) = s := by
  have hoff : s.feed Escape.attributesOff = s := by
    have halpha : ∀ c ∈ (toString 0).toList, c.isAlpha = false :=
      Screen.isAlpha_of_all (by decide)
    have hrendition := Screen.feedAll_rendition halpha s
    rw [← Escape.rendition_eq] at hrendition
    rw [Screen.feed_eq, Escape.attributesOff, hrendition]
  cases mode with
  | file => rfl
  | console => rfl
  | ansi => exact hoff
  | auto => exact hoff

/-- **Rendering shows the lines.** After a rendering that did not fail the cells of the region show the
lines of the span, with blanks behind them where the region is overwritten, and every other cell of the
screen is what it was. -/
theorem render_shows (r : Renderer) (s : Span) (region : Region) (t : Terminal) (hplain : s.Plain)
    (hmode : r.mode ≠ .file) (hleft : region.left < cellLimit)
    (hheight : region.top + region.height ≤ cellLimit)
    (hok : (r.render s region t).1 = .ok ()) (row column : Nat) :
    (r.render s region t).2.screen.cell? row column =
      (t.screen.cell? row column).map
        (region.cell region.top (s.wrap region.size) row column) := by
  have hlines : (s.wrap region.size).length ≤ region.height := s.length_wrap_le region.size
  have hall : ∀ l ∈ s.wrap region.size, l.Plain := fun _ hl => Span.plain_of_mem_wrap hplain hl
  rw [render_eq_makeAll] at hok ⊢
  rw [Terminal.eq_after_of_makeAll hok, Terminal.screen_after, renderCalls]
  split
  · next hempty =>
    have hnone : region.cell region.top (s.wrap region.size) row column = id := by
      funext old
      simp [Region.cell, s.wrap_of_isEmpty hempty]
    rw [hnone, Option.map_id]
    rfl
  · have hundo (b : Bool) (screen : Screen) :
        screen.replayAll (if b then undoCalls r.mode else []) = screen := by
      cases b
      · rfl
      · exact replayAll_undoCalls r.mode screen
    have hrows := Print.cell?_linesCalls hmode hleft hall t.colors 0 (by omega) t.screen row column
    rw [Screen.replayAll_append, hundo, hrows]
    rfl

/-- Two words in a region of four columns, over a row of dots. -/
theorem render_shows_words :
    let s : Span := .container [.content "ab " 3, .foreground "red", .content "cd" 2] 5
    let region : Region := { left := 1, top := 1, width := 4, height := 2 }
    let t : Terminal := { size := ⟨6, 4⟩, calls := #[.write "\n......"] }
    let r : Renderer := { mode := .ansi }
    s.Plain ∧ (r.render s region t).1 = .ok () ∧
      (∀ row column, (r.render s region t).2.screen.cell? row column =
        (t.screen.cell? row column).map
          (region.cell region.top (s.wrap region.size) row column)) ∧
      (r.render s region t).2.screen.lines = ["", ".ab  .", " cd", ""] := by
  intro s region t r
  have hplain : s.Plain := by
    refine ⟨fun text htext => ?_, fun c hc => ?_⟩
    · simp only [s, Span.inflows, Span.inflowsAll, Span.foreground, List.append_nil,
        List.cons_append, List.nil_append, List.mem_cons, Inflow.text.injEq, reduceCtorEq, false_or,
        List.not_mem_nil, or_false] at htext
      have hfirst : "ab ".toList.all Text.isPrintable = true := by decide
      have hsecond : "cd".toList.all Text.isPrintable = true := by decide
      rcases htext with rfl | rfl
      · exact fun c hc => .inr (.inr (List.all_eq_true.mp hfirst c hc))
      · exact fun c hc => .inr (.inr (List.all_eq_true.mp hsecond c hc))
    · simp only [s, Span.inflows, Span.inflowsAll, Span.foreground, List.append_nil,
        List.cons_append, List.nil_append, List.mem_cons, Inflow.control.injEq, reduceCtorEq, false_or,
        List.not_mem_nil, or_false] at hc
      rw [hc]
      exact .named "red" .foreground
  have hok : (r.render s region t).1 = .ok () := by
    rw [render_eq_makeAll, Terminal.makeAll_of_spares _ fun _ _ => rfl]
  exact ⟨hplain, hok,
    render_shows r s region t hplain (by decide) (by decide) (by decide) hok, by decide +kernel⟩

end Renderer

end TextPane
