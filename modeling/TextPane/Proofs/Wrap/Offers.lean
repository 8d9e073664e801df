import TextPane.Proofs.Wrap.Styling

/-! What a receiver is offered.

A flow may be used in any order: texts and controls flow in, also after a line was refused, and the last
line may be asked for more than once. Whatever the receiver answers, the lines that it is offered are no
wider than the bounds, hold no line end and open with no blank; they are numbered in turn, a refused
number being offered again; and the flow counts the lines that were taken and the widest of them
(`offers_useAll`). -/
namespace TextPane

/-! ### Lines that open with no blank -/

/-- Whether the text of a line opens with a blank. -/
def Line.opensBlank (l : Line) : Bool := l.text.toList.head?.any Text.isBlank

/-- A text behind some text does not change how a line opens. -/
theorem Line.opensBlank_pushText {l : Line} (s : String) (width : Nat) (h : l.text ≠ "") :
    (l.pushText s width).opensBlank = l.opensBlank := by
  obtain ⟨c, rest, htext⟩ := List.exists_cons_of_ne_nil (mt String.toList_eq_nil_iff.mp h)
  rw [opensBlank, opensBlank, text_pushText, String.toList_append, htext]
  rfl

namespace Flow

/-- All characters of a unit are of its sort. -/
def Uniform (u : WrapUnit) : Prop := ∀ c ∈ u.text, WrapUnit.kindOf c = u.kind

/-- Some of a word opens a line with no blank. -/
theorem opensBlank_put_word {l : Line} {u : WrapUnit} (hU : Uniform u) (hkind : u.kind = .word)
    {cs : List Char} (hcs : ∀ c ∈ cs, c ∈ u.text) (width : Nat) (h : l.opensBlank = false) :
    (l.pushText (String.ofList cs) width).opensBlank = false := by
  by_cases htext : l.text = ""
  · rw [Line.opensBlank, Line.text_pushText, htext, String.empty_append, String.toList_ofList]
    cases cs with
    | nil => rfl
    | cons c rest => exact WrapUnit.kindOf_eq_word_iff.mp ((hU c (hcs c (List.mem_cons_self ..))).trans hkind)
  · rw [Line.opensBlank_pushText _ _ htext, h]

/-- Lines open with no blank: blanks only go behind text that takes columns. -/
theorem stable_opens (refuses : Nat → Bool) :
    Stable refuses Uniform (fun _ => True) fun f =>
      (f.line.text = "" → f.line.width = 0) ∧ Every (fun l => l.opensBlank = false) f := by
  have htextless := stable_textless refuses
  have hput (f : Flow) (u : WrapUnit) (cs : List Char) (width : Nat)
      (h : (f.line.text = "" → f.line.width = 0) ∧ f.line.opensBlank = false) (hU : Uniform u)
      (hadmits : f.Admits u) (hcs : ∀ c ∈ cs, c ∈ u.text) :
      (f.line.pushText (String.ofList cs) width).opensBlank = false := by
    rcases hadmits with hword | ⟨-, hwidth⟩
    · exact opensBlank_put_word hU hword hcs width h.2
    · rw [Line.opensBlank_pushText _ _ (mt h.1 hwidth), h.2]
  refine ⟨fun f h hfull => ?_, fun f u h hU hadmits hfits => ?_, fun f u h hU hadmits => ?_,
    fun f c h hK => ?_, fun _ _ _ _ h => h⟩
  · have hbroken := Every.breakLine (Q := fun l => l.opensBlank = false) rfl refuses h.2 hfull
    exact ⟨htextless.breakLine f h.1 hfull, hbroken⟩
  · exact ⟨htextless.append f u h.1 trivial hadmits hfits,
      hput f u u.text _ ⟨h.1, h.2.1⟩ hU hadmits fun _ hc => hc, h.2.2⟩
  · obtain ⟨leading, hpre, htaken, _⟩ := Text.fitClusters_eq f.room (Text.clusters u.text)
    have hcs : ∀ c ∈ (Text.fitClusters f.room (Text.clusters u.text)).1, c ∈ u.text := by
      rw [htaken]
      exact fun c hc => (Text.flatten_prefix hpre).subset hc
    exact ⟨htextless.appendCut f u h.1 trivial hadmits,
      hput f u _ _ ⟨h.1, h.2.1⟩ hU hadmits hcs, h.2.2⟩
  · have htext : (f.line.pushControl c).opensBlank = f.line.opensBlank := by
      unfold Line.opensBlank
      rw [← Line.text_unstyled, Line.unstyled_pushControl, Line.text_unstyled]
    exact ⟨htextless.control f c h.1 hK, htext.trans h.2.1, h.2.2⟩

/-! ### Numbers of offers -/

/-- The number that is offered behind these offers, the latest of which stands first: a refused one
again, or the one behind. -/
def nextIndex : List Offer → Nat
  | [] => 0
  | o :: _ => if o.taken then o.index + 1 else o.index

/-- Each offer has the number that is offered behind the ones before it. -/
def Numbered : List Offer → Prop
  | [] => True
  | o :: before => o.index = nextIndex before ∧ Numbered before

theorem stable_numbered (refuses : Nat → Bool) :
    Stable refuses (fun _ => True) (fun _ => True) fun f =>
      f.count = nextIndex f.offers ∧ Numbered f.offers where
  breakLine f h hfull := by
    cases hr : refuses f.offers.length
    · rw [breakLine_taken refuses f hfull hr]
      exact ⟨rfl, h⟩
    · rw [breakLine_refused refuses f hfull hr]
      exact ⟨rfl, h⟩
  append _ _ h _ _ _ := h
  appendCut _ _ h _ _ := h
  control _ _ h _ := h
  flags _ _ _ _ h := h

/-! ### Any use of a flow -/

/-- What is done to a flow: a text or a control flows in, or the last line is asked for. -/
inductive Use where
  | take (i : Inflow)
  | finish

def use (refuses : Nat → Bool) (f : Flow) : Use → Flow
  | .take i => f.take refuses i
  | .finish => (f.finish refuses).1

/-- One use after the other, whether lines are refused or not. -/
def useAll (refuses : Nat → Bool) (f : Flow) (uses : List Use) : Flow := uses.foldl (use refuses) f

/-- What every move keeps is kept by every use of such texts and controls. -/
theorem Stable.useAll_of_mem {refuses : Nat → Bool} {U : WrapUnit → Prop} {K : Control → Prop}
    {P : Flow → Prop} (hP : Stable refuses U K P) (uses : List Use)
    (hU : ∀ s, .take (.text s) ∈ uses → ∀ u ∈ WrapUnit.ofChars s.toList, U u)
    (hK : ∀ c, .take (.control c) ∈ uses → K c) (f : Flow) (h : P f) : P (f.useAll refuses uses) := by
  induction uses generalizing f with
  | nil => exact h
  | cons use rest ih =>
    refine ih (fun s hs => hU s (List.mem_cons_of_mem use hs))
      (fun c hc => hK c (List.mem_cons_of_mem use hc)) _ ?_
    cases use with
    | take i =>
      cases i with
      | text s => exact hP.pushText f s h (hU s (List.mem_cons_self ..))
      | control c => exact hP.pushControl f c h (hK c (List.mem_cons_self ..))
    | finish => exact hP.finish f h

theorem Stable.useAll {refuses : Nat → Bool} {U : WrapUnit → Prop} {K : Control → Prop}
    {P : Flow → Prop} (hP : Stable refuses U K P) (hU : ∀ cs, ∀ u ∈ WrapUnit.ofChars cs, U u)
    (hK : ∀ c, K c) (uses : List Use) (f : Flow) (h : P f) : P (f.useAll refuses uses) :=
  hP.useAll_of_mem uses (fun s _ => hU s.toList) (fun c _ => hK c) f h

end Flow

/-- A size as two words of 16 bits hold it. -/
def Size.inWords (s : Size) : Size := ⟨s.width.toUInt16.toNat, s.height.toUInt16.toNat⟩

/-- What is no larger than something that words hold is held by words. -/
theorem Size.inWords_of_le {s limit : Size} (hlimit : limit.inWords = limit)
    (hwidth : s.width ≤ limit.width) (hheight : s.height ≤ limit.height) : s.inWords = s := by
  have hheld {n m : Nat} (hle : n ≤ m) (hm : m.toUInt16.toNat = m) : n.toUInt16.toNat = n := by
    have hlt : m < UInt16.size := hm ▸ m.toUInt16.toNat_lt
    exact UInt16.toNat_ofNat_of_lt (Nat.lt_of_le_of_lt hle hlt)
  unfold inWords
  rw [hheld hwidth (congrArg Size.width hlimit), hheld hheight (congrArg Size.height hlimit)]

namespace Flow

/-- **What a receiver is offered.** However a flow is used and whichever lines are refused: no line that
is offered is wider than the bounds, holds a line end or opens with a blank; the offers are numbered in
turn, a refused number again; no more lines are taken than the bounds are high, and where they have no
area none is offered; and the size is that of the lines taken, which words of 16 bits hold if they hold
the bounds. -/
theorem offers_useAll (bounds : Size) (refuses : Nat → Bool) (uses : List Use) :
    let f := (start bounds).useAll refuses uses
    (∀ o ∈ f.offers, o.line.width ≤ bounds.width ∧ '\n' ∉ o.line.text.toList ∧
      '\r' ∉ o.line.text.toList ∧ o.line.opensBlank = false) ∧
    Numbered f.offers ∧
    f.lines.length ≤ bounds.height ∧ (bounds.isEmpty = true → f.offers = []) ∧
    f.size = ⟨Line.widest f.lines, f.lines.length⟩ ∧
    (bounds.inWords = bounds → f.size.inWords = f.size) := by
  intro f
  have hnone (o : Offer) (ho : o ∈ (start bounds).offers) {P : Prop} : P := absurd ho List.not_mem_nil
  have hcounted : Counted bounds f :=
    (stable_counted refuses bounds).useAll (fun _ _ _ => trivial) (fun _ => trivial) uses _
      (counted_start bounds)
  have hwidth := (stable_width refuses bounds).useAll (fun _ _ _ => trivial) (fun _ => trivial) uses
    (start bounds) ⟨rfl, Nat.zero_le _, fun o ho => hnone o ho⟩
  have hmarks := (stable_marks refuses fun m => m ≠ .char '\n' ∧ m ≠ .char '\r').useAll
    (fun cs u hu hkind c hc => by simpa using WrapUnit.not_lineEnd_of_mem hu hkind hc)
    (fun c => by simp) uses (start bounds) ⟨by simp [start], fun o ho => hnone o ho⟩
  have hopens := (stable_opens refuses).useAll (fun _ _ hu => WrapUnit.kindOf_of_mem hu)
    (fun _ => trivial) uses (start bounds) ⟨fun _ => rfl, rfl, fun o ho => hnone o ho⟩
  have hnumbered := (stable_numbered refuses).useAll (fun _ _ _ => trivial) (fun _ => trivial) uses
    (start bounds) ⟨rfl, trivial⟩
  have hsize : f.size = ⟨Line.widest f.lines, f.lines.length⟩ := by
    rw [size, hcounted.widest, hcounted.count]
  have hwidest : f.size.width ≤ bounds.width := by
    rw [hsize]
    exact Line.widest_le hwidth.2.lines
  refine ⟨fun o ho => ?_, hnumbered.2, ?_, hcounted.empty, hsize, fun hwords => ?_⟩
  · have hchars : ∀ m ∈ o.line.marks, m ≠ .char '\n' ∧ m ≠ .char '\r' := hmarks.2 o ho
    exact ⟨hwidth.2.2 o ho, fun hn => (hchars _ (Line.mem_text.mp hn)).1 rfl,
      fun hr => (hchars _ (Line.mem_text.mp hr)).2 rfl, hopens.2.2 o ho⟩
  · rw [← hcounted.count]
    exact hcounted.height
  · exact Size.inWords_of_le hwords hwidest hcounted.height

/-- The second offer is refused, so its line is lost with the rest of its text, and its number is offered
again. -/
theorem offers_useAll_refused :
    let uses : List Use := [.take (.text "ab cde f"), .take (.text "  ghijkl"), .finish, .finish]
    let f := (start ⟨4, 3⟩).useAll (· == 1) uses
    f.offers.reverse.map (fun o => (o.index, o.line.text, o.taken)) =
        [(0, "ab ", true), (1, "cde ", false), (1, "ghij", true)] ∧
      Size.inWords ⟨4, 3⟩ = ⟨4, 3⟩ ∧ Size.isEmpty ⟨4, 3⟩ = false ∧ f.size = ⟨4, 2⟩ ∧
      (∀ o ∈ f.offers, o.line.width ≤ 4 ∧ '\n' ∉ o.line.text.toList ∧ '\r' ∉ o.line.text.toList ∧
        o.line.opensBlank = false) ∧
      Numbered f.offers ∧ f.size.inWords = f.size := by
  intro uses f
  obtain ⟨hlines, hnumbered, -, -, -, hwords⟩ := offers_useAll ⟨4, 3⟩ (· == 1) uses
  exact ⟨by decide +kernel, rfl, rfl, by decide +kernel, hlines, hnumbered, hwords rfl⟩

end Flow

end TextPane
