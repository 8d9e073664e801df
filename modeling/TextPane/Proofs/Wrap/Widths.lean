import Mathlib.Data.List.Chain
import TextPane.Proofs.Text.Seams
import TextPane.Proofs.Wrap.Offers

/-! The width of a line and the width of its text.

A line counts the columns of each word and each run of blanks that is put on it, by itself
(`Line.IsMadeOf`). That is the width of its text as long as no cluster reaches from one word into another
that stands beside it (`width_useAll`); at blanks widths always add up.

Words stand side by side where the text comes in pieces, or where the blanks between them were wider than the
bounds and cut to nothing. A selector or joiner that opens the second word then makes a sign with the end of
the first that is wider, or narrower, than the line has counted (`width_useAll_selector`). -/
namespace TextPane

namespace WrapUnit

/-- So much of a unit as its first clusters make. -/
structure PartOf (p u : WrapUnit) : Prop where
  kind : p.kind = u.kind
  ne_nil : p.text ≠ []
  leading : ∃ n, p.text = ((Text.clusters u.text).take n).flatten

/-- No cluster reaches from a word into a word behind it. -/
def Parted (p q : WrapUnit) : Prop :=
  p.kind = .word → q.kind = .word →
    Text.clusters (p.text ++ q.text) = Text.clusters p.text ++ Text.clusters q.text

instance : DecidableRel Parted := fun p q =>
  inferInstanceAs (Decidable (p.kind = .word → q.kind = .word →
    Text.clusters (p.text ++ q.text) = Text.clusters p.text ++ Text.clusters q.text))

/-- A word or some blanks. -/
structure Run (p : WrapUnit) : Prop where
  ne_newline : p.kind ≠ .newline
  ne_nil : p.text ≠ []
  uniform : Flow.Uniform p

instance : DecidablePred Run := fun p =>
  decidable_of_iff (p.kind ≠ .newline ∧ p.text ≠ [] ∧ p.text.all (fun c => kindOf c = p.kind) = true)
    ⟨fun ⟨hkind, hne, hall⟩ => ⟨hkind, hne, fun c hc => of_decide_eq_true (List.all_eq_true.mp hall c hc)⟩,
      fun h => ⟨h.ne_newline, h.ne_nil, List.all_eq_true.mpr fun c hc => decide_eq_true (h.uniform c hc)⟩⟩

theorem PartOf.run {p u : WrapUnit} (h : p.PartOf u) (hkind : u.kind ≠ .newline) (hu : Flow.Uniform u) :
    p.Run where
  ne_newline := h.kind.symm ▸ hkind
  ne_nil := h.ne_nil
  uniform c hc := by
    obtain ⟨n, hn⟩ := h.leading
    rw [hn] at hc
    rw [h.kind]
    exact hu c ((Text.flatten_prefix (List.take_prefix n _)).subset hc)

theorem Run.charsWidth_append {p : WrapUnit} (hp : p.Run) (hblank : p.kind ≠ .word) (a b : List Char) :
    Text.charsWidth (a ++ p.text ++ b) = Text.charsWidth a + Text.charsWidth p.text + Text.charsWidth b := by
  refine Text.charsWidth_append_blanks (fun c hc => ?_) hp.ne_nil a b
  rw [hp.uniform c hc]
  cases hkind : p.kind with
  | word => exact absurd hkind hblank
  | space => rfl
  | newline => exact absurd hkind hp.ne_newline

/-- Words and blanks side by side are as wide as all of them together if the words are parted. -/
theorem charsWidth_flatMap {parts : List WrapUnit} (hruns : ∀ p ∈ parts, p.Run)
    (hparted : parts.IsChain Parted) :
    Text.charsWidth (parts.flatMap text) = (parts.map fun p => Text.charsWidth p.text).sum := by
  have hnone : Text.charsWidth [] = 0 := rfl
  induction parts with
  | nil => rfl
  | cons p rest ih =>
    have hrest := ih (fun q hq => hruns q (List.mem_cons_of_mem p hq)) hparted.tail
    rw [List.flatMap_cons, List.map_cons, List.sum_cons, ← hrest]
    -- Behind a word stands a word that is parted from it, or blanks, whose width adds to any.
    by_cases hp : p.kind = .word
    · cases rest with
      | nil => simp [hnone]
      | cons q rest =>
        have hq := hruns q (List.mem_cons_of_mem p (List.mem_cons_self ..))
        rw [List.flatMap_cons]
        by_cases hword : q.kind = .word
        · have hends := Text.clusters_append_of hq.ne_nil ((List.isChain_cons_cons.mp hparted).1 hp hword)
            (rest.flatMap text)
          rw [Text.charsWidth_eq, hends, List.map_append, List.sum_append, ← Text.charsWidth_eq,
            ← Text.charsWidth_eq]
        · have hbehind := hq.charsWidth_append hword [] (rest.flatMap text)
          rw [List.nil_append, hnone] at hbehind
          rw [← List.append_assoc, hq.charsWidth_append hword, hbehind]
          omega
    · have hbehind := (hruns p (List.mem_cons_self ..)).charsWidth_append hp [] (rest.flatMap text)
      rwa [List.nil_append, hnone, Nat.zero_add] at hbehind

end WrapUnit

/-- The line is these words and blanks one behind the other, and counts the columns of each. -/
structure Line.IsMadeOf (l : Line) (parts : List WrapUnit) : Prop where
  text : l.text.toList = parts.flatMap WrapUnit.text
  width : l.width = (parts.map fun p => Text.charsWidth p.text).sum
  runs : ∀ p ∈ parts, p.Run

namespace Line.IsMadeOf
variable {l : Line} {parts : List WrapUnit}

theorem pushText (h : l.IsMadeOf parts) {p : WrapUnit} (hp : p.Run) :
    (l.pushText (String.ofList p.text) (Text.charsWidth p.text)).IsMadeOf (parts ++ [p]) where
  text := by
    rw [text_pushText, String.toList_append, String.toList_ofList, h.text, List.flatMap_append,
      List.flatMap_singleton]
  width := by
    have hne : (String.ofList p.text).isEmpty = false := by
      simpa [String.isEmpty_iff] using hp.ne_nil
    simp [Line.pushText, hne, h.width]
  runs q hq := by
    rcases List.mem_append.mp hq with hq | hq
    · exact h.runs q hq
    · exact List.mem_singleton.mp hq ▸ hp

/-- Where the words of a line are parted, it is as wide as its text. -/
theorem width_eq (h : l.IsMadeOf parts) (hparted : parts.IsChain WrapUnit.Parted) :
    l.width = Text.displayWidth l.text := by
  rw [Text.displayWidth, h.text, WrapUnit.charsWidth_flatMap h.runs hparted, h.width]

end Line.IsMadeOf

namespace Flow

/-- The line is made of parts of such units. -/
def MadeFrom (U : WrapUnit → Prop) (l : Line) : Prop :=
  ∃ parts, l.IsMadeOf parts ∧ ∀ p ∈ parts, ∃ u, U u ∧ p.PartOf u

theorem MadeFrom.put {U : WrapUnit → Prop} {l : Line} (h : MadeFrom U l) {u : WrapUnit} (hu : U u)
    (hkind : u.kind ≠ .newline) (huniform : Uniform u) (n : Nat) :
    MadeFrom U (l.pushText (String.ofList ((Text.clusters u.text).take n).flatten)
      (((Text.clusters u.text).take n).map Text.clusterWidth).sum) := by
  have hwidth : (((Text.clusters u.text).take n).map Text.clusterWidth).sum =
      Text.charsWidth ((Text.clusters u.text).take n).flatten := by
    rw [Text.charsWidth_eq, Text.clusters_flatten_of_prefix (List.take_prefix n _)]
  rw [hwidth]
  by_cases hnil : ((Text.clusters u.text).take n).flatten = []
  · rw [hnil]
    exact h
  · have hpart : WrapUnit.PartOf ⟨u.kind, ((Text.clusters u.text).take n).flatten⟩ u := ⟨rfl, hnil, n, rfl⟩
    obtain ⟨parts, hparts, hfrom⟩ := h
    refine ⟨_, hparts.pushText (hpart.run hkind huniform), fun p hp => ?_⟩
    rcases List.mem_append.mp hp with hp | hp
    · exact hfrom p hp
    · exact ⟨u, hu, List.mem_singleton.mp hp ▸ hpart⟩

/-- Lines are made of what flows in. -/
theorem stable_madeFrom (refuses : Nat → Bool) (U : WrapUnit → Prop) (hU : ∀ u, U u → Uniform u) :
    Stable refuses U (fun _ => True) (Every (MadeFrom U)) where
  breakLine f h hfull := h.breakLine ⟨[], ⟨rfl, rfl, by simp⟩, by simp⟩ refuses hfull
  append f u h hu hadmits _ := by
    have hput := h.1.put hu hadmits.ne_newline (hU u hu) (Text.clusters u.text).length
    rw [List.take_length, Text.flatten_clusters, ← Text.charsWidth_eq] at hput
    exact ⟨hput, h.2⟩
  appendCut f u h hu hadmits := by
    obtain ⟨leading, hpre, htaken, hused, -⟩ := Text.fitClusters_eq f.room (Text.clusters u.text)
    have hput := h.1.put hu hadmits.ne_newline (hU u hu) leading.length
    rw [← List.prefix_iff_eq_take.mp hpre, ← htaken, ← hused] at hput
    exact ⟨hput, h.2⟩
  control f c h _ := by
    have htext : (f.line.pushControl c).text = f.line.text := by
      rw [← Line.text_unstyled, Line.unstyled_pushControl, Line.text_unstyled]
    obtain ⟨parts, hparts, hfrom⟩ := h.1
    exact ⟨⟨parts, ⟨htext ▸ hparts.text, hparts.width, hparts.runs⟩, hfrom⟩, h.2⟩
  flags _ _ _ _ h := h

/-- **The width of a line.** However a flow is used and whichever lines are refused: no line that is offered
is wider than the bounds; it is made of words and blanks that flowed in, each whole or cut to its first
clusters, and counts the columns of each by itself; and where no cluster reaches from one of its words into
another that stands beside it, that is the width of its text. -/
theorem width_useAll (bounds : Size) (refuses : Nat → Bool) (uses : List Use) :
    ∀ o ∈ ((start bounds).useAll refuses uses).offers,
      o.line.width ≤ bounds.width ∧
      (∃ parts, o.line.IsMadeOf parts ∧ ∀ p ∈ parts, ∃ u : WrapUnit,
        (∃ s, .take (.text s) ∈ uses ∧ u ∈ WrapUnit.ofChars s.toList) ∧ p.PartOf u) ∧
      ∀ parts, o.line.IsMadeOf parts → parts.IsChain WrapUnit.Parted →
        o.line.width = Text.displayWidth o.line.text := by
  intro o ho
  have hnone {P : Offer → Prop} : ∀ o ∈ (start bounds).offers, P o := fun o ho => absurd ho List.not_mem_nil
  have hwidth := (stable_width refuses bounds).useAll (fun _ _ _ => trivial) (fun _ => trivial) uses
    (start bounds) ⟨rfl, Nat.zero_le _, hnone⟩
  have hmade := (stable_madeFrom refuses
    (fun u => ∃ s, .take (.text s) ∈ uses ∧ u ∈ WrapUnit.ofChars s.toList)
    (fun u ⟨_, _, hu⟩ => WrapUnit.kindOf_of_mem hu)).useAll_of_mem
      uses (fun s hs u hu => ⟨s, hs, hu⟩) (fun _ _ => trivial) (start bounds)
      ⟨⟨[], ⟨rfl, rfl, by simp⟩, by simp⟩, hnone⟩
  exact ⟨hwidth.2.2 o ho, hmade.2 o ho, fun parts hparts => hparts.width_eq⟩

/-- An accent that sits on a blank, and words that stand side by side. -/
theorem width_useAll_parted :
    let uses : List Use := [.take (.text "ab"), .take (.text "c "), .take (.text "\u0301d"), .finish]
    let l : Line := { fragments := [.text "abc \u0301d"], width := 5 }
    let parts : List WrapUnit :=
      [⟨.word, ['a', 'b']⟩, ⟨.word, ['c']⟩, ⟨.space, [' ']⟩, ⟨.word, ['\u0301', 'd']⟩]
    (⟨0, l, true⟩ : Offer) ∈ ((start ⟨6, 2⟩).useAll takesAll uses).offers ∧ l.IsMadeOf parts ∧
      parts.IsChain WrapUnit.Parted ∧ l.width ≤ 6 ∧ l.width = Text.displayWidth l.text := by
  intro uses l parts
  have hruns : (⟨0, l, true⟩ : Offer) ∈ ((start ⟨6, 2⟩).useAll takesAll uses).offers ∧
      (l.text.toList = parts.flatMap WrapUnit.text ∧
        l.width = (parts.map fun p => Text.charsWidth p.text).sum ∧ ∀ p ∈ parts, p.Run) ∧
      parts.IsChain WrapUnit.Parted := by decide +kernel
  obtain ⟨hoffer, ⟨hchars, hsum, hrun⟩, hparted⟩ := hruns
  have hmade : l.IsMadeOf parts := ⟨hchars, hsum, hrun⟩
  obtain ⟨hwidth, -, htext⟩ := width_useAll ⟨6, 2⟩ takesAll uses _ hoffer
  exact ⟨hoffer, hmade, hparted, hwidth, htext parts hmade hparted⟩

/-- A selector that comes by itself turns a cloud of one column into a sign of two, and the line has room for
one. -/
theorem width_useAll_selector :
    let f := (start ⟨1, 1⟩).useAll takesAll [.take (.text "\u2601"), .take (.text "\ufe0f"), .finish]
    let l : Line := { fragments := [.text "\u2601\ufe0f"], width := 1 }
    (⟨0, l, true⟩ : Offer) ∈ f.offers ∧ l.width = 1 ∧ Text.displayWidth l.text = 2 ∧ f.bounds.width = 1 := by
  decide +kernel

end Flow

end TextPane
