import TextPane.Proofs.Wrap.Atoms

/-! Text in pieces.

A text may flow in all at once or cut between its units into pieces, some of them empty: the flow ends up
the same (`Flow.pour_pieces`). The first unit of a piece opens it, and that only matters for a word behind
a word that was cut. But no two words stand side by side in a text, so the flow has not just taken in a
word when such a piece begins with one.

So the lines of a span come of its texts, cut at all units, and its controls, in order. -/
namespace TextPane

/-- The text that units make. -/
def WrapUnit.join (us : List WrapUnit) : String := String.ofList (us.flatMap text)

namespace Inflow

/-- Pieces of text, each made of some units. -/
def pieces (chunks : List (List WrapUnit)) : List Inflow := chunks.map fun us => .text (WrapUnit.join us)

/-- A text cut at all of its units, or a control. -/
def cut : Inflow → List Inflow
  | .text s => pieces ((WrapUnit.ofChars s.toList).map ([·]))
  | .control c => [.control c]

/-- The pieces of a text fall into the units that they are made of. -/
theorem ofChars_join {cs : List Char} {chunks : List (List WrapUnit)}
    (h : chunks.flatten = WrapUnit.ofChars cs) {us : List WrapUnit} (hus : us ∈ chunks) :
    WrapUnit.ofChars (WrapUnit.join us).toList = us := by
  obtain ⟨before, behind, rfl⟩ := List.append_of_mem hus
  rw [List.flatten_append, List.flatten_cons] at h
  have hrest := (WrapUnit.ofChars_of_append h.symm).2
  rw [WrapUnit.join, String.toList_ofList]
  exact (WrapUnit.ofChars_of_append hrest).1

theorem flatMap_pieces {α : Type} {cs : List Char} {chunks : List (List WrapUnit)}
    (h : chunks.flatten = WrapUnit.ofChars cs) {f : Inflow → List α} {g : List WrapUnit → List α}
    (hf : ∀ s, f (.text s) = g (WrapUnit.ofChars s.toList)) :
    (pieces chunks).flatMap f = chunks.flatMap g := by
  rw [pieces, List.flatMap_map, List.flatMap_def, List.flatMap_def]
  exact congrArg List.flatten (List.map_congr_left fun us hus => by rw [hf, ofChars_join h hus])

/-- Pieces of a text are cut at the same units as the text. -/
theorem cut_pieces {s : String} {chunks : List (List WrapUnit)}
    (h : chunks.flatten = WrapUnit.ofChars s.toList) :
    (pieces chunks).flatMap cut = (Inflow.text s).cut := by
  rw [flatMap_pieces h (g := fun us => pieces (us.map ([·]))) fun _ => rfl, cut, ← h]
  simp [pieces, List.map_flatten, List.flatMap_def, Function.comp_def]

end Inflow

namespace Flow

/-! ### Between two pieces -/

/-- The next unit is not a word that stands right behind a word, or there is no room for more. -/
def Apart (f : Flow) (us : List WrapUnit) : Prop :=
  f.full = true ∨ ∀ u ∈ us.head?, u.kind = .word → f.endedInWord = false

/-- Where no word goes on with another one, it does not matter whether a unit opens a piece. -/
theorem absorbAll_ofUnits {f : Flow} {us : List WrapUnit} (h : f.Apart us) (opens : Bool) :
    f.absorbAll (Atom.ofUnits opens us) = f.absorbAll (Atom.ofUnits false us) := by
  cases us with
  | nil => rfl
  | cons u rest =>
    have hu : f.absorb (.unit opens u) = f.absorb (.unit false u) := by
      cases hfull : f.full
      · have hended : u.kind = .word → f.endedInWord = false :=
          h.resolve_left (by simp [hfull]) u rfl
        rw [absorb_unit hfull, absorb_unit hfull]
        unfold push
        cases hkind : u.kind with
        | word => simp [hended hkind]
        | space => rfl
        | newline => rfl
      · rw [absorb_full hfull, absorb_full hfull]
    rw [Atom.ofUnits, absorbAll_cons, hu]
    rfl

/-- Behind units it is noted whether the last one was a word, while there is room. -/
theorem endedInWord_absorbAll (f : Flow) (opens : Bool) (us : List WrapUnit) (u : WrapUnit) :
    (f.absorbAll (Atom.ofUnits opens (us ++ [u]))).full = true ∨
      (f.absorbAll (Atom.ofUnits opens (us ++ [u]))).endedInWord = decide (u.kind = .word) := by
  induction us generalizing f opens with
  | nil =>
    show (f.absorb (.unit opens u)).full = true ∨ (f.absorb (.unit opens u)).endedInWord = _
    cases hfull : f.full
    · rw [absorb_unit hfull]
      exact .inr rfl
    · rw [absorb_full hfull]
      exact .inl hfull
  | cons v rest ih => exact ih (f.absorb (.unit opens v)) false

/-- Units of one text do not go on with each other. -/
theorem apart_absorbAll {cs : List Char} {us rest : List WrapUnit}
    (h : WrapUnit.ofChars cs = us ++ rest) (hus : us ≠ []) (f : Flow) (opens : Bool) :
    (f.absorbAll (Atom.ofUnits opens us)).Apart rest := by
  obtain ⟨before, u, hlast⟩ := (List.eq_nil_or_concat us).resolve_left hus
  rw [List.concat_eq_append] at hlast
  subst hlast
  refine (endedInWord_absorbAll f opens before u).imp id fun hended v hv hword => ?_
  obtain ⟨behind, rfl⟩ := List.head?_eq_some_iff.mp hv
  rw [hended]
  refine decide_eq_false fun hu => ?_
  rw [List.append_assoc] at h
  have hnewline := WrapUnit.newline_of_append h (hu.trans hword.symm)
  rw [hu] at hnewline
  cases hnewline

theorem ofUnits_append (opens : Bool) {us : List WrapUnit} (hus : us ≠ []) (rest : List WrapUnit) :
    Atom.ofUnits opens (us ++ rest) = Atom.ofUnits opens us ++ Atom.ofUnits false rest := by
  induction us generalizing opens with
  | nil => exact absurd rfl hus
  | cons u us ih =>
    cases us with
    | nil => rfl
    | cons v us => exact congrArg (Atom.unit opens u :: ·) (ih false (List.cons_ne_nil v us))

/-- Units flow in alike at once and in pieces. -/
theorem absorbAll_pieces {cs : List Char} {chunks : List (List WrapUnit)}
    (h : chunks.flatten = WrapUnit.ofChars cs) (f : Flow) :
    f.absorbAll (chunks.flatMap (Atom.ofUnits true)) =
      f.absorbAll (Atom.ofUnits true (WrapUnit.ofChars cs)) := by
  rw [← h]
  induction chunks generalizing cs f with
  | nil => rfl
  | cons us rest ih =>
    rw [List.flatten_cons] at h
    have hrest := (WrapUnit.ofChars_of_append h.symm).2.symm
    rw [List.flatMap_cons, List.flatten_cons, absorbAll_append, ih hrest]
    by_cases hus : us = []
    · rw [hus]
      rfl
    · rw [ofUnits_append true hus, absorbAll_append]
      exact absorbAll_ofUnits (apart_absorbAll h.symm hus f true) true

/-- A text flows in alike at once and in pieces. -/
theorem pour_pieces_eq (f : Flow) {s : String} {chunks : List (List WrapUnit)}
    (h : chunks.flatten = WrapUnit.ofChars s.toList) :
    f.pour takesAll (Inflow.pieces chunks) = (f.pushText takesAll s).1 := by
  rw [pour_takesAll, Inflow.flatMap_pieces h fun _ => rfl, absorbAll_pieces h, pushText_takesAll]
  rfl

/-- Texts flow in alike as they are and cut at all of their units. -/
theorem pour_cut (f : Flow) (ins : List Inflow) :
    f.pour takesAll (ins.flatMap Inflow.cut) = f.pour takesAll ins := by
  induction ins generalizing f with
  | nil => rfl
  | cons i rest ih =>
    have hi : f.pour takesAll i.cut = f.take takesAll i := by
      cases i with
      | text s => exact f.pour_pieces_eq (by rw [← List.flatMap_def, List.flatMap_singleton'])
      | control c => rfl
    rw [List.flatMap_cons, pour_append, hi, ih]
    rfl

/-- Spans with the same texts, cut at all units, and the same controls flow alike. -/
theorem ofSpan_congr {s s' : Span}
    (h : s.inflows.flatMap Inflow.cut = s'.inflows.flatMap Inflow.cut) (bounds : Size) :
    ofSpan bounds s = ofSpan bounds s' := by
  rw [ofSpan_eq, ofSpan_eq, ← pour_cut, h, pour_cut]

/-- **Cuts between units do not matter.** Whatever has flowed before, a text whose units are dealt out to
pieces, some of which may be empty, leaves the same lines and the same flow as the text at once, and its
pieces are cut at the same units. So the lines of a span and its measured size are a matter of its texts,
cut at all units, and its controls, from left to right. -/
theorem pour_pieces (f : Flow) (text : String) (chunks : List (List WrapUnit))
    (h : chunks.flatten = WrapUnit.ofChars text.toList) :
    f.pour takesAll (Inflow.pieces chunks) = (f.pushText takesAll text).1 ∧
      (Inflow.pieces chunks).flatMap Inflow.cut = (Inflow.text text).cut ∧
      ∀ s s' : Span, s.inflows.flatMap Inflow.cut = s'.inflows.flatMap Inflow.cut →
        ∀ bounds, s.wrap bounds = s'.wrap bounds ∧ s.measure bounds = s'.measure bounds := by
  refine ⟨f.pour_pieces_eq h, Inflow.cut_pieces h, fun s s' hcut bounds => ?_⟩
  have hflow := ofSpan_congr hcut bounds
  exact ⟨congrArg lines hflow, congrArg size hflow⟩

/-- Behind a word that was cut, "x" goes on with it whether the text comes at once or in four pieces; and a
word in a container of its own, with an empty span behind it, wraps like one among others. -/
theorem pour_pieces_cut_word :
    let f := ((start ⟨3, 9⟩).pushText takesAll "abcdef").1
    let units := WrapUnit.ofChars "x\r\ny z".toList
    let chunks := [units.take 1, [], (units.drop 1).take 2, units.drop 3]
    let s : Span := .container [.content "a b\r\nc" 5, .foreground "red"] 5
    let s' : Span := .container [.container [.content "a" 1] 1, .empty, .content " b\r\n" 2, .content "" 0,
      .content "c" 1, .container [.foreground "red"] 0] 4
    f.openCut = true ∧ chunks.flatten = units ∧
      Inflow.pieces chunks = [.text "x", .text "", .text "\r\ny", .text " z"] ∧
      f.pour takesAll (Inflow.pieces chunks) = (f.pushText takesAll "x\r\ny z").1 ∧
      (f.pour takesAll (Inflow.pieces chunks)).lines.map Line.text = ["abc"] ∧
      s.inflows.flatMap Inflow.cut = s'.inflows.flatMap Inflow.cut ∧
      s.wrap ⟨2, 4⟩ = s'.wrap ⟨2, 4⟩ ∧ (s.wrap ⟨2, 4⟩).map Line.text = ["a ", "b", "c"] := by
  intro f units chunks s s'
  have hcut : s.inflows.flatMap Inflow.cut = s'.inflows.flatMap Inflow.cut := by decide +kernel
  have hchunks : chunks.flatten = units := by decide +kernel
  obtain ⟨hpour, -, hspans⟩ := pour_pieces f "x\r\ny z" chunks hchunks
  exact ⟨by decide +kernel, hchunks, by decide +kernel, hpour, by decide +kernel, hcut,
    (hspans s s' hcut ⟨2, 4⟩).1, by decide +kernel⟩

end Flow

end TextPane
