import TextPane.Proofs.Wrap.Words

/-! A flow that takes in one atom after the other.

Where every line is taken, nothing that flows in is abandoned half way, and the pieces that the text
came in no longer matter: a flow takes in a row of units and controls (`pour_takesAll`). What a unit
does is then said without regard to lines that are refused (`place_takesAll`). -/
namespace TextPane

/-- The units and controls of a span, in order. -/
def Span.atoms (s : Span) : List Atom := s.inflows.flatMap Inflow.atoms

theorem Atom.mem_of_mem_ofUnits {opens opens' : Bool} {u : WrapUnit} {us : List WrapUnit}
    (h : .unit opens u ∈ ofUnits opens' us) : u ∈ us := by
  induction us generalizing opens' with
  | nil => cases h
  | cons v rest ih =>
    rcases List.mem_cons.mp h with heq | h
    · cases heq
      exact List.mem_cons_self ..
    · exact List.mem_cons_of_mem v (ih h)

namespace Flow

/-! ### Moves -/

section Moves
variable (f : Flow)

theorem breakLine_takesAll : (f.breakLine takesAll).2 = true := by
  cases hfull : f.full
  · rw [breakLine_taken takesAll f hfull rfl]
  · simp [breakLine, hfull]

/-- A unit is placed on the line being filled or on the next one, or left out. -/
theorem place_takesAll (isSpace : Bool) (text : List Char) :
    f.place takesAll isSpace text =
      (let width := Text.charsWidth text
      let next := (f.breakLine takesAll).1
      if isSpace ∧ f.line.width = 0 then f
      else if width ≤ f.room then f.append text width
      else if width ≤ f.bounds.width ∨ f.room = 0 then
        if next.full ∨ isSpace then next
        else if width ≤ f.bounds.width then next.append text width
        else next.appendCut text
      else f.appendCut text, true) := by
  have hbounds := breakLine_bounds takesAll f
  have htaken := breakLine_takesAll f
  unfold place
  generalize f.breakLine takesAll = broken at hbounds htaken ⊢
  obtain ⟨next, taken⟩ := broken
  obtain rfl : taken = true := htaken
  simp only at hbounds ⊢
  simp only [hbounds, apply_ite (fun g : Flow => (g, true))]

/-- What a unit does before it is noted whether it was a word. -/
def push (opens : Bool) (u : WrapUnit) : Flow :=
  match u.kind with
  | .newline => { (f.breakLine takesAll).1 with cut := false }
  | .word =>
    if opens ∧ f.endedInWord ∧ f.cut then f else (f.place takesAll false u.text).1
  | .space => (f.place takesAll true u.text).1

theorem pushUnit_takesAll (opens : Bool) (u : WrapUnit) :
    f.pushUnit takesAll opens u = ({ f.push opens u with endedInWord := u.kind = .word }, true) := by
  have htaken := breakLine_takesAll f
  have hplaced (isSpace : Bool) : (f.place takesAll isSpace u.text).2 = true := by
    rw [place_takesAll]
  unfold pushUnit push
  cases u.kind with
  | newline => simp [htaken]
  | space => simp [hplaced]
  | word =>
    by_cases hgoesOn : opens = true ∧ f.endedInWord = true ∧ f.cut = true
    · simp [hgoesOn]
    · simp only [if_neg hgoesOn, hplaced, if_true]

end Moves

/-! ### Atoms -/

/-- Takes in a unit or a control while there is room for another line. -/
def absorb (f : Flow) (a : Atom) : Flow :=
  let f := { f with touched := true }
  if f.full then f
  else match a with
    | .unit opens u => { f.push opens u with endedInWord := u.kind = .word }
    | .control c => { f with line := f.line.pushControl c }

/-- Takes in one after the other. -/
def absorbAll (f : Flow) (as : List Atom) : Flow := as.foldl absorb f

theorem absorbAll_cons (f : Flow) (a : Atom) (rest : List Atom) :
    f.absorbAll (a :: rest) = (f.absorb a).absorbAll rest := rfl

theorem absorbAll_append (f : Flow) (as bs : List Atom) :
    f.absorbAll (as ++ bs) = (f.absorbAll as).absorbAll bs := List.foldl_append

theorem absorb_full {f : Flow} (h : f.full = true) (a : Atom) : f.absorb a = { f with touched := true } :=
  if_pos h

theorem absorb_unit {f : Flow} (h : f.full = false) (opens : Bool) (u : WrapUnit) :
    f.absorb (.unit opens u) =
      { { f with touched := true }.push opens u with endedInWord := u.kind = .word } :=
  if_neg (by simp [h])

theorem absorb_control {f : Flow} (h : f.full = false) (c : Control) :
    f.absorb (.control c) = { f with touched := true, line := f.line.pushControl c } :=
  if_neg (by simp [h])

theorem touched_push (f : Flow) (opens : Bool) (u : WrapUnit) : (f.push opens u).touched = f.touched := by
  have hbroken : (f.breakLine takesAll).1.touched = f.touched := by
    cases hfull : f.full
    · rw [breakLine_taken takesAll f hfull rfl]
    · simp [breakLine, hfull]
  have hplaced (isSpace : Bool) : (f.place takesAll isSpace u.text).1.touched = f.touched := by
    rw [place_takesAll]
    simp only [apply_ite touched, append, appendCut_eq, hbroken, ite_self]
  unfold push
  cases u.kind with
  | newline => exact hbroken
  | space => exact hplaced true
  | word => simp only [apply_ite touched, hplaced, ite_self]

theorem touched_absorb (f : Flow) (a : Atom) : (f.absorb a).touched = true := by
  unfold absorb
  simp only
  split
  · rfl
  cases a with
  | unit opens u => exact touched_push { f with touched := true } opens u
  | control c => rfl

theorem touched_absorbAll (f : Flow) (as : List Atom) :
    (f.absorbAll as).touched = (f.touched || !as.isEmpty) := by
  induction as generalizing f with
  | nil => simp [absorbAll]
  | cons a rest ih => simp [absorbAll_cons, ih, touched_absorb]

/-- Where there is no room for another line, everything is left out. -/
theorem absorbAll_full {f : Flow} (h : f.full = true) (as : List Atom) :
    f.absorbAll as = { f with touched := f.touched || !as.isEmpty } := by
  induction as generalizing f with
  | nil => simp [absorbAll]
  | cons a rest ih =>
    have hf : ({ f with touched := true } : Flow).full = true := h
    rw [absorbAll_cons, absorb_full h, ih hf]
    simp

theorem pushUnits_takesAll (f : Flow) (htouched : f.touched = true) (opens : Bool) (us : List WrapUnit) :
    (f.pushUnits takesAll opens us).1 = f.absorbAll (Atom.ofUnits opens us) := by
  induction us generalizing f opens with
  | nil => rfl
  | cons u rest ih =>
    unfold pushUnits
    cases hfull : f.full
    · have hu : f.absorb (.unit opens u) = { f.push opens u with endedInWord := u.kind = .word } := by
        rw [absorb_unit hfull, ← htouched]
      have hrest := ih { f.push opens u with endedInWord := u.kind = .word }
        ((touched_push f opens u).trans htouched) false
      rw [pushUnit_takesAll]
      simp only [Bool.false_eq_true, if_false, hrest]
      rw [← hu]
      rfl
    · simp only [if_true]
      rw [absorbAll_full hfull, htouched, Bool.true_or, ← htouched]

theorem pushText_takesAll (f : Flow) (s : String) :
    (f.pushText takesAll s).1 = f.absorbAll (Inflow.text s).atoms := by
  unfold pushText
  cases hs : s.isEmpty
  · obtain ⟨u, rest, hunits⟩ : ∃ u rest, WrapUnit.ofChars s.toList = u :: rest := by
      refine List.ne_nil_iff_exists_cons.mp fun hunits => ?_
      have hchars := WrapUnit.flatMap_ofChars s.toList
      rw [hunits, List.flatMap_nil] at hchars
      simp [String.toList_eq_nil_iff.mp hchars.symm] at hs
    -- The first unit touches the flow by itself.
    have hpushed := pushUnits_takesAll { f with touched := true } rfl true (u :: rest)
    rw [Inflow.atoms, hunits]
    exact hpushed
  · rw [String.isEmpty_iff.mp hs]
    rfl

/-- Texts and controls flow in atom by atom. -/
theorem pour_takesAll (f : Flow) (ins : List Inflow) :
    f.pour takesAll ins = f.absorbAll (ins.flatMap Inflow.atoms) := by
  induction ins generalizing f with
  | nil => rfl
  | cons i rest ih =>
    have hi : f.take takesAll i = f.absorbAll i.atoms := by
      cases i with
      | text s => exact pushText_takesAll f s
      | control c => rfl
    rw [List.flatMap_cons, absorbAll_append, ← hi]
    exact ih _

/-- What every move keeps is kept by all that flows in. -/
theorem Stable.absorbAll {P : Flow → Prop} (hP : Stable takesAll (fun _ => True) (fun _ => True) P)
    (as : List Atom) (f : Flow) (h : P f) : P (f.absorbAll as) := by
  induction as generalizing f with
  | nil => exact h
  | cons a rest ih =>
    refine ih _ ?_
    have htouched : P { f with touched := true } := hP.flags f f.endedInWord f.cut true h
    cases hfull : f.full
    · cases a with
      | unit opens u =>
        have hpushed := hP.pushUnit opens { f with touched := true } u htouched trivial
        rw [pushUnit_takesAll] at hpushed
        rwa [absorb_unit hfull]
      | control c =>
        rw [absorb_control hfull]
        exact hP.control _ c htouched trivial
    · rwa [absorb_full hfull]

/-- The flow at the end of a span has taken in its units and controls. -/
theorem ofSpan_takesAll (bounds : Size) (s : Span) :
    ofSpan bounds s = (((start bounds).absorbAll s.atoms).finish takesAll).1 := by
  rw [ofSpan_eq, pour_takesAll]
  rfl

end Flow

end TextPane
