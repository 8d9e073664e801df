import TextPane.Proofs.Wrap.Lines

/-! What becomes of the words.

The text that flows in is a row of units with controls in between, and each of them leaves a part of
itself, or nothing, on one line. What it may leave is said by `Atom.Keeps`: a control itself, a line
end nothing, a word that fits all of itself. A word that is too wide leaves leading clusters, and what
goes on with it in the next piece of text leaves nothing; whether a cut word is open is a matter of the
units before (`Atom.cutAfter`).

`pour_keeps` says so of everything that flows in, as long as there is room for another line. -/
namespace TextPane

/-! ### Units and controls in turn -/

/-- A unit of a piece of text, which it may open, or a control. -/
inductive Atom where
  | unit (opens : Bool) (u : WrapUnit)
  | control (c : Control)

namespace Atom

/-- The units of a piece of text, the first of which opens it if that is said. -/
def ofUnits (opens : Bool) : List WrapUnit → List Atom
  | [] => []
  | u :: rest => .unit opens u :: ofUnits false rest

def marks : Atom → List Mark
  | .unit _ u => u.text.map .char
  | .control c => [.control c]

/-- Whether a word that was cut is open behind an atom, when it was or was not before. -/
def cutAfter (width : Nat) (cut : Bool) : Atom → Bool
  | .control _ => cut
  | .unit opens u =>
    match u.kind with
    | .word => (opens && cut) || decide (width < Text.charsWidth u.text)
    | .space | .newline => false

def cutAfterAll (width : Nat) (cut : Bool) (as : List Atom) : Bool := as.foldl (cutAfter width) cut

/-- Marks that are whole leading clusters of a text. -/
def Leading (text : List Char) (kept : List Mark) : Prop :=
  ∃ leading, leading <+: Text.clusters text ∧ kept = leading.flatten.map .char

/-- What an atom may leave on a line of this width. `cut` says whether a cut word is open. -/
def Keeps (width : Nat) (cut : Bool) (kept : List Mark) : Atom → Prop
  | .control c => kept = [.control c]
  | .unit opens u =>
    match u.kind with
    | .newline => kept = []
    | .space => Leading u.text kept
    | .word =>
      if opens && cut then kept = []
      else if Text.charsWidth u.text ≤ width then kept = u.text.map .char
      else Leading u.text kept

end Atom

namespace Inflow

def atoms : Inflow → List Atom
  | .text s => Atom.ofUnits true (WrapUnit.ofChars s.toList)
  | .control c => [.control c]

def marks : Inflow → List Mark
  | .text s => s.toList.map .char
  | .control c => [.control c]

end Inflow

/-- An atom and what it leaves on a line. -/
structure Part where
  atom : Atom
  kept : List Mark

namespace Part

/-- What the parts leave, in order. -/
def keptOf (parts : List Part) : List Mark := parts.flatMap kept

/-- Every part leaves what it may, with the cut word open that the ones before it leave open. -/
def Lawful (width : Nat) (cut : Bool) : List Part → Prop
  | [] => True
  | p :: rest => p.atom.Keeps width cut p.kept ∧ Lawful width (p.atom.cutAfter width cut) rest

end Part

namespace Atom

theorem Leading.nil (text : List Char) : Leading text [] := ⟨[], List.nil_prefix, rfl⟩

theorem Leading.all (text : List Char) : Leading text (text.map .char) :=
  ⟨Text.clusters text, List.prefix_rfl, by rw [Text.flatten_clusters]⟩

theorem Leading.beginning {text : List Char} {kept : List Mark} (h : Leading text kept) :
    kept <+: text.map .char := by
  obtain ⟨leading, hpre, rfl⟩ := h
  exact (Text.flatten_prefix hpre).map _

/-- What an atom leaves is the beginning of it. -/
theorem Keeps.beginning {width : Nat} {cut : Bool} {kept : List Mark} {a : Atom}
    (h : a.Keeps width cut kept) : kept <+: a.marks := by
  cases a with
  | control c =>
    have hkept : kept = [.control c] := h
    exact hkept ▸ List.prefix_rfl
  | unit opens u =>
    unfold Keeps at h
    unfold marks
    simp only at h
    split at h
    · rw [h]
      exact List.nil_prefix
    · exact h.beginning
    split at h
    · rw [h]
      exact List.nil_prefix
    split at h
    · exact h ▸ List.prefix_rfl
    · exact h.beginning

theorem flatMap_marks_ofUnits (opens : Bool) (us : List WrapUnit) :
    (ofUnits opens us).flatMap marks = (us.flatMap WrapUnit.text).map .char := by
  induction us generalizing opens with
  | nil => rfl
  | cons u rest ih => simp [ofUnits, ih, marks]

theorem cutAfterAll_append (width : Nat) (cut : Bool) (as bs : List Atom) :
    cutAfterAll width cut (as ++ bs) = cutAfterAll width (cutAfterAll width cut as) bs :=
  List.foldl_append

end Atom

/-- The units and controls put together are the text and controls. -/
theorem Inflow.flatMap_marks_atoms (i : Inflow) : i.atoms.flatMap Atom.marks = i.marks := by
  cases i with
  | text s => rw [atoms, Atom.flatMap_marks_ofUnits, WrapUnit.flatMap_ofChars, marks]
  | control c => rfl

namespace Part

theorem lawful_concat {width : Nat} {cut : Bool} {parts : List Part} {p : Part}
    (h : Lawful width cut parts)
    (hp : p.atom.Keeps width (Atom.cutAfterAll width cut (parts.map atom)) p.kept) :
    Lawful width cut (parts ++ [p]) := by
  induction parts generalizing cut with
  | nil => exact ⟨hp, trivial⟩
  | cons q rest ih => exact ⟨h.1, ih h.2 hp⟩

/-- What parts leave are marks of their atoms, in order. -/
theorem sublist_marks {width : Nat} {cut : Bool} {parts : List Part} (h : Lawful width cut parts) :
    (keptOf parts).Sublist ((parts.map atom).flatMap Atom.marks) := by
  induction parts generalizing cut with
  | nil => exact List.Sublist.refl _
  | cons p rest ih => exact h.1.beginning.sublist.append (ih h.2)

theorem keptOf_append (a b : List Part) : keptOf (a ++ b) = keptOf a ++ keptOf b :=
  List.flatMap_append

end Part

namespace Flow
open TextPane.Part (keptOf Lawful)

/-- Whether a cut word is open behind everything so far. -/
def openCut (f : Flow) : Bool := f.endedInWord && f.cut

/-- The lines taken and the line being filled hold what these atoms leave, each on one of them. -/
structure Holds (f : Flow) (as : List Atom) (runs : List (List Part)) (current : List Part) :
    Prop where
  atoms : (runs.flatten ++ current).map Part.atom = as
  lawful : Lawful f.bounds.width false (runs.flatten ++ current)
  lines : f.lines.map Line.marks = runs.map keptOf
  line : f.line.marks = keptOf current
  cut : f.openCut = Atom.cutAfterAll f.bounds.width false as

/-- The lines hold what the atoms leave. -/
def Held (f : Flow) (as : List Atom) : Prop := ∃ runs current, f.Holds as runs current

/-- Marks go on the line being filled; whether a cut word is open then is not said. -/
structure Puts (f f' : Flow) (kept : List Mark) : Prop where
  bounds : f'.bounds = f.bounds
  lines : f'.lines = f.lines
  line : f'.line.marks = f.line.marks ++ kept

theorem held_start (bounds : Size) : (start bounds).Held [] := ⟨[], [], rfl, trivial, rfl, rfl, rfl⟩

/-- The flow once a line was taken. -/
theorem lines_breakLine {f : Flow} (hfull : f.full = false) :
    (f.breakLine takesAll).1.lines = f.lines ++ [f.line] := by
  rw [breakLine_taken takesAll f hfull rfl, lines_cons _ _ _ rfl]
  rfl

theorem Holds.breakLine {f : Flow} {as : List Atom} {runs : List (List Part)} {current : List Part}
    (h : f.Holds as runs current) (hfull : f.full = false) :
    (f.breakLine takesAll).1.Holds as (runs ++ [current]) [] := by
  have hparts : (runs ++ [current]).flatten ++ [] = runs.flatten ++ current := by simp
  refine ⟨?_, ?_, ?_, ?_, ?_⟩
  · rw [hparts, h.atoms]
  · rw [hparts, breakLine_bounds]
    exact h.lawful
  · rw [lines_breakLine hfull]
    simp [h.lines, h.line]
  · rw [breakLine_line takesAll f hfull]
    rfl
  · rw [breakLine_taken takesAll f hfull rfl]
    exact h.cut

theorem Held.breakLine {f : Flow} {as : List Atom} (h : f.Held as) (hfull : f.full = false) :
    (f.breakLine takesAll).1.Held as := by
  obtain ⟨runs, current, hholds⟩ := h
  exact ⟨_, _, hholds.breakLine hfull⟩

/-- An atom that leaves on the line what it may is held. -/
theorem Held.puts {f f' : Flow} {as : List Atom} {a : Atom} (kept : List Mark) (h : f.Held as)
    (hputs : Puts f f' kept) (hkeeps : a.Keeps f.bounds.width f.openCut kept)
    (hcut : f'.openCut = a.cutAfter f.bounds.width f.openCut) : f'.Held (as ++ [a]) := by
  obtain ⟨runs, current, hatoms, hlawful, hlines, hline, hopen⟩ := h
  refine ⟨runs, current ++ [⟨a, kept⟩], ?_, ?_, ?_, ?_, ?_⟩
  · rw [← List.append_assoc, List.map_append, hatoms]
    rfl
  · rw [hputs.bounds, ← List.append_assoc]
    refine Part.lawful_concat hlawful ?_
    rw [hatoms, ← hopen]
    exact hkeeps
  · rw [hputs.lines, hlines]
  · rw [hputs.line, hline, Part.keptOf_append]
    simp [keptOf]
  · rw [hcut, hputs.bounds, Atom.cutAfterAll_append, ← hopen]
    rfl

/-! ### What a unit leaves -/

theorem puts_nothing (f : Flow) : Puts f f [] := ⟨rfl, rfl, (List.append_nil _).symm⟩

theorem puts_append (f : Flow) (text : List Char) (width : Nat) :
    Puts f (f.append text width) (text.map .char) :=
  ⟨rfl, rfl, by simp [append]⟩

theorem puts_appendCut (f : Flow) (text : List Char) :
    ∃ kept, Atom.Leading text kept ∧ Puts f (f.appendCut text) kept := by
  obtain ⟨leading, hpre, htaken, _⟩ := Text.fitClusters_eq f.room (Text.clusters text)
  refine ⟨_, ⟨leading, hpre, rfl⟩, ?_⟩
  rw [appendCut_eq, htaken]
  exact ⟨rfl, rfl, by simp⟩

/-- What is known once a unit was placed: there is no room any more, or some of the unit went on the
line, or on the next one, with as much of it as `kept` allows. -/
def Placed (f f' : Flow) (as : List Atom) (kept : List Mark → Prop) : Prop :=
  f'.full = true ∨
    ∃ g marks, g.Held as ∧ g.bounds = f.bounds ∧ g.openCut = f.openCut ∧ kept marks ∧ Puts g f' marks

section Place
variable {f : Flow} {as : List Atom}

/-- A line that is broken off is taken, and what was held still is. -/
theorem Held.breakLine_eq (h : f.Held as) (hfull : f.full = false) :
    ∃ g, f.breakLine takesAll = (g, true) ∧ g.Held as ∧ g.bounds = f.bounds ∧
      g.openCut = f.openCut := by
  have hheld := h.breakLine hfull
  rw [breakLine_taken takesAll f hfull rfl] at hheld ⊢
  exact ⟨_, rfl, hheld, rfl, rfl⟩

/-- Of blanks a beginning is left, if anything. -/
theorem Held.place_space (h : f.Held as) (hfull : f.full = false) (text : List Char) :
    ∃ f', f.place takesAll true text = (f', true) ∧ Placed f f' as (Atom.Leading text) := by
  obtain ⟨g, hbroken, hheld, hbounds, hopen⟩ := h.breakLine_eq hfull
  unfold place
  simp only [hbroken, or_true, if_true]
  split
  · exact ⟨f, rfl, .inr ⟨f, [], h, rfl, rfl, .nil text, puts_nothing f⟩⟩
  split
  · exact ⟨_, rfl, .inr ⟨f, _, h, rfl, rfl, .all text, puts_append f text _⟩⟩
  split
  · exact ⟨g, rfl, .inr ⟨g, [], hheld, hbounds, hopen, .nil text, puts_nothing g⟩⟩
  · obtain ⟨kept, hleading, hputs⟩ := puts_appendCut f text
    exact ⟨_, rfl, .inr ⟨f, kept, h, rfl, rfl, hleading, hputs⟩⟩

/-- A word that fits is left whole, and of a wider one a beginning, and then it is cut. -/
theorem Held.place_word (h : f.Held as) (hfull : f.full = false) (text : List Char) :
    ∃ f', f.place takesAll false text = (f', true) ∧ Placed f f' as fun kept =>
      f'.cut = decide (f.bounds.width < Text.charsWidth text) ∧
        if Text.charsWidth text ≤ f.bounds.width then kept = text.map .char
        else Atom.Leading text kept := by
  obtain ⟨g, hbroken, hheld, hbounds, hopen⟩ := h.breakLine_eq hfull
  have hroom : f.room ≤ f.bounds.width := Nat.sub_le ..
  unfold place
  simp only [hbroken, hbounds, Bool.false_eq_true, false_and, if_false, or_false]
  split
  · next hfits =>
    have hw : Text.charsWidth text ≤ f.bounds.width := Nat.le_trans hfits hroom
    refine ⟨_, rfl, .inr ⟨f, _, h, rfl, rfl, ⟨?_, if_pos hw ▸ rfl⟩, puts_append f text _⟩⟩
    simp [append, hw]
  split
  · split
    · next hgfull => exact ⟨g, rfl, .inl hgfull⟩
    split
    · next hw =>
      refine ⟨_, rfl, .inr ⟨g, _, hheld, hbounds, hopen, ⟨?_, rfl⟩, puts_append g text _⟩⟩
      simp [append, hw]
    · next hw =>
      obtain ⟨kept, hleading, hputs⟩ := puts_appendCut g text
      refine ⟨_, rfl, .inr ⟨g, kept, hheld, hbounds, hopen, ⟨?_, hleading⟩, hputs⟩⟩
      rw [appendCut_eq]
      simpa using hw
  · next hwide =>
    have hw : ¬Text.charsWidth text ≤ f.bounds.width := fun h => hwide (.inl h)
    obtain ⟨kept, hleading, hputs⟩ := puts_appendCut f text
    refine ⟨_, rfl, .inr ⟨f, kept, h, rfl, rfl, ⟨?_, ?_⟩, hputs⟩⟩
    · rw [appendCut_eq]
      simpa using hw
    · rwa [if_neg hw]

end Place

/-- A unit that flows in is held, as long as there is room for another line. -/
theorem Held.pushUnit {f : Flow} {as : List Atom} (h : f.Held as) (hfull : f.full = false)
    (opens : Bool) (u : WrapUnit) :
    ∃ f', f.pushUnit takesAll opens u = (f', true) ∧
      (f'.full = true ∨ f'.Held (as ++ [.unit opens u])) := by
  unfold Flow.pushUnit
  cases hkind : u.kind with
  | newline =>
    obtain ⟨g, hbroken, hheld, hbounds, hopen⟩ := h.breakLine_eq hfull
    simp only [hbroken, if_true]
    refine ⟨_, rfl, .inr (hheld.puts [] ⟨rfl, rfl, (List.append_nil _).symm⟩ ?_ ?_)⟩
    · simp [Atom.Keeps, hkind]
    · simp [openCut, Atom.cutAfter, hkind]
  | space =>
    obtain ⟨f', hplace, hplaced⟩ := h.place_space hfull u.text
    simp only [hplace, if_true]
    refine ⟨_, rfl, hplaced.imp id fun ⟨g, kept, hheld, hbounds, hopen, hleading, hputs⟩ => ?_⟩
    refine hheld.puts kept ⟨hputs.bounds, hputs.lines, hputs.line⟩ ?_ ?_
    · simpa [Atom.Keeps, hkind] using hleading
    · simp [openCut, Atom.cutAfter, hkind]
  | word =>
    by_cases hgoesOn : opens = true ∧ f.endedInWord = true ∧ f.cut = true
    · -- The unit goes on with a word that was cut.
      obtain ⟨hopens, hended, hcut⟩ := hgoesOn
      have hopen : f.openCut = true := by simp [openCut, hended, hcut]
      simp only [hopens, hended, hcut, and_self, if_true]
      refine ⟨_, rfl, .inr (h.puts [] ⟨rfl, rfl, (List.append_nil _).symm⟩ ?_ ?_)⟩
      · simp [Atom.Keeps, hkind, hopen]
      · simp [openCut, Atom.cutAfter, hkind, hended, hcut]
    · have hnot : (opens && f.openCut) = false := by simpa [openCut] using hgoesOn
      obtain ⟨f', hplace, hplaced⟩ := h.place_word hfull u.text
      simp only [hgoesOn, if_false, hplace, if_true]
      refine ⟨_, rfl, hplaced.imp id ?_⟩
      rintro ⟨g, kept, hheld, hbounds, hopen, ⟨hcut, hkept⟩, hputs⟩
      refine hheld.puts kept ⟨hputs.bounds, hputs.lines, hputs.line⟩ ?_ ?_
      · simpa only [Atom.Keeps, hkind, hopen, hnot, hbounds, Bool.false_eq_true, if_false] using hkept
      · simp only [openCut, Atom.cutAfter, hkind, hcut, hbounds, decide_true, Bool.true_and]
        rw [← openCut, hopen, hnot, Bool.false_or]

/-! ### What everything leaves -/

/-- There is no room for another line, or the lines hold what the atoms leave. -/
def FullOrHeld (f : Flow) (as : List Atom) : Prop := f.full = true ∨ f.Held as

theorem Held.touch {f : Flow} {as : List Atom} (h : f.Held as) :
    { f with touched := true }.Held as := by
  obtain ⟨runs, current, hatoms, hlawful, hlines, hline, hcut⟩ := h
  exact ⟨runs, current, hatoms, hlawful, hlines, hline, hcut⟩

theorem FullOrHeld.pushUnits {f : Flow} {as : List Atom} (h : f.FullOrHeld as) (opens : Bool)
    (us : List WrapUnit) :
    (f.pushUnits takesAll opens us).1.FullOrHeld (as ++ Atom.ofUnits opens us) := by
  induction us generalizing f as opens with
  | nil => simpa [Flow.pushUnits, Atom.ofUnits] using h
  | cons u rest ih =>
    unfold Flow.pushUnits
    cases hfull : f.full
    · have hheld : f.Held as := h.resolve_left (by simp [hfull])
      obtain ⟨f', hpush, hf'⟩ := hheld.pushUnit hfull opens u
      have hrest := ih hf' false
      simp only [Bool.false_eq_true, if_false, hpush]
      simpa [Atom.ofUnits] using hrest
    · exact .inl hfull

theorem FullOrHeld.pushText {f : Flow} {as : List Atom} (h : f.FullOrHeld as) (s : String) :
    (f.pushText takesAll s).1.FullOrHeld (as ++ (Inflow.text s).atoms) := by
  unfold Flow.pushText
  split
  · next hempty =>
    simpa [Inflow.atoms, WrapUnit.ofChars, Atom.ofUnits, String.isEmpty_iff.mp hempty] using h
  · have htouch : { f with touched := true }.FullOrHeld as := h.imp id Held.touch
    exact htouch.pushUnits true _

theorem FullOrHeld.pushControl {f : Flow} {as : List Atom} (h : f.FullOrHeld as) (c : Control) :
    (f.pushControl c).FullOrHeld (as ++ [.control c]) := by
  unfold Flow.pushControl
  cases hfull : f.full
  · have hheld : f.Held as := h.resolve_left (by simp [hfull])
    simp only [Bool.false_eq_true, if_false]
    exact .inr (hheld.puts [.control c] ⟨rfl, rfl, Line.marks_pushControl ..⟩ rfl rfl)
  · exact .inl rfl

theorem FullOrHeld.pour {f : Flow} {as : List Atom} (h : f.FullOrHeld as) (ins : List Inflow) :
    (f.pour takesAll ins).FullOrHeld (as ++ ins.flatMap Inflow.atoms) := by
  induction ins generalizing f as with
  | nil =>
    rw [List.flatMap_nil, List.append_nil]
    exact h
  | cons i rest ih =>
    have hi : (f.take takesAll i).FullOrHeld (as ++ i.atoms) := by
      cases i with
      | text s => exact h.pushText s
      | control c => exact h.pushControl c
    have hrest := ih hi
    rw [List.append_assoc, ← List.flatMap_cons] at hrest
    exact hrest

/-- With the last line offered, all that leaves anything leaves it on a line. -/
theorem Held.finish {f : Flow} {as : List Atom} (h : f.Held as) (hfull : f.full = false) :
    ∃ runs rest, (f.finish takesAll).1.Holds as runs rest ∧ ∀ p ∈ rest, p.kept = [] := by
  obtain ⟨runs, current, hholds⟩ := h
  unfold Flow.finish
  split
  · next hempty =>
    refine ⟨runs, current, hholds, fun p hp => ?_⟩
    have hmarks : f.line.marks = [] := by
      rw [Line.marks, List.isEmpty_iff.mp hempty.1]
      rfl
    rw [hholds.line] at hmarks
    exact List.flatMap_eq_nil_iff.mp hmarks p hp
  · exact ⟨runs ++ [current], [], hholds.breakLine hfull, fun p hp => absurd hp List.not_mem_nil⟩

/-- **No word is lost.** While there is room for another line, everything that flowed in falls into
parts, in order, and each line taken holds what a run of them leaves: all of a word that fits the
bounds unless it goes on with one that was cut, leading clusters of a wider one, every control, and of
line ends and blanks nothing more than a beginning. -/
theorem pour_keeps (bounds : Size) (ins : List Inflow) (hbounds : bounds.isEmpty = false) :
    let f := (((start bounds).pour takesAll ins).finish takesAll).1
    f.lines.length < bounds.height →
    ∃ (runs : List (List Part)) (rest : List Part),
      (runs.flatten ++ rest).map Part.atom = ins.flatMap Inflow.atoms ∧
      Lawful bounds.width false (runs.flatten ++ rest) ∧
      f.lines.map Line.marks = runs.map keptOf ∧
      (∀ p ∈ rest, p.kept = []) ∧
      (f.lines.flatMap Line.marks).Sublist (ins.flatMap Inflow.marks) := by
  intro f hroom
  have hstable := stable_counted takesAll bounds
  have hcounted : Counted bounds ((start bounds).pour takesAll ins) :=
    hstable.pour ins (fun _ _ _ _ => trivial) (fun _ _ => trivial) _ (counted_start bounds)
  have hfull : ((start bounds).pour takesAll ins).full = false := by
    apply Bool.eq_false_iff.mpr
    intro hfull
    have hfinish : f = (start bounds).pour takesAll ins := by
      simp only [f, finish, breakLine, hfull, if_true, ite_self]
    have hheight : bounds.height ≤ ((start bounds).pour takesAll ins).count := by
      simpa [hcounted.full, hbounds] using hfull
    rw [hfinish, ← hcounted.count] at hroom
    exact Nat.not_lt.mpr hheight hroom
  have hheld : FullOrHeld _ _ := FullOrHeld.pour (.inr (held_start bounds)) ins
  obtain ⟨runs, rest, hholds, hrest⟩ := (hheld.resolve_left (by simp [hfull])).finish hfull
  have hf : f.bounds = bounds := (hstable.finish _ hcounted).bounds
  have hlawful : Lawful bounds.width false (runs.flatten ++ rest) := hf ▸ hholds.lawful
  refine ⟨runs, rest, hholds.atoms, hlawful, hholds.lines, hrest, ?_⟩
  calc f.lines.flatMap Line.marks
      = keptOf runs.flatten := by
        rw [List.flatMap_def, hholds.lines, keptOf, List.flatMap_def, List.map_flatten,
          List.flatten_flatten, List.map_map]
        rfl
    _ = keptOf (runs.flatten ++ rest) := by
        rw [Part.keptOf_append, keptOf, keptOf, List.flatMap_eq_nil_iff.mpr hrest, List.append_nil]
    List.Sublist _ ((ins.flatMap Inflow.atoms).flatMap Atom.marks) := by
        have hsublist := Part.sublist_marks hlawful
        rwa [hholds.atoms] at hsublist
    _ = ins.flatMap Inflow.marks := by
        simp only [List.flatMap_assoc, Inflow.flatMap_marks_atoms]

/-- Six letters in four columns: one of them is left behind "ab", and "gh" goes on with them. -/
theorem pour_keeps_cut_word :
    let ins : List Inflow := [.text "ab abcdef", .control .hideCursor, .text "gh ij"]
    let f := (((start ⟨4, 3⟩).pour takesAll ins).finish takesAll).1
    Size.isEmpty ⟨4, 3⟩ = false ∧ f.lines.length < 3 ∧
      f.lines.map Line.text = ["ab a", "ij"] ∧
      ∃ (runs : List (List Part)) (rest : List Part),
        (runs.flatten ++ rest).map Part.atom = ins.flatMap Inflow.atoms ∧
        Lawful 4 false (runs.flatten ++ rest) ∧
        f.lines.map Line.marks = runs.map keptOf ∧
        (∀ p ∈ rest, p.kept = []) ∧
        (f.lines.flatMap Line.marks).Sublist (ins.flatMap Inflow.marks) :=
  ⟨rfl, by decide +kernel, by decide +kernel, pour_keeps ⟨4, 3⟩ _ rfl (by decide +kernel)⟩

end Flow

end TextPane
