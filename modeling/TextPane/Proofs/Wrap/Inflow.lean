import TextPane.Wrap.Measure

/-! What flows into lines.

A span flows into lines as the texts and controls of its leaves, in order (`Flow.ofSpan_eq`). So what
is said of flows is said for lists of texts and controls, and holds for spans.

Placing a unit comes down to a few moves: a line is broken off, a unit is put on the line, or as much
of one as fits. What all moves keep is kept by everything that flows in (`Stable.pour`). -/
namespace TextPane

/-- A piece of text or a control. -/
inductive Inflow where
  | text (s : String)
  | control (c : Control)
deriving DecidableEq, Repr

namespace Span

mutual

/-- The texts and controls of a span, in order. -/
def inflows : Span → List Inflow
  | .empty => []
  | .content text _ => [.text text]
  | .container children _ => inflowsAll children
  | .control c => [.control c]
  | .host h => [.text h.text]

def inflowsAll : List Span → List Inflow
  | [] => []
  | s :: rest => s.inflows ++ inflowsAll rest

end

end Span

namespace Flow

/-- Takes one of them in. -/
def take (refuses : Nat → Bool) (f : Flow) : Inflow → Flow
  | .text s => (f.pushText refuses s).1
  | .control c => f.pushControl c

/-- Takes in one after the other, whether lines are refused or not. -/
def pour (refuses : Nat → Bool) (f : Flow) (ins : List Inflow) : Flow := ins.foldl (take refuses) f

theorem pour_append (refuses : Nat → Bool) (f : Flow) (a b : List Inflow) :
    f.pour refuses (a ++ b) = (f.pour refuses a).pour refuses b := List.foldl_append

/-! ### Spans -/

mutual

theorem walk_eq (f : Flow) : (s : Span) → ((visitor.walk s).run f).2 = f.pour takesAll s.inflows
  | .empty | .content .. | .control _ | .host _ => rfl
  | .container children _ => walkAll_eq f children

theorem walkAll_eq (f : Flow) :
    (ss : List Span) → ((visitor.walkAll ss).run f).2 = f.pour takesAll (Span.inflowsAll ss)
  | [] => rfl
  | s :: rest => by
    rw [Span.inflowsAll, pour_append, ← walk_eq f s, ← walkAll_eq _ rest]
    rfl

end

/-- The flow at the end of a span is that of its texts and controls. -/
theorem ofSpan_eq (bounds : Size) (s : Span) :
    ofSpan bounds s = (((start bounds).pour takesAll s.inflows).finish takesAll).1 := by
  rw [← walk_eq]
  rfl

/-! ### Breaking a line off -/

section Break
variable (refuses : Nat → Bool) (f : Flow)

@[simp] theorem breakLine_bounds : (f.breakLine refuses).1.bounds = f.bounds := by
  unfold breakLine
  split
  · rfl
  · simp only
    split <;> rfl

theorem breakLine_line (h : f.full = false) : (f.breakLine refuses).1.line = {} := by
  unfold breakLine
  simp only [h, Bool.false_eq_true, if_false]
  split <;> rfl

/-- A line that is taken is counted. -/
theorem breakLine_taken (h : f.full = false) (hr : refuses f.offers.length = false) :
    f.breakLine refuses =
      ({ f with
          line := {}
          offers := ⟨f.count, f.line, true⟩ :: f.offers
          count := f.count + 1
          widest := max f.widest f.line.width
          full := decide (f.bounds.height ≤ f.count + 1) }, true) := by
  simp [breakLine, h, hr]

/-- A line that is refused is lost. -/
theorem breakLine_refused (h : f.full = false) (hr : refuses f.offers.length = true) :
    f.breakLine refuses =
      ({ f with line := {}, offers := ⟨f.count, f.line, false⟩ :: f.offers }, false) := by
  simp [breakLine, h, hr]

end Break

/-! ### What all moves keep -/

/-- A unit may go on the line being filled: it is a word, or a run of blanks that does not open the
line. -/
def Admits (f : Flow) (u : WrapUnit) : Prop :=
  u.kind = .word ∨ u.kind = .space ∧ f.line.width ≠ 0

theorem Admits.ne_newline {f : Flow} {u : WrapUnit} (h : f.Admits u) : u.kind ≠ .newline := by
  rcases h with h | ⟨h, _⟩ <;> simp [h]

/-- `P` is kept by every move of a flow into which words and blanks flow that are as `U` says, and
controls that are as `K` says. -/
structure Stable (refuses : Nat → Bool) (U : WrapUnit → Prop) (K : Control → Prop)
    (P : Flow → Prop) : Prop where
  breakLine : ∀ f, P f → f.full = false → P (f.breakLine refuses).1
  append : ∀ f u, P f → U u → f.Admits u → Text.charsWidth u.text ≤ f.room →
    P (f.append u.text (Text.charsWidth u.text))
  appendCut : ∀ f u, P f → U u → f.Admits u → P (f.appendCut u.text)
  control : ∀ f c, P f → K c → P { f with line := f.line.pushControl c }
  flags : ∀ f endedInWord cut touched, P f → P { f with endedInWord, cut, touched }

namespace Stable
variable {refuses : Nat → Bool} {U : WrapUnit → Prop} {K : Control → Prop} {P : Flow → Prop}

theorem breakLine' (hP : Stable refuses U K P) (f : Flow) (h : P f) : P (f.breakLine refuses).1 := by
  cases hf : f.full
  · exact hP.breakLine f h hf
  · simpa [Flow.breakLine, hf] using h

theorem place (hP : Stable refuses U K P) (f : Flow) (u : WrapUnit) (isSpace : Bool) (h : P f)
    (hU : U u) (hkind : u.kind = if isSpace then .space else .word) :
    P (f.place refuses isSpace u.text).1 := by
  unfold Flow.place
  simp only
  split
  · exact h
  next hopens =>
  have hadmits : f.Admits u := by
    cases isSpace
    · exact .inl hkind
    · exact .inr ⟨hkind, fun hwidth => hopens ⟨rfl, hwidth⟩⟩
  split
  · next hfits => exact hP.append f u h hU hadmits hfits
  split
  · -- A line is broken off; if it was taken, the unit is put on the line that opens.
    have hb := hP.breakLine' f h
    cases hfull : f.full
    · have hline := breakLine_line refuses f hfull
      have hbounds := breakLine_bounds refuses f
      generalize f.breakLine refuses = broken at hb hline hbounds
      obtain ⟨f', _ | _⟩ := broken
      · exact hb
      · dsimp only at hb hline hbounds ⊢
        split
        · exact hb
        next hword =>
        have hadmits : f'.Admits u := .inl (by rw [hkind, if_neg fun h => hword (.inr h)])
        split
        · next hw =>
          exact hP.append f' u hb hU hadmits (by simpa [room, hline, hbounds] using hw)
        · exact hP.appendCut f' u hb hU hadmits
    · simpa [Flow.breakLine, hfull] using h
  · exact hP.appendCut f u h hU hadmits

theorem pushUnit (hP : Stable refuses U K P) (isFirst : Bool) (f : Flow) (u : WrapUnit) (h : P f)
    (hU : U u) : P (f.pushUnit refuses isFirst u).1 := by
  have hflags (g : Flow × Bool) (hg : P g.1) :
      P (if g.2 then { g.1 with endedInWord := u.kind = .word } else g.1) := by
    split
    · exact hP.flags g.1 _ g.1.cut g.1.touched hg
    · exact hg
  unfold Flow.pushUnit
  apply hflags
  split
  · simp only
    split
    · exact hP.flags _ (f.breakLine refuses).1.endedInWord false _ (hP.breakLine' f h)
    · exact hP.breakLine' f h
  · next hkind =>
    split
    · exact h
    · exact hP.place f u false h hU hkind
  · next hkind => exact hP.place f u true h hU hkind

theorem pushUnits (hP : Stable refuses U K P) (us : List WrapUnit) (hU : ∀ u ∈ us, U u)
    (isFirst : Bool) (f : Flow) (h : P f) : P (f.pushUnits refuses isFirst us).1 := by
  induction us generalizing isFirst f with
  | nil => exact h
  | cons u rest ih =>
    have hu := hP.pushUnit isFirst f u h (hU u (List.mem_cons_self ..))
    unfold Flow.pushUnits
    split
    · exact h
    generalize f.pushUnit refuses isFirst u = pushed at hu
    obtain ⟨f', _ | _⟩ := pushed
    · exact hu
    · exact ih (fun v hv => hU v (List.mem_cons_of_mem u hv)) false f' hu

theorem pushText (hP : Stable refuses U K P) (f : Flow) (s : String) (h : P f)
    (hU : ∀ u ∈ WrapUnit.ofChars s.toList, U u) : P (f.pushText refuses s).1 := by
  unfold Flow.pushText
  split
  · exact h
  · exact hP.pushUnits _ hU true _ (hP.flags f f.endedInWord f.cut true h)

theorem pushControl (hP : Stable refuses U K P) (f : Flow) (c : Control) (h : P f) (hK : K c) :
    P (f.pushControl c) := by
  have ht := hP.flags f f.endedInWord f.cut true h
  unfold Flow.pushControl
  simp only
  split
  · exact ht
  · exact hP.control _ c ht hK

theorem pour (hP : Stable refuses U K P) (ins : List Inflow)
    (hU : ∀ s, .text s ∈ ins → ∀ u ∈ WrapUnit.ofChars s.toList, U u)
    (hK : ∀ c, .control c ∈ ins → K c) (f : Flow) (h : P f) : P (f.pour refuses ins) := by
  induction ins generalizing f with
  | nil => exact h
  | cons i rest ih =>
    refine ih (fun s hs => hU s (List.mem_cons_of_mem i hs))
      (fun c hc => hK c (List.mem_cons_of_mem i hc)) _ ?_
    cases i with
    | text s => exact hP.pushText f s h (hU s (List.mem_cons_self ..))
    | control c => exact hP.pushControl f c h (hK c (List.mem_cons_self ..))

theorem finish (hP : Stable refuses U K P) (f : Flow) (h : P f) : P (f.finish refuses).1 := by
  unfold Flow.finish
  split
  · exact h
  · exact hP.breakLine' f h

end Stable

end Flow

end TextPane
