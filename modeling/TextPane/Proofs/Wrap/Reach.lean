import TextPane.Proofs.Wrap.Atoms
import TextPane.Proofs.Wrap.Fitting

/-! How far a flow gets.

While text flows in, the lines taken and the line being filled reach a size that only grows
(`Flow.stable_reach`), up to the size that is measured in the end (`Flow.reach_within_ends`). So what a
flow will have measured bounds everything before (`Flow.Under`).

A unit does one of four things to a flow (`Flow.Pushes`): it is left out, it goes on the line whole, it is
cut to the rest of the line, or the line is broken for it. -/
namespace TextPane

namespace Size

/-- No wider and no higher. -/
structure Within (a b : Size) : Prop where
  width : a.width ≤ b.width
  height : a.height ≤ b.height

theorem Within.refl (a : Size) : a.Within a := ⟨Nat.le_refl _, Nat.le_refl _⟩

theorem Within.trans {a b c : Size} (hab : a.Within b) (hbc : b.Within c) : a.Within c :=
  ⟨Nat.le_trans hab.width hbc.width, Nat.le_trans hab.height hbc.height⟩

theorem Within.antisymm {a b : Size} (hab : a.Within b) (hba : b.Within a) : a = b := by
  show Size.mk a.width a.height = ⟨b.width, b.height⟩
  rw [Nat.le_antisymm hab.width hba.width, Nat.le_antisymm hab.height hba.height]

end Size

namespace Line

theorem isEmpty_pushText (line : Line) (s : String) (width : Nat) :
    (line.pushText s width).isEmpty = (line.isEmpty && s.isEmpty) := by
  have happend (fs : List Fragment) : (appendText s fs).isEmpty = false := by
    fun_cases appendText s fs <;> rfl
  unfold pushText
  cases hs : s.isEmpty
  · simp [isEmpty, happend]
  · simp

theorem le_width_pushText (line : Line) (s : String) (width : Nat) :
    line.width ≤ (line.pushText s width).width := by
  unfold pushText
  split
  · exact Nat.le_refl _
  · exact Nat.le_add_right ..

end Line

namespace Flow

/-! ### What is known of a flow -/

/-- A line that holds nothing takes no columns. -/
theorem stable_blank :
    Stable takesAll (fun _ => True) (fun _ => True)
      fun f => f.line.isEmpty = true → f.line.width = 0 := by
  have hput (line : Line) (s : String) (width : Nat) (h : line.isEmpty = true → line.width = 0)
      (hempty : (line.pushText s width).isEmpty = true) : (line.pushText s width).width = 0 := by
    rw [Line.isEmpty_pushText, Bool.and_eq_true] at hempty
    rw [Line.pushText, if_pos hempty.2]
    exact h hempty.1
  refine ⟨fun f _ hfull _ => ?_, fun f u h _ _ _ => hput _ _ _ h, fun f u h _ _ => hput _ _ _ h,
    fun f c _ _ hempty => ?_, fun _ _ _ _ h => h⟩
  · rw [breakLine_line takesAll f hfull]
  · simp [Line.isEmpty, Line.pushControl] at hempty

/-- What is known of a flow within limits. -/
structure Sound (limit : Size) (f : Flow) : Prop where
  counted : Counted limit f
  every : Every (·.width ≤ limit.width) f
  blank : f.line.isEmpty = true → f.line.width = 0

namespace Sound
variable {limit : Size} {f : Flow}

theorem start (limit : Size) : Sound limit (start limit) :=
  ⟨counted_start limit, ⟨Nat.zero_le _, fun _ ho => absurd ho List.not_mem_nil⟩, fun _ => rfl⟩

theorem absorbAll (h : Sound limit f) (as : List Atom) : Sound limit (f.absorbAll as) where
  counted := (stable_counted takesAll limit).absorbAll as f h.counted
  every := ((stable_width takesAll limit).absorbAll as f ⟨h.counted.bounds, h.every⟩).2
  blank := stable_blank.absorbAll as f h.blank

theorem finish (h : Sound limit f) : Sound limit (f.finish takesAll).1 where
  counted := (stable_counted takesAll limit).finish f h.counted
  every := ((stable_width takesAll limit).finish f ⟨h.counted.bounds, h.every⟩).2
  blank := stable_blank.finish f h.blank

/-- No more was taken than the limits allow. -/
theorem size (h : Sound limit f) : f.size.Within limit :=
  ⟨by
    show f.widest ≤ _
    rw [h.counted.widest]
    exact Line.widest_le h.every.lines, h.counted.height⟩

theorem room_add (h : Sound limit f) : f.room + f.line.width = limit.width := by
  have hline : f.line.width ≤ limit.width := h.every.1
  rw [room, h.counted.bounds]
  omega

theorem full_eq (h : Sound limit f) (hlimit : limit.isEmpty = false) :
    f.full = decide (limit.height ≤ f.count) := by
  rw [h.counted.full, hlimit, Bool.false_or]

end Sound

/-- The size with the line being filled, where that holds anything and there is room for it. -/
def reach (f : Flow) : Size :=
  if f.full ∨ f.line.isEmpty then f.size else ⟨max f.widest f.line.width, f.count + 1⟩

theorem reach_of_open {f : Flow} (hfull : f.full = false) (hline : f.line.isEmpty = false) :
    f.reach = ⟨max f.widest f.line.width, f.count + 1⟩ := if_neg (by simp [hfull, hline])

theorem size_within_reach (f : Flow) : f.size.Within f.reach := by
  unfold reach
  split
  · exact .refl _
  · exact ⟨Nat.le_max_left .., Nat.le_succ _⟩

/-- Enough lines, and the widest of them, reach a size. -/
theorem reached_of_lines {size : Size} {f : Flow} (hwidest : f.widest = size.width)
    (hcount : size.height ≤ f.count) : size.Within f.reach :=
  Size.Within.trans ⟨Nat.le_of_eq hwidest.symm, hcount⟩ (size_within_reach f)

/-- A line that gets longer reaches as far. -/
theorem reach_within {f f' : Flow} (hsize : f'.size = f.size) (hfull : f'.full = f.full)
    (hwidth : f.line.width ≤ f'.line.width)
    (hempty : f'.line.isEmpty = true → f.line.isEmpty = true) : f.reach.Within f'.reach := by
  by_cases hdone : f.full = true ∨ f.line.isEmpty = true
  · rw [reach, if_pos hdone, ← hsize]
    exact size_within_reach f'
  · obtain ⟨hopen, hline⟩ := not_or.mp hdone
    rw [Bool.not_eq_true] at hopen hline
    have hline' : f'.line.isEmpty = false := Bool.eq_false_iff.mpr fun h => by simp [hempty h] at hline
    have hwidest : f'.widest = f.widest := congrArg Size.width hsize
    have hcount : f'.count = f.count := congrArg Size.height hsize
    rw [reach_of_open hopen hline, reach_of_open (hfull.trans hopen) hline']
    exact ⟨by simp only [hwidest]; omega, by simp only [hcount]; omega⟩

/-- What was reached stays reached. -/
theorem stable_reach (size : Size) :
    Stable takesAll (fun _ => True) (fun _ => True) fun f => size.Within f.reach := by
  have hput (f : Flow) (s : String) (width : Nat) (cut : Bool) (h : size.Within f.reach) :
      size.Within { f with line := f.line.pushText s width, cut }.reach := by
    refine h.trans (reach_within rfl rfl (Line.le_width_pushText ..) fun hempty => ?_)
    exact (Bool.and_eq_true_iff.mp (Line.isEmpty_pushText f.line s width ▸ hempty)).1
  refine ⟨fun f h hfull => h.trans ?_, fun f u h _ _ _ => hput f _ _ _ h,
    fun f u h _ _ => hput f _ _ _ h, fun f c h _ => h.trans ?_, fun _ _ _ _ h => h⟩
  · rw [breakLine_taken takesAll f hfull rfl]
    refine Size.Within.trans ?_ (size_within_reach _)
    unfold reach
    split
    · exact ⟨Nat.le_max_left .., Nat.le_succ _⟩
    · exact .refl _
  · refine reach_within rfl rfl (Nat.le_refl _) fun hempty => ?_
    simp [Line.isEmpty, Line.pushControl] at hempty

/-- The widest line taken is the same as long as no other is taken. -/
theorem stable_since (f₀ : Flow) :
    Stable takesAll (fun _ => True) (fun _ => True)
      fun f => f₀.count ≤ f.count ∧ (f.count = f₀.count → f.widest = f₀.widest) where
  breakLine f h hfull := by
    rw [breakLine_taken takesAll f hfull rfl]
    exact ⟨Nat.le_succ_of_le h.1, fun hcount => by
      have hle := h.1
      simp only at hcount
      omega⟩
  append _ _ h _ _ _ := h
  appendCut _ _ h _ _ := h
  control _ _ h _ := h
  flags _ _ _ _ h := h

/-! ### Where a flow ends -/

/-- The size that a flow has measured when these atoms have flowed in. -/
def ends (f : Flow) (as : List Atom) : Size := ((f.absorbAll as).finish takesAll).1.size

theorem size_breakLine {f : Flow} (hfull : f.full = false) :
    (f.breakLine takesAll).1.size = ⟨max f.widest f.line.width, f.count + 1⟩ := by
  rw [breakLine_taken takesAll f hfull rfl]
  rfl

/-- Once anything has flowed in, a flow measures what it reaches. -/
theorem size_finish {f : Flow} (h : f.touched = true) : (f.finish takesAll).1.size = f.reach := by
  unfold finish reach
  cases hfull : f.full
  · cases hline : f.line.isEmpty
    · simp [size_breakLine hfull]
    · simp [h]
  · simp [breakLine, hfull]

theorem reach_within_ends (f : Flow) (as : List Atom) : f.reach.Within (f.ends as) := by
  have hall := (stable_reach f.reach).absorbAll as f (.refl _)
  refine hall.trans ?_
  unfold ends
  generalize f.absorbAll as = g
  cases htouched : g.touched
  · unfold finish reach
    simp only [htouched, Bool.false_eq_true, and_false, if_false]
    cases hfull : g.full
    · rw [size_breakLine hfull]
      split
      · exact ⟨Nat.le_max_left .., Nat.le_succ _⟩
      · exact .refl _
    · simp [breakLine, hfull, Size.Within.refl]
  · rw [size_finish htouched]
    exact .refl _

/-- What is known before of a flow that ends at a size. -/
structure Under (size : Size) (f : Flow) : Prop where
  line : f.full = false → f.line.width ≤ size.width
  count : f.count ≤ size.height
  widest : f.count = size.height → f.widest = size.width

theorem under_ends {limit : Size} {f : Flow} (h : Sound limit f) (as : List Atom) :
    Under (f.ends as) f where
  line hfull := by
    have hreach := (reach_within_ends f as).width
    cases hline : f.line.isEmpty
    · rw [reach_of_open hfull hline] at hreach
      exact Nat.le_trans (Nat.le_max_right ..) hreach
    · rw [h.blank hline]
      exact Nat.zero_le _
  count := Nat.le_trans (size_within_reach f).height (reach_within_ends f as).height
  widest hcount := by
    have hsince := (stable_since f).absorbAll as f ⟨Nat.le_refl _, fun _ => rfl⟩
    exact (((stable_since f).finish _ hsince).2 hcount.symm).symm

/-! ### What a unit does -/

/-- The unit leaves nothing: it goes on with a word that was cut, or would open a line with blanks. -/
def Skips (f : Flow) (opens : Bool) (u : WrapUnit) : Prop :=
  (u.kind = .word ∧ opens = true ∧ f.openCut = true) ∨ (u.kind = .space ∧ f.line.width = 0)

/-- What a unit leaves on a line that it opens, and how many columns that takes. -/
def opening (width : Nat) (u : WrapUnit) : List Char × Nat :=
  match u.kind with
  | .word =>
    if Text.charsWidth u.text ≤ width then (u.text, Text.charsWidth u.text)
    else Text.fitClusters width (Text.clusters u.text)
  | .space | .newline => ([], 0)

/-- What goes on a line takes columns only where there is some text of it. -/
def Fair (part : List Char × Nat) : Prop := part.1 = [] → part.2 = 0

theorem fair_nothing : Fair ([], 0) := fun _ => rfl

theorem fair_whole (text : List Char) : Fair (text, Text.charsWidth text) := by
  intro h
  rw [show text = [] from h]
  rfl

theorem fair_fitClusters (room : Nat) (clusters : List (List Char)) :
    Fair (Text.fitClusters room clusters) := Text.width_of_fitClusters_nil

theorem width_put (line : Line) {part : List Char × Nat} (h : Fair part) :
    (line.pushText (String.ofList part.1) part.2).width = line.width + part.2 := by
  unfold Line.pushText
  split
  · next hempty =>
    have hnil : part.1 = [] := by simpa using hempty
    rw [h hnil]
    rfl
  · rfl

theorem isEmpty_put (line : Line) (part : List Char × Nat) :
    (line.pushText (String.ofList part.1) part.2).isEmpty = (line.isEmpty && part.1.isEmpty) := by
  have htext : (String.ofList part.1).isEmpty = part.1.isEmpty := by
    rw [Bool.eq_iff_iff, String.isEmpty_iff, List.isEmpty_iff]
    simp
  rw [Line.isEmpty_pushText, htext]

/-- Something goes on the line being filled. -/
structure Stays (f f' : Flow) (part : List Char × Nat) : Prop where
  size : f'.size = f.size
  full : f'.full = f.full
  line : f'.line = f.line.pushText (String.ofList part.1) part.2

/-- The line is taken, and something goes on the next one, if there is room for one. -/
structure Breaks (f f' : Flow) (part : List Char × Nat) : Prop where
  size : f'.size = ⟨max f.widest f.line.width, f.count + 1⟩
  line : f'.full = false → f'.line = ({} : Line).pushText (String.ofList part.1) part.2

section Effects
variable {f f' : Flow} {part : List Char × Nat}

theorem Stays.count (h : Stays f f' part) : f'.count = f.count := congrArg Size.height h.size

theorem Stays.widest (h : Stays f f' part) : f'.widest = f.widest := congrArg Size.width h.size

theorem Stays.width (h : Stays f f' part) (hpart : Fair part) :
    f'.line.width = f.line.width + part.2 := by
  rw [h.line, width_put _ hpart]

theorem Stays.isEmpty (h : Stays f f' part) : f'.line.isEmpty = (f.line.isEmpty && part.1.isEmpty) := by
  rw [h.line, isEmpty_put]

theorem Breaks.count (h : Breaks f f' part) : f'.count = f.count + 1 := congrArg Size.height h.size

theorem Breaks.widest (h : Breaks f f' part) : f'.widest = max f.widest f.line.width :=
  congrArg Size.width h.size

end Effects

/-- What a unit does to a flow. -/
inductive Pushes (f : Flow) (opens : Bool) (u : WrapUnit) (f' : Flow) : Prop where
  | skips (h : f.Skips opens u) (hstays : Stays f f' ([], 0))
  | fits (h : ¬f.Skips opens u) (hkind : u.kind ≠ .newline) (hfits : Text.charsWidth u.text ≤ f.room)
    (hstays : Stays f f' (u.text, Text.charsWidth u.text))
  | cuts (h : ¬f.Skips opens u) (hkind : u.kind ≠ .newline)
    (hwide : f.bounds.width < Text.charsWidth u.text) (hroom : 0 < f.room)
    (hstays : Stays f f' (Text.fitClusters f.room (Text.clusters u.text)))
  | breaks (h : ¬f.Skips opens u)
    (hover : u.kind = .newline ∨ f.room < Text.charsWidth u.text ∧
      (Text.charsWidth u.text ≤ f.bounds.width ∨ f.room = 0))
    (hbreaks : Breaks f f' (opening f.bounds.width u))

section Pushes
variable {f f' : Flow} {opens : Bool} {u : WrapUnit}

theorem Pushes.untouch (h : Pushes { f with touched := true } opens u f') (endedInWord : Bool) :
    Pushes f opens u { f' with endedInWord } := by
  cases h with
  | skips h hstays => exact .skips h ⟨hstays.size, hstays.full, hstays.line⟩
  | fits h hkind hfits hstays => exact .fits h hkind hfits ⟨hstays.size, hstays.full, hstays.line⟩
  | cuts h hkind hwide hroom hstays =>
    exact .cuts h hkind hwide hroom ⟨hstays.size, hstays.full, hstays.line⟩
  | breaks h hover hbreaks => exact .breaks h hover ⟨hbreaks.size, hbreaks.line⟩

theorem pushes_place (hfull : f.full = false) (hskip : ¬f.Skips opens u) (hkind : u.kind ≠ .newline) :
    Pushes f opens u (f.place takesAll (u.kind = .space) u.text).1 := by
  have hsize := size_breakLine hfull
  have hline := breakLine_line takesAll f hfull
  have hbounds := breakLine_bounds takesAll f
  rw [place_takesAll]
  simp only [decide_eq_true_eq]
  generalize (f.breakLine takesAll).1 = next at hsize hline hbounds ⊢
  split
  · next h => exact absurd (.inr h) hskip
  split
  · next hfits => exact .fits hskip hkind hfits ⟨rfl, rfl, rfl⟩
  next hover =>
  split
  · next hbreaks =>
    refine .breaks hskip (.inr ⟨Nat.lt_of_not_le hover, hbreaks⟩) ?_
    split
    · next hnone =>
      refine ⟨hsize, fun hroom => ?_⟩
      have hspace := hnone.resolve_left (by simp [hroom])
      rw [opening, hspace, hline]
      rfl
    · next hroom =>
      obtain ⟨-, hspace⟩ := not_or.mp hroom
      have hword : u.kind = .word := by
        cases hkind' : u.kind <;> simp_all
      rw [opening, hword]
      split
      · exact ⟨hsize, fun _ => by rw [← hline]; rfl⟩
      · have hnext : next.room = f.bounds.width := by simp [room, hline, hbounds]
        rw [appendCut_eq, hnext]
        exact ⟨hsize, fun _ => by rw [← hline]⟩
  · next hwide =>
    obtain ⟨hwide, hroom⟩ := not_or.mp hwide
    exact .cuts hskip hkind (Nat.lt_of_not_le hwide) (Nat.pos_of_ne_zero hroom) ⟨rfl, rfl, rfl⟩

/-- Something goes on the line or the line is broken. -/
theorem Pushes.stays_or_breaks (h : Pushes f opens u f') :
    (∃ part, Fair part ∧ Stays f f' part) ∨ Breaks f f' (opening f.bounds.width u) := by
  cases h with
  | skips _ hstays => exact .inl ⟨_, fair_nothing, hstays⟩
  | fits _ _ _ hstays => exact .inl ⟨_, fair_whole u.text, hstays⟩
  | cuts _ _ _ _ hstays => exact .inl ⟨_, fair_fitClusters f.room (Text.clusters u.text), hstays⟩
  | breaks _ _ hbreaks => exact .inr hbreaks

theorem Pushes.stays (h : Pushes f opens u f') (hskip : f.Skips opens u) : Stays f f' ([], 0) := by
  cases h with
  | skips _ hstays => exact hstays
  | fits hnot => exact absurd hskip hnot
  | cuts hnot => exact absurd hskip hnot
  | breaks hnot => exact absurd hskip hnot

theorem pushes_push (hfull : f.full = false) : Pushes f opens u (f.push opens u) := by
  unfold push
  cases hkind : u.kind with
  | newline =>
    refine .breaks (by simp [Skips, hkind]) (.inl hkind) ⟨size_breakLine hfull, fun _ => ?_⟩
    rw [opening, hkind]
    exact breakLine_line takesAll f hfull
  | space =>
    by_cases hskip : f.Skips opens u
    · have hwidth : f.line.width = 0 := by simpa [Skips, hkind] using hskip
      have hplace : (f.place takesAll true u.text).1 = f := by
        rw [place_takesAll]
        exact if_pos ⟨rfl, hwidth⟩
      rw [hplace]
      exact .skips hskip ⟨rfl, rfl, rfl⟩
    · have hplace := pushes_place hfull hskip (by simp [hkind])
      simpa [hkind] using hplace
  | word =>
    have hgoesOn : f.Skips opens u ↔ opens = true ∧ f.endedInWord = true ∧ f.cut = true := by
      simp [Skips, hkind, openCut]
    simp only
    split
    · next hskip => exact .skips (hgoesOn.mpr hskip) ⟨rfl, rfl, rfl⟩
    · next hskip =>
      have hplace := pushes_place hfull (mt hgoesOn.mp hskip) (by simp [hkind])
      simpa [hkind] using hplace

theorem pushes (hfull : f.full = false) (opens : Bool) (u : WrapUnit) :
    Pushes f opens u (f.absorb (.unit opens u)) := by
  rw [absorb_unit hfull]
  exact (pushes_push (f := { f with touched := true }) hfull).untouch _

/-- A word that was placed is cut if it is too wide. -/
theorem cut_place {text : List Char} (hroom : (f.place takesAll false text).1.full = false) :
    (f.place takesAll false text).1.cut = decide (f.bounds.width < Text.charsWidth text) := by
  have hle : f.room ≤ f.bounds.width := Nat.sub_le ..
  rw [place_takesAll] at hroom ⊢
  simp only [Bool.false_eq_true, false_and, if_false, or_false] at hroom ⊢
  split
  · next hfits => simp [append, Nat.le_trans hfits hle]
  next hover =>
  rw [if_neg hover] at hroom
  split
  · next hbreaks =>
    rw [if_pos hbreaks] at hroom
    have hnext : ¬(f.breakLine takesAll).1.full = true := fun hnext => by simp [hnext] at hroom
    simp only [if_neg hnext]
    split
    · next hfits => simp [append, hfits]
    · next hwide => simpa [appendCut_eq] using hwide
  · next hwide => simpa [appendCut_eq] using (not_or.mp hwide).1

theorem openCut_absorb (hfull : f.full = false) (hroom : (f.absorb (.unit opens u)).full = false) :
    (f.absorb (.unit opens u)).openCut =
      (Atom.unit opens u).cutAfter f.bounds.width f.openCut := by
  rw [absorb_unit hfull] at hroom ⊢
  unfold push at hroom ⊢
  cases hkind : u.kind with
  | newline => simp [openCut, Atom.cutAfter, hkind]
  | space => simp [openCut, Atom.cutAfter, hkind]
  | word =>
    simp only [hkind] at hroom ⊢
    split at hroom
    · next hgoesOn => simp [openCut, Atom.cutAfter, hkind, hgoesOn]
    · next hgoesOn =>
      have hcut := cut_place hroom
      have hnot : (opens && f.openCut) = false := by simpa [openCut] using hgoesOn
      simp only [Atom.cutAfter, hkind, hnot, Bool.false_or, if_neg hgoesOn]
      exact hcut

end Pushes

end Flow

end TextPane
