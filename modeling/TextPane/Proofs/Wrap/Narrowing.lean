import TextPane.Proofs.Wrap.Reach

/-! Text measured again at the size that it measured.

A flow `f` within some bounds measures a size; let a flow `g` take in the same text within that size. As
long as `g` leaves what `f` leaves, the two have the same lines. They part only at a unit wider than the
bounds: behind a line that is as wide as the size, `f` cuts it to what is left of the line, and `g`, which
has no room left, breaks the line. From there on `g` leads: it is on a later line, or further on the same
one (`Flow.Pace`), and in the end it has as many lines and one that is as wide
(`Flow.within_ends_of_pace`). More it cannot have within the size.

So a span measures the same again (`Span.measure_again`), with three exceptions. Where no line has any
width, there is no room for the lines. Blanks that were left out because they did not fit behind a line may
be wider than the size, and are then cut instead. And a lead may be lost where cutting leaves more room at
the end of a line than one column, for a cluster of more than two. -/
namespace TextPane

namespace Flow

/-! ### Two flows of one text -/

/-- On lines of one number, one has no more room than the other, and holds something where the other
does. -/
structure Ahead (f g : Flow) : Prop where
  room : g.room ≤ f.room
  width : g.line.width = 0 → f.line.width = 0
  empty : g.line.isEmpty = true → f.line.isEmpty = true

/-- How a flow `g` within the size `small` keeps up with a flow `f` of the same text, within `big`, that
will have measured `small`: it has reached that size itself; or both have the same lines; or `g` has a
line that is as wide as `small` and is on a later line than `f`, or further on the same line. -/
inductive Pace (big small : Size) (f g : Flow) : Prop where
  | settled (h : small.Within g.reach)
  | alike (size : g.size = f.size) (line : g.line = f.line)
  | later (hnarrow : small.width < big.width) (widest : g.widest = small.width)
    (count : f.count < g.count)
  | further (hnarrow : small.width < big.width) (widest : g.widest = small.width)
    (count : f.count = g.count) (ahead : Ahead f g)

section Pace
variable {big small : Size} {f g : Flow}

/-- Equal lines leave more room where there is more. -/
theorem ahead_of_line (hf : Sound big f) (hg : Sound small g) (hle : small.Within big)
    (hline : g.line = f.line) : Ahead f g := by
  have hfroom := hf.room_add
  have hgroom := hg.room_add
  have hwidth := hle.width
  refine ⟨?_, fun hzero => hline ▸ hzero, fun hempty => hline ▸ hempty⟩
  rw [hline] at hgroom
  omega

/-- A flow that has the size of one that has all its lines has reached that. -/
theorem Under.reached (hf : Under small f) (hg : Sound small g) (hsize : g.size = f.size)
    (hcount : small.height ≤ g.count) : small.Within g.reach := by
  have hwidest : g.widest = f.widest := congrArg Size.width hsize
  have hsame : g.count = f.count := congrArg Size.height hsize
  have hlast : g.count = small.height := Nat.le_antisymm hg.size.height hcount
  exact reached_of_lines (hwidest.trans (hf.widest (hsame.symm.trans hlast))) hcount

/-- With as many lines as there will be, nothing is left to reach. -/
theorem Pace.done (h : Pace big small f g) (hf : Under small f) (hg : Sound small g)
    (hcount : small.height ≤ g.count) : small.Within g.reach := by
  cases h with
  | settled h => exact h
  | alike hsize _ => exact hf.reached hg hsize hcount
  | later _ hwidest _ => exact reached_of_lines hwidest hcount
  | further _ hwidest _ _ => exact reached_of_lines hwidest hcount

/-- A flow that keeps up has as many lines. -/
theorem Pace.count_le (h : Pace big small f g) : small.Within g.reach ∨ f.count ≤ g.count := by
  cases h with
  | settled h => exact .inl h
  | alike hsize _ => exact .inr (Nat.le_of_eq (congrArg Size.height hsize).symm)
  | later _ _ hcount => exact .inr (Nat.le_of_lt hcount)
  | further _ _ hcount _ => exact .inr (Nat.le_of_eq hcount)

end Pace

/-- A run of blanks is left out behind a line, and there is room for a line below it. -/
structure Drops (f : Flow) (u : WrapUnit) : Prop where
  space : u.kind = .space
  behind : 0 < f.line.width
  overflows : f.room < Text.charsWidth u.text
  narrow : Text.charsWidth u.text ≤ f.bounds.width
  below : f.count + 1 < f.bounds.height

/-- A unit flows into both of two flows that have room for another line. -/
structure Turn (big small : Size) (opens : Bool) (u : WrapUnit) (f g f' g' : Flow) : Prop where
  wide : Sound big f
  wide' : Sound big f'
  narrow : Sound small g
  narrow' : Sound small g'
  under : Under small f
  under' : Under small f'
  wideOpen : f.full = false
  narrowOpen : g.full = false
  cut : g.openCut = f.openCut
  pushes : Pushes f opens u f'
  pushes' : Pushes g opens u g'
  drops : f.Drops u → Text.charsWidth u.text ≤ small.width
  clusters : big.width < Text.charsWidth u.text →
    ∀ cluster ∈ Text.clusters u.text, Text.clusterWidth cluster ≤ 2

namespace Turn
variable {big small : Size} {opens : Bool} {u : WrapUnit} {f g f' g' : Flow}

/-- On equal lines both leave the same. -/
theorem alike_stays {part : List Char × Nat} (hf : Stays f f' part) (hg : Stays g g' part)
    (hsize : g.size = f.size) (hline : g.line = f.line) : Pace big small f' g' :=
  .alike (by rw [hg.size, hf.size, hsize]) (by rw [hg.line, hf.line, hline])

section
variable (h : Turn big small opens u f g f' g')
include h

/-- A word that is placed whole on the next line is no wider than `small`. -/
theorem word_le (hword : u.kind = .word) (hbreaks : Breaks f f' (opening f.bounds.width u))
    (hfull : f'.full = false) (hfits : Text.charsWidth u.text ≤ big.width) :
    Text.charsWidth u.text ≤ small.width := by
  have hline := hbreaks.line hfull
  rw [opening, hword, h.wide.counted.bounds] at hline
  simp only [if_pos hfits] at hline
  have hwidth := width_put {} (fair_whole u.text)
  rw [← hline] at hwidth
  have hunder := h.under'.line hfull
  rw [hwidth] at hunder
  exact Nat.le_trans (Nat.le_add_left ..) hunder

variable (hbig : big.isEmpty = false)
include hbig

/-- Where the line is broken for a unit wider than `small`, it is the last one. -/
theorem full_of_breaks (hnot : ¬f.Skips opens u) (hkind : u.kind ≠ .newline)
    (hbreaks : Breaks f f' (opening f.bounds.width u)) (hover : f.room < Text.charsWidth u.text)
    (hfits : Text.charsWidth u.text ≤ big.width) (hwide : small.width < Text.charsWidth u.text) :
    f'.full = true := by
  refine Bool.of_not_eq_false fun hfull => Nat.lt_irrefl small.width (Nat.lt_of_lt_of_le hwide ?_)
  cases hword : u.kind with
  | newline => exact absurd hword hkind
  | word => exact h.word_le hword hbreaks hfull hfits
  | space =>
    have hbehind : f.line.width ≠ 0 := fun hzero => hnot (.inr ⟨hword, hzero⟩)
    have hcount := hbreaks.count
    have hbelow : ¬big.height ≤ f.count + 1 := by
      rw [h.wide'.full_eq hbig, hcount] at hfull
      simpa using hfull
    rw [← h.wide.counted.bounds] at hfits hbelow
    exact h.drops ⟨hword, Nat.pos_of_ne_zero hbehind, hover, hfits, Nat.lt_of_not_le hbelow⟩

variable (hle : small.Within big)
include hle

theorem last_of_full (hfull : f'.full = true) : f'.count = small.height := by
  rw [h.wide'.full_eq hbig, decide_eq_true_eq] at hfull
  exact Nat.le_antisymm h.under'.count (Nat.le_trans hle.height hfull)

/-- Where `f` breaks its line and `g` cuts the unit to the line that it is filling, nothing is left to
reach. -/
theorem settled_of_cut (hfull : f'.full = true) {part : List Char × Nat}
    (hbreaks : Breaks f f' (opening f.bounds.width u)) (hstays : Stays g g' part)
    (hcount : f.count = g.count) (hline : g.line.isEmpty = false)
    (hwidest : max f.widest f.line.width = small.width → small.width ≤ max g.widest g.line.width) :
    small.Within g'.reach := by
  have hlast := h.last_of_full hbig hle hfull
  have hf' := hbreaks.count
  have hall := hwidest (hbreaks.widest.symm.trans (h.under'.widest hlast))
  have hg : (⟨max g.widest g.line.width, g.count + 1⟩ : Size).Within g'.reach := by
    rw [← reach_of_open h.narrowOpen hline]
    refine reach_within hstays.size hstays.full ?_ ?_
    · rw [hstays.line]
      exact Line.le_width_pushText ..
    · rw [hstays.isEmpty, hline]
      simp
  exact Size.Within.trans ⟨hall, by simp only; omega⟩ hg

end

theorem opening_eq {width width' : Nat}
    (h : u.kind = .word → Text.charsWidth u.text ≤ width → Text.charsWidth u.text ≤ width')
    (hwide : u.kind = .word → width < Text.charsWidth u.text → width' = width) :
    opening width u = opening width' u := by
  unfold opening
  cases hkind : u.kind with
  | newline => rfl
  | space => rfl
  | word =>
    by_cases hfits : Text.charsWidth u.text ≤ width
    · simp only [if_pos hfits, if_pos (h hkind hfits)]
    · simp only [hwide hkind (Nat.lt_of_not_le hfits)]

/-- Where both break their lines, they open the same one. -/
theorem line_of_breaks (h : Turn big small opens u f g f' g') (hle : small.Within big)
    (hover : u.kind = .newline ∨ f.room < Text.charsWidth u.text ∧
      (Text.charsWidth u.text ≤ f.bounds.width ∨ f.room = 0))
    (hf : Breaks f f' (opening f.bounds.width u)) (hg : Breaks g g' (opening g.bounds.width u))
    (hopen : f'.full = false) (hopen' : g'.full = false) : g'.line = f'.line := by
  have hfroom := h.wide.room_add
  have hwidth : f.line.width ≤ small.width := h.under.line h.wideOpen
  have hnarrow := hle.width
  rw [h.wide.counted.bounds] at hover
  rw [hf.line hopen, hg.line hopen', h.wide.counted.bounds, h.narrow.counted.bounds,
    opening_eq (fun hword hfits => h.word_le hword hf hopen hfits) fun hword hwide => ?_]
  have hover := hover.resolve_left (by simp [hword])
  omega

/-- Flows with equally many lines, of which there will be more, have room for another one. -/
theorem open_of_count (h : Turn big small opens u f g f' g') (hbig : big.isEmpty = false)
    (hle : small.Within big) (hsmall : small.isEmpty = false) (hcount : g'.count = f'.count)
    (hlast : ¬small.height ≤ g'.count) : f'.full = false ∧ g'.full = false := by
  refine ⟨Bool.eq_false_iff.mpr fun hfull => hlast ?_, ?_⟩
  · exact Nat.le_of_eq (hcount.trans (h.last_of_full hbig hle hfull)).symm
  · rw [h.narrow'.full_eq hsmall]
    exact decide_eq_false hlast

/-- What a unit does to both flows where one of them is ahead on a line of the same number: it is left out
of `f`; it fits in both; it is cut in both; `f` has room for it and `g` breaks its line; `f` breaks its last
line and `g` cuts the unit; or both break their lines. -/
inductive Meets (big small : Size) (opens : Bool) (u : WrapUnit) (f g f' g' : Flow) : Prop where
  | skips (hskip : f.Skips opens u) (hstays : Stays f f' ([], 0))
  | fits (hstays : Stays f f' (u.text, Text.charsWidth u.text))
    (hstays' : Stays g g' (u.text, Text.charsWidth u.text))
  | cuts (hwide : big.width < Text.charsWidth u.text)
    (hstays : Stays f f' (Text.fitClusters f.room (Text.clusters u.text)))
    (hstays' : Stays g g' (Text.fitClusters g.room (Text.clusters u.text)))
  | leads {part : List Char × Nat} (hpart : Fair part) (hstays : Stays f f' part)
    (hroom : g.room < f.room) (hover : g.room < part.2 ∨ g.room = 0)
    (hbreaks : Breaks g g' (opening g.bounds.width u))
  | catches {part : List Char × Nat} (hfull : f'.full = true)
    (hbreaks : Breaks f f' (opening f.bounds.width u)) (hstays : Stays g g' part)
    (hline : g.line.isEmpty = false)
  | breaks (hover : u.kind = .newline ∨ f.room < Text.charsWidth u.text ∧
      (Text.charsWidth u.text ≤ f.bounds.width ∨ f.room = 0))
    (hbreaks : Breaks f f' (opening f.bounds.width u))
    (hbreaks' : Breaks g g' (opening g.bounds.width u))

theorem meets (h : Turn big small opens u f g f' g') (hbig : big.isEmpty = false)
    (hle : small.Within big) (hahead : Ahead f g) : Meets big small opens u f g f' g' := by
  have hskips (hskip : g.Skips opens u) : f.Skips opens u := by
    refine hskip.imp (fun ⟨hword, hopens, hcut⟩ => ⟨hword, hopens, h.cut ▸ hcut⟩) ?_
    exact fun ⟨hspace, hzero⟩ => ⟨hspace, hahead.width hzero⟩
  have hfroom := h.wide.room_add
  have hgroom := h.narrow.room_add
  have hwidth : f.line.width ≤ small.width := h.under.line h.wideOpen
  have hroom := hahead.room
  have hnarrow := hle.width
  cases h.pushes with
  | skips hskip hf => exact .skips hskip hf
  | fits hnot hkind hfits hf =>
    have hunder := h.under'.line (hf.full.trans h.wideOpen)
    rw [hf.width (fair_whole _)] at hunder
    cases h.pushes' with
    | skips hskip => exact absurd (hskips hskip) hnot
    | fits _ _ _ hg => exact .fits hf hg
    | cuts _ _ hwide =>
      rw [h.narrow.counted.bounds] at hwide
      simp only at hunder
      omega
    | breaks _ hover hg =>
      have hover := (hover.resolve_left hkind).1
      exact .leads (fair_whole _) hf (by omega) (.inl hover) hg
  | cuts hnot hkind hwide hsome hf =>
    rw [h.wide.counted.bounds] at hwide
    cases h.pushes' with
    | skips hskip => exact absurd (hskips hskip) hnot
    | fits _ _ hfits => omega
    | cuts _ _ _ _ hg => exact .cuts hwide hf hg
    | breaks _ hover hg =>
      rw [h.narrow.counted.bounds] at hover
      have hover := (hover.resolve_left hkind).2
      exact .leads (fair_fitClusters _ _) hf (by omega) (.inr (by omega)) hg
  | breaks hnot hover hf =>
    cases h.pushes' with
    | skips hskip => exact absurd (hskips hskip) hnot
    | fits _ hkind hfits =>
      have hover := (hover.resolve_left hkind).1
      omega
    | cuts _ hkind hwide hroom hg =>
      rw [h.wide.counted.bounds] at hover
      rw [h.narrow.counted.bounds] at hwide
      obtain ⟨hover, hfits⟩ := hover.resolve_left hkind
      have hfits := hfits.resolve_right (by omega)
      have hempty : g.line.isEmpty = false := Bool.eq_false_iff.mpr fun hempty => by
        have hzero := hahead.width (h.narrow.blank hempty)
        omega
      exact .catches (h.full_of_breaks hbig hnot hkind hf hover hfits hwide) hf hg hempty
    | breaks _ _ hg => exact .breaks hover hf hg

theorem pace_of_alike (h : Turn big small opens u f g f' g') (hbig : big.isEmpty = false)
    (hsmall : small.isEmpty = false) (hle : small.Within big) (hsize : g.size = f.size)
    (hline : g.line = f.line) : Pace big small f' g' := by
  have hfroom := h.wide.room_add
  have hgroom := h.narrow.room_add
  have hwidth' := h.under'.line
  rw [hline] at hgroom
  have hcount : g.count = f.count := congrArg Size.height hsize
  have hwidest : g.widest = f.widest := congrArg Size.width hsize
  cases h.meets hbig hle (ahead_of_line h.wide h.narrow hle hline) with
  | skips hskip hf =>
    have hskip' : g.Skips opens u := by simpa only [Skips, h.cut, hline] using hskip
    exact alike_stays hf (h.pushes'.stays hskip') hsize hline
  | fits hf hg => exact alike_stays hf hg hsize hline
  | cuts _ hf hg =>
    have hunder := hwidth' (hf.full.trans h.wideOpen)
    rw [hf.width (fair_fitClusters _ _)] at hunder
    have hnarrow := hle.width
    have hpart := Text.fitClusters_of_le (show g.room ≤ f.room by omega)
      (show (Text.fitClusters f.room (Text.clusters u.text)).2 ≤ g.room by omega)
    rw [hpart] at hg
    exact alike_stays hf hg hsize hline
  | leads hpart hf hroom hover hg =>
    -- The line is as wide as `small`, and the unit goes on behind it in `f` only.
    have hunder := hwidth' (hf.full.trans h.wideOpen)
    rw [hf.width hpart] at hunder
    have hall : g.widest ≤ small.width := h.narrow.size.width
    have hbroken := hg.widest
    rw [hline] at hbroken
    exact .later (by omega) (by omega) (by rw [hf.count, hg.count]; omega)
  | catches hfull hf hg hempty =>
    refine .settled (h.settled_of_cut hbig hle hfull hf hg hcount.symm hempty fun hall => ?_)
    exact Nat.le_of_eq (by rw [hwidest, hline, hall])
  | breaks hover hf hg =>
    have hsize' : g'.size = f'.size := by rw [hg.size, hf.size, hwidest, hline, hcount]
    have hcount' : g'.count = f'.count := congrArg Size.height hsize'
    by_cases hlast : small.height ≤ g'.count
    · exact .settled (h.under'.reached h.narrow' hsize' hlast)
    obtain ⟨hopen, hopen'⟩ := h.open_of_count hbig hle hsmall hcount' hlast
    exact .alike hsize' (h.line_of_breaks hle hover hf hg hopen hopen')

/-! A flow that leads has a line as wide as `small`, and its lines are narrower than those of the other
flow may be. -/

section Lead
variable (h : Turn big small opens u f g f' g')
include h

/-- On one line nothing is lost of the lead where no more is put on the line of `f`. -/
theorem ahead_stays (hahead : Ahead f g) {part part' : List Char × Nat} (hpart : Fair part)
    (hpart' : Fair part') (hf : Stays f f' part) (hg : Stays g g' part') (hle : part.2 ≤ part'.2)
    (hnil : part'.1 = [] → part.1 = []) : Ahead f' g' := by
  have hfroom := h.wide.room_add
  have hfroom' := h.wide'.room_add
  have hgroom := h.narrow.room_add
  have hgroom' := h.narrow'.room_add
  have hroom := hahead.room
  have hzero := hahead.width
  rw [hf.width hpart] at hfroom'
  rw [hg.width hpart'] at hgroom'
  refine ⟨by omega, fun hwidth => ?_, fun hempty => ?_⟩
  · rw [hg.width hpart'] at hwidth
    rw [hf.width hpart]
    omega
  · rw [hg.isEmpty, Bool.and_eq_true, List.isEmpty_iff] at hempty
    rw [hf.isEmpty, hahead.empty hempty.1, hnil hempty.2]
    rfl

/-- A word or a run of blanks that is too wide for either flow is cut to less than the next cluster. -/
theorem ahead_cuts (hnarrow : small.width < big.width) (hahead : Ahead f g)
    (hwide : big.width < Text.charsWidth u.text)
    (hf : Stays f f' (Text.fitClusters f.room (Text.clusters u.text)))
    (hg : Stays g g' (Text.fitClusters g.room (Text.clusters u.text))) : Ahead f' g' := by
  have hfroom := h.wide.room_add
  have hfroom' := h.wide'.room_add
  have hgroom := h.narrow.room_add
  have hgroom' := h.narrow'.room_add
  have hunder := h.under'.line (hf.full.trans h.wideOpen)
  have hfwidth := hf.width (fair_fitClusters _ _)
  have hgwidth := hg.width (fair_fitClusters _ _)
  have hcut := Text.le_fitClusters
    (show g.room < ((Text.clusters u.text).map Text.clusterWidth).sum by
      rw [← Text.charsWidth_eq]
      omega)
    (h.clusters hwide)
  -- At the start of the line both cut the same, for what `f` leaves is no wider than `small`.
  have hsame (hzero : g.line.width = 0) : Text.fitClusters g.room (Text.clusters u.text) =
      Text.fitClusters f.room (Text.clusters u.text) := by
    have hzero' := hahead.width hzero
    exact Text.fitClusters_of_le (by omega) (by omega)
  refine ⟨by omega, fun hwidth => ?_, fun hempty => ?_⟩
  · have hzero : g.line.width = 0 := by omega
    have hzero' := hahead.width hzero
    have hpart := congrArg Prod.snd (hsame hzero)
    omega
  · rw [hg.isEmpty, Bool.and_eq_true] at hempty
    rw [hf.isEmpty, hahead.empty hempty.1, ← hsame (h.narrow.blank hempty.1), hempty.2]
    rfl

/-- Behind the line that `f` broke off, the unit is on the next line only, and in `g` there is more before
it. -/
theorem ahead_next (hnarrow : small.width < big.width) (hnot : ¬f.Skips opens u)
    (hover : u.kind = .newline ∨ f.room < Text.charsWidth u.text ∧
      (Text.charsWidth u.text ≤ f.bounds.width ∨ f.room = 0))
    (hf : Breaks f f' (opening f.bounds.width u)) (hfull : f'.full = false)
    (hcount : g'.count = g.count) : Ahead f' g' := by
  have hfroom := h.wide.room_add
  have hfroom' := h.wide'.room_add
  have hgroom := h.narrow.room_add
  have hgroom' := h.narrow'.room_add
  have hwidth : f.line.width ≤ small.width := h.under.line h.wideOpen
  have hline := hf.line hfull
  rw [h.wide.counted.bounds] at hover hline
  have hbroken {part : List Char × Nat} (hg : Breaks g g' part) : False := by
    have hnext := hg.count
    omega
  cases hkind : u.kind with
  | newline =>
    cases h.pushes' with
    | skips hskip => simp [Skips, hkind] at hskip
    | fits _ hnot => exact absurd hkind hnot
    | cuts _ hnot => exact absurd hkind hnot
    | breaks _ _ hg => exact (hbroken hg).elim
  | space =>
    have hblank : f'.line = {} := by rw [hline, opening, hkind]; rfl
    rw [hblank] at hfroom'
    simp only at hfroom'
    exact ⟨by omega, fun _ => by rw [hblank], fun _ => by rw [hblank]; rfl⟩
  | word =>
    have hfits : Text.charsWidth u.text ≤ big.width := by
      have hover := hover.resolve_left (by simp [hkind])
      omega
    have hword := h.word_le hkind hf hfull hfits
    rw [opening, hkind] at hline
    simp only [if_pos hfits] at hline
    have hfwidth := width_put {} (fair_whole u.text)
    have hfempty := isEmpty_put {} (u.text, Text.charsWidth u.text)
    rw [← hline] at hfwidth hfempty
    cases h.pushes' with
    | skips hskip =>
      have hgoesOn := hskip.resolve_right (by simp [hkind])
      exact absurd (.inl ⟨hkind, hgoesOn.2.1, h.cut ▸ hgoesOn.2.2⟩) hnot
    | fits _ _ _ hg =>
      have hgwidth := hg.width (fair_whole _)
      simp only at hfwidth hgwidth
      refine ⟨by omega, fun hzero => by omega, fun hempty => ?_⟩
      rw [hg.isEmpty, Bool.and_eq_true] at hempty
      rw [hfempty, hempty.2]
      rfl
    | cuts _ _ hwide =>
      rw [h.narrow.counted.bounds] at hwide
      omega
    | breaks _ _ hg => exact (hbroken hg).elim

theorem widest_lead (hwidest : g.widest = small.width) : g'.widest = small.width := by
  have hline : g.line.width ≤ small.width := h.narrow.every.1
  rcases h.pushes'.stays_or_breaks with ⟨_, _, hg⟩ | hg
  · exact hg.widest.trans hwidest
  · have hbroken := hg.widest
    omega

variable (hbig : big.isEmpty = false) (hle : small.Within big) (hnarrow : small.width < big.width)
  (hwidest : g.widest = small.width)
include hbig hle hnarrow hwidest

theorem pace_of_later (hcount : f.count < g.count) : Pace big small f' g' := by
  have hwidest' := h.widest_lead hwidest
  have hkept : g.count ≤ g'.count := by
    rcases h.pushes'.stays_or_breaks with ⟨_, _, hg⟩ | hg
    · exact Nat.le_of_eq hg.count.symm
    · exact Nat.le_trans (Nat.le_succ _) (Nat.le_of_eq hg.count.symm)
  have hstays {part : List Char × Nat} (hf : Stays f f' part) : Pace big small f' g' :=
    .later hnarrow hwidest' (by rw [hf.count]; omega)
  cases h.pushes with
  | skips _ hf => exact hstays hf
  | fits _ _ _ hf => exact hstays hf
  | cuts _ _ _ _ hf => exact hstays hf
  | breaks hnot hover hf =>
    have hbroken := hf.count
    by_cases hstill : f'.count < g'.count
    · exact .later hnarrow hwidest' hstill
    have hcount' : f'.count = g'.count := by omega
    have hg : g'.count = g.count := by omega
    cases hfull : f'.full
    case true =>
      have hlast := h.last_of_full hbig hle hfull
      exact .settled (reached_of_lines hwidest' (by omega))
    -- The line that `f` opens is the one that `g` is on.
    exact .further hnarrow hwidest' hcount' (h.ahead_next hnarrow hnot hover hf hfull hg)

theorem pace_of_further (hsmall : small.isEmpty = false) (hcount : f.count = g.count)
    (hahead : Ahead f g) : Pace big small f' g' := by
  have hwidest' := h.widest_lead hwidest
  have hstays {part part' : List Char × Nat} (hf : Stays f f' part) (hg : Stays g g' part')
      (hahead' : Ahead f' g') : Pace big small f' g' :=
    .further hnarrow hwidest' (by rw [hf.count, hg.count, hcount]) hahead'
  have hlater {part part' : List Char × Nat} (hf : Stays f f' part) (hg : Breaks g g' part') :
      Pace big small f' g' :=
    .later hnarrow hwidest' (by rw [hf.count, hg.count]; omega)
  cases h.meets hbig hle hahead with
  | skips _ hf =>
    rcases h.pushes'.stays_or_breaks with ⟨part, hpart, hg⟩ | hg
    · exact hstays hf hg
        (h.ahead_stays hahead fair_nothing hpart hf hg (Nat.zero_le _) fun _ => rfl)
    · exact hlater hf hg
  | fits hf hg =>
    exact hstays hf hg
      (h.ahead_stays hahead (fair_whole _) (fair_whole _) hf hg (Nat.le_refl _) id)
  | cuts hwide hf hg => exact hstays hf hg (h.ahead_cuts hnarrow hahead hwide hf hg)
  | leads _ hf _ _ hg => exact hlater hf hg
  | catches hfull hf hg hempty =>
    refine .settled (h.settled_of_cut hbig hle hfull hf hg hcount hempty fun _ => ?_)
    rw [hwidest]
    exact Nat.le_max_left ..
  | breaks hover hf hg =>
    have hcount' : g'.count = f'.count := by rw [hf.count, hg.count, hcount]
    by_cases hlast : small.height ≤ g'.count
    · exact .settled (reached_of_lines hwidest' hlast)
    obtain ⟨hopen, hopen'⟩ := h.open_of_count hbig hle hsmall hcount' hlast
    exact .further hnarrow hwidest' hcount'.symm
      (ahead_of_line h.wide' h.narrow' hle (h.line_of_breaks hle hover hf hg hopen hopen'))

end Lead

/-- A word is cut in both or in neither. -/
theorem cutAfter_eq (h : Turn big small opens u f g f' g') (hle : small.Within big)
    (hopen : f'.full = false) :
    (Atom.unit opens u).cutAfter small.width f.openCut =
      (Atom.unit opens u).cutAfter big.width f.openCut := by
  have hnarrow := hle.width
  cases hkind : u.kind with
  | newline => simp [Atom.cutAfter, hkind]
  | space => simp [Atom.cutAfter, hkind]
  | word =>
    have hunder := h.under'.line hopen
    have hwide : f.Skips opens u ∨ Text.charsWidth u.text ≤ small.width ∨
        big.width < Text.charsWidth u.text := by
      cases h.pushes with
      | skips hskip => exact .inl hskip
      | fits _ _ _ hf =>
        rw [hf.width (fair_whole _)] at hunder
        simp only at hunder
        exact .inr (.inl (by omega))
      | cuts _ _ hwide => exact .inr (.inr (h.wide.counted.bounds ▸ hwide))
      | breaks _ _ hf =>
        exact .inr ((Nat.lt_or_ge _ _).symm.imp (h.word_le hkind hf hopen) id)
    rcases hwide with hskip | hfits | hwide
    · have hgoesOn := hskip.resolve_right (by simp [hkind])
      simp [Atom.cutAfter, hkind, hgoesOn.2.1, hgoesOn.2.2]
    · have hfits' : Text.charsWidth u.text ≤ big.width := Nat.le_trans hfits hnarrow
      simp [Atom.cutAfter, hkind, Nat.not_lt.mpr hfits, Nat.not_lt.mpr hfits']
    · have hwide' : small.width < Text.charsWidth u.text := Nat.lt_of_le_of_lt hnarrow hwide
      simp [Atom.cutAfter, hkind, hwide, hwide']

end Turn

/-! ### Keeping up to the end -/

section Run
variable {big small : Size} {f g : Flow}

/-- A flow that keeps up until the other one ends has reached what that measures. -/
theorem Pace.reached (h : Pace big small f g) (hsmall : small.isEmpty = false) (hf : Under small f)
    (hg : Sound small g) (hreach : f.reach = small) : small.Within g.reach := by
  by_cases hlast : small.height ≤ g.count
  · exact h.done hf hg hlast
  have hopen' : g.full = false := by
    rw [hg.full_eq hsmall]
    exact decide_eq_false hlast
  -- Where `g` has no more lines than `f`, there is something on the line that both are filling.
  have hfilling (hcount : f.count = g.count) : f.full = false ∧ f.line.isEmpty = false := by
    refine ⟨Bool.eq_false_iff.mpr fun hfull => ?_, Bool.eq_false_iff.mpr fun hempty => ?_⟩
    all_goals
      have hsize : f.reach = f.size := if_pos (by simp [*])
      have hheight : f.count = small.height := congrArg Size.height (hsize.symm.trans hreach)
      omega
  cases h with
  | settled h => exact h
  | alike hsize hline =>
    have hwidest : g.widest = f.widest := congrArg Size.width hsize
    have hcount : g.count = f.count := congrArg Size.height hsize
    obtain ⟨hopen, hempty⟩ := hfilling hcount.symm
    rw [← hreach, reach_of_open hopen hempty, reach_of_open hopen' (hline ▸ hempty), hwidest, hline, hcount]
    exact .refl _
  | later _ _ hcount =>
    have hheight : f.reach.height ≤ f.count + 1 := by
      unfold reach
      split
      · exact Nat.le_succ _
      · exact Nat.le_refl _
    rw [hreach] at hheight
    omega
  | further _ hwidest hcount hahead =>
    obtain ⟨hopen, hempty⟩ := hfilling hcount
    have hempty' : g.line.isEmpty = false :=
      Bool.eq_false_iff.mpr fun h => Bool.eq_false_iff.mp hempty (hahead.empty h)
    have hheight : f.count + 1 = small.height := by
      rw [← hreach, reach_of_open hopen hempty]
    rw [reach_of_open hopen' hempty']
    exact ⟨by simp only [hwidest]; exact Nat.le_max_left .., by simp only; omega⟩

theorem pace_absorb_control (h : Pace big small f g) (hopen : f.full = false)
    (hopen' : g.full = false) (c : Control) :
    Pace big small (f.absorb (.control c)) (g.absorb (.control c)) := by
  have hholds (line : Line) : (line.pushControl c).isEmpty = false := by
    simp [Line.isEmpty, Line.pushControl]
  cases h with
  | settled h => exact .settled ((stable_reach small).absorbAll [.control c] g h)
  | alike hsize hline =>
    rw [absorb_control hopen, absorb_control hopen']
    exact .alike hsize (congrArg (Line.pushControl · c) hline)
  | later hnarrow hwidest hcount =>
    rw [absorb_control hopen, absorb_control hopen']
    exact .later hnarrow hwidest hcount
  | further hnarrow hwidest hcount hahead =>
    rw [absorb_control hopen, absorb_control hopen']
    refine .further hnarrow hwidest hcount ⟨hahead.room, hahead.width, fun hempty => ?_⟩
    exact absurd hempty (Bool.eq_false_iff.mp (hholds g.line))

/-- While a flow that keeps up has not reached all, both have room for another line. -/
theorem Pace.open (h : Pace big small f g) (hbig : big.isEmpty = false) (hsmall : small.isEmpty = false)
    (hle : small.Within big) (hf : Sound big f) (hg : Sound small g) (hunder : Under small f) :
    small.Within g.reach ∨ f.full = false ∧ g.full = false := by
  by_cases hreached : small.Within g.reach
  · exact .inl hreached
  have hmore : ¬small.height ≤ g.count := fun hlast => hreached (h.done hunder hg hlast)
  have hcount := h.count_le.resolve_left hreached
  refine .inr ⟨?_, ?_⟩
  · rw [hf.full_eq hbig]
    exact decide_eq_false fun hfull => hmore (Nat.le_trans (Nat.le_trans hle.height hfull) hcount)
  · rw [hg.full_eq hsmall]
    exact decide_eq_false hmore

variable (hbig : big.isEmpty = false) (hsmall : small.isEmpty = false) (hle : small.Within big)
include hbig hsmall hle

/-- A unit keeps a flow up with the other one. -/
theorem Turn.pace {opens : Bool} {u : WrapUnit} {f' g' : Flow} (h : Turn big small opens u f g f' g')
    (hpace : Pace big small f g) (hsettled : small.Within g.reach → small.Within g'.reach) :
    Pace big small f' g' := by
  cases hpace with
  | settled hreached => exact .settled (hsettled hreached)
  | alike hsize hline => exact h.pace_of_alike hbig hsmall hle hsize hline
  | later hnarrow hwidest hcount => exact h.pace_of_later hbig hle hnarrow hwidest hcount
  | further hnarrow hwidest hcount hahead =>
    exact h.pace_of_further hbig hle hnarrow hwidest hsmall hcount hahead

/-- A flow within the size that another one of the same text will have measured keeps up with it. -/
theorem within_ends_of_pace (as : List Atom) (hf : Sound big f) (hg : Sound small g)
    (hends : f.ends as = small) (htouched : (f.absorbAll as).touched = true)
    (hdrops : ∀ before opens u after, as = before ++ .unit opens u :: after →
      (f.absorbAll before).Drops u → Text.charsWidth u.text ≤ small.width)
    (hclusters : ∀ opens u, .unit opens u ∈ as → big.width < Text.charsWidth u.text →
      ∀ cluster ∈ Text.clusters u.text, Text.clusterWidth cluster ≤ 2)
    (hpace : Pace big small f g) (hcut : g.openCut = f.openCut) : small.Within (g.ends as) := by
  induction as generalizing f g with
  | nil =>
    have hreach : f.reach = small := (size_finish htouched).symm.trans hends
    exact (hpace.reached hsmall (hends ▸ under_ends hf []) hg hreach).trans (reach_within_ends g [])
  | cons a rest ih =>
    have hunder : Under small f := hends ▸ under_ends hf (a :: rest)
    have hf' := hf.absorbAll [a]
    have hg' := hg.absorbAll [a]
    have hunder' : Under small (f.absorb a) := hends ▸ under_ends hf' rest
    rcases hpace.open hbig hsmall hle hf hg hunder with hreached | ⟨hopen, hopen'⟩
    · exact hreached.trans (reach_within_ends g (a :: rest))
    -- What is left to show is that the two keep pace, and have the same word open.
    suffices hstep : small.Within (g.absorb a).reach ∨
        Pace big small (f.absorb a) (g.absorb a) ∧ (g.absorb a).openCut = (f.absorb a).openCut by
      rcases hstep with hreached | ⟨hpace', hcut'⟩
      · exact hreached.trans (reach_within_ends (g.absorb a) rest)
      · refine ih hf' hg' hends htouched ?_ ?_ hpace' hcut'
        · intro before opens u after hrest
          exact hdrops (a :: before) opens u after (congrArg (a :: ·) hrest)
        · exact fun opens u hu => hclusters opens u (List.mem_cons_of_mem a hu)
    cases a with
    | control c =>
      refine .inr ⟨pace_absorb_control hpace hopen hopen' c, ?_⟩
      rw [absorb_control hopen, absorb_control hopen']
      exact hcut
    | unit opens u =>
      have hturn : Turn big small opens u f g (f.absorb (.unit opens u)) (g.absorb (.unit opens u)) :=
        { wide := hf
          wide' := hf'
          narrow := hg
          narrow' := hg'
          under := hunder
          under' := hunder'
          wideOpen := hopen
          narrowOpen := hopen'
          cut := hcut
          pushes := pushes hopen opens u
          pushes' := pushes hopen' opens u
          drops := hdrops [] opens u rest rfl
          clusters := hclusters opens u (List.mem_cons_self ..) }
      have hpace' := hturn.pace hbig hsmall hle hpace
        ((stable_reach small).absorbAll [.unit opens u] g)
      refine (hpace'.open hbig hsmall hle hf' hg' hunder').imp id fun ⟨hstill, hstill'⟩ => ⟨hpace', ?_⟩
      rw [openCut_absorb hopen hstill, openCut_absorb hopen' hstill', hf.counted.bounds,
        hg.counted.bounds, hcut, hturn.cutAfter_eq hle hstill]

end Run

end Flow

/-! ### Spans -/

namespace Span

/-- A run of blanks that is left out behind a line of the span, with room for a line below it. -/
def Drops (s : Span) (limit : Size) (u : WrapUnit) : Prop :=
  ∃ before opens after, s.atoms = before ++ .unit opens u :: after ∧
    ((Flow.start limit).absorbAll before).Drops u

theorem measure_eq_ends (s : Span) (limit : Size) : s.measure limit = (Flow.start limit).ends s.atoms := by
  rw [measure, Flow.ofSpan_takesAll]
  rfl

theorem measure_of_isEmpty (s : Span) {limit : Size} (h : limit.isEmpty = true) :
    s.measure limit = ⟨0, 0⟩ := by
  have hwidth : (s.measure limit).width = 0 := by
    rw [← widest_wrap, wrap_of_isEmpty s h]
    rfl
  have hheight : (s.measure limit).height = 0 := by
    rw [← length_wrap, wrap_of_isEmpty s h]
    rfl
  show Size.mk (s.measure limit).width (s.measure limit).height = _
  rw [hwidth, hheight]

theorem measure_within (s : Span) (limit : Size) : (s.measure limit).Within limit := by
  rw [measure_eq_ends]
  exact ((Flow.Sound.start limit).absorbAll s.atoms).finish.size

/-- A span without text or controls is an empty line. -/
theorem atoms_ne_nil {s : Span} {limit : Size} (h : (s.measure limit).width ≠ 0) : s.atoms ≠ [] := by
  refine fun hnil => h ?_
  rw [measure_eq_ends, hnil]
  cases hfull : (Flow.start limit).full
  · exact congrArg Size.width (Flow.size_breakLine hfull)
  · have hnone : ((Flow.start limit).breakLine Flow.takesAll).1 = Flow.start limit := by
      simp [Flow.breakLine, hfull]
    exact congrArg Flow.widest hnone

/-- A span is measured again at the size that it measured. If no line has any width, that is no size at
all. Otherwise it is the same, unless blanks wider than that were left out behind a line that had room for
a line below it, or a word or a run of blanks that was wider than the bounds has clusters of more than two
columns. -/
theorem measure_again (s : Span) (limit : Size) :
    let m := s.measure limit
    (m.width = 0 → s.measure m = ⟨0, 0⟩) ∧
    (m.width ≠ 0 → (∀ u, s.Drops limit u → Text.charsWidth u.text ≤ m.width) →
      (∀ opens u, .unit opens u ∈ s.atoms → limit.width < Text.charsWidth u.text →
        ∀ cluster ∈ Text.clusters u.text, Text.clusterWidth cluster ≤ 2) →
      s.measure m = m) := by
  intro m
  refine ⟨fun hzero => s.measure_of_isEmpty (by simp [Size.isEmpty, hzero]), ?_⟩
  intro hwidth hdrops hclusters
  have hbig : limit.isEmpty = false := Bool.eq_false_iff.mpr fun hempty => hwidth (by
    show (s.measure limit).width = 0
    rw [s.measure_of_isEmpty hempty])
  have hsmall : m.isEmpty = false := by
    have hheight : m.height ≠ 0 := fun hzero => hwidth (by
      show (s.measure limit).width = 0
      rw [← widest_wrap, List.length_eq_zero_iff.mp ((s.length_wrap limit).trans hzero)]
      rfl)
    simp [Size.isEmpty, hwidth, hheight]
  have hends : (Flow.start limit).ends s.atoms = m := (s.measure_eq_ends limit).symm
  have htouched : ((Flow.start limit).absorbAll s.atoms).touched = true := by
    rw [Flow.touched_absorbAll]
    simp [atoms_ne_nil hwidth]
  have hreached := Flow.within_ends_of_pace hbig hsmall (s.measure_within limit) s.atoms (.start limit)
    (.start m) hends htouched
    (fun before opens u after hatoms h => hdrops u ⟨before, opens, after, hatoms, h⟩) hclusters
    (.alike rfl rfl) rfl
  rw [← s.measure_eq_ends m] at hreached
  exact (s.measure_within m).antisymm hreached

/-- In five columns blanks and the last of three wide letters are left out, and what is left is four
columns wide. -/
theorem measure_again_korean :
    let s : Span := .content "aaaa  가가가" 12
    s.measure ⟨5, 4⟩ = ⟨4, 2⟩ ∧ s.measure ⟨4, 2⟩ = ⟨4, 2⟩ := by
  intro s
  let units := WrapUnit.ofChars "aaaa  가가가".toList
  have hatoms : s.atoms = Atom.ofUnits true units := List.flatMap_singleton _ _
  have hmeasured : s.measure ⟨5, 4⟩ = ⟨4, 2⟩ := by decide +kernel
  have hblank : ∀ u ∈ units, u.kind = .space → Text.charsWidth u.text ≤ 4 := by decide +kernel
  have hnarrow : ∀ u ∈ units, ∀ cluster ∈ Text.clusters u.text, Text.clusterWidth cluster ≤ 2 := by
    decide +kernel
  have hagain := (measure_again s ⟨5, 4⟩).2 (by rw [hmeasured]; decide) ?_ ?_
  · rw [hmeasured] at hagain
    exact ⟨hmeasured, hagain⟩
  · intro u ⟨before, opens, after, hsplit, hdrops⟩
    have hu : .unit opens u ∈ s.atoms := by simp [hsplit]
    rw [hmeasured]
    exact hblank u (Atom.mem_of_mem_ofUnits (hatoms ▸ hu)) hdrops.space
  · exact fun opens u hu _ => hnarrow u (Atom.mem_of_mem_ofUnits (hatoms ▸ hu))

/-- Nothing at all is an empty line, for which there is no room in no columns. Five blanks that are left out
behind a line of five columns are cut to fill four, and the line end behind them then opens no line. A
word that leaves nothing behind six letters in seven columns opens a line in six, where the next word, with
clusters of four columns, leaves nothing then. -/
theorem measure_again_less :
    (Span.empty.measure ⟨5, 5⟩ = ⟨0, 1⟩ ∧ Span.empty.measure ⟨0, 1⟩ = ⟨0, 0⟩) ∧
    ((Span.content "a     \ncccc" 10).measure ⟨5, 5⟩ = ⟨4, 3⟩ ∧
      (Span.content "a     \ncccc" 10).measure ⟨4, 3⟩ = ⟨4, 2⟩) ∧
    (Span.container [.content "aaaaaa" 6, .content "가ᄀᄀ가\tbb\tᄀ가ᄀ가\tcc" 20] 26).measure
      ⟨7, 9⟩ = ⟨6, 3⟩ ∧
    (Span.container [.content "aaaaaa" 6, .content "가ᄀᄀ가\tbb\tᄀ가ᄀ가\tcc" 20] 26).measure
      ⟨6, 3⟩ = ⟨6, 2⟩ := by
  refine ⟨⟨?_, ?_⟩, ⟨?_, ?_⟩, ?_, ?_⟩ <;> decide +kernel

end Span

end TextPane
