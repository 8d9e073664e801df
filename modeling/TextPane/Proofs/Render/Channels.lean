import TextPane.Proofs.Render.Calls
import TextPane.Proofs.Wrap.Lines

/-! The two colours of a console.

A console resets both of its colours at once, so what resets one sets the other again. Hence each channel
goes its own way: at any moment it has the colour that was chosen for it last, or the one from before if none
was, whatever was chosen for the other (`Colors.chosen`). What lines are printed with follows this fragment
by fragment (`Follows`), through all lines of a span, and a reset behind them undoes it. -/
namespace TextPane

/-! ### Choices -/

/-- A colour is known by its name in any ASCII case. -/
theorem Color.ofName?_eq_some {name : String} {c : Color} :
    Color.ofName? name = some c ↔ Text.lowerAscii name = c.name := by
  rw [ofName?]
  constructor
  · intro h
    have hfound := List.find?_some h
    exact (beq_iff_eq.mp hfound).symm
  · intro h
    rw [h]
    cases c <;> decide

/-- The choice that a fragment makes for a channel, if it does: of a colour, or of none where no colour has
the name. -/
def Fragment.choice? (ch : Channel) : Fragment → Option (Option Color)
  | .control (.color c) => if c.channel = ch then some (Color.ofName? c.name) else none
  | _ => none

namespace Colors

/-- What was chosen last for a channel, or what it had at first. -/
def lastChoice (ch : Channel) (first : Option Color) (fs : List Fragment) : Option Color :=
  (fs.filterMap (Fragment.choice? ch)).getLast?.getD first

/-- The colours once fragments have made their choices. -/
def chosen (k : Colors) (fs : List Fragment) : Colors :=
  ⟨lastChoice .foreground k.foreground fs, lastChoice .background k.background fs⟩

theorem lastChoice_append (ch : Channel) (first : Option Color) (fs gs : List Fragment) :
    lastChoice ch first (fs ++ gs) = lastChoice ch (lastChoice ch first fs) gs := by
  simp only [lastChoice, List.filterMap_append, List.getLast?_append]
  cases (gs.filterMap (Fragment.choice? ch)).getLast? <;> rfl

theorem chosen_append (k : Colors) (fs gs : List Fragment) :
    k.chosen (fs ++ gs) = (k.chosen fs).chosen gs := by
  simp only [chosen, lastChoice_append]

theorem chosen_of_not_colors {fs : List Fragment} (h : fs.any Print.colors = false) (k : Colors) :
    k.chosen fs = k := by
  have hnone (ch : Channel) : fs.filterMap (Fragment.choice? ch) = [] := by
    refine List.filterMap_eq_nil_iff.mpr fun f hf => ?_
    have hcolors := List.any_eq_false.mp h f hf
    cases f with
    | text s => rfl
    | control c =>
      cases c with
      | color c => exact absurd rfl hcolors
      | _ => rfl
  simp only [chosen, lastChoice, hnone]
  rfl

/-- The calls for a fragment choose what it does, and leave the other channel as it is. -/
theorem afterAll_fragmentCalls (k : Colors) (f : Fragment) :
    k.afterAll (Print.fragmentCalls k f) = k.chosen [f] := by
  cases f with
  | text s => rfl
  | control c =>
    cases c with
    | color c =>
      simp only [Print.fragmentCalls, Print.colorCalls, chosen, lastChoice, List.filterMap_cons,
        List.filterMap_nil, Fragment.choice?]
      cases Color.ofName? c.name with
      | some color => cases c.channel <;> rfl
      | none =>
        obtain ⟨foreground, background⟩ := k
        cases c.channel
        · cases background <;> rfl
        · cases foreground <;> rfl
    | _ => rfl

end Colors

/-! ### Texts in colours -/

/-- The texts that calls write, each with the colours of the terminal when it is written. -/
def Terminal.inks : Terminal → List Call → List (String × Colors)
  | _, [] => []
  | t, .write s :: rest => (s, t.colors) :: (t.after [.write s]).inks rest
  | t, c :: rest => (t.after [c]).inks rest

theorem Terminal.inks_append (t : Terminal) (a b : List Call) :
    t.inks (a ++ b) = t.inks a ++ (t.after a).inks b := by
  induction a generalizing t with
  | nil => rfl
  | cons c rest ih =>
    have hrest := ih (t.after [c])
    rw [← after_append, List.singleton_append] at hrest
    cases c with
    | write s => exact congrArg ((s, t.colors) :: ·) hrest
    | _ => exact hrest

theorem Terminal.inks_colorCalls (t : Terminal) (k : Colors) (c : ColorControl) :
    t.inks (Print.colorCalls k c) = [] := by
  unfold Print.colorCalls
  cases Color.ofName? c.name with
  | some color => cases c.channel <;> rfl
  | none =>
    cases c.channel
    · cases k.background <;> rfl
    · cases k.foreground <;> rfl

/-- The texts of fragments, each with the colours that the choices before it make of `k`. -/
def Fragment.inks (k : Colors) : List Fragment → List Fragment → List (String × Colors)
  | _, [] => []
  | before, .text s :: rest => (s, k.chosen before) :: inks k (before ++ [.text s]) rest
  | before, .control c :: rest => inks k (before ++ [.control c]) rest

theorem Fragment.inks_append (k : Colors) (before fs gs : List Fragment) :
    inks k before (fs ++ gs) = inks k before fs ++ inks k (before ++ fs) gs := by
  induction fs generalizing before with
  | nil => rw [List.append_nil]; rfl
  | cons f rest ih =>
    have hrest := ih (before ++ [f])
    rw [List.append_assoc, List.singleton_append] at hrest
    cases f with
    | text s => exact congrArg ((s, k.chosen before) :: ·) hrest
    | control c => exact hrest

/-- The calls write the texts of the fragments, each in the colours of the choices before it, and leave
the colours of all choices. -/
structure Follows (t : Terminal) (cs : List Call) (fs : List Fragment) : Prop where
  inks : ∀ k before, t.colors = k.chosen before → t.inks cs = Fragment.inks k before fs
  colors : (t.after cs).colors = t.colors.chosen fs

namespace Follows
variable {t : Terminal} {cs ds : List Call} {fs gs : List Fragment}

theorem nil (t : Terminal) : Follows t [] [] := ⟨fun _ _ _ => rfl, rfl⟩

theorem append (h : Follows t cs fs) (h' : Follows (t.after cs) ds gs) : Follows t (cs ++ ds) (fs ++ gs) where
  inks k before hk := by
    have hk' : (t.after cs).colors = k.chosen (before ++ fs) := by
      rw [h.colors, hk, Colors.chosen_append]
    rw [Terminal.inks_append, Fragment.inks_append, h.inks k before hk, h'.inks k _ hk']
  colors := by rw [Terminal.after_append, h'.colors, h.colors, Colors.chosen_append]

theorem text (t : Terminal) (s : String) : Follows t [.write s] [.text s] :=
  ⟨fun _ _ hk => by rw [Fragment.inks, ← hk]; rfl, rfl⟩

/-- A call that neither writes nor changes a colour follows nothing. -/
theorem moveTo (t : Terminal) (left top : Nat) : Follows t [.moveTo left top] [] := ⟨fun _ _ _ => rfl, rfl⟩

theorem fragment (t : Terminal) (f : Fragment) : Follows t (Print.fragmentCalls t.colors f) [f] := by
  refine ⟨fun k before hk => ?_, by rw [Terminal.colors_after, Colors.afterAll_fragmentCalls]⟩
  cases f with
  | text s => exact (text t s).inks k before hk
  | control c =>
    cases c with
    | color c => exact Terminal.inks_colorCalls t t.colors c
    | _ => rfl

theorem fragments (t : Terminal) (fs : List Fragment) : Follows t (Print.fragmentsCalls t.colors fs) fs := by
  induction fs generalizing t with
  | nil => exact nil t
  | cons f rest ih =>
    have hrest := ih (t.after (Print.fragmentCalls t.colors f))
    rw [Terminal.colors_after] at hrest
    exact (fragment t f).append hrest

end Follows

/-! ### Lines -/

namespace Print

/-- What is printed of a line on a console: its fragments and the blanks behind them. -/
def printed (region : Region) (l : Line) : List Fragment :=
  l.fragments ++ if 0 < padding region l then [.text (Command.blanks (padding region l))] else []

/-- What is printed of lines, in order. -/
def printedAll (region : Region) (ls : List Line) : List Fragment := ls.flatMap (printed region)

theorem follows_padding (region : Region) (l : Line) (t : Terminal) :
    Follows t (paddingCalls region l)
      (if 0 < padding region l then [.text (Command.blanks (padding region l))] else []) := by
  unfold paddingCalls
  split
  · exact .text t _
  · exact .nil t

theorem follows_line (region : Region) (index : Nat) (l : Line) (t : Terminal) :
    Follows t (lineCalls .console region t.colors index l) (printed region l) :=
  have hmoved := Follows.moveTo t region.left (row region index)
  hmoved.append ((Follows.fragments _ l.fragments).append (follows_padding region l _))

theorem follows_lines (region : Region) (index : Nat) (ls : List Line) (t : Terminal) :
    Follows t (linesCalls .console region t.colors index ls) (printedAll region ls) := by
  induction ls generalizing index t with
  | nil => exact .nil t
  | cons l rest ih =>
    have hrest := ih (index + 1) (t.after (lineCalls .console region t.colors index l))
    rw [Terminal.colors_after] at hrest
    exact (follows_line region index l t).append hrest

/-- Blanks choose no colour. -/
theorem any_printedAll (region : Region) (ls : List Line) :
    (printedAll region ls).any colors = ls.any (touches .console) := by
  have hprinted (l : Line) : (printed region l).any colors = touches .console l := by
    rw [printed, List.any_append]
    split <;> simp [touches, colors]
  simp [printedAll, List.any_flatMap, hprinted]

end Print

namespace Renderer

/-- Renders spans, each into a region of its own. -/
def renderAll (r : Renderer) : List (Span × Region) → TerminalM Unit
  | [] => pure ()
  | (s, region) :: rest => do
    r.render s region
    r.renderAll rest

section Console
variable {r : Renderer} (hmode : r.mode = .console)
include hmode

/-- Lines are printed, and colours are reset behind them if any was chosen and that is to be undone. -/
theorem renderCalls_console (s : Span) (region : Region) (k : Colors) :
    r.renderCalls s region k = Print.linesCalls .console region k 0 (s.wrap region.size) ++
      if r.reset && (Print.printedAll region (s.wrap region.size)).any Print.colors then [.resetColor]
      else [] := by
  rw [renderCalls, Print.any_printedAll, hmode]
  cases hempty : region.isEmpty with
  | false => rfl
  | true =>
    rw [s.wrap_of_isEmpty hempty]
    simp [Print.linesCalls]

theorem inks_renderCalls (s : Span) (region : Region) (t : Terminal) :
    t.inks (r.renderCalls s region t.colors) =
      Fragment.inks t.colors [] (Print.printedAll region (s.wrap region.size)) := by
  have hlines := Print.follows_lines region 0 (s.wrap region.size) t
  rw [renderCalls_console hmode, Terminal.inks_append, hlines.inks t.colors [] rfl]
  split <;> exact List.append_nil _

/-- With colours undone, a span leaves none if it chose any. -/
theorem colors_renderCalls (hreset : r.reset = true) (s : Span) (region : Region) (t : Terminal) :
    (t.after (r.renderCalls s region t.colors)).colors =
      if (Print.printedAll region (s.wrap region.size)).any Print.colors then {} else t.colors := by
  have hlines := Print.follows_lines region 0 (s.wrap region.size) t
  rw [renderCalls_console hmode, hreset, Bool.true_and, Terminal.after_append]
  split
  · rfl
  · next hnone =>
    show (t.after _).colors = _
    rw [hlines.colors, Colors.chosen_of_not_colors (Bool.eq_false_iff.mpr hnone)]

omit hmode in
theorem render_reliable {t : Terminal} (ht : t.Reliable) (s : Span) (region : Region) :
    r.render s region t = (.ok (), t.after (r.renderCalls s region t.colors)) := by
  rw [render_eq_makeAll, Terminal.makeAll_of_reliable ht]

theorem renderAll_reliable (hreset : r.reset = true) (jobs : List (Span × Region)) {t : Terminal}
    (ht : t.Reliable) (hcolors : t.colors = {}) :
    ∃ t', r.renderAll jobs t = (.ok (), t') ∧ t'.colors = {} := by
  induction jobs generalizing t with
  | nil => exact ⟨t, rfl, hcolors⟩
  | cons job rest ih =>
    obtain ⟨s, region⟩ := job
    have hplain : (t.after (r.renderCalls s region t.colors)).colors = {} := by
      rw [colors_renderCalls hmode hreset, hcolors, ite_self]
    obtain ⟨t', hrest, hcolors'⟩ := ih (ht.after _) hplain
    refine ⟨t', ?_, hcolors'⟩
    rw [renderAll, bind_of_ok (render_reliable ht s region), hrest]

end Console

/-- **The channels of a console are independent.** Where no call fails, every text that a span writes has in
each channel the colour of the last colour control of that channel before it, which is none where no colour
has the name in any ASCII case, and that from before the span if there is no such control. With colours
undone, there are none behind a span that chose any, and those from before behind any other; so from none at
first there are none between renders. -/
theorem render_colors (r : Renderer) (hmode : r.mode = .console) :
    (∀ (s : Span) (region : Region) (t : Terminal), t.Reliable →
      let printed := Print.printedAll region (s.wrap region.size)
      ∃ calls, r.render s region t = (.ok (), t.after calls) ∧
        t.inks calls = Fragment.inks t.colors [] printed ∧
        (r.reset = true → (t.after calls).colors = if printed.any Print.colors then {} else t.colors)) ∧
    (∀ (name : String) (c : Color), Color.ofName? name = some c ↔ Text.lowerAscii name = c.name) ∧
    (r.reset = true → ∀ (jobs : List (Span × Region)) (t : Terminal), t.Reliable → t.colors = {} →
      ∃ t', r.renderAll jobs t = (.ok (), t') ∧ t'.colors = {}) := by
  refine ⟨fun s region t ht => ⟨_, render_reliable ht s region, ?_, fun hreset => ?_⟩,
    fun name c => Color.ofName?_eq_some, fun hreset jobs t ht hcolors => ?_⟩
  · exact inks_renderCalls hmode s region t
  · exact colors_renderCalls hmode hreset s region t
  · exact renderAll_reliable hmode hreset jobs ht hcolors

/-- Both channels are chosen in turn, with a name in other letters, one that no colour has and a reset; the
console has colours of its own at first. -/
theorem render_colors_mixed :
    let r : Renderer := { mode := .console }
    let s : Span := .ofList [.ofText "a", .control (.color ⟨"ReD", .foreground, ""⟩), .ofText "b",
      .background "blue", .ofText "c", .foreground "chartreuse", .ofText "d\ne",
      .control (.color (.reset .background)), .ofText "f"]
    let region : Region := { left := 0, top := 0, width := 5, height := 2 }
    let t : Terminal := { size := ⟨5, 2⟩, foreground := some .green, background := some .white }
    r.mode = .console ∧ t.Reliable ∧ ∃ calls, r.render s region t = (.ok (), t.after calls) ∧
      t.inks calls = [("a", ⟨some .green, some .white⟩), ("b", ⟨some .red, some .white⟩),
        ("c", ⟨some .red, some .blue⟩), ("d", ⟨none, some .blue⟩), (" ", ⟨none, some .blue⟩),
        ("e", ⟨none, some .blue⟩), ("f", ⟨none, none⟩), ("   ", ⟨none, none⟩)] ∧
      (t.after calls).colors = {} ∧
      ∃ t', r.renderAll [(s, region), (s, region)] (t.after calls) = (.ok (), t') ∧ t'.colors = {} := by
  intro r s region t
  have hreliable : t.Reliable := fun _ _ => rfl
  obtain ⟨hrender, _, hrenders⟩ := render_colors r rfl
  obtain ⟨calls, hcalls, hinks, hcolors⟩ := hrender s region t hreliable
  have hplain : (t.after calls).colors = {} := (hcolors rfl).trans (if_pos (by decide +kernel))
  exact ⟨rfl, hreliable, calls, hcalls, hinks.trans (by decide +kernel), hplain,
    hrenders rfl _ _ (hreliable.after calls) hplain⟩

end Renderer

end TextPane
