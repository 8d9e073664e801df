import TextPane.Proofs.Scene.Rendering

/-! Rendering on a terminal that fails.

The calls for a node are the same whichever calls of the terminal fail, since none of them depends on
what came of another (`nodeCalls`). So a run whose calls fail from some number on records what the run
without failures begins with, ends with an error where a call is left to be made, and makes no call
after that one (`render_cut`). -/
namespace TextPane.Scene

/-- The scene with other calls of its terminal failing. -/
def withFaults (s : Scene) (faults : Faults) : Scene :=
  { s with terminal := { s.terminal with faults } }

/-- The calls that rendering a node makes where none fails. -/
def nodeCalls (s : Scene) (r : Renderer) (n : NodeId) (region : Region) : List Call :=
  r.performCalls s.terminal.colors ((s.spanTree n).draws region)

section Node
variable {s : Scene} {n : NodeId} {P : Span → Prop} (h : s.OnlySpans P n) (r : Renderer)
  (region : Region) {faults : Faults}
include h

/-- Rendering a node without probes is making its calls in turn, up to the first that fails. -/
theorem render_withFaults :
    ((s.withFaults faults).nodeBox r n).render region (s.withFaults faults) =
      onTerminal (Terminal.makeAll (s.nodeCalls r n region)) (s.withFaults faults) := by
  have hnodes : (s.withFaults faults).nodes = s.nodes := rfl
  have hspans : (s.withFaults faults).OnlySpans P n := by rwa [OnlySpans, tree_of_nodes hnodes]
  have hcalls := r.perform_eq_makeAll ((s.spanTree n).draws region) (s.withFaults faults).terminal
  rw [render_nodeBox hspans, spanTree_of_nodes hnodes, onTerminal, hcalls]
  rfl

/-- Where none of its calls fails, a node has its calls made. -/
theorem render_spared (hspared : (s.withFaults faults).terminal.Spares (s.nodeCalls r n region).length) :
    ((s.withFaults faults).nodeBox r n).render region (s.withFaults faults) =
      (.ok (), { s.withFaults faults with
        terminal := (s.withFaults faults).terminal.after (s.nodeCalls r n region) }) :=
  (render_withFaults h r region).trans (onTerminal_of (Terminal.makeAll_of_spares _ hspared))

/-- Where one of its calls fails, a node has the calls before that one made. -/
theorem render_hit {k : Nat} (hspared : (s.withFaults faults).terminal.Spares k)
    (hhit : faults.hit (s.terminal.made + k) = true) (hk : k < (s.nodeCalls r n region).length) :
    ((s.withFaults faults).nodeBox r n).render region (s.withFaults faults) =
      (.error .terminal, { s.withFaults faults with terminal :=
        { (s.withFaults faults).terminal.after ((s.nodeCalls r n region).take k) with
          made := s.terminal.made + (k + 1) } }) :=
  (render_withFaults h r region).trans (onTerminal_of (Terminal.makeAll_of_hit hspared hhit _ hk))

end Node

/-- **A failure stops rendering at once.** A node is a tree of contents, stacks, grids and tables, and
the calls of the terminal fail from number `k` on, counted from the start of the rendering. Rendering
then ends with an error exactly where more than `k` calls are made without failures, the terminal has
recorded the first `k` of these, and the call that failed is the last that was tried. -/
theorem render_cut (s : Scene) (n : NodeId) (r : Renderer) (region : Region) (k : Nat)
    (h : s.OnlySpans (fun _ => True) n) :
    let sound := s.withFaults .never
    let failing := s.withFaults (.after (s.terminal.made + k) none)
    let whole := (sound.nodeBox r n).render region sound
    let cut := (failing.nodeBox r n).render region failing
    ∃ events : List Call,
      whole.1 = .ok () ∧ whole.2.terminal.calls.toList = s.terminal.calls.toList ++ events ∧
      whole.2.terminal.made = s.terminal.made + events.length ∧
      cut.1 = (if k < events.length then .error .terminal else .ok ()) ∧
      cut.2.terminal.calls.toList = s.terminal.calls.toList ++ events.take k ∧
      cut.2.terminal.made = s.terminal.made + min (k + 1) events.length ∧
      cut.2 = { failing with terminal := cut.2.terminal } := by
  intro sound failing whole cut
  let events := s.nodeCalls r n region
  have hwhole : whole = (.ok (), { sound with terminal := sound.terminal.after events }) :=
    render_spared h r region fun _ _ => rfl
  obtain ⟨hresult, hcalls, hmade⟩ : whole.1 = .ok () ∧
      whole.2.terminal.calls.toList = s.terminal.calls.toList ++ events ∧
      whole.2.terminal.made = s.terminal.made + events.length := by
    rw [hwhole]
    exact ⟨rfl, Terminal.calls_after .., Terminal.made_after ..⟩
  refine ⟨events, hresult, hcalls, hmade, ?_⟩
  have hspared : failing.terminal.Spares k := fun i hi =>
    decide_eq_false (Nat.not_le.mpr (Nat.add_lt_add_left hi _))
  by_cases hk : k < events.length
  · have hcut : cut = (.error .terminal, { failing with terminal :=
        { failing.terminal.after (events.take k) with made := s.terminal.made + (k + 1) } }) :=
      render_hit h r region hspared (decide_eq_true le_rfl) hk
    rw [hcut, if_pos hk, Nat.min_eq_left hk]
    exact ⟨rfl, Terminal.calls_after .., rfl, rfl⟩
  · have hlength : events.length ≤ k := Nat.le_of_not_lt hk
    have hcut : cut = (.ok (), { failing with terminal := failing.terminal.after events }) :=
      render_spared h r region fun i hi => hspared i (Nat.lt_of_lt_of_le hi hlength)
    rw [hcut, if_neg hk, List.take_of_length_le hlength,
      Nat.min_eq_right (Nat.le_succ_of_le hlength)]
    exact ⟨rfl, Terminal.calls_after .., Terminal.made_after .., rfl⟩

/-- The sixth call for the shelf on a console, the one that sets the colour, fails: the text behind it
is not written and the row below stays as it is. -/
theorem render_cut_shelf :
    let failing := shelf.withFaults (.after (shelf.terminal.made + 5) none)
    let cut := (failing.nodeBox { mode := .console } 4).render
      { left := 1, top := 0, width := 6, height := 2 } failing
    cut.1 = .error .terminal ∧
      cut.2.terminal.calls.toList =
        [.write "........", .moveTo 1 0, .write "ab", .moveTo 3 0, .write " ", .moveTo 4 0] ∧
      cut.2.terminal.made = 6 := by
  have hspans : shelf.OnlySpans (fun _ => True) 4 := onlySpans_shelf.mono fun _ _ => trivial
  obtain ⟨events, _, hcalls, _, hresult, hcut, hmade, _⟩ := render_cut shelf 4 { mode := .console }
    { left := 1, top := 0, width := 6, height := 2 } 5 hspans
  have hevents : shelf.terminal.calls.toList ++ events = shelf.terminal.calls.toList ++
      [.moveTo 1 0, .write "ab", .moveTo 3 0, .write " ", .moveTo 4 0, .foreground .red,
        .write "c d", .resetColor, .moveTo 1 1, .write "ab", .write "    "] :=
    hcalls.symm.trans (by decide +kernel)
  rw [List.append_cancel_left hevents] at hresult hcut hmade
  dsimp only
  rw [hresult, hcut, hmade]
  exact ⟨rfl, rfl, rfl⟩

end TextPane.Scene
