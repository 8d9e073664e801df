import TextPane.Proofs.Scene.Sweep
import TextPane.Proofs.View.Paint

/-! Repainting a display.

A display that shows a node asks for a repaint after every update that reaches it, and a request stays
until the repaint. So as long as nothing of the tree changes, a screen that shows the tree goes on
showing it (`Keeps`), and once an update has reached the display the screen shows the tree of the
moment or a repaint is asked for (`raise_fresh`), whether repaints are queued or not.

An update reaches the display from every node that the shown one contains: each of them is listened to
by the one that holds it, and there are fewer of them on the way up than rounds may nest. -/
namespace TextPane.Scene

/-! ### Painting -/

theorem onTerminal_of {α : Type} {work : TerminalM α} {s : Scene} {a : Except Failure α} {t : Terminal}
    (h : work s.terminal = (a, t)) : onTerminal work s = (a, { s with terminal := t }) := by
  simp only [onTerminal, h]

/-- Work on the terminal as work on the scene. -/
def carryTerminal : Carry TerminalM SceneM where
  run := onTerminal
  run_pure a := rfl
  run_bind x f := by
    funext s
    rcases hx : x s.terminal with ⟨e | a, t⟩
    · rw [bind_of_error (onTerminal_of hx)]
      exact onTerminal_of (bind_of_error hx f)
    · rw [bind_of_ok (onTerminal_of hx), onTerminal, bind_of_ok hx]
      rfl

theorem onTerminal_bind {α β : Type} (x : TerminalM α) (f : α → TerminalM β) :
    onTerminal (x >>= f) = (onTerminal x >>= fun a => onTerminal (f a)) := carryTerminal.run_bind x f

/-- The tree of a node in a sound scene is laid out as a tree of spans. -/
theorem treeBox_tree {s : Scene} (hs : s.Sound) (raise : NodeId → Scene → Scene) (r : Renderer)
    (n : NodeId) :
    treeBox raise r (s.tree n) = ((s.spanTree n).onTerminal r).map carryTerminal := by
  rw [← spanTree_eq_map hs, treeBox, View.box_map, View.onTerminal, View.map_box]
  rfl

/-- The tree of a node is a matter of the nodes. -/
theorem spanTree_of_nodes {s s' : Scene} (h : s'.nodes = s.nodes) (n : NodeId) :
    s'.spanTree n = s.spanTree n := by
  have hbody : ∀ m, s'.body m = s.body m := fun m => by rw [body, body, node, node, h]
  rw [spanTree, spanTree, tree, tree, h, treeWithin_congr _ fun m _ => hbody m]

/-- A paint changes the terminal alone, and then the screen shows the tree. -/
theorem paint_spec {s : Scene} (hs : s.Sound) (hreliable : s.terminal.Reliable) {r : Renderer}
    (hmode : r.mode ≠ .file) (raise : NodeId → Scene → Scene) (child : Option NodeId) :
    ∃ cs, paint raise r child s = (.ok (), { s with terminal := s.terminal.after cs }) ∧
      ∀ n ∈ child, (s.terminal.after cs).screen.lines = (s.spanTree n).shown r s.terminal.size := by
  obtain ⟨cs, hpaint, hshown⟩ := Renderer.paint_shows hmode (child.map s.spanTree) hreliable
  refine ⟨cs, ?_, fun n hn => hshown _ (Option.mem_map_of_mem _ hn)⟩
  rw [← onTerminal_of hpaint]
  have hclear : r.clearScreen s.terminal =
      (.ok (), s.terminal.after (Renderer.clearCalls r.mode)) := by
    rw [Renderer.clearScreen_eq_makeAll, Terminal.makeAll_of_reliable hreliable]
  have hcleared : onTerminal r.clearScreen s =
      (.ok (), { s with terminal := s.terminal.after (Renderer.clearCalls r.mode) }) :=
    onTerminal_of hclear
  cases child with
  | none =>
    rw [paint, Renderer.paint, onTerminal_bind]
    rfl
  | some n =>
    rw [paint, Renderer.paint, onTerminal_bind, bind_of_ok hcleared, bind_of_ok hcleared]
    -- The tree is read after the clearing, when the nodes are still the same.
    let cleared : Scene := { s with terminal := s.terminal.after (Renderer.clearCalls r.mode) }
    have hbox := treeBox_tree (s := cleared) hs raise r n
    have htree : cleared.spanTree n = s.spanTree n :=
      spanTree_of_nodes (show cleared.nodes = s.nodes from rfl) n
    rw [htree] at hbox
    have hsize : cleared.terminal.size = s.terminal.size := Terminal.size_after ..
    have hget : (get : SceneM Scene) cleared = (.ok cleared, cleared) := rfl
    simp only [Option.map_some, onTerminal_bind]
    refine (bind_of_ok hget _).trans ?_
    rw [hbox, hsize]
    rfl

/-! ### A display and its requests -/

/-- The scene has one display, which is `d` but for its repaints. None of them runs, and no further
call of the terminal fails. -/
structure Attended (d : Display) (requested : Bool) (s : Scene) : Prop where
  displays : ∃ count, s.displays = #[{ d with repaint := { requested, count } }]
  reliable : s.terminal.Reliable
  sound : s.Sound

/-- A request waits in the queue of the display. Without a queue none waits. -/
def Awaited (d : Display) (requested : Bool) (s : Scene) : Prop :=
  (d.queue = none → requested = false) ∧
    ∀ q ∈ d.queue, q < s.queues.size ∧ (requested = true → 0 ∈ (s.queues[q]?).getD [])

/-- The screen shows the tree of what the display shows, as a blank terminal does. -/
def Current (d : Display) (s : Scene) : Prop :=
  ∀ slot ∈ d.child, s.terminal.screen.lines =
    (s.spanTree slot.node).shown d.renderer s.terminal.size

/-- The display is on its own, and a request of it waits to be carried out. -/
def Tended (d : Display) (s : Scene) : Prop :=
  ∃ requested, Attended d requested s ∧ Awaited d requested s

/-- A tended display with the tree of the moment on the screen, or with a request for it. -/
def Fresh (d : Display) (s : Scene) : Prop :=
  ∃ requested, Attended d requested s ∧ Awaited d requested s ∧ (requested = true ∨ Current d s)

theorem Fresh.tended {d : Display} {s : Scene} (h : Fresh d s) : Tended d s := by
  obtain ⟨requested, hattended, hawaited, _⟩ := h
  exact ⟨requested, hattended, hawaited⟩

/-- What has happened changed no node, and a display that was fresh still is. -/
structure Keeps (d : Display) (s s' : Scene) : Prop where
  nodes : s'.nodes = s.nodes
  tended : Tended d s'
  fresh : Fresh d s → Fresh d s'

section Display
variable {d : Display} {s s' s'' : Scene}

theorem Keeps.refl (h : Tended d s) : Keeps d s s := ⟨rfl, h, id⟩

theorem Keeps.trans (h : Keeps d s s') (h' : Keeps d s' s'') : Keeps d s s'' :=
  ⟨h'.nodes.trans h.nodes, h'.tended, fun hfresh => h'.fresh (h.fresh hfresh)⟩

/-- What is on the screen is current as long as neither the terminal nor a node changes. -/
theorem Current.congr (h : Current d s) (hterminal : s'.terminal = s.terminal)
    (hnodes : s'.nodes = s.nodes) : Current d s' := fun slot hslot => by
  rw [hterminal, spanTree_of_nodes hnodes]
  exact h slot hslot

theorem Sound.congr (h : s.Sound) (hnodes : s'.nodes = s.nodes) : s'.Sound := fun n => by
  have hbody : s'.body n = s.body n := by rw [body, body, node, node, hnodes]
  rw [hbody, hnodes]
  exact h n

theorem Attended.congr {requested : Bool} (h : Attended d requested s)
    (hterminal : s'.terminal = s.terminal) (hdisplays : s'.displays = s.displays)
    (hnodes : s'.nodes = s.nodes) : Attended d requested s' :=
  ⟨hdisplays ▸ h.displays, hterminal ▸ h.reliable, h.sound.congr hnodes⟩

/-- No rendering is left that raises updates. -/
theorem restless_eq_zero (hs : s.Sound) : s.restless = 0 := by
  apply List.sum_eq_zero_iff_forall_eq_nat.mpr
  intro count hcount
  obtain ⟨node, hnode, rfl⟩ := List.mem_map.mp hcount
  obtain ⟨n, hn, hget⟩ := List.mem_iff_getElem.mp hnode
  have hbody : s.body n = node.body := by
    have hget' : s.nodes[n]? = some node := by
      rw [← Array.getElem?_toList, List.getElem?_eq_getElem hn, hget]
    rw [body, Scene.node, hget']
    rfl
  have hsound := hs n
  rw [hbody] at hsound
  cases hprobe : node.body with
  | probe p =>
    rw [hprobe] at hsound
    exact hsound.elim
  | _ => rfl

/-- Whoever carries out what is asked for leaves nothing to ask for, and then the screen is current if
it was, or if a repaint was asked for. -/
theorem Attended.drain {requested : Bool} (h : Attended d requested s) (hmode : d.renderer.mode ≠ .file)
    (raise : NodeId → Scene → Scene) :
    Attended d false (drainWith raise 0 s) ∧ (drainWith raise 0 s).nodes = s.nodes ∧
      (drainWith raise 0 s).queues = s.queues ∧
      (requested = true ∨ Current d s → Current d (drainWith raise 0 s)) := by
  obtain ⟨count, hdisplays⟩ := h.displays
  have hdisplay : s.displays[0]? = some { d with repaint := { requested, count } } := by
    rw [hdisplays]
    rfl
  cases requested with
  | false =>
    have hnone : drainWith raise 0 s = s := by
      simp only [drainWith, drainRounds, hdisplay]
      rfl
    rw [hnone]
    exact ⟨h, rfl, rfl, by simp⟩
  | true =>
    let painted := s.setRepaint 0 { requested := false, running := true, count }
    obtain ⟨cs, hpaint, hshown⟩ := paint_spec (s := painted) (h.sound.congr rfl) h.reliable hmode raise
      (d.child.map (·.node))
    have hone : drainWith raise 0 s =
        finishRepaint { painted with terminal := s.terminal.after cs } 0 := by
      simp only [drainWith, restless_eq_zero h.sound, drainRounds, hdisplay]
      exact congrArg (fun result : Except Failure Unit × Scene => finishRepaint result.2 0) hpaint
    rw [hone]
    refine ⟨⟨⟨count + 1, ?_⟩, h.reliable.after cs, h.sound.congr rfl⟩, rfl, rfl, fun _ slot hslot => ?_⟩
    · simp only [painted, finishRepaint, setRepaint, modifyDisplay, hdisplays]
      rfl
    · have hlines := hshown slot.node (Option.mem_map_of_mem _ hslot)
      let finished := finishRepaint { painted with terminal := s.terminal.after cs } 0
      have hbefore : painted.spanTree slot.node = s.spanTree slot.node :=
        spanTree_of_nodes (show painted.nodes = s.nodes from rfl) _
      have hafter : finished.spanTree slot.node = s.spanTree slot.node :=
        spanTree_of_nodes (show finished.nodes = s.nodes from rfl) _
      have hsize : (s.terminal.after cs).size = s.terminal.size := Terminal.size_after ..
      rw [hbefore] at hlines
      rw [hafter]
      exact hlines.trans (congrArg _ hsize.symm)

/-- The display is the only one. -/
theorem Attended.no_other {requested : Bool} (h : Attended d requested s) {i : DisplayId} (hi : i ≠ 0) :
    s.displays[i]? = none := by
  obtain ⟨count, hdisplays⟩ := h.displays
  rw [hdisplays]
  exact Array.getElem?_eq_none (Nat.one_le_iff_ne_zero.mpr hi)

@[simp] theorem size_modifyQueue (s : Scene) (q : QueueId) (f : List DisplayId → List DisplayId) :
    (s.modifyQueue q f).queues.size = s.queues.size := Array.size_modify

theorem queues_modifyQueue (s : Scene) (q : QueueId) (f : List DisplayId → List DisplayId)
    (q' : QueueId) : (s.modifyQueue q f).queues[q']? =
      if q = q' then (s.queues[q']?).map f else s.queues[q']? := Array.getElem?_modify

/-! ### Updates -/

/-- An update that reaches the display makes it fresh. -/
theorem requestRepaint_fresh (hmode : d.renderer.mode ≠ .file) (raise : NodeId → Scene → Scene)
    (h : Tended d s) :
    (requestRepaint raise 0 s).nodes = s.nodes ∧ Fresh d (requestRepaint raise 0 s) := by
  obtain ⟨requested, hattended, hawaited⟩ := h
  obtain ⟨count, hdisplays⟩ := hattended.displays
  have hdisplay : s.displays[0]? = some { d with repaint := { requested, count } } := by
    rw [hdisplays]
    rfl
  cases requested with
  | true =>
    have hsame : requestRepaint raise 0 s = s := by
      simp only [requestRepaint, hdisplay]
      rfl
    rw [hsame]
    exact ⟨rfl, true, hattended, hawaited, .inl rfl⟩
  | false =>
    have hasked : Attended d true (s.setRepaint 0 { requested := true, count }) := by
      refine ⟨⟨count, ?_⟩, hattended.reliable, hattended.sound.congr rfl⟩
      simp only [setRepaint, modifyDisplay, hdisplays]
      rfl
    cases hqueue : d.queue with
    | none =>
      have hdrain : requestRepaint raise 0 s =
          drainWith raise 0 (s.setRepaint 0 { requested := true, count }) := by
        simp only [requestRepaint, hdisplay, hqueue]
        rfl
      obtain ⟨hdone, hnodes, _, hcurrent⟩ := hasked.drain hmode raise
      rw [hdrain]
      refine ⟨hnodes, false, hdone, ⟨fun _ => rfl, fun q hq => ?_⟩, .inr (hcurrent (.inl rfl))⟩
      rw [hqueue] at hq
      cases hq
    | some q =>
      have hput : requestRepaint raise 0 s =
          (s.setRepaint 0 { requested := true, count }).modifyQueue q (· ++ [0]) := by
        simp only [requestRepaint, hdisplay, hqueue]
        rfl
      obtain ⟨hsize, _⟩ := hawaited.2 q hqueue
      rw [hput]
      refine ⟨rfl, true, hasked.congr rfl rfl rfl, ⟨fun hnone => ?_, fun q' hq' => ?_⟩, .inl rfl⟩
      · rw [hqueue] at hnone
        cases hnone
      · obtain rfl : q = q' := Option.some.inj (hqueue.symm.trans hq')
        refine ⟨by rwa [size_modifyQueue], fun _ => ?_⟩
        rw [queues_modifyQueue, if_pos rfl]
        simp [setRepaint, modifyDisplay, hsize]

/-- What an update does to a listener, when further updates keep the display fresh. -/
theorem deliver_keeps (hmode : d.renderer.mode ≠ .file) {raise : NodeId → Scene → Scene}
    (hraise : ∀ n s, Tended d s → Keeps d s (raise n s)) (l : Listener) (h : Tended d s) :
    Keeps d s (deliver raise s l) := by
  cases l with
  | forward n => exact hraise n s h
  | watch counter =>
    obtain ⟨requested, hattended, hawaited⟩ := h
    exact ⟨rfl, ⟨requested, hattended.congr rfl rfl rfl, hawaited⟩,
      fun ⟨requested, hattended, hawaited, hcurrent⟩ =>
        ⟨requested, hattended.congr rfl rfl rfl, hawaited, hcurrent.imp_right fun h => h.congr rfl rfl⟩⟩
  | display i =>
    by_cases hi : i = 0
    · subst hi
      obtain ⟨hnodes, hfresh⟩ := requestRepaint_fresh hmode raise h
      exact ⟨hnodes, hfresh.tended, fun _ => hfresh⟩
    · obtain ⟨requested, hattended, _⟩ := id h
      have hsame : deliver raise s (.display i) = s := by
        simp only [deliver, requestRepaint, hattended.no_other hi]
      rw [hsame]
      exact .refl h

theorem delivers_keep (hmode : d.renderer.mode ≠ .file) {raise : NodeId → Scene → Scene}
    (hraise : ∀ n s, Tended d s → Keeps d s (raise n s)) (round : List Listener) (h : Tended d s) :
    Keeps d s (round.foldl (deliver raise) s) := by
  induction round generalizing s with
  | nil => exact .refl h
  | cons l rest ih =>
    have hl := deliver_keeps hmode hraise l h
    exact hl.trans (ih hl.tended)

/-- Updates keep the display fresh. -/
theorem raiseWithin_keeps (hmode : d.renderer.mode ≠ .file) (depth : Nat) (n : NodeId)
    (h : Tended d s) : Keeps d s (raiseWithin depth n s) := by
  induction depth generalizing n s with
  | zero => exact .refl h
  | succ depth ih => exact delivers_keep hmode (fun n s h => ih n h) _ h

/-- An update makes the display fresh if it does so for one of those that it reaches. -/
theorem raiseWithin_fresh_of_mem (hmode : d.renderer.mode ≠ .file) {depth : Nat} {n : NodeId}
    {l : Listener} (hl : l ∈ (s.notifier n).round) (h : Tended d s)
    (hfresh : ∀ s', s'.nodes = s.nodes → Tended d s' → Fresh d (deliver (raiseWithin depth) s' l)) :
    Fresh d (raiseWithin (depth + 1) n s) := by
  obtain ⟨before, after, hround⟩ := List.append_of_mem hl
  have hkeeps := fun n s h => raiseWithin_keeps (d := d) (s := s) hmode depth n h
  have hbefore := delivers_keep hmode hkeeps before h
  have hreached := hfresh _ hbefore.nodes hbefore.tended
  have hafter := delivers_keep hmode hkeeps after hreached.tended
  have heq : raiseWithin (depth + 1) n s =
      after.foldl (deliver (raiseWithin depth))
        (deliver (raiseWithin depth) (before.foldl (deliver (raiseWithin depth)) s) l) := by
    show ((s.notifier n).round).foldl _ s = _
    rw [hround, List.foldl_append, List.foldl_cons]
  rw [heq]
  exact hafter.fresh hreached

/-- An update of a node reaches the display on the way up from the node to the one that is shown. -/
theorem raiseWithin_fresh (hmode : d.renderer.mode ≠ .file) (hlinked : s.Linked nothing)
    {slot : Slot} (hchild : slot ∈ s.places (.display 0)) {k : Nat} {n : NodeId}
    (hbelow : s.Below slot.node k n) {depth : Nat} (hdepth : k < depth)
    {s' : Scene} (hnodes : s'.nodes = s.nodes) (h' : Tended d s') :
    Fresh d (raiseWithin depth n s') := by
  have hnotifier : ∀ m, s'.notifier m = s.notifier m := fun m => by
    rw [notifier, notifier, node, node, hnodes]
  induction hbelow generalizing depth s' with
  | here =>
    obtain ⟨depth, rfl⟩ := Nat.exists_eq_add_one_of_ne_zero (Nat.ne_of_gt hdepth)
    have hlistens : (slot.subscription, Listener.display 0) ∈ (s.notifier slot.node).listeners :=
      (Wired.listens hlinked (.display 0) rfl slot).mpr hchild
    rw [← hnotifier] at hlistens
    exact raiseWithin_fresh_of_mem hmode (List.mem_map_of_mem hlistens) h' fun s'' _ h'' =>
      (requestRepaint_fresh hmode _ h'').2
  | step above hholds ih =>
    next k p n =>
    obtain ⟨depth, rfl⟩ := Nat.exists_eq_add_one_of_ne_zero (Nat.ne_zero_of_lt hdepth)
    obtain ⟨place, hplace, rfl⟩ := hholds
    have hlistens : (place.subscription, Listener.forward p) ∈ (s.notifier place.node).listeners :=
      (Wired.listens hlinked (.forward p) rfl place).mpr hplace
    rw [← hnotifier] at hlistens
    apply raiseWithin_fresh_of_mem hmode (List.mem_map_of_mem hlistens) h'
    intro s'' hnodes'' h''
    have hsame := hnodes''.trans hnodes
    exact ih (Nat.lt_of_succ_lt_succ hdepth) hsame h'' fun m => by
      rw [notifier, notifier, node, node, hsame]

/-- **An update of a node that stands in the shown one makes the display fresh**, however deep it
stands. -/
theorem raise_fresh (hmode : d.renderer.mode ≠ .file) (hlinked : s.Linked nothing) (hs : s.Acyclic)
    {slot : Slot} (hchild : slot ∈ d.child) {n : NodeId} (hn : s.Contains slot.node n)
    (h : Tended d s) : Fresh d (s.raise n) := by
  obtain ⟨requested, ⟨⟨count, hdisplays⟩, _, _⟩, _⟩ := id h
  have hplace : slot ∈ s.places (.display 0) := by
    rw [places, hdisplays]
    exact Option.mem_toList.mpr hchild
  obtain ⟨k, hbelow⟩ := Contains.below hn
  have hk : k < s.nodes.size :=
    hbelow.lt (shallow_of_acyclic hlinked hs (Wired.node_lt hlinked (l := .display 0) rfl hplace))
  have hdepth : k < s.depth := by
    have hone : s.displays.size = 1 := by
      rw [hdisplays]
      rfl
    rw [depth, hone]
    omega
  exact raiseWithin_fresh hmode hlinked hplace hbelow hdepth rfl h

theorem raise_keeps (hmode : d.renderer.mode ≠ .file) (n : NodeId) (h : Tended d s) :
    Keeps d s (s.raise n) := raiseWithin_keeps hmode _ n h

/-! ### Queues -/

/-- Repaints that are carried out leave no request, and the display fresh if one was asked for. -/
theorem Attended.drained {requested : Bool} (h : Attended d requested s)
    (hmode : d.renderer.mode ≠ .file) (hsize : ∀ q ∈ d.queue, q < s.queues.size) :
    Tended d (s.drain 0) ∧ (requested = true ∨ Current d s → Fresh d (s.drain 0)) := by
  obtain ⟨hdone, _, hqueues, hcurrent⟩ := h.drain hmode (raiseWithin s.depth)
  have hnone : Awaited d false (s.drain 0) := by
    refine ⟨fun _ => rfl, fun q hq => ⟨?_, fun hfalse => ?_⟩⟩
    · show q < (drainWith (raiseWithin s.depth) 0 s).queues.size
      rw [hqueues]
      exact hsize q hq
    · cases hfalse
  exact ⟨⟨false, hdone, hnone⟩, fun hasked => ⟨false, hdone, hnone, .inr (hcurrent hasked)⟩⟩

/-- Nothing is to be done for a display that is not there. -/
theorem Attended.drain_other {requested : Bool} (h : Attended d requested s) {i : DisplayId}
    (hi : i ≠ 0) : s.drain i = s := by
  rw [Scene.drain, drainWith, drainRounds, h.no_other hi]

section Taken
variable {q : QueueId} {i : DisplayId} {rest : List DisplayId} (hqueue : s.queues[q]? = some (i :: rest))
include hqueue

theorem pending_taken : (s.modifyQueue q fun _ => rest).pending q = rest.length := by
  rw [pending, queues_modifyQueue, if_pos rfl, hqueue]
  rfl

/-- A request goes on waiting when another one is taken from the queue. -/
theorem Awaited.taken {requested : Bool} (h : Awaited d requested s) (hi : i ≠ 0) :
    Awaited d requested (s.modifyQueue q fun _ => rest) := by
  refine ⟨h.1, fun q' hq' => ⟨?_, fun hrequested => ?_⟩⟩
  · rw [size_modifyQueue]
    exact (h.2 q' hq').1
  · have hmem := (h.2 q' hq').2 hrequested
    rw [queues_modifyQueue]
    split
    · next heq =>
      subst heq
      rw [hqueue] at hmem ⊢
      exact (List.mem_cons.mp hmem).resolve_left (Ne.symm hi)
    · exact hmem

/-- A repaint that is taken from the queue is carried out. -/
theorem taken_keeps (hmode : d.renderer.mode ≠ .file) (h : Tended d s) :
    Keeps d s ((s.modifyQueue q fun _ => rest).drain i) ∧
      ((s.modifyQueue q fun _ => rest).drain i).pending q = rest.length := by
  let taken := s.modifyQueue q fun _ => rest
  have hattend {requested : Bool} (hattended : Attended d requested s) : Attended d requested taken :=
    hattended.congr rfl rfl rfl
  by_cases hi : i = 0
  · subst hi
    have hdrained {requested : Bool} (hattended : Attended d requested s)
        (hawaited : Awaited d requested s) := (hattend hattended).drained hmode fun q' hq' => by
      rw [size_modifyQueue]
      exact (hawaited.2 q' hq').1
    obtain ⟨requested, hattended, hawaited⟩ := h
    obtain ⟨_, hnodes, hqueues, _⟩ := (hattend hattended).drain hmode (raiseWithin taken.depth)
    refine ⟨⟨hnodes, (hdrained hattended hawaited).1, ?_⟩, ?_⟩
    · rintro ⟨requested, hattended, hawaited, hfresh⟩
      exact (hdrained hattended hawaited).2 (hfresh.imp_right fun h => h.congr rfl rfl)
    · have hsame : (taken.drain 0).queues = taken.queues := hqueues
      rw [← pending_taken hqueue, pending, pending, hsame]
  · obtain ⟨_, hany, _⟩ := id h
    rw [(hattend hany).drain_other hi]
    refine ⟨⟨rfl, ?_, ?_⟩, pending_taken hqueue⟩
    · obtain ⟨requested, hattended, hawaited⟩ := h
      exact ⟨requested, hattend hattended, hawaited.taken hqueue hi⟩
    · rintro ⟨requested, hattended, hawaited, hfresh⟩
      exact ⟨requested, hattend hattended, hawaited.taken hqueue hi,
        hfresh.imp_right fun h => h.congr rfl rfl⟩

end Taken

/-- The first repaint of a queue is carried out, and the queue is shorter by one. -/
theorem runNext_spec (hmode : d.renderer.mode ≠ .file) (q : QueueId) (h : Tended d s) :
    Keeps d s (s.runNext q).1 ∧ (s.runNext q).1.pending q = s.pending q - 1 ∧
      ((s.runNext q).2 = false → s.pending q = 0) := by
  cases hqueue : (s.queues[q]?).getD [] with
  | nil =>
    have hsame : s.runNext q = (s, false) := by rw [runNext, hqueue]
    have hzero : s.pending q = 0 := by rw [pending, hqueue, List.length_nil]
    rw [hsame, hzero]
    exact ⟨.refl h, rfl, fun _ => rfl⟩
  | cons i rest =>
    have hsome : s.queues[q]? = some (i :: rest) := by
      cases hget : s.queues[q]? with
      | none =>
        rw [hget] at hqueue
        cases hqueue
      | some waiting =>
        rw [hget] at hqueue
        exact congrArg some hqueue
    have hnext : s.runNext q = ((s.modifyQueue q fun _ => rest).drain i, true) := by
      rw [runNext, hqueue]
    have hlength : s.pending q = rest.length + 1 := by rw [pending, hqueue, List.length_cons]
    obtain ⟨hkeeps, hpending⟩ := taken_keeps hsome hmode h
    rw [hnext, hlength]
    exact ⟨hkeeps, hpending, fun hfalse => by cases hfalse⟩

/-- Carrying out so many repaints at most empties a queue that has no more. -/
theorem runRounds_spec (hmode : d.renderer.mode ≠ .file) (q : QueueId) (rounds : Nat) (h : Tended d s)
    (hrounds : s.pending q ≤ rounds) :
    Keeps d s (s.runRounds q rounds).1 ∧ (s.runRounds q rounds).1.pending q = 0 := by
  induction rounds generalizing s with
  | zero => exact ⟨.refl h, Nat.le_zero.mp hrounds⟩
  | succ rounds ih =>
    obtain ⟨hkeeps, hpending, hnone⟩ := runNext_spec hmode q h
    unfold runRounds
    rcases hnext : s.runNext q with ⟨s', ran⟩
    rw [hnext] at hkeeps hpending hnone
    cases ran with
    | false =>
      have hzero : s.pending q = 0 := hnone rfl
      rw [hzero] at hpending
      exact ⟨hkeeps, hpending⟩
    | true =>
      obtain ⟨hrest, hempty⟩ := ih hkeeps.tended (by rw [hpending]; omega)
      exact ⟨hkeeps.trans hrest, hempty⟩

/-- **With its queue emptied a fresh display is current**: a request would still wait there. -/
theorem runPending_spec (hmode : d.renderer.mode ≠ .file) {q : QueueId} (hq : q ∈ d.queue)
    (h : Fresh d s) : Keeps d s (s.runPending q).1 ∧ Current d (s.runPending q).1 := by
  obtain ⟨hkeeps, hempty⟩ := runRounds_spec hmode q _ h.tended (Nat.le_add_right _ _)
  obtain ⟨requested, _, hawaited, hfresh⟩ := hkeeps.fresh h
  refine ⟨hkeeps, hfresh.resolve_left fun hrequested => ?_⟩
  have hmem := (hawaited.2 q hq).2 hrequested
  exact absurd (List.length_pos_of_mem hmem) (Nat.not_lt.mpr (Nat.le_of_eq hempty))

/-- **Without a queue a fresh display is current** at once. -/
theorem Fresh.current (hqueue : d.queue = none) (h : Fresh d s) : Current d s := by
  obtain ⟨requested, _, hawaited, hfresh⟩ := h
  apply hfresh.resolve_left
  intro hrequested
  cases hrequested.symm.trans (hawaited.1 hqueue)

end Display

end TextPane.Scene
