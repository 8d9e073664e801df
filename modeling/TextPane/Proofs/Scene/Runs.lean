import TextPane.Proofs.Scene.Moves

/-! A display keeps up with what it shows.

As long as no node stands in itself, a change either reaches the display that shows its node or touches
nothing that the display shows: the nodes it edits are its own, what it lets go is not shown, and the
way up from its node to the shown one is still there when the update is raised (`Steady.changes`). So
once an update has reached the display, the screen shows the tree of the moment for good, at once or as
soon as the queue is empty (`moves_show`). -/
namespace TextPane.Scene

/-! ### What a change leaves as it was -/

/-- Nothing but nodes has changed, and what is new is sound. -/
structure Apart (s s' : Scene) : Prop where
  terminal : s'.terminal = s.terminal
  displays : s'.displays = s.displays
  queues : s'.queues = s.queues
  sound : s.Sound → s'.Sound

section
variable {d : Display} {s s' : Scene}

theorem Edits.apart {only : Option NodeId} (h : Edits only s s') : Apart s s' :=
  ⟨h.terminal, h.displays, h.queues, h.sound_all⟩

theorem Swept.apart (h : Swept s s') : Apart s s' := ⟨h.terminal, h.displays, h.queues, h.sound⟩

theorem Attended.apart {requested : Bool} (h : Attended d requested s) (hapart : Apart s s') :
    Attended d requested s' :=
  ⟨hapart.displays ▸ h.displays, hapart.terminal ▸ h.reliable, hapart.sound h.sound⟩

theorem Awaited.apart {requested : Bool} (h : Awaited d requested s) (hapart : Apart s s') :
    Awaited d requested s' := by
  rw [Awaited, hapart.queues]
  exact h

theorem Tended.apart (h : Tended d s) (hapart : Apart s s') : Tended d s' := by
  obtain ⟨requested, hattended, hawaited⟩ := h
  exact ⟨requested, hattended.apart hapart, hawaited.apart hapart⟩

/-- A display stays fresh while the tree of what it shows stays the same. -/
theorem Fresh.apart (h : Fresh d s) (hapart : Apart s s')
    (htree : ∀ slot ∈ d.child, s'.tree slot.node = s.tree slot.node) : Fresh d s' := by
  obtain ⟨requested, hattended, hawaited, hfresh⟩ := h
  refine ⟨requested, hattended.apart hapart, hawaited.apart hapart, hfresh.imp_right ?_⟩
  intro hcurrent slot hslot
  rw [hapart.terminal, spanTree, htree slot hslot]
  exact hcurrent slot hslot

/-- The child of the display is shown. -/
theorem Tended.shows (h : Tended d s) {slot : Slot} (hslot : slot ∈ d.child) : s.Shows slot.node := by
  obtain ⟨requested, ⟨⟨count, hdisplays⟩, _, _⟩, _⟩ := h
  have hdisplay : s.displays[0]? = some { d with repaint := { requested, count } } := by
    rw [hdisplays]
    rfl
  exact ⟨0, _, slot, hdisplay, hslot, rfl⟩

theorem Tended.mem_places (h : Tended d s) {slot : Slot} (hslot : slot ∈ d.child) :
    slot ∈ s.places (.display 0) := by
  obtain ⟨requested, ⟨⟨count, hdisplays⟩, _, _⟩, _⟩ := h
  rw [places, hdisplays]
  exact Option.mem_toList.mpr hslot

/-- The places of displays are a matter of what the one display shows. -/
theorem Tended.places_display (h : Tended d s) (h' : Tended d s') (i : DisplayId) :
    s'.places (.display i) = s.places (.display i) := by
  obtain ⟨_, ⟨⟨count, hdisplays⟩, _, _⟩, _⟩ := h
  obtain ⟨_, ⟨⟨count', hdisplays'⟩, _, _⟩, _⟩ := h'
  rw [places, places, hdisplays, hdisplays']
  cases i <;> rfl

/-- What is let go is not shown. -/
theorem Fresh.swept (h : Fresh d s) (hswept : Swept s s') : Fresh d s' :=
  h.apart hswept.apart fun slot hslot => by
    rw [tree, tree, hswept.size, treeWithin_congr _ (hswept.kept slot.node (h.tended.shows hslot))]

/-- An edit of a node that is not shown leaves the display fresh. -/
theorem Fresh.edits (h : Fresh d s) (hlinked : s.Linked nothing) (hs : s.Acyclic)
    {only : Option NodeId} (hedits : Edits only s s')
    (hout : ∀ n ∈ only, ∀ slot ∈ d.child, ¬s.Contains slot.node n) : Fresh d s' := by
  apply h.apart hedits.apart
  intro slot hslot
  have hsize : slot.node < s.nodes.size :=
    Wired.node_lt hlinked (l := .display 0) rfl (h.tended.mem_places hslot)
  refine tree_eq hlinked hs hsize hedits.size fun m hm => hedits.body m ?_ fun honly => ?_
  · cases hm with
    | refl => exact hsize
    | tail _ hholds => exact lt_size_of_holds hlinked hholds
  · exact hout m honly slot hslot hm

/-- An edit of a node leaves the way up from it as it was. -/
theorem Edits.contains {c n : NodeId} (h : Edits (some n) s s') (hs : s.Acyclic)
    (hn : s.Contains c n) : s'.Contains c n := by
  induction hn using Relation.ReflTransGen.head_induction_on with
  | refl => exact .refl
  | head hholds hrest ih =>
    next a b =>
    -- The way up from `n` passes through other nodes only.
    have hne : some n ≠ some a := fun heq => by
      obtain rfl : n = a := Option.some.inj heq
      exact hs n (Relation.TransGen.head' hholds hrest)
    exact ih.head ((holds_congr (h.body a (lt_size_of_holder hholds) hne)).mpr hholds)

/-- What is shown is kept as it is. -/
theorem Swept.contains {c n : NodeId} (h : Swept s s') (hc : s.Shows c) (hn : s.Contains c n) :
    s'.Contains c n := (contains_congr (h.kept c hc)).mpr hn

theorem acyclic_of_nodes (hs : s.Acyclic) (hnodes : s'.nodes = s.nodes) : s'.Acyclic :=
  acyclic_of_holds hs fun _ _ => (holds_congr (body_of_nodes hnodes _)).mp

/-! ### One change -/

/-- A tended display in a scene where listeners are as places say and no node stands in itself. -/
structure Steady (d : Display) (s : Scene) : Prop where
  linked : s.Linked nothing
  acyclic : s.Acyclic
  tended : Tended d s

/-- Who listens does not change with updates. -/
theorem Keeps.linked (h : Keeps d s s') (ht : Tended d s) (hlinked : s.Linked nothing) :
    s'.Linked nothing := hlinked.congr h.nodes (ht.places_display h.tended)

theorem Steady.keeps (h : Steady d s) (hkeeps : Keeps d s s') : Steady d s' :=
  ⟨hkeeps.linked h.tended h.linked, acyclic_of_nodes h.acyclic hkeeps.nodes, hkeeps.tended⟩

/-- An update reaches the display on the way that was there before the edit. -/
theorem Steady.raised (hmode : d.renderer.mode ≠ .file) (h : Steady d s) {n : NodeId} {s₁ s₂ : Scene}
    (hedits : Edits (some n) s s₁) (hlinked : s₁.Linked nothing) (hswept : Swept s₁ s₂)
    (hs₂ : s₂.Acyclic) :
    Steady d (s₂.raise n) ∧ (Fresh d s → Fresh d (s₂.raise n)) ∧
      ∀ slot ∈ d.child, s.Contains slot.node n → Fresh d (s₂.raise n) := by
  have htended₁ := h.tended.apart hedits.apart
  have hsteady : Steady d s₂ := ⟨hswept.linked nothing hlinked, hs₂, htended₁.apart hswept.apart⟩
  have hkeeps := raise_keeps hmode n hsteady.tended
  have hreached : ∀ slot ∈ d.child, s.Contains slot.node n → Fresh d (s₂.raise n) :=
    fun slot hslot hn => by
      have hn₁ := hedits.contains h.acyclic hn
      have hn₂ := hswept.contains (htended₁.shows hslot) hn₁
      exact raise_fresh hmode hsteady.linked hs₂ hslot hn₂ hsteady.tended
  refine ⟨hsteady.keeps hkeeps, fun hfresh => ?_, hreached⟩
  by_cases hin : ∃ slot ∈ d.child, s.Contains slot.node n
  · obtain ⟨slot, hslot, hn⟩ := hin
    exact hreached slot hslot hn
  · have hfresh₁ : Fresh d s₁ := hfresh.edits h.linked h.acyclic hedits fun m hm slot hslot hcontains =>
      hin ⟨slot, hslot, Option.some.inj hm ▸ hcontains⟩
    exact hkeeps.fresh (hfresh₁.swept hswept)

/-- **A change leaves a fresh display fresh, and makes it so if it raises an update of a node that the
shown one contains.** -/
theorem Steady.changes (hmode : d.renderer.mode ≠ .file) (h : Steady d s) {raised : Option NodeId}
    (hchanges : Changes s raised s') (hs' : s'.Acyclic) :
    Steady d s' ∧ (Fresh d s → Fresh d s') ∧
      ∀ n ∈ raised, ∀ slot ∈ d.child, s.Contains slot.node n → Fresh d s' := by
  cases hchanges with
  | quiet edits linked swept =>
    have htended := (h.tended.apart edits.apart).apart swept.apart
    refine ⟨⟨swept.linked nothing linked, hs', htended⟩, fun hfresh => ?_, fun n hn => by cases hn⟩
    exact (hfresh.edits h.linked h.acyclic edits fun n hn => by cases hn).swept swept
  | @raised n s₁ s₂ edits linked swept =>
    have htended := (h.tended.apart edits.apart).apart swept.apart
    have hnodes : s₂.nodes = (s₂.raise n).nodes := (raise_keeps hmode n htended).nodes.symm
    obtain ⟨hsteady, hfresh, hreached⟩ :=
      h.raised hmode edits linked swept (acyclic_of_nodes hs' hnodes)
    exact ⟨hsteady, hfresh, fun m hm => Option.some.inj hm ▸ hreached⟩
  | @released n s₁ edits linked fewer =>
    obtain ⟨hsteady, hfresh, hreached⟩ :=
      h.raised hmode edits linked (.refl _) (acyclic_of_holds h.acyclic fewer)
    have hswept := swept_sweep (s₁.raise n)
    refine ⟨⟨hswept.linked nothing hsteady.linked, hs', hsteady.tended.apart hswept.apart⟩,
      fun h => (hfresh h).swept hswept, fun m hm slot hslot hcontains => ?_⟩
    exact (hreached slot hslot (Option.some.inj hm ▸ hcontains)).swept hswept

end

end TextPane.Scene

namespace TextPane

/-! ### Deeds in turn -/

namespace Deed

/-- Whether a deed may be done where one display on its own is to show what is there. -/
def Tends : Deed → Prop
  | .display i _ | .refresh i => i = 0
  | .probe _ | .queue | .screen .. | .dispose _ | .render .. | .bind _ | .feed .. => False
  | _ => True

/-- The node of which a deed raises an update, if it raises one. -/
def raises (s : Scene) : Deed → Option NodeId
  | .change c => c.raises s
  | .notify n => some n
  | _ => none

/-- Whether displays go on showing the same node. -/
def Stays : Deed → Prop
  | .display .. => False
  | _ => True

end Deed

namespace Scene

/-- Every deed is for the one display and on nodes that are there, and none lets a node stand in
itself. -/
def Proper : Scene → List Deed → Prop
  | _, [] => True
  | s, d :: rest => d.Possible s ∧ d.Tends ∧ (s.deed d).Acyclic ∧ Proper (s.deed d) rest

/-- One of the deeds raises an update of a node that stands in `child` at the moment. -/
def Updates (child : NodeId) : Scene → List Deed → Prop
  | _, [] => False
  | s, d :: rest => (∃ n ∈ d.raises s, s.Contains child n) ∨ Updates child (s.deed d) rest

theorem proper_append {s : Scene} {ds es : List Deed} :
    s.Proper (ds ++ es) ↔ s.Proper ds ∧ (s.deeds ds).Proper es := by
  induction ds generalizing s with
  | nil => exact ⟨fun h => ⟨trivial, h⟩, And.right⟩
  | cons d rest ih =>
    simp only [List.cons_append, Proper, ih, and_assoc]
    rfl

section
variable {d : Display} {s : Scene}

theorem Steady.refresh (hmode : d.renderer.mode ≠ .file) (h : Steady d s) :
    Steady d (s.refresh 0) ∧ Fresh d (s.refresh 0) := by
  obtain ⟨requested, hattended, hawaited⟩ := h.tended
  obtain ⟨count, hdisplays⟩ := hattended.displays
  let demanded := s.modifyDisplay 0 fun display => { display with repaint := display.repaint.demand }
  have hdemanded : Attended d true demanded := by
    refine ⟨⟨count, ?_⟩, hattended.reliable, hattended.sound.congr rfl⟩
    simp only [demanded, modifyDisplay, hdisplays]
    rfl
  obtain ⟨_, hnodes, _, _⟩ := hdemanded.drain hmode (raiseWithin demanded.depth)
  obtain ⟨htended, hfresh⟩ := hdemanded.drained hmode fun q hq => (hawaited.2 q hq).1
  have hkeeps : Keeps d s (s.refresh 0) := ⟨hnodes, htended, fun _ => hfresh (.inl rfl)⟩
  exact ⟨h.keeps hkeeps, hfresh (.inl rfl)⟩

/-- An update that is raised from outside is a change of nothing. -/
theorem changes_notify (h : s.Linked nothing) (n : NodeId) : Changes s (some n) (s.raise n) :=
  .raised (.refl s) h (.refl s)

theorem changes_unwatch (h : s.Linked nothing) {n : NodeId} {id : Nat}
    (hid : (Deed.unwatch n id).Possible s) : Changes s none (s.unsubscribe n id).1 := by
  have hlinked : (s.leave ⟨n, id⟩).Linked nothing := by
    rw [Linked, places_leave]
    exact Wired.unwatch h hid
  exact .quiet (edits_leave s ⟨n, id⟩) hlinked (.refl _)

/-- **A deed that leaves the display its child leaves it fresh**, and makes it so if an update of what
is shown is raised. -/
theorem Steady.deed (hmode : d.renderer.mode ≠ .file) (h : Steady d s) {deed : Deed}
    (hpossible : deed.Possible s) (htends : deed.Tends) (hstays : deed.Stays)
    (hs' : (s.deed deed).Acyclic) :
    Steady d (s.deed deed) ∧ (Fresh d s → Fresh d (s.deed deed)) ∧
      ∀ n ∈ deed.raises s, ∀ slot ∈ d.child, s.Contains slot.node n → Fresh d (s.deed deed) := by
  have hkept : ∀ s', Keeps d s s' → Steady d s' ∧ (Fresh d s → Fresh d s') ∧
      ∀ n ∈ (none : Option NodeId), ∀ slot ∈ d.child, s.Contains slot.node n → Fresh d s' :=
    fun s' hkeeps => ⟨h.keeps hkeeps, hkeeps.fresh, fun n hn => by cases hn⟩
  cases deed with
  | change c =>
    obtain ⟨_, hattended, _⟩ := id h.tended
    exact h.changes hmode (change_spec h.linked hattended.sound.fit c hpossible) hs'
  | notify n => exact h.changes hmode (changes_notify h.linked n) hs'
  | unwatch n id => exact h.changes hmode (changes_unwatch h.linked hpossible) hs'
  | display i child => exact hstays.elim
  | refresh i =>
    obtain rfl : i = 0 := htends
    obtain ⟨hsteady, hfresh⟩ := h.refresh hmode
    exact ⟨hsteady, fun _ => hfresh, fun n hn => by cases hn⟩
  | runNext q => exact hkept _ (runNext_spec hmode q h.tended).1
  | runPending q => exact hkept _ (runRounds_spec hmode q _ h.tended (Nat.le_add_right _ _)).1
  | late i =>
    exact hkept _ (deliver_keeps hmode (fun n _ => raiseWithin_keeps hmode s.depth n) (.display i) h.tended)
  | probe | queue | screen | dispose | render | bind | feed => exact htends.elim

/-- Deeds in turn leave a fresh display fresh. -/
theorem Steady.deeds_fresh (hmode : d.renderer.mode ≠ .file) (ds : List Deed) (h : Steady d s)
    (hproper : s.Proper ds) (hstays : ∀ deed ∈ ds, deed.Stays) (hfresh : Fresh d s) :
    Fresh d (s.deeds ds) := by
  induction ds generalizing s with
  | nil => exact hfresh
  | cons deed rest ih =>
    obtain ⟨hpossible, htends, hacyclic, hrest⟩ := hproper
    obtain ⟨hsteady, hkept, _⟩ :=
      h.deed hmode hpossible htends (hstays deed (List.mem_cons_self ..)) hacyclic
    exact ih hsteady hrest (fun e he => hstays e (List.mem_cons_of_mem deed he)) (hkept hfresh)

/-- Once one of the deeds has raised an update of what is shown, the display is fresh. -/
theorem Steady.deeds_updated (hmode : d.renderer.mode ≠ .file) {slot : Slot} (hslot : slot ∈ d.child)
    (ds : List Deed) (h : Steady d s) (hproper : s.Proper ds) (hstays : ∀ deed ∈ ds, deed.Stays)
    (hupdates : s.Updates slot.node ds) : Fresh d (s.deeds ds) := by
  induction ds generalizing s with
  | nil => exact hupdates.elim
  | cons deed rest ih =>
    obtain ⟨hpossible, htends, hacyclic, hrest⟩ := hproper
    obtain ⟨hsteady, _, hreached⟩ :=
      h.deed hmode hpossible htends (hstays deed (List.mem_cons_self ..)) hacyclic
    have hstays' : ∀ e ∈ rest, e.Stays := fun e he => hstays e (List.mem_cons_of_mem deed he)
    rcases hupdates with ⟨n, hn, hcontains⟩ | hlater
    · exact hsteady.deeds_fresh hmode rest hrest hstays' (hreached n hn slot hslot hcontains)
    · exact ih hsteady hrest hstays' hlater

/-! ### Showing another node -/

/-- A display leaves the child it had and listens to the new one. -/
theorem Steady.display (h : Steady d s) {child : Option NodeId}
    (hchild : ∀ n ∈ child.toList, n < s.nodes.size) (hs' : (s.setDisplayChild 0 child).Acyclic) :
    ∃ slot : Option Slot, slot.map (·.node) = child ∧
      Steady { d with child := slot } (s.setDisplayChild 0 child) := by
  obtain ⟨requested, hattended, hawaited⟩ := h.tended
  obtain ⟨count, hdisplays⟩ := hattended.displays
  obtain ⟨hslot, hedits, hlinked⟩ :=
    attach_spec h.linked 0 fun n hn => hchild n (Option.mem_toList.mpr hn)
  have hdisplay : s.displays[0]? = some { d with repaint := { requested, count } } := by
    rw [hdisplays]
    rfl
  have hset : s.setDisplayChild 0 child =
      ((((s.attach 0 child).1.modifyDisplay 0 fun display =>
        { display with child := (s.attach 0 child).2 }).detach d.child).sweep) := by
    simp only [setDisplayChild, hdisplay, Bool.false_eq_true, if_false]
  refine ⟨(s.attach 0 child).2, hslot, ?_⟩
  rw [hset] at hs' ⊢
  generalize s.attach 0 child = attached at hedits hlinked hs'
  obtain ⟨s₁, slot⟩ := attached
  have hdisplays₁ : s₁.displays = #[{ d with repaint := { requested, count } }] :=
    hedits.displays.trans hdisplays
  have hdisplay₁ : s₁.displays[0]? = some { d with repaint := { requested, count } } := by
    rw [hdisplays₁]
    rfl
  have hshown := hlinked.showSlot (fun display => { display with child := slot }) hdisplay₁ rfl
  have hattended₁ := hattended.apart hedits.apart
  have hawaited₁ := hawaited.apart hedits.apart
  let shown := s₁.modifyDisplay 0 fun display => { display with child := slot }
  have htended : Tended { d with child := slot } shown := by
    refine ⟨requested, ⟨⟨count, ?_⟩, hattended₁.reliable, hattended₁.sound.congr rfl⟩, hawaited₁⟩
    simp only [shown, modifyDisplay, hdisplays₁]
    rfl
  rw [detach_eq] at hs' ⊢
  have hswept := swept_sweep (shown.leaveAll d.child.toList)
  exact ⟨hswept.linked nothing (Linked.leaveAll_last rfl hshown), hs',
    (htended.apart (edits_leaveAll shown _).apart).apart hswept.apart⟩

/-- Deeds in turn keep the scene in order, whatever the display shows in the end. -/
theorem Steady.deeds (ds : List Deed) (hmode : d.renderer.mode ≠ .file) (h : Steady d s)
    (hproper : s.Proper ds) : ∃ child, Steady { d with child } (s.deeds ds) := by
  induction ds generalizing d s with
  | nil => exact ⟨d.child, h⟩
  | cons deed rest ih =>
    obtain ⟨hpossible, htends, hacyclic, hrest⟩ := hproper
    by_cases hstays : deed.Stays
    · exact ih hmode (h.deed hmode hpossible htends hstays hacyclic).1 hrest
    · cases deed with
      | display i child =>
        obtain rfl : i = 0 := htends
        obtain ⟨slot, _, hshown⟩ := h.display hpossible hacyclic
        exact ih (d := { d with child := slot }) hmode hshown hrest
      | _ => exact (hstays trivial).elim

end

/-! ### Whole runs -/

/-- A terminal with a display on it, which has a queue for its repaints or carries them out at once. -/
def opened (t : Terminal) (r : Renderer) (queued hideCursor : Bool) : Scene :=
  let s : Scene := { terminal := t }
  if queued then (s.createQueue.1.createDisplay r (some s.createQueue.2) hideCursor).1
  else (s.createDisplay r none hideCursor).1

/-- Repaints that are queued are carried out. -/
def settled (s : Scene) (queued : Bool) : Scene := if queued then (s.runPending 0).1 else s

/-- What a blank terminal as large as the one of the scene shows once the tree of a node was painted on
it. -/
def painted (s : Scene) (r : Renderer) (n : NodeId) : List String :=
  (paint (raiseWithin s.depth) r (some n)
    { s with terminal := { size := s.terminal.size } }).2.terminal.screen.lines

/-- The display that is opened. -/
def firstDisplay (r : Renderer) (queued : Bool) : Display :=
  { renderer := r, queue := if queued then some 0 else none }

theorem attempt_of_reliable {s : Scene} (h : s.terminal.Reliable) (c : Call) :
    s.attempt c = { s with terminal := s.terminal.after [c] } := by
  rw [attempt, onTerminal_of (Terminal.call_of_hit (h _ (Nat.le_refl _)) c)]

theorem opened_eq {t : Terminal} (hreliable : t.Reliable) (r : Renderer) (queued hideCursor : Bool) :
    opened t r queued hideCursor =
      { terminal := if hideCursor then t.after [.hideCursor] else t
        displays := #[firstDisplay r queued]
        queues := if queued then #[[]] else #[] } := by
  have hcall (s : Scene) (hs : s.terminal = t) :
      s.attempt .hideCursor = { s with terminal := t.after [.hideCursor] } := by
    rw [attempt_of_reliable (hs ▸ hreliable), hs]
  cases queued <;> cases hideCursor <;>
    simp [opened, createDisplay, createQueue, firstDisplay, hcall]

/-- Where there are no nodes, nobody listens. -/
theorem steady_of_bare {d : Display} {s : Scene} (hnodes : s.nodes = #[]) (hchild : d.child = none)
    (h : Tended d s) : Steady d s := by
  have hnode : ∀ n, s.node n = {} := fun n => node_of_size_le (by rw [hnodes]; exact Nat.zero_le n)
  have hbody : ∀ n, s.body n = .gone := fun n => by rw [body, hnode]
  have hlisteners : ∀ n, (s.notifier n).listeners = [] := fun n => by rw [notifier, hnode]
  have hplaces : ∀ l, s.places l = [] := by
    intro l
    cases l with
    | forward n =>
      rw [places, hbody]
      rfl
    | watch k => rfl
    | display i =>
      obtain ⟨_, ⟨⟨count, hdisplays⟩, _, _⟩, _⟩ := id h
      rw [places, hdisplays, hchild]
      cases i <;> rfl
  refine ⟨⟨fun n x hx => ?_, fun n => ?_, fun l => ?_, fun l _ slot => ?_⟩, fun n hn => ?_, h⟩
  · rw [hlisteners] at hx
    cases hx
  · rw [hlisteners]
    exact List.nodup_nil
  · rw [hplaces]
    exact List.nodup_nil
  · rw [hlisteners, hplaces]
    exact iff_of_false List.not_mem_nil List.not_mem_nil
  · obtain ⟨m, hholds, _⟩ := Relation.TransGen.head'_iff.mp hn
    obtain ⟨slot, hslot, _⟩ := hholds
    rw [hbody] at hslot
    cases hslot

theorem steady_opened {t : Terminal} (hreliable : t.Reliable) (r : Renderer)
    (queued hideCursor : Bool) : Steady (firstDisplay r queued) (opened t r queued hideCursor) := by
  rw [opened_eq hreliable]
  refine steady_of_bare rfl rfl ⟨false, ⟨⟨0, rfl⟩, ?_, fun n => ?_⟩, fun _ => rfl, fun q hq => ?_⟩
  · cases hideCursor
    · exact hreliable
    · exact hreliable.after _
  · rw [body_of_size_le (Nat.zero_le n)]
    trivial
  · cases queued with
    | false => cases hq
    | true =>
      obtain rfl : 0 = q := Option.some.inj hq
      exact ⟨Nat.one_pos, fun hfalse => by cases hfalse⟩

/-- What a painting shows is the tree of the node. -/
theorem painted_eq {s : Scene} (hs : s.Sound) {r : Renderer} (hmode : r.mode ≠ .file) (n : NodeId) :
    s.painted r n = (s.spanTree n).shown r s.terminal.size := by
  let blank : Scene := { s with terminal := { size := s.terminal.size } }
  have hreliable : blank.terminal.Reliable := fun _ _ => rfl
  obtain ⟨cs, hpaint, hshown⟩ :=
    paint_spec (s := blank) hs hreliable hmode (raiseWithin s.depth) (some n)
  have htree : blank.spanTree n = s.spanTree n :=
    spanTree_of_nodes (show blank.nodes = s.nodes from rfl) n
  rw [painted, hpaint, ← htree]
  exact hshown n rfl

/-- A fresh display shows the tree of the moment once its repaints are carried out. -/
theorem Fresh.settled {s : Scene} {r : Renderer} (hmode : r.mode ≠ .file) {queued : Bool}
    {child : Option Slot} (h : Fresh { firstDisplay r queued with child } s) :
    Tended { firstDisplay r queued with child } (s.settled queued) ∧
      Current { firstDisplay r queued with child } (s.settled queued) := by
  cases queued with
  | false => exact ⟨h.tended, h.current rfl⟩
  | true =>
    obtain ⟨hkeeps, hcurrent⟩ := runPending_spec (q := 0) hmode rfl h
    exact ⟨hkeeps.tended, hcurrent⟩

/-- **The screen shows what is there.** A display is opened on a terminal that never fails and has shown
a node ever since it was told to. Once an update of something in that node was raised after that, the
screen shows, at any later moment, what painting the tree of the moment once on a blank terminal of the
same size does: at once where repaints are carried out at once, and after the queue was emptied where
they are queued. What the factories of tables do is part of what is done. -/
theorem moves_show {t : Terminal} (hreliable : t.Reliable) {r : Renderer} (hmode : r.mode ≠ .file)
    (queued hideCursor : Bool) (building later : List Move) (child : NodeId)
    (hproper : (opened t r queued hideCursor).Proper
      ((opened t r queued hideCursor).run (building ++ .deed (.display 0 (some child)) :: later)))
    (hstays : ∀ deed ∈ ((opened t r queued hideCursor).moves
      (building ++ [.deed (.display 0 (some child))])).run later, deed.Stays)
    (hupdates : ((opened t r queued hideCursor).moves
        (building ++ [.deed (.display 0 (some child))])).Updates child
      (((opened t r queued hideCursor).moves
        (building ++ [.deed (.display 0 (some child))])).run later)) :
    let s := ((opened t r queued hideCursor).moves
      (building ++ .deed (.display 0 (some child)) :: later)).settled queued
    s.terminal.screen.lines = s.painted r child := by
  let built := (opened t r queued hideCursor).moves building
  have hshowing : (opened t r queued hideCursor).moves (building ++ [.deed (.display 0 (some child))]) =
      built.setDisplayChild 0 (some child) := moves_append ..
  have hdone : (opened t r queued hideCursor).moves (building ++ .deed (.display 0 (some child)) :: later) =
      (built.setDisplayChild 0 (some child)).deeds
        ((built.setDisplayChild 0 (some child)).run later) := by
    rw [moves_append, ← moves_eq_deeds]
    rfl
  rw [hshowing] at hstays hupdates
  rw [run_append, proper_append, ← moves_eq_deeds] at hproper
  obtain ⟨hbuilding, hpossible, _, hacyclic, hlater⟩ := hproper
  obtain ⟨_, hbuilt⟩ := (steady_opened hreliable r queued hideCursor).deeds _ hmode hbuilding
  rw [← moves_eq_deeds] at hbuilt
  obtain ⟨slot, hslot, hshown⟩ := hbuilt.display hpossible hacyclic
  obtain ⟨slot, rfl, rfl⟩ := Option.map_eq_some_iff.mp hslot
  have hchild : slot ∈ (some slot : Option Slot) := rfl
  have hfresh := hshown.deeds_updated hmode hchild _ hlater hstays hupdates
  obtain ⟨⟨_, hattended, _⟩, hcurrent⟩ := hfresh.settled hmode
  rw [hdone]
  exact (hcurrent slot rfl).trans (painted_eq hattended.sound hmode slot.node).symm

/-- A span in a grid in a stack gets another text after the stack was shown. -/
theorem moves_show_nested :
    let building : List Move := [.deed (.change (.content (.ofText "one"))), .deed (.change (.grid 0)),
      .deed (.change (.setChild 1 0 0 0)), .deed (.change (.stack (some .vertical))),
      .deed (.change (.push 2 1))]
    let later : List Move := [.deed (.change (.setSpan 0 (.ofText "two")))]
    let s := ((opened { size := ⟨4, 2⟩ } { mode := .ansi } true true).moves
      (building ++ .deed (.display 0 (some 2)) :: later)).settled true
    s.terminal.screen.lines = s.painted { mode := .ansi } 2 := by
  refine moves_show (fun _ _ => rfl) (by decide) true true _ _ 2 ?_ ?_ ?_
  · refine ⟨trivial, trivial, acyclic_of_lt ?_, trivial, trivial, acyclic_of_lt ?_, ?_, trivial,
      acyclic_of_lt ?_, trivial, trivial, acyclic_of_lt ?_, ?_, trivial, acyclic_of_lt ?_, ?_, rfl,
      acyclic_of_lt ?_, trivial, trivial, acyclic_of_lt ?_, trivial⟩
    · decide +kernel
    · decide +kernel
    · show 0 < _
      decide +kernel
    · decide +kernel
    · decide +kernel
    · show 1 < _
      decide +kernel
    · decide +kernel
    · intro n hn
      obtain rfl : n = 2 := List.mem_singleton.mp hn
      decide +kernel
    · decide +kernel
    · decide +kernel
  · intro a ha
    rw [List.mem_singleton.mp ha]
    trivial
  · refine .inl ⟨0, ?_, .tail (.tail .refl (show Holds _ 2 1 from ?_)) (show Holds _ 1 0 from ?_)⟩
    · decide +kernel
    · unfold Holds
      decide +kernel
    · unfold Holds
      decide +kernel

end Scene

end TextPane
