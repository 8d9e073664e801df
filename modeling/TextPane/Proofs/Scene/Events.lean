import TextPane.Proofs.Scene.Moves
import TextPane.Proofs.Scene.Orderly

/-! A display repaints for what happens to it.

What a display notices of all that is done are events: updates, repaints on demand and queued repaints, and
between them whatever is done without it. Between two events no repaint runs, and a display that owes a
paint waits in its queue. So the events make up an orderly story of the display (`events_repaint`), however
they mix, whatever paints raise and whichever of them fail. Whatever callers do is made of such events
(`Tied.moves_events`). -/
namespace TextPane

/-- What may come next while a display is there. -/
inductive Event where
  /-- Anything else is done, to this scene in the end. -/
  | aside (s : Scene)
  /-- An update of a node is raised. -/
  | update (n : NodeId)
  /-- An update that was under way reaches a display. -/
  | late (j : DisplayId)
  | render (renderer : Renderer) (n : NodeId) (region : Region)
  | display (j : DisplayId) (child : Option NodeId)
  | refresh (j : DisplayId)
  | runNext (q : QueueId)
  | runPending (q : QueueId)

namespace Scene

/-- An event spares a display if what is done aside does. -/
def Spared (i : DisplayId) (s : Scene) : Event → Prop
  | .aside s' => Spares i s s'
  | _ => True

def event (s : Scene) : Event → Scene
  | .aside s' => s'
  | .update n => s.raise n
  | .late j => requestRepaint (raiseWithin s.depth) j s
  | .render renderer n region => ((s.nodeBox renderer n).render region s).2
  | .display j child => s.setDisplayChild j child
  | .refresh j => s.refresh j
  | .runNext q => (s.runNext q).1
  | .runPending q => (s.runPending q).1

def tellEvent : Event → Scene → Tale
  | .aside s', _ => (s', [])
  | .update n, s => s.tellRaise n
  | .late j, s => tellRequest (tellRaiseWithin s.depth) j s
  | .render renderer n region, s =>
    let told := (s.tellNodeBox renderer n).render region s
    (told.1.2, told.2)
  | .display j child, s => (s.setDisplayChild j child, [])
  | .refresh j, s => s.tellRefresh j
  | .runNext q, s => (s.tellRunNext q).1
  | .runPending q, s => s.tellRunPending q

def events (s : Scene) (es : List Event) : Scene := es.foldl event s

def tellEvents (s : Scene) (es : List Event) : Tale := tellEach tellEvent es s

/-- What happens to a display in these events. -/
def happens (s : Scene) (i : DisplayId) (es : List Event) : List Moment := (s.tellEvents es).2.of i

/-- None of these events touches the display aside. -/
def SparedAll (i : DisplayId) : Scene → List Event → Prop
  | _, [] => True
  | s, e :: rest => Spared i s e ∧ SparedAll i (s.event e) rest

/-! ### Without the story -/

theorem fst_tellEvent (e : Event) (s : Scene) : (tellEvent e s).1 = s.event e := by
  cases e with
  | aside s' => rfl
  | update n => exact fst_tellRaise s n
  | late j => exact fst_tellRequest (fst_tellRaiseWithin s.depth) j s
  | render renderer n region =>
    show (((s.tellNodeBox renderer n).map untold).render region s).2 = _
    rw [map_tellNodeBox]
    rfl
  | display j child => rfl
  | refresh j => exact fst_tellRefresh s j
  | runNext q => exact congrArg Prod.fst (fst_tellRunNext s q)
  | runPending q => exact fst_tellRunPending s q

/-! ### One event -/

section
variable {i j : DisplayId} {queue : Option QueueId} {owed : Bool} {count : Nat} {s s' : Scene}

theorem Edits.spares {only : Option NodeId} (h : Edits only s s') : Spares i s s' :=
  .of_same h.displays h.queues

theorem Swept.spares (h : Swept s s') : Spares i s s' := .of_same h.displays h.queues

theorem spares_leaveAll (s : Scene) (slots : List Slot) : Spares i s (s.leaveAll slots).sweep :=
  (edits_leaveAll s slots).spares.trans (swept_sweep _).spares

/-- A display that gets another child, this one or another, owes what it owed. -/
theorem spares_setDisplayChild (s : Scene) (j : DisplayId) (child : Option NodeId) :
    Spares i s (s.setDisplayChild j child) := by
  rcases setDisplayChild_cases s j child with ⟨_, heq⟩ | ⟨d, _, _, heq⟩
  · rw [heq]
    exact .of_same rfl rfl
  · rw [heq]
    have hattach : Spares i s (s.attach j child).1 := by
      cases child with
      | none => exact .of_same rfl rfl
      | some n => exact (edits_subscribe s n _).spares
    have hshown : Spares i (s.attach j child).1 ((s.attach j child).1.modifyDisplay j fun display =>
        { display with child := (s.attach j child).2 }) := .modifyDisplay _ _ fun _ _ => ⟨rfl, rfl⟩
    exact (hattach.trans hshown).trans (spares_leaveAll _ _)

theorem tells_raise (s : Scene) (n : NodeId) : Tells i s (s.tellRaise n).2 (s.tellRaise n).1 :=
  tells_raiseWithin _ n s

theorem tells_drain_other (hj : j ≠ i) (s : Scene) : Tells i s (s.tellDrain j).2 (s.tellDrain j).1 :=
  tells_drainRounds_other (tells_raiseWithin _) hj _ s

/-- **A demand is met at once**, whatever was owed. -/
theorem Idle.refresh (h : Idle i queue owed count s) :
    ∃ paints, Paints paints ∧ (s.tellRefresh i).2.of i = .demand :: paints ∧
      Idle i queue false (count + paints.count .finish) (s.tellRefresh i).1 := by
  have hdemand : Stands i queue { requested := true, count } (s.modifyDisplay i fun display =>
      { display with repaint := display.repaint.demand }) := h.toStands.modify Repaint.demand
  obtain ⟨hpaints, hstands⟩ := hdemand.drains (tells_raiseWithin _) (Nat.lt_succ_self _)
  exact ⟨_, hpaints, Story.of_cons_self i _ _, hstands, nofun⟩

/-- **A repaint that was queued paints what is owed** by then, and that may be nothing. -/
theorem Idle.runNext (h : Idle i queue owed count s) {q : QueueId} {rest : List DisplayId}
    (htasks : s.tasks q = i :: rest) :
    let told := (s.tellRunNext q).1
    Due owed (told.2.of i) ∧ Idle i queue false (count + (told.2.of i).count .finish) told.1 := by
  have htaken : Stands i queue { requested := owed, count } (s.modifyQueue q fun _ => rest) :=
    ⟨h.display, fun q' hq' => by
      rw [size_modifyQueue]
      exact h.there q' hq'⟩
  obtain ⟨hdue, hstands⟩ := htaken.drains (tells_raiseWithin _) (Nat.lt_succ_self _)
  unfold tellRunNext
  rw [show (s.queues[q]?).getD [] = i :: rest from htasks]
  exact ⟨hdue, hstands, nofun⟩

/-- A display goes on waiting when another one is taken from a queue. -/
theorem Idle.taken (h : Idle i queue owed count s) {q : QueueId} {rest : List DisplayId}
    (htasks : s.tasks q = j :: rest) (hj : j ≠ i) :
    Idle i queue owed count (s.modifyQueue q fun _ => rest) where
  display := h.display
  there q' hq' := by
    rw [size_modifyQueue]
    exact h.there q' hq'
  waits howed := by
    obtain ⟨q', hq', hmem⟩ := h.waits howed
    refine ⟨q', hq', ?_⟩
    by_cases hq : q = q'
    · subst hq
      rw [tasks_modifyQueue s (h.there q hq')]
      rw [htasks] at hmem
      exact (List.mem_cons.mp hmem).resolve_left hj.symm
    · rwa [tasks_modifyQueue_ne s hq]

/-! ### Any event -/

theorem goes_refresh (s : Scene) (j : DisplayId) :
    Goes i s ((s.tellRefresh j).2.of i) (s.tellRefresh j).1 := by
  by_cases hj : j = i
  · subst hj
    intro queue owed count h
    obtain ⟨paints, hpaints, hstory, hidle⟩ := h.refresh
    rw [hstory, List.count_cons_of_ne (by decide)]
    exact ⟨false, .ask (.inr rfl) (.of_paints hpaints), hidle⟩
  · have hdemand : Spares i s (s.modifyDisplay j fun display =>
        { display with repaint := display.repaint.demand }) := .modifyDisplay s _ (absurd · hj)
    have htold := hdemand.tells (Nat.le_refl _) (Story.of_cons_ne hj .demand [])
    exact (htold.trans (tells_drain_other hj _)).goes

theorem goes_runNext (s : Scene) (q : QueueId) :
    Goes i s ((s.tellRunNext q).1.2.of i) (s.tellRunNext q).1.1 := by
  intro queue owed count h
  cases htasks : s.tasks q with
  | nil =>
    unfold tellRunNext
    rw [show (s.queues[q]?).getD [] = [] from htasks]
    exact ⟨owed, .nil owed, h⟩
  | cons j rest =>
    by_cases hj : j = i
    · subst hj
      obtain ⟨hdue, hidle⟩ := h.runNext htasks
      exact ⟨false, hdue.orderly, hidle⟩
    · unfold tellRunNext
      rw [show (s.queues[q]?).getD [] = j :: rest from htasks]
      exact (tells_drain_other hj _).goes queue owed count (h.taken htasks hj)

theorem goes_runRounds (q : QueueId) (rounds : Nat) (s : Scene) :
    Goes i s ((tellRunRounds q rounds s).2.of i) (tellRunRounds q rounds s).1 := by
  induction rounds generalizing s with
  | zero => exact .refl s
  | succ rounds ih =>
    have hnext : Goes i s ((s.tellRunNext q).1.2.of i) (s.tellRunNext q).1.1 := goes_runNext s q
    unfold tellRunRounds
    generalize s.tellRunNext q = next at hnext
    obtain ⟨t, ran⟩ := next
    cases ran with
    | false => exact hnext
    | true =>
      have hrest := hnext.trans (ih t.1)
      rwa [← Story.of_append] at hrest

/-- **An event goes on with an orderly story.** -/
theorem goes_event {e : Event} (he : Spared i s e) :
    Goes i s ((tellEvent e s).2.of i) (tellEvent e s).1 := by
  cases e with
  | aside s' => exact fun queue owed count h => ⟨owed, .nil owed, he.idle h⟩
  | update n => exact (tells_raise s n).goes
  | late j => exact (tells_deliver (tells_raiseWithin _) (.display j) s).goes
  | render renderer n region =>
    exact (pays_treeBox (tells_raiseWithin _) renderer (s.tree n) region s).goes
  | display j child =>
    exact fun queue owed count h => ⟨owed, .nil owed, (spares_setDisplayChild s j child).idle h⟩
  | refresh j => exact goes_refresh s j
  | runNext q => exact goes_runNext s q
  | runPending q => exact goes_runRounds q _ s

/-! ### Events in turn -/

theorem fst_tellEvents (s : Scene) (es : List Event) : (s.tellEvents es).1 = s.events es :=
  fst_tellEach fst_tellEvent es s

theorem happens_cons (s : Scene) (i : DisplayId) (e : Event) (es : List Event) :
    s.happens i (e :: es) = (tellEvent e s).2.of i ++ (s.event e).happens i es := by
  show Story.of i ((tellEvent e s).2 ++ ((tellEvent e s).1.tellEvents es).2) = _
  rw [Story.of_append, fst_tellEvent]
  rfl

theorem happens_one (s : Scene) (i : DisplayId) (e : Event) :
    s.happens i [e] = (tellEvent e s).2.of i := by
  rw [happens_cons]
  exact List.append_nil _

theorem goes_events (es : List Event) (hes : SparedAll i s es) :
    Goes i s (s.happens i es) (s.events es) := by
  induction es generalizing s with
  | nil => exact .refl s
  | cons e rest ih =>
    have hfirst := goes_event hes.1
    rw [fst_tellEvent] at hfirst
    rw [happens_cons]
    exact hfirst.trans (ih hes.2)

/-- A display that is new owes nothing. -/
theorem idle_createDisplay (s : Scene) (renderer : Renderer) (hideCursor : Bool)
    (hqueue : ∀ q ∈ queue, q < s.queues.size) :
    Idle s.displays.size queue false 0 (s.createDisplay renderer queue hideCursor).1 := by
  let hidden := if hideCursor then s.attempt .hideCursor else s
  have hsame : hidden.displays = s.displays ∧ hidden.queues = s.queues := by
    cases hideCursor <;> exact ⟨rfl, rfl⟩
  have hopened : (s.createDisplay renderer queue hideCursor).1 =
    { hidden with displays := hidden.displays.push { renderer, queue } } := rfl
  rw [hopened]
  refine ⟨⟨⟨{ renderer, queue }, ?_, rfl, rfl⟩, fun q hq => ?_⟩, nofun⟩
  · show (hidden.displays.push _)[s.displays.size]? = _
    rw [hsame.1, Array.getElem?_push_size]
  · show q < hidden.queues.size
    rw [hsame.2]
    exact hqueue q hq

/-! ### Whatever is done is made of events -/

theorem sparedAll_append {es us : List Event} :
    SparedAll i s (es ++ us) ↔ SparedAll i s es ∧ SparedAll i (s.events es) us := by
  induction es generalizing s with
  | nil => exact ⟨fun h => ⟨trivial, h⟩, And.right⟩
  | cons e rest ih =>
    simp only [List.cons_append, SparedAll, ih, and_assoc]
    rfl

/-- A change is one update of a node, with what is done to views before and after it. -/
theorem Changes.events {raised : Option NodeId} (h : Changes s raised s') :
    ∃ es, SparedAll i s es ∧ s.events es = s' := by
  cases h with
  | @quiet s₁ _ hedits _ hswept =>
    exact ⟨[.aside s'], ⟨hedits.spares.trans hswept.spares, trivial⟩, rfl⟩
  | @raised n s₁ s₂ hedits _ hswept =>
    exact ⟨[.aside s₂, .update n], ⟨hedits.spares.trans hswept.spares, trivial, trivial⟩, rfl⟩
  | @released n s₁ hedits _ _ =>
    have hswept : Spares i (s₁.raise n) (s₁.raise n).sweep := (swept_sweep _).spares
    exact ⟨[.aside s₁, .update n, .aside _], ⟨hedits.spares, trivial, hswept, trivial⟩, rfl⟩

theorem spares_createQueue (s : Scene) : Spares i s s.createQueue.1 where
  grows := by
    refine ⟨(still_createQueue s).queues, fun q => ?_⟩
    by_cases hq : q < s.queues.size
    · rw [tasks, tasks, createQueue, Array.getElem?_push_lt hq, Array.getElem?_eq_getElem hq]
    · have hnone : s.queues[q]? = none := Array.getElem?_eq_none (Nat.not_lt.mp hq)
      rw [tasks, hnone]
      exact List.nil_prefix
  display d hd := ⟨d, hd, rfl, rfl⟩

theorem spares_createDisplay (s : Scene) (renderer : Renderer) (hideCursor : Bool) :
    Spares i s (s.createDisplay renderer queue hideCursor).1 := by
  have hhidden : Spares i s (if hideCursor then s.attempt .hideCursor else s) := by
    cases hideCursor <;> exact .of_same rfl rfl
  refine hhidden.trans ⟨.of_queues rfl, fun d hd => ⟨d, ?_, rfl, rfl⟩⟩
  have hlt := (Array.getElem?_eq_some_iff.mp hd).1
  exact (Array.getElem?_push_lt hlt).trans (congrArg some (Array.getElem?_eq_some_iff.mp hd).2)

theorem spares_dispose (s : Scene) (hj : j ≠ i) : Spares i s (s.dispose j) := by
  rcases dispose_cases s j with ⟨_, heq⟩ | ⟨d, _, _, heq⟩
  · rw [heq]
    exact .of_same rfl rfl
  · rw [heq]
    have hdisposed : Spares i s (s.modifyDisplay j fun display =>
        { display with child := none, repaint := display.repaint.dispose }) :=
      .modifyDisplay _ _ (absurd · hj)
    exact (hdisposed.trans (spares_leaveAll _ _)).trans (.of_same rfl rfl)

/-- **A deed is made of events** of a display that is not disposed of. -/
theorem Tied.deed_events (h : s.Tied) {d : Deed} (hd : d.Possible s) (hkept : d ≠ .dispose i) :
    ∃ es, SparedAll i s es ∧ s.events es = s.deed d := by
  have haside : ∀ s', Spares i s s' → ∃ es, SparedAll i s es ∧ s.events es = s' :=
    fun s' hs' => ⟨[.aside s'], ⟨hs', trivial⟩, rfl⟩
  have hone : ∀ e, Spared i s e → ∃ es, SparedAll i s es ∧ s.events es = s.event e :=
    fun e he => ⟨[e], ⟨he, trivial⟩, rfl⟩
  cases d with
  | change c => exact (change_spec h.linked h.fit c hd).events
  | probe p => exact haside _ (.of_same rfl rfl)
  | notify n => exact hone (.update n) trivial
  | queue => exact haside _ (spares_createQueue s)
  | screen renderer queue hideCursor => exact haside _ (spares_createDisplay s renderer hideCursor)
  | display j child => exact hone (.display j child) trivial
  | refresh j => exact hone (.refresh j) trivial
  | dispose j =>
    have hj : j ≠ i := fun hsame => hkept (congrArg Deed.dispose hsame)
    exact haside _ (spares_dispose s hj)
  | runNext q => exact hone (.runNext q) trivial
  | runPending q => exact hone (.runPending q) trivial
  | render renderer n region => exact hone (.render renderer n region) trivial
  | unwatch n id => exact haside _ (.of_same rfl rfl)
  | bind n =>
    refine haside (s.bindFeed n).1 ?_
    unfold Scene.bindFeed
    dsimp only
    split <;> exact .of_same rfl rfl
  | feed feed span =>
    show ∃ es, SparedAll i s es ∧ s.events es = (s.feed feed span).1
    rw [feed_eq]
    cases s.fedBy? feed with
    | none => exact ⟨[], trivial, rfl⟩
    | some n => exact (change_spec h.linked h.fit (.setSpan n span) trivial).events
  | late j => exact hone (.late j) trivial

theorem Tied.deeds_events (ds : List Deed) (h : s.Tied) (hds : s.Allows ds) (hkept : .dispose i ∉ ds) :
    ∃ es, SparedAll i s es ∧ s.events es = s.deeds ds := by
  induction ds generalizing s with
  | nil => exact ⟨[], trivial, rfl⟩
  | cons d rest ih =>
    have hfirst : d ≠ .dispose i := fun hsame => hkept (hsame ▸ List.mem_cons_self ..)
    have hrest : .dispose i ∉ rest := fun hmem => hkept (List.mem_cons_of_mem _ hmem)
    obtain ⟨es, hes, hdone⟩ := h.deed_events hds.1 hfirst
    obtain ⟨es', hes', hdone'⟩ := ih (h.deed hds.1) hds.2 hrest
    refine ⟨es ++ es', sparedAll_append.mpr ⟨hes, hdone ▸ hes'⟩, ?_⟩
    rw [Scene.events, List.foldl_append]
    show (s.events es).events es' = _
    rw [hdone, hdone']
    rfl

/-- **What callers do is made of events** of a display that is not disposed of, factories included. -/
theorem Tied.moves_events (ms : List Move) (h : s.Tied) (hms : s.Allows (s.run ms))
    (hkept : .dispose i ∉ s.run ms) : ∃ es, SparedAll i s es ∧ s.events es = s.moves ms := by
  rw [moves_eq_deeds]
  exact h.deeds_events _ hms hkept

/-- How a display stands with its repaints. -/
def repaint? (s : Scene) (i : DisplayId) : Option Repaint := (s.displays[i]?).map (·.repaint)

theorem Stands.repaint? {repaint : Repaint} (h : Stands i queue repaint s) :
    s.repaint? i = some repaint := by
  obtain ⟨d, hd, _, rfl⟩ := h.display
  rw [Scene.repaint?, hd]
  rfl

/-- **When its queue has run empty, a display owes nothing.** -/
theorem Idle.runPending {q : QueueId} (h : Idle i (some q) owed count s) :
    (s.runPending q).1.pending q = 0 ∧ Orderly owed ((s.tellRunPending q).2.of i) false ∧
      ((s.runPending q).1.repaint? i).map (·.requested) = some false := by
  have hpending := pending_runPending s q
  obtain ⟨owed', horderly, hidle⟩ := goes_runRounds (i := i) q _ s (some q) owed count h
  rw [fst_tellRunRounds] at hidle
  have hpaid : owed' = false := by
    cases owed' with
    | false => rfl
    | true =>
      obtain ⟨q', hq', hmem⟩ := hidle.waits rfl
      obtain rfl : q = q' := Option.some.inj hq'
      have hempty : (s.runPending q).1.tasks q = [] := List.eq_nil_of_length_eq_zero hpending
      exact absurd (hempty ▸ hmem) List.not_mem_nil
  subst hpaid
  refine ⟨hpending, horderly, ?_⟩
  have hrepaint : (s.runPending q).1.repaint? i = _ := hidle.repaint?
  rw [hrepaint]
  rfl

end

/-- **A display repaints for what happens to it.** Whatever has happened since the display
came, the display does not paint now, and waits in its queue if it owes a paint. What happened to it is
an orderly story: paints neither nest nor overlap, one takes all that was owed, and exactly one more
follows each that updates came in. From here on, updates of what the display listens to reach it, and if
it has a queue it paints nothing for them yet; told to repaint it does so now; a queued repaint paints
what is owed by then, if anything is; and when the queue has run empty nothing is owed. -/
theorem events_repaint (s₀ : Scene) (renderer : Renderer) (queue : Option QueueId) (hideCursor : Bool)
    (hqueue : ∀ q ∈ queue, q < s₀.queues.size) (es : List Event)
    (hes : SparedAll s₀.displays.size (s₀.createDisplay renderer queue hideCursor).1 es) :
    let i := s₀.displays.size
    let opened := (s₀.createDisplay renderer queue hideCursor).1
    let s := opened.events es
    let story := opened.happens i es
    (opened.tellEvents es).1 = s ∧ ∃ owed,
      s.repaint? i = some { requested := owed, count := story.count .finish } ∧
      Orderly false story owed ∧
      story.filter Moment.isPaint = Moment.apart (story.count .finish) ∧
      (owed = true → ∃ q ∈ queue, i ∈ s.tasks q) ∧
      (∀ n, .display i ∈ (s.node n).notifier.round → .update ∈ s.happens i [.update n]) ∧
      (∀ q ∈ queue, ∀ n, ∃ k, s.happens i [.update n] = List.replicate k .update ∧
        (s.raise n).repaint? i = some { requested := owed || k != 0, count := story.count .finish }) ∧
      (∃ paints, Paints paints ∧ s.happens i [.refresh i] = .demand :: paints) ∧
      (∀ q rest, s.tasks q = i :: rest → Due owed (s.happens i [.runNext q])) ∧
      ∀ q ∈ queue, (s.runPending q).1.pending q = 0 ∧ Orderly owed (s.happens i [.runPending q]) false ∧
        ((s.runPending q).1.repaint? i).map (·.requested) = some false := by
  intro i opened s story
  have hopened : Idle i queue false 0 opened := idle_createDisplay s₀ renderer hideCursor hqueue
  obtain ⟨owed, horderly, hidle⟩ := goes_events es hes queue false 0 hopened
  rw [Nat.zero_add] at hidle
  simp only [happens_one]
  refine ⟨fst_tellEvents opened es, owed, hidle.repaint?, horderly, horderly.apart, hidle.waits,
    ?_, ?_, ?_, ?_, ?_⟩
  · exact fun n hlistens => mem_tellRaise hidle hlistens
  · intro q hq n
    have hsome : queue.isSome = true := Option.isSome_of_mem hq
    obtain ⟨k, hupdates, hraised⟩ :=
      (tells_raise s n).hears queue owed false _ (.inr hsome) hidle.toStands
    rw [fst_tellRaise] at hraised
    exact ⟨k, hupdates, hraised.repaint?⟩
  · obtain ⟨paints, hpaints, hstory, _⟩ := hidle.refresh
    exact ⟨paints, hpaints, hstory⟩
  · exact fun q rest htasks => (hidle.runNext htasks).1
  · intro q hq
    obtain rfl : queue = some q := hq
    exact hidle.runPending

/-- A probe whose first rendering raises two updates and fails, and a queue. -/
def restlessScene : Scene where
  terminal := { size := ⟨2, 1⟩ }
  nodes := #[{
    body := .probe { name := "p", size := ⟨1, 1⟩, renders := 1, notifies := 2, fails := true } }]
  queues := #[[]]

/-- A display shows the probe. Two updates, and what is queued is carried out. -/
def restlessEvents : List Event := [.display 0 (some 0), .update 0, .update 0, .runPending 0]

theorem events_repaint_restless :
    let opened := (restlessScene.createDisplay { mode := .ansi } (some 0) true).1
    let story : List Moment := [.update, .update, .start, .update, .update, .finish, .start, .finish]
    (∀ q ∈ some 0, q < restlessScene.queues.size) ∧ SparedAll 0 opened restlessEvents ∧
      opened.happens 0 restlessEvents = story ∧
      ∃ owed, (opened.events restlessEvents).repaint? 0 = some { requested := owed, count := 2 } ∧
        Orderly false story owed := by
  intro opened story
  have hqueue : ∀ q ∈ some 0, q < restlessScene.queues.size := by
    intro q hq
    obtain rfl : 0 = q := Option.some.inj hq
    exact Nat.zero_lt_one
  have hspared : SparedAll 0 opened restlessEvents := ⟨trivial, trivial, trivial, trivial, trivial⟩
  have hstory : opened.happens 0 restlessEvents = story := by decide +kernel
  obtain ⟨_, owed, hrepaint, horderly, _⟩ :=
    events_repaint restlessScene { mode := .ansi } (some 0) true hqueue restlessEvents hspared
  change (opened.events restlessEvents).repaint? 0 = some
    { requested := owed, count := (opened.happens 0 restlessEvents).count .finish } at hrepaint
  change Orderly false (opened.happens 0 restlessEvents) owed at horderly
  rw [hstory] at hrepaint horderly
  exact ⟨hqueue, hspared, hstory, owed, hrepaint, horderly⟩

end Scene

end TextPane
