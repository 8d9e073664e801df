import TextPane.Proofs.Scene.Story
import TextPane.Proofs.Scene.Waning

/-! Repaints of a display follow its updates.

Whatever happens to a display makes an orderly story (`Orderly`): it paints when it was asked to, once
for all that asked, and once more right after each paint that updates came in. What is told of
raising, rendering and repainting is shown piece by piece (`Tells`): a display that does not paint goes
on in order, and one that paints, or has a queue for its repaints, hears of nothing but updates
meanwhile. -/
namespace TextPane

/-! ### Orderly stories -/

/-- The paints of one repaint: the first, and after each that updates came in exactly one more, however
many they were. -/
inductive Paints : List Moment → Prop where
  | once : Paints [.start, .finish]
  | again {rest : List Moment} (more : Nat) (h : Paints rest) :
      Paints (.start :: List.replicate (more + 1) .update ++ .finish :: rest)

theorem count_finish_again (more : Nat) (rest : List Moment) :
    (Moment.start :: List.replicate more .update ++ .finish :: rest).count .finish =
      1 + rest.count .finish := by
  simp [List.count_replicate, Nat.add_comm]

/-- A story of a display, from one moment at which it does not paint to another one. It is known of both
whether a paint is owed. Whatever asks for one makes it owed, and a repaint takes all that is owed. -/
inductive Orderly : Bool → List Moment → Bool → Prop where
  | nil (owed : Bool) : Orderly owed [] owed
  | ask {owed owed' : Bool} {m : Moment} {rest : List Moment} (hm : m = .update ∨ m = .demand)
      (h : Orderly true rest owed') : Orderly owed (m :: rest) owed'
  | paint {owed' : Bool} {paints rest : List Moment} (hpaints : Paints paints)
      (h : Orderly false rest owed') : Orderly true (paints ++ rest) owed'

namespace Orderly

theorem append {owed owed' owed'' : Bool} {story story' : List Moment} (h : Orderly owed story owed')
    (h' : Orderly owed' story' owed'') : Orderly owed (story ++ story') owed'' := by
  induction h with
  | nil owed => exact h'
  | ask hm _ ih => exact .ask hm (ih h')
  | paint hpaints _ ih =>
    rw [List.append_assoc]
    exact .paint hpaints (ih h')

theorem of_paints {paints : List Moment} (h : Paints paints) : Orderly true paints false := by
  rw [← List.append_nil paints]
  exact .paint h (.nil false)

end Orderly

/-- Paints one after the other, without what happens before, in and after them. -/
def Moment.apart (paints : Nat) : List Moment := (List.replicate paints [.start, .finish]).flatten

theorem Moment.apart_add (m n : Nat) : apart (m + n) = apart m ++ apart n := by
  rw [apart, List.replicate_add, List.flatten_append]
  rfl

/-- Whether a paint starts or finishes. -/
def Moment.isPaint : Moment → Bool
  | .start | .finish => true
  | .update | .demand => false

theorem Paints.apart {paints : List Moment} (h : Paints paints) :
    paints.filter Moment.isPaint = Moment.apart (paints.count .finish) := by
  induction h with
  | once => rfl
  | @again rest more _ ih =>
    have hnone : (List.replicate (more + 1) Moment.update).filter Moment.isPaint = [] :=
      List.filter_eq_nil_iff.mpr fun m hm => by
        rw [List.eq_of_mem_replicate hm]
        exact nofun
    rw [count_finish_again, Moment.apart_add, ← ih, List.filter_append, List.filter_cons_of_pos rfl, hnone,
      List.filter_cons_of_pos rfl]
    rfl

/-- **Paints neither nest nor overlap**: each finishes before the next one starts. -/
theorem Orderly.apart {owed owed' : Bool} {story : List Moment} (h : Orderly owed story owed') :
    story.filter Moment.isPaint = Moment.apart (story.count .finish) := by
  induction h with
  | nil => rfl
  | @ask _ _ m rest hm _ ih =>
    rcases hm with rfl | rfl <;> exact ih
  | @paint _ paints rest hpaints _ ih =>
    rw [List.filter_append, List.count_append, Moment.apart_add, hpaints.apart, ih]

/-- What is told of a repaint: paints if one was owed, and nothing otherwise. -/
def Due (owed : Bool) (story : List Moment) : Prop := if owed then Paints story else story = []

theorem Due.orderly {owed : Bool} {story : List Moment} (h : Due owed story) :
    Orderly owed story false := by
  cases owed with
  | true => exact .of_paints h
  | false =>
    obtain rfl : story = [] := h
    exact .nil false

namespace Story

@[simp] theorem of_nil (i : DisplayId) : of i [] = [] := rfl

@[simp] theorem of_append (i : DisplayId) (story story' : Story) :
    of i (story ++ story') = of i story ++ of i story' := List.filterMap_append

@[simp] theorem of_cons_self (i : DisplayId) (m : Moment) (story : Story) :
    of i ((i, m) :: story) = m :: of i story := by
  simp [of]

theorem of_cons_ne {i j : DisplayId} (h : j ≠ i) (m : Moment) (story : Story) :
    of i ((j, m) :: story) = of i story := by
  simp [of, h]

end Story

namespace Scene

/-! ### Queues that grow -/

/-- The displays that wait in a queue. -/
def tasks (s : Scene) (q : QueueId) : List DisplayId := (s.queues[q]?).getD []

theorem tasks_modifyQueue (s : Scene) {q : QueueId} (hq : q < s.queues.size)
    (f : List DisplayId → List DisplayId) : (s.modifyQueue q f).tasks q = f (s.tasks q) := by
  rw [tasks, tasks, queues_modifyQueue, if_pos rfl, Array.getElem?_eq_getElem hq]
  rfl

theorem tasks_modifyQueue_ne (s : Scene) {q q' : QueueId} (hq : q ≠ q')
    (f : List DisplayId → List DisplayId) : (s.modifyQueue q f).tasks q' = s.tasks q' := by
  rw [tasks, tasks, queues_modifyQueue, if_neg hq]

/-- Queues are there still, and what waited still does. -/
structure Grows (s s' : Scene) : Prop where
  size : s.queues.size ≤ s'.queues.size
  tasks : ∀ q, s.tasks q <+: s'.tasks q

section
variable {i j : DisplayId} {queue : Option QueueId} {owed : Bool} {count : Nat}
  {s s' s'' : Scene} {story story' : Story}

namespace Grows

theorem of_queues (hqueues : s'.queues = s.queues) : Grows s s' where
  size := Nat.le_of_eq (by rw [hqueues])
  tasks q := by rw [Scene.tasks, Scene.tasks, hqueues]

theorem trans (h : Grows s s') (h' : Grows s' s'') : Grows s s'' where
  size := Nat.le_trans h.size h'.size
  tasks q := (h.tasks q).trans (h'.tasks q)

theorem push (s : Scene) (q : QueueId) (i : DisplayId) : Grows s (s.modifyQueue q (· ++ [i])) where
  size := Nat.le_of_eq (size_modifyQueue s q _).symm
  tasks q' := by
    by_cases hq : q = q'
    · subst hq
      by_cases hlt : q < s.queues.size
      · rw [tasks_modifyQueue s hlt]
        exact List.prefix_append _ _
      · have hnone : s.queues[q]? = none := Array.getElem?_eq_none (Nat.not_lt.mp hlt)
        rw [Scene.tasks, hnone]
        exact List.nil_prefix
    · rw [tasks_modifyQueue_ne s hq]

end Grows

/-! ### How a display stands -/

/-- A display that has its queue and stands with its repaints as it is said. -/
structure Stands (i : DisplayId) (queue : Option QueueId) (repaint : Repaint) (s : Scene) : Prop where
  display : ∃ d, s.displays[i]? = some d ∧ d.queue = queue ∧ d.repaint = repaint
  there : ∀ q ∈ queue, q < s.queues.size

/-- The display does not paint, and waits in its queue if a paint is owed. -/
structure Idle (i : DisplayId) (queue : Option QueueId) (owed : Bool) (count : Nat) (s : Scene) : Prop
    extends Stands i queue { requested := owed, count } s where
  waits : owed = true → ∃ q ∈ queue, i ∈ s.tasks q

/-- For a display that did not paint it was an orderly story, and again it does not. -/
def Goes (i : DisplayId) (s : Scene) (story : List Moment) (s' : Scene) : Prop :=
  ∀ queue owed count, Idle i queue owed count s →
    ∃ owed', Orderly owed story owed' ∧ Idle i queue owed' (count + story.count .finish) s'

theorem Goes.refl (s : Scene) : Goes i s [] s := fun _ owed _ h => ⟨owed, .nil owed, h⟩

theorem Goes.trans {story story' : List Moment} (h : Goes i s story s') (h' : Goes i s' story' s'') :
    Goes i s (story ++ story') s'' := by
  intro queue owed count hidle
  obtain ⟨owed', horderly, hidle'⟩ := h queue owed count hidle
  obtain ⟨owed'', horderly', hidle''⟩ := h' queue owed' _ hidle'
  refine ⟨owed'', horderly.append horderly', ?_⟩
  rw [List.count_append, ← Nat.add_assoc]
  exact hidle''

/-- A display that paints, or has a queue, only hears of updates. After any a paint is owed. -/
def Hears (i : DisplayId) (s : Scene) (story : List Moment) (s' : Scene) : Prop :=
  ∀ queue owed running count, running = true ∨ queue.isSome = true →
    Stands i queue { requested := owed, running, count } s →
      ∃ n, story = List.replicate n .update ∧
        Stands i queue { requested := owed || n != 0, running, count } s'

theorem Hears.trans {story story' : List Moment} (h : Hears i s story s')
    (h' : Hears i s' story' s'') : Hears i s (story ++ story') s'' := by
  intro queue owed running count hwhere hs
  obtain ⟨n, rfl, hs'⟩ := h queue owed running count hwhere hs
  obtain ⟨n', rfl, hs''⟩ := h' queue _ running count hwhere hs'
  have howed : (owed || n + n' != 0) = ((owed || n != 0) || n' != 0) := by
    cases n <;> cases n' <;> simp
  refine ⟨n + n', List.replicate_append_replicate, ?_⟩
  rw [howed]
  exact hs''

/-- What is told of a piece of work, for one display. -/
structure Tells (i : DisplayId) (s : Scene) (story : Story) (s' : Scene) : Prop where
  grows : Grows s s'
  fewer : s'.restless ≤ s.restless
  goes : Goes i s (story.of i) s'
  hears : Hears i s (story.of i) s'

/-- What is told of rendering: each rendering that something is told of uses up one. -/
structure Pays (i : DisplayId) (s : Scene) (story : Story) (s' : Scene) : Prop
    extends Tells i s story s' where
  costs : story ≠ [] → s'.restless < s.restless

/-- The queues have grown at most, and the display is as it was. -/
structure Spares (i : DisplayId) (s s' : Scene) : Prop where
  grows : Grows s s'
  display : ∀ d, s.displays[i]? = some d →
    ∃ d', s'.displays[i]? = some d' ∧ d'.queue = d.queue ∧ d'.repaint = d.repaint

namespace Spares

theorem of_same (hdisplays : s'.displays = s.displays) (hqueues : s'.queues = s.queues) :
    Spares i s s' where
  grows := .of_queues hqueues
  display d hd := ⟨d, hdisplays ▸ hd, rfl, rfl⟩

theorem trans (h : Spares i s s') (h' : Spares i s' s'') : Spares i s s'' where
  grows := h.grows.trans h'.grows
  display d hd := by
    obtain ⟨d', hd', hqueue, hrepaint⟩ := h.display d hd
    obtain ⟨d'', hd'', hqueue', hrepaint'⟩ := h'.display d' hd'
    exact ⟨d'', hd'', hqueue'.trans hqueue, hrepaint'.trans hrepaint⟩

/-- Another display changes, or something else about this one. -/
theorem modifyDisplay (s : Scene) (f : Display → Display)
    (hf : j = i → ∀ d, (f d).queue = d.queue ∧ (f d).repaint = d.repaint) :
    Spares i s (s.modifyDisplay j f) where
  grows := .of_queues rfl
  display d hd := by
    rw [Scene.modifyDisplay, Array.getElem?_modify, hd]
    by_cases hj : j = i
    · exact ⟨f d, if_pos hj, hf hj d⟩
    · exact ⟨d, if_neg hj, rfl, rfl⟩

theorem push (s : Scene) (q : QueueId) (j : DisplayId) :
    Spares i s (s.modifyQueue q (· ++ [j])) where
  grows := .push s q j
  display d hd := ⟨d, hd, rfl, rfl⟩

theorem stands (h : Spares i s s') {repaint : Repaint} (hs : Stands i queue repaint s) :
    Stands i queue repaint s' where
  display := by
    obtain ⟨d, hd, hqueue, hrepaint⟩ := hs.display
    obtain ⟨d', hd', hqueue', hrepaint'⟩ := h.display d hd
    exact ⟨d', hd', hqueue'.trans hqueue, hrepaint'.trans hrepaint⟩
  there q hq := Nat.lt_of_lt_of_le (hs.there q hq) h.grows.size

theorem idle (h : Spares i s s') (hs : Idle i queue owed count s) : Idle i queue owed count s' where
  toStands := h.stands hs.toStands
  waits howed := by
    obtain ⟨q, hq, hmem⟩ := hs.waits howed
    exact ⟨q, hq, (h.grows.tasks q).subset hmem⟩

theorem tells (h : Spares i s s') (hfewer : s'.restless ≤ s.restless) (hstory : story.of i = []) :
    Tells i s story s' where
  grows := h.grows
  fewer := hfewer
  goes queue owed count hs := by
    rw [hstory]
    exact ⟨owed, .nil owed, h.idle hs⟩
  hears queue owed running count _ hs := by
    refine ⟨0, hstory, ?_⟩
    rw [bne_self_eq_false, Bool.or_false]
    exact h.stands hs

end Spares

/-! ### Pieces one after the other -/

namespace Tells

theorem refl (s : Scene) : Tells i s [] s :=
  Spares.tells (.of_same rfl rfl) (Nat.le_refl _) rfl

theorem trans (h : Tells i s story s') (h' : Tells i s' story' s'') :
    Tells i s (story ++ story') s'' where
  grows := h.grows.trans h'.grows
  fewer := h'.fewer.trans h.fewer
  goes := by
    rw [Story.of_append]
    exact h.goes.trans h'.goes
  hears := by
    rw [Story.of_append]
    exact h.hears.trans h'.hears

end Tells

namespace Pays

theorem refl (s : Scene) : Pays i s [] s := ⟨.refl s, fun h => absurd rfl h⟩

theorem trans (h : Pays i s story s') (h' : Pays i s' story' s'') :
    Pays i s (story ++ story') s'' where
  toTells := h.toTells.trans h'.toTells
  costs hne := by
    cases story with
    | nil => exact Nat.lt_of_lt_of_le (h'.costs hne) h.fewer
    | cons m rest => exact Nat.lt_of_le_of_lt h'.fewer (h.costs nofun)

/-- Where displays, queues and what is left of renderings are the same, nothing has happened. -/
theorem of_same (hdisplays : s'.displays = s.displays) (hqueues : s'.queues = s.queues)
    (hfewer : s'.restless ≤ s.restless) : Pays i s [] s' :=
  ⟨(Spares.of_same hdisplays hqueues).tells hfewer rfl, fun h => absurd rfl h⟩

end Pays

/-! ### Rendering -/

/-- Work that renders. -/
def pays (i : DisplayId) : Work Telling := telling (R := Pays i) .refl .trans

theorem pays_onTerminal {α : Type} (work : TerminalM α) :
    (pays i).does (quietly (onTerminal work)) :=
  fun _ => .of_same rfl rfl (Nat.le_refl _)

section Tell
variable {tell : NodeId → Scene → Tale} (htell : ∀ n s, Tells i s (tell n s).2 (tell n s).1)
include htell

/-- The rendering that raises the updates is used up. -/
theorem pays_probeUpdates {n : NodeId} {p : Probe} (hp : s.body n = .probe p) :
    Pays i s (tellProbeUpdates tell n p s).2 (tellProbeUpdates tell n p s).1 := by
  unfold tellProbeUpdates
  cases hrenders : p.renders with
  | zero => exact .refl s
  | succ renders =>
    let spent := s.setBody n (.probe { p with renders })
    have hspent : spent.restless + 1 = s.restless := restless_setProbe hp hrenders
    have hless : spent.restless < s.restless := by omega
    have hset : Spares i s spent := .of_same rfl rfl
    have hraised := tellEach_along (R := Tells i) .refl .trans htell (List.replicate p.notifies n) spent
    have htold := (hset.tells (Nat.le_of_lt hless) (Story.of_nil i)).trans hraised
    exact ⟨htold, fun _ => Nat.lt_of_le_of_lt hraised.fewer hless⟩

theorem pays_renderProbe (n : NodeId) (region : Region) :
    (pays i).does (tellRenderProbe tell n region) := by
  intro s
  unfold tellRenderProbe
  cases hp : s.probe? n with
  | none => exact .refl s
  | some p =>
    let logged : Scene := { s with probed := s.probed.push (.render p.name region) }
    have hlogged : logged.body n = .probe p := body_of_probe? hp
    have hlog : Pays i s [] logged := .of_same rfl rfl (Nat.le_refl _)
    exact hlog.trans (pays_probeUpdates htell hlogged)

omit htell in
theorem pays_measureProbe (n : NodeId) (limit : Size) :
    (pays i).does (quietly (measureProbe n limit)) := by
  intro s
  unfold quietly measureProbe
  cases s.probe? n with
  | none => exact .refl s
  | some p => exact .of_same rfl rfl (Nat.le_refl _)

theorem pays_treeBox (r : Renderer) (v : View SceneLeaf) :
    (pays i).Renders (tellTreeBox tell r v) :=
  renders_tellTreeBox (fun _ => pays_onTerminal _) pays_measureProbe (pays_renderProbe htell) r v

theorem pays_paint (r : Renderer) (child : Option NodeId) :
    (pays i).does (tellPaint tell r child) :=
  does_tellPaint (fun _ => pays_onTerminal _) pays_measureProbe (pays_renderProbe htell) (fun s => .refl s)
    r child

/-! ### Repainting -/

omit htell in
theorem Stands.modify {repaint : Repaint} (hs : Stands i queue repaint s) (f : Repaint → Repaint) :
    Stands i queue (f repaint) (s.modifyDisplay i fun d => { d with repaint := f d.repaint }) where
  display := by
    obtain ⟨d, hd, hqueue, rfl⟩ := hs.display
    refine ⟨{ d with repaint := f d.repaint }, ?_, hqueue, rfl⟩
    rw [modifyDisplay, Array.getElem?_modify, if_pos rfl, hd]
    rfl
  there := hs.there

omit htell in
/-- Nothing is told of a display that may not start a paint. -/
theorem Stands.rests {repaint : Repaint} (hs : Stands i queue repaint s) (hnone : repaint.start? = none)
    (rounds : Nat) : tellDrainRounds tell i rounds s = (s, []) := by
  cases rounds with
  | zero => rfl
  | succ rounds =>
    obtain ⟨d, hd, _, rfl⟩ := hs.display
    unfold tellDrainRounds
    simp only [hd, hnone]

theorem grows_drainRounds (j : DisplayId) (rounds : Nat) (s : Scene) :
    Grows s (tellDrainRounds tell j rounds s).1 ∧
      (tellDrainRounds tell j rounds s).1.restless ≤ s.restless := by
  apply tellDrainRounds_along (R := fun s _ s' => Grows s s' ∧ s'.restless ≤ s.restless)
  · exact fun s => ⟨.of_queues rfl, Nat.le_refl _⟩
  · exact fun h h' => ⟨h.1.trans h'.1, h'.2.trans h.2⟩
  · exact fun s repaint => ⟨.of_queues rfl, Nat.le_refl _⟩
  · exact fun r child s => ⟨(pays_paint htell r child s).grows, (pays_paint htell r child s).fewer⟩
  · exact fun s => ⟨.of_queues rfl, Nat.le_refl _⟩

/-- Repaints of another display. -/
theorem tells_drainRounds_other (hj : j ≠ i) (rounds : Nat) (s : Scene) :
    Tells i s (tellDrainRounds tell j rounds s).2 (tellDrainRounds tell j rounds s).1 := by
  have hchange (f : Display → Display) (m : Moment) (s : Scene) :
      Tells i s [(j, m)] (s.modifyDisplay j f) :=
    (Spares.modifyDisplay s f (absurd · hj)).tells (Nat.le_refl _) (Story.of_cons_ne hj m [])
  apply tellDrainRounds_along (R := Tells i)
  · exact .refl
  · exact .trans
  · exact fun s repaint => hchange _ .start s
  · exact fun r child s => (pays_paint htell r child s).toTells
  · exact fun s => hchange _ .finish s

/-- **What a display owes is painted in one repaint.** There are as many rounds in it as are needed,
since each further one is paid for by a rendering. -/
theorem Stands.drains {rounds : Nat} (hs : Stands i queue { requested := owed, count } s)
    (hrounds : s.restless < rounds) :
    let told := tellDrainRounds tell i rounds s
    Due owed (told.2.of i) ∧ Stands i queue { count := count + (told.2.of i).count .finish } told.1 := by
  induction rounds generalizing s owed count with
  | zero => exact absurd hrounds (Nat.not_lt_zero _)
  | succ rounds ih =>
    cases owed with
    | false =>
      rw [hs.rests rfl]
      exact ⟨rfl, hs⟩
    | true =>
      obtain ⟨d, hd, hqueue, hrepaint⟩ := hs.display
      have hstart : d.repaint.start? = some { running := true, count } := by
        rw [hrepaint]
        rfl
      have hstarted : Stands i queue { running := true, count }
          (s.setRepaint i { running := true, count }) := hs.modify fun _ => { running := true, count }
      have hpaint := pays_paint htell d.renderer (d.child.map (·.node))
        (s.setRepaint i { running := true, count })
      unfold tellDrainRounds
      simp only [hd, hstart]
      generalize tellPaint tell d.renderer (d.child.map (·.node))
        (s.setRepaint i { running := true, count }) = painted at hpaint ⊢
      obtain ⟨n, hupdates, hpainted⟩ := hpaint.hears queue false true count (.inl rfl) hstarted
      have hfinished : Stands i queue { requested := n != 0, count := count + 1 }
          (painted.1.2.finishRepaint i) := by
        rw [Bool.false_or] at hpainted
        exact hpainted.modify Repaint.finish
      rw [Story.of_append, Story.of_cons_self, Story.of_cons_self, hupdates]
      cases n with
      | zero =>
        rw [hfinished.rests rfl]
        exact ⟨.once, hfinished⟩
      | succ more =>
        have hne : painted.2 ≠ [] := by
          rintro hnone
          rw [hnone] at hupdates
          cases hupdates
        have hless : (painted.1.2.finishRepaint i).restless < rounds :=
          Nat.lt_of_lt_of_le (hpaint.costs hne) (Nat.le_of_lt_succ hrounds)
        obtain ⟨hpaints, hstands⟩ := ih hfinished hless
        refine ⟨.again more hpaints, ?_⟩
        rw [count_finish_again, ← Nat.add_assoc]
        exact hstands

/-! ### Updates -/

omit htell in
/-- An update that reaches a display asks for a paint if none is owed. -/
theorem Stands.request? {running : Bool} {d : Display}
    (hs : Stands i queue { requested := owed, running, count } s) (hd : s.displays[i]? = some d) :
    d.queue = queue ∧
      d.repaint.request? = if owed then none else some { requested := true, running, count } := by
  obtain ⟨d', hd', hqueue, hrepaint⟩ := hs.display
  obtain rfl : d = d' := Option.some.inj (hd.symm.trans hd')
  rw [hrepaint]
  cases owed <;> exact ⟨hqueue, rfl⟩

omit htell in
/-- After an update of the display a paint is owed. -/
theorem tells_owed (hgrows : Grows s s') (hfewer : s'.restless ≤ s.restless)
    (hstands : ∀ queue owed running count, Stands i queue { requested := owed, running, count } s →
      Stands i queue { requested := true, running, count } s')
    (hwaits : ∀ queue owed count, Idle i queue owed count s → ∃ q ∈ queue, i ∈ s'.tasks q) :
    Tells i s [(i, .update)] s' where
  grows := hgrows
  fewer := hfewer
  goes queue owed count hs := by
    rw [Story.of_cons_self]
    exact ⟨true, .ask (.inl rfl) (.nil true), hstands queue owed false count hs.toStands,
      fun _ => hwaits queue owed count hs⟩
  hears queue owed running count _ hs := by
    rw [Story.of_cons_self]
    refine ⟨1, rfl, ?_⟩
    rw [show (owed || 1 != 0) = true from Bool.or_true owed]
    exact hstands queue owed running count hs

/-- An update reaches the display itself. -/
theorem tells_request_self (s : Scene) :
    Tells i s (tellRequest tell i s).2 (tellRequest tell i s).1 := by
  unfold tellRequest
  cases hd : s.displays[i]? with
  | none => exact .refl s
  | some d =>
    cases hrequest : d.repaint.request? with
    | none =>
      -- A paint is owed already.
      simp only [hrequest]
      have howed : ∀ queue owed running count, Stands i queue { requested := owed, running, count } s →
          owed = true := by
        intro queue owed running count hs
        cases owed with
        | false => exact absurd (hrequest.symm.trans (hs.request? hd).2) nofun
        | true => rfl
      apply tells_owed (.of_queues rfl) (Nat.le_refl _)
      · intro queue owed running count hs
        rwa [howed queue owed running count hs] at hs
      · exact fun queue owed count hs => hs.waits (howed queue owed false count hs.toStands)
    | some repaint =>
      simp only [hrequest]
      have hset : ∀ queue owed running count, Stands i queue { requested := owed, running, count } s →
          d.queue = queue ∧
            Stands i queue { requested := true, running, count } (s.setRepaint i repaint) := by
        intro queue owed running count hs
        obtain ⟨hqueue, hsome⟩ := hs.request? hd
        cases owed with
        | true => exact absurd (hrequest.symm.trans hsome) nofun
        | false =>
          obtain rfl : repaint = { requested := true, running, count } :=
            Option.some.inj (hrequest.symm.trans hsome)
          exact ⟨hqueue, hs.modify fun _ => _⟩
      have hgrows : Grows s (s.setRepaint i repaint) := .of_queues rfl
      cases hqueue : d.queue with
      | some q =>
        simp only
        apply tells_owed (hgrows.trans (.push _ q i)) (Nat.le_refl _)
        · intro queue owed running count hs
          exact (Spares.push _ q i).stands (hset queue owed running count hs).2
        · intro queue owed count hs
          obtain ⟨hsame, hstands⟩ := hset queue owed false count hs.toStands
          obtain rfl : some q = queue := hqueue.symm.trans hsame
          refine ⟨q, rfl, ?_⟩
          rw [tasks_modifyQueue _ (hstands.there q rfl)]
          exact List.mem_concat_self
      | none =>
        simp only
        obtain ⟨hgrows', hfewer⟩ := grows_drainRounds htell i
          ((s.setRepaint i repaint).restless + 1) (s.setRepaint i repaint)
        refine ⟨hgrows.trans hgrows', hfewer, ?_, ?_⟩
        · -- The display paints at once.
          intro queue owed count hs
          obtain ⟨hdue, hstands⟩ := (hset queue owed false count hs.toStands).2.drains htell
            (Nat.lt_succ_self _)
          rw [Story.of_cons_self, List.count_cons_of_ne (by decide)]
          exact ⟨false, .ask (.inl rfl) hdue.orderly, hstands, nofun⟩
        · -- The paint that runs will see to it.
          intro queue owed running count hwhere hs
          obtain ⟨hsame, hstands⟩ := hset queue owed running count hs
          obtain rfl : none = queue := hqueue.symm.trans hsame
          obtain rfl : running = true := hwhere.resolve_right nofun
          have hrests : tellDrainWith tell i (s.setRepaint i repaint) = (s.setRepaint i repaint, []) :=
            hstands.rests rfl _
          rw [hrests, Story.of_cons_self]
          refine ⟨1, rfl, ?_⟩
          rw [show (owed || 1 != 0) = true from Bool.or_true owed]
          exact hstands

/-- An update reaches some display. -/
theorem tells_request (j : DisplayId) (s : Scene) :
    Tells i s (tellRequest tell j s).2 (tellRequest tell j s).1 := by
  by_cases hj : j = i
  · subst hj
    exact tells_request_self htell s
  · unfold tellRequest
    have hother : Story.of i [(j, .update)] = [] := Story.of_cons_ne hj _ []
    cases s.displays[j]? with
    | none => exact .refl s
    | some d =>
      cases hrequest : d.repaint.request? with
      | none =>
        simp only [hrequest]
        exact Spares.tells (.of_same rfl rfl) (Nat.le_refl _) hother
      | some repaint =>
        simp only [hrequest]
        have hset : Spares i s (s.setRepaint j repaint) := .modifyDisplay s _ (absurd · hj)
        cases d.queue with
        | some q => exact (hset.trans (.push _ q j)).tells (Nat.le_refl _) hother
        | none =>
          have hdrain := tells_drainRounds_other htell hj ((s.setRepaint j repaint).restless + 1)
            (s.setRepaint j repaint)
          exact (hset.tells (Nat.le_refl _) hother).trans hdrain

/-! ### Raising -/

theorem tells_deliver (l : Listener) (s : Scene) :
    Tells i s (tellDeliver tell l s).2 (tellDeliver tell l s).1 := by
  cases l with
  | forward n => exact htell n s
  | watch counter => exact Spares.tells (.of_same rfl rfl) (Nat.le_refl _) (Story.of_nil i)
  | display j => exact tells_request htell j s

end Tell

/-- **Updates keep the story of a display in order**, whatever they set off. -/
theorem tells_raiseWithin (depth : Nat) (n : NodeId) (s : Scene) :
    Tells i s (tellRaiseWithin depth n s).2 (tellRaiseWithin depth n s).1 := by
  induction depth generalizing n s with
  | zero => exact .refl s
  | succ depth ih => exact tellEach_along (R := Tells i) .refl .trans (tells_deliver ih) _ s

/-- What is told whenever one thing of a list is done is told when all of them are. -/
theorem mem_tellEach {α : Type} {f : α → Scene → Tale} {P : Scene → Prop}
    {e : DisplayId × Moment} {a : α}
    (hkeeps : ∀ a s, P s → P (f a s).1) (hmem : ∀ s, P s → e ∈ (f a s).2) {as : List α} (ha : a ∈ as)
    (hs : P s) : e ∈ (tellEach f as s).2 := by
  induction as generalizing s with
  | nil => cases ha
  | cons b rest ih =>
    show e ∈ (f b s).2 ++ (tellEach f rest (f b s).1).2
    rcases List.mem_cons.mp ha with rfl | ha
    · exact List.mem_append_left _ (hmem s hs)
    · exact List.mem_append_right _ (ih ha (hkeeps b s hs))

theorem mem_tellRequest (tell : NodeId → Scene → Tale) {d : Display} (hd : s.displays[i]? = some d) :
    (i, .update) ∈ (tellRequest tell i s).2 := by
  unfold tellRequest
  simp only [hd]
  cases hrequest : d.repaint.request? with
  | none => exact List.mem_singleton_self _
  | some repaint =>
    simp only
    cases d.queue with
    | some q => exact List.mem_singleton_self _
    | none => exact List.mem_cons_self ..

/-- **An update reaches the display that listens.** -/
theorem mem_tellRaise (hs : Idle i queue owed count s) {n : NodeId}
    (hlistens : .display i ∈ (s.node n).notifier.round) : .update ∈ (s.tellRaise n).2.of i := by
  have hdepth : s.depth = (s.depth - 1) + 1 := by
    have hpos : 0 < s.depth := Nat.mul_pos (Nat.succ_pos _) (Nat.succ_pos _)
    omega
  have hmem : (i, .update) ∈ (s.tellRaise n).2 := by
    unfold tellRaise
    rw [hdepth]
    -- Whoever is told before, the display is there still.
    apply mem_tellEach (P := fun s => ∃ owed count, Idle i queue owed count s) _ _ hlistens
      ⟨owed, count, hs⟩
    · rintro l s ⟨owed, count, hs⟩
      obtain ⟨owed', _, hs'⟩ := (tells_deliver (tells_raiseWithin _) l s).goes queue owed count hs
      exact ⟨owed', _, hs'⟩
    · rintro s ⟨owed, count, hs⟩
      obtain ⟨d, hd, _⟩ := hs.display
      exact mem_tellRequest _ hd
  exact List.mem_filterMap.mpr ⟨_, hmem, if_pos rfl⟩

end

end Scene

end TextPane
