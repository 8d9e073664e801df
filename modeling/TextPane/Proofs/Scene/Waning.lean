import TextPane.Proofs.Scene.Still

/-! Repaints come to an end.

Only renderings of probes raise updates while a repaint runs, and each one that does leaves one less. So
a queue whose repaints are carried out runs empty: what is queued, and every display once for every
rendering that is left, bound how many repaints are to come (`strain`). An update may add to a queue
whatever displays are not asked yet (`unasked`), and the rendering that raised it has paid for all of
them. -/
namespace TextPane

/-- Changing one entry of a list changes the one summand of a sum. -/
theorem List.sum_map_modify {α : Type} (l : List α) (f : α → Nat) (g : α → α) {n : Nat} {a : α}
    (hn : l[n]? = some a) : ((l.modify n g).map f).sum + f a = (l.map f).sum + f (g a) := by
  induction l generalizing n with
  | nil => cases hn
  | cons b rest ih =>
    cases n with
    | zero =>
      obtain rfl : b = a := Option.some.inj hn
      simp only [List.modify_zero_cons, List.map_cons, List.sum_cons]
      omega
    | succ n =>
      have hrest := ih (n := n) hn
      simp only [List.modify_succ_cons, List.map_cons, List.sum_cons]
      omega

namespace Scene

/-! ### What is left and what is asked -/

/-- How many renderings of a body raise updates. -/
def rendersOf : Body → Nat
  | .probe p => p.renders
  | _ => 0

theorem restless_eq (s : Scene) :
    s.restless = (s.nodes.toList.map fun node => rendersOf node.body).sum := rfl

/-- One for a display that an update would put into the queue. -/
def unaskedOne (q : QueueId) (d : Display) : Nat :=
  if d.queue = some q ∧ d.repaint.requested = false then 1 else 0

/-- The displays that an update would put into a queue. -/
def unasked (s : Scene) (q : QueueId) : Nat := (s.displays.toList.map (unaskedOne q)).sum

/-- How many repaints of a queue are to come at most, when nobody else raises updates. -/
def strain (s : Scene) (q : QueueId) : Nat := s.pending q + s.displays.size * s.restless

/-- The display has no queue, and repaints at once. -/
def Prompt (s : Scene) (i : DisplayId) : Prop :=
  ∀ d, s.displays[i]? = some d → d.queue = none

theorem unaskedOne_le (q : QueueId) (d : Display) : unaskedOne q d ≤ 1 := by
  unfold unaskedOne
  split
  · exact Nat.le_refl _
  · exact Nat.zero_le _

theorem unasked_le (s : Scene) (q : QueueId) : s.unasked q ≤ s.displays.size := by
  rw [unasked, ← Array.length_toList]
  induction s.displays.toList with
  | nil => exact Nat.le_refl _
  | cons d rest ih =>
    have hone := unaskedOne_le q d
    rw [List.map_cons, List.sum_cons, List.length_cons]
    omega

section
variable {s s' s'' : Scene} {q : QueueId}

theorem restless_of_nodes (hnodes : s'.nodes = s.nodes) : s'.restless = s.restless := by
  rw [restless, restless, hnodes]

/-- A rendering that raises updates is one of those that were left. -/
theorem restless_setProbe {n : NodeId} {p : Probe} {renders : Nat} (hp : s.body n = .probe p)
    (hrenders : p.renders = renders + 1) :
    (s.setBody n (.probe { p with renders })).restless + 1 = s.restless := by
  have hn : n < s.nodes.size := by
    by_contra hn
    rw [body_of_size_le (Nat.not_lt.mp hn)] at hp
    cases hp
  have hnode : s.nodes.toList[n]? = some (s.node n) := by
    rw [Array.getElem?_toList, node, Array.getElem?_eq_getElem hn]
    rfl
  have hsum := List.sum_map_modify s.nodes.toList (fun node => rendersOf node.body)
    (fun node => { node with body := .probe { p with renders } }) hnode
  rw [restless_eq, restless_eq, setBody, modifyNode, Array.toList_modify]
  have hold : rendersOf (s.node n).body = renders + 1 := by
    rw [show (s.node n).body = .probe p from hp, ← hrenders]
    rfl
  rw [hold] at hsum
  exact Nat.succ.inj (by simpa [rendersOf, Nat.add_assoc, Nat.add_comm] using hsum)

theorem unasked_modifyDisplay {i : DisplayId} {d : Display} (hd : s.displays[i]? = some d)
    (f : Display → Display) :
    (s.modifyDisplay i f).unasked q + unaskedOne q d = s.unasked q + unaskedOne q (f d) := by
  have hlist : s.displays.toList[i]? = some d := by rwa [Array.getElem?_toList]
  have hsum := List.sum_map_modify s.displays.toList (unaskedOne q) f hlist
  rw [unasked, modifyDisplay, Array.toList_modify]
  exact hsum

/-- A display with another queue is none of those of this one. -/
theorem unasked_of_queue_ne {i : DisplayId}
    (hqueue : ∀ d, s.displays[i]? = some d → d.queue ≠ some q) (change : Repaint → Repaint) :
    (s.modifyDisplay i fun d => { d with repaint := change d.repaint }).unasked q = s.unasked q := by
  cases hd : s.displays[i]? with
  | none =>
    have hsize : s.displays.toList.length ≤ i := Array.getElem?_eq_none_iff.mp hd
    rw [unasked, modifyDisplay, Array.toList_modify, List.modify_eq_self hsize]
    rfl
  | some d =>
    have hmodify := unasked_modifyDisplay (q := q) hd fun d => { d with repaint := change d.repaint }
    have hne := hqueue d hd
    have hnone (repaint : Repaint) : unaskedOne q { d with repaint } = 0 := if_neg fun h => hne h.1
    rw [show unaskedOne q d = 0 from hnone d.repaint, hnone] at hmodify
    exact hmodify

/-! ### Less and less is left -/

/-- No more repaints are queued than displays were not asked. -/
structure Wanes (q : QueueId) (s s' : Scene) : Prop where
  still : Still s s'
  load : s'.strain q + s'.unasked q ≤ s.strain q + s.unasked q

namespace Wanes

theorem refl (s : Scene) : Wanes q s s := ⟨.refl s, Nat.le_refl _⟩

theorem trans (h : Wanes q s s') (h' : Wanes q s' s'') : Wanes q s s'' :=
  ⟨h.still.trans h'.still, Nat.le_trans h'.load h.load⟩

/-- Neither nodes nor displays nor queues have changed. -/
theorem of_same (hnodes : s'.nodes = s.nodes) (hheld : s'.held = s.held)
    (hdisplays : s'.displays = s.displays) (hqueues : s'.queues = s.queues) : Wanes q s s' where
  still := .of_nodes hnodes hheld hdisplays hqueues
  load := by
    rw [strain, strain, unasked, unasked, pending, pending, hqueues, hdisplays, restless_of_nodes hnodes]

end Wanes

/-- A rendering: no more repaints are to come than before it. -/
structure Spends (q : QueueId) (s s' : Scene) : Prop extends Wanes q s s' where
  strain : s'.strain q ≤ s.strain q

namespace Spends

theorem refl (s : Scene) : Spends q s s := ⟨.refl s, Nat.le_refl _⟩

theorem trans (h : Spends q s s') (h' : Spends q s' s'') : Spends q s s'' :=
  ⟨h.toWanes.trans h'.toWanes, Nat.le_trans h'.strain h.strain⟩

theorem of_same (hnodes : s'.nodes = s.nodes) (hheld : s'.held = s.held)
    (hdisplays : s'.displays = s.displays) (hqueues : s'.queues = s.queues) : Spends q s s' where
  toWanes := .of_same hnodes hheld hdisplays hqueues
  strain := by
    rw [Scene.strain, Scene.strain, pending, pending, hqueues, hdisplays, restless_of_nodes hnodes]

end Spends

/-! ### Rendering -/

/-- Work that renders. -/
def spends (q : QueueId) : Work SceneM := along (R := Spends q) Spends.refl Spends.trans

theorem spends_onTerminal {α : Type} (work : TerminalM α) : (spends q).does (onTerminal work) :=
  fun _ => .of_same rfl rfl rfl rfl

section Raise
variable {raise : NodeId → Scene → Scene} (hraise : ∀ n s, Wanes q s (raise n s))
include hraise

/-- The updates of a rendering are paid for by it. -/
theorem spends_probeUpdates {n : NodeId} {p : Probe} (hp : s.body n = .probe p) :
    Spends q s (probeUpdates raise n p s) := by
  unfold probeUpdates
  cases hrenders : p.renders with
  | zero => exact .refl s
  | succ renders =>
    let spent := s.setBody n (.probe { p with renders })
    let raised := (List.replicate p.notifies n).foldl (fun s n => raise n s) spent
    have hraised : Wanes q spent raised :=
      foldl_along Wanes.refl Wanes.trans (fun s n => hraise n s) _ spent
    have hspent : spent.restless + 1 = s.restless := restless_setProbe hp hrenders
    have hstill : Still s raised := (still_setProbe s hp _).trans hraised.still
    have hpaid : spent.strain q + s.displays.size = s.strain q := by
      show spent.pending q + s.displays.size * spent.restless + _ = _
      rw [strain, ← hspent, Nat.mul_add, Nat.mul_one, Nat.add_assoc]
      rfl
    have hunasked : spent.unasked q = s.unasked q := rfl
    have hload := hraised.load
    have hfew := unasked_le spent q
    have hsize : spent.displays.size = s.displays.size := rfl
    refine ⟨⟨hstill, ?_⟩, ?_⟩
    · show raised.strain q + raised.unasked q ≤ _
      omega
    · show raised.strain q ≤ _
      omega

theorem spends_renderProbe (n : NodeId) (region : Region) :
    (spends q).does (renderProbe raise n region) := by
  intro s
  unfold renderProbe
  cases hp : s.probe? n with
  | none => exact .refl s
  | some p =>
    let logged : Scene := { s with probed := s.probed.push (.render p.name region) }
    have hlogged : logged.body n = .probe p := body_of_probe? hp
    have hlog : Spends q s logged := .of_same rfl rfl rfl rfl
    exact hlog.trans (spends_probeUpdates hraise hlogged)

omit hraise in
theorem spends_measureProbe (n : NodeId) (limit : Size) : (spends q).does (measureProbe n limit) := by
  intro s
  unfold measureProbe
  cases s.probe? n with
  | none => exact .refl s
  | some p => exact .of_same rfl rfl rfl rfl

theorem spends_paint (r : Renderer) (child : Option NodeId) : (spends q).does (paint raise r child) :=
  does_paint spends_onTerminal spends_measureProbe (spends_renderProbe hraise) (fun s => .refl s) r child

/-! ### Repainting -/

omit hraise in
/-- A display that is given another repaint leaves the queue and what is left as they are. -/
theorem strain_setRepaint (s : Scene) (i : DisplayId) (repaint : Repaint) :
    (s.setRepaint i repaint).strain q = s.strain q := by
  rw [strain, strain, setRepaint, modifyDisplay, Array.size_modify]
  rfl

omit hraise in
/-- A queue gets one longer by what is put at its end, and no other queue does. -/
theorem strain_push_le (s : Scene) (q' : QueueId) (i : DisplayId) :
    (s.modifyQueue q' (· ++ [i])).strain q ≤ s.strain q + if q' = q then 1 else 0 := by
  have hpending : (s.modifyQueue q' (· ++ [i])).pending q ≤ s.pending q + if q' = q then 1 else 0 := by
    rw [pending, pending, queues_modifyQueue]
    by_cases hq : q' = q
    · rw [if_pos hq, if_pos hq]
      cases s.queues[q]? with
      | none => exact Nat.zero_le _
      | some tasks => exact Nat.le_of_eq List.length_append
    · rw [if_neg hq, if_neg hq]
      exact Nat.le_refl _
  have hrest : (s.modifyQueue q' (· ++ [i])).displays.size * (s.modifyQueue q' (· ++ [i])).restless =
    s.displays.size * s.restless := rfl
  rw [strain, strain, hrest]
  omega

omit hraise in
theorem strain_finishRepaint (s : Scene) (i : DisplayId) :
    (s.finishRepaint i).strain q = s.strain q := by
  rw [strain, strain, finishRepaint, modifyDisplay, Array.size_modify]
  rfl

/-- Repaints of a display queue no more than they are worth. -/
theorem strain_drainRounds_le (i : DisplayId) (rounds : Nat) (s : Scene) :
    (drainRounds raise i rounds s).strain q ≤ s.strain q := by
  apply drainRounds_along (R := fun s s' => s'.strain q ≤ s.strain q)
  · exact fun s => Nat.le_refl _
  · exact fun h h' => h'.trans h
  · exact fun s d repaint _ _ => Nat.le_of_eq (strain_setRepaint s i repaint)
  · exact fun r child s => (spends_paint hraise r child s).strain
  · exact fun s => Nat.le_of_eq (strain_finishRepaint s i)

omit hraise in
theorem Prompt.still {i : DisplayId} (h : s.Prompt i) (hstill : Still s s') : s'.Prompt i := by
  intro d' hd'
  cases hd : s.displays[i]? with
  | none =>
    have hsize : s'.displays.size ≤ i := hstill.displays ▸ Array.getElem?_eq_none_iff.mp hd
    rw [Array.getElem?_eq_none hsize] at hd'
    cases hd'
  | some d =>
    obtain ⟨repaint, _, hsame⟩ := hstill.display i d hd
    rw [hd'] at hsame
    rw [Option.some.inj hsame]
    exact h d hd

/-- Repaints that are carried out at once are in no queue. -/
theorem wanes_drainRounds {i : DisplayId} (rounds : Nat) (hprompt : s.Prompt i) :
    Wanes q s (drainRounds raise i rounds s) := by
  have hother : ∀ s : Scene, s.Prompt i → ∀ d, s.displays[i]? = some d → d.queue ≠ some q :=
    fun s hprompt d hd => by rw [hprompt d hd]; exact nofun
  refine drainRounds_along (R := fun s s' => s.Prompt i → Wanes q s s') ?_ ?_ ?_ ?_ ?_ rounds s hprompt
  · exact fun s _ => .refl s
  · exact fun h h' hprompt => (h hprompt).trans (h' (hprompt.still (h hprompt).still))
  · intro s d repaint hd hstart hprompt
    have hunasked := unasked_of_queue_ne (hother s hprompt) fun _ => repaint
    refine ⟨still_setRepaint hd (disposed_start? hstart), ?_⟩
    rw [strain_setRepaint, setRepaint, hunasked]
  · exact fun r child s _ => (spends_paint hraise r child s).toWanes
  · intro s hprompt
    have hunasked := unasked_of_queue_ne (hother s hprompt) Repaint.finish
    refine ⟨still_modifyDisplay s i Repaint.finish fun _ _ => rfl, ?_⟩
    rw [strain_finishRepaint, finishRepaint, hunasked]

/-- A display that is asked for a repaint is no longer one of those that are not. -/
theorem wanes_requestRepaint (i : DisplayId) (s : Scene) : Wanes q s (requestRepaint raise i s) := by
  unfold requestRepaint
  cases hd : s.displays[i]? with
  | none => exact .refl s
  | some d =>
    cases hrequest : d.repaint.request? with
    | none =>
      simp only [hrequest]
      exact .refl s
    | some repaint =>
      simp only [hrequest]
      have hstill : Still s (s.setRepaint i repaint) := still_setRepaint hd (disposed_request? hrequest)
      have hunrequested : d.repaint.requested = false ∧ repaint.requested = true := by
        unfold Repaint.request? at hrequest
        split at hrequest
        · cases hrequest
        · next hopen =>
          rw [← Option.some.inj hrequest]
          simp only [Bool.or_eq_true, not_or, Bool.not_eq_true] at hopen
          exact ⟨hopen.2, rfl⟩
      have hset := unasked_modifyDisplay (q := q) hd fun d => { d with repaint }
      have hafter : unaskedOne q { d with repaint } = 0 := if_neg fun h => by
        rw [hunrequested.2] at h
        cases h.2
      cases hqueue : d.queue with
      | none =>
        have hprompt : s.Prompt i := fun d' hd' => by
          rw [← Option.some.inj (hd.symm.trans hd'), hqueue]
        have hbefore : unaskedOne q d = 0 := if_neg fun h => by
          rw [hqueue] at h
          cases h.1
        refine Wanes.trans ⟨hstill, ?_⟩ (wanes_drainRounds hraise _ (hprompt.still hstill))
        rw [strain_setRepaint, setRepaint]
        omega
      | some q' =>
        refine ⟨hstill.trans (still_modifyQueue _ q' _), ?_⟩
        have hone : unaskedOne q d = if q' = q then 1 else 0 := by
          rw [unaskedOne, hqueue, hunrequested.1]
          simp only [Option.some.injEq, and_true]
        have hpush := strain_push_le (s.setRepaint i repaint) q' i (q := q)
        rw [strain_setRepaint, ← hone] at hpush
        rw [hafter, ← setRepaint] at hset
        show ((s.setRepaint i repaint).modifyQueue q' (· ++ [i])).strain q +
          (s.setRepaint i repaint).unasked q ≤ s.strain q + s.unasked q
        omega

/-! ### Raising -/

theorem wanes_delivers (round : List Listener) (s : Scene) :
    Wanes q s (round.foldl (deliver raise) s) := by
  apply foldl_along Wanes.refl Wanes.trans
  intro s l
  cases l with
  | forward n => exact hraise n s
  | watch counter => exact .of_same rfl rfl rfl rfl
  | display i => exact wanes_requestRepaint hraise i s

end Raise

/-- **An update queues no more repaints than displays were not asked** and than it spends renderings. -/
theorem wanes_raiseWithin (depth : Nat) (n : NodeId) (s : Scene) :
    Wanes q s (raiseWithin depth n s) := by
  induction depth generalizing n s with
  | zero => exact .refl s
  | succ depth ih => exact wanes_delivers ih _ s

theorem strain_drain_le (s : Scene) (i : DisplayId) : (s.drain i).strain q ≤ s.strain q :=
  strain_drainRounds_le (wanes_raiseWithin s.depth) i _ s

/-! ### Queues run empty -/

/-- Each repaint that is taken from a queue leaves one less to come. -/
theorem strain_runNext (s : Scene) (q : QueueId) :
    s.runNext q = (s, false) ∧ s.pending q = 0 ∨
      (s.runNext q).2 = true ∧ (s.runNext q).1.strain q < s.strain q := by
  unfold runNext
  cases htasks : (s.queues[q]?).getD [] with
  | nil => exact .inl ⟨rfl, by rw [pending, htasks, List.length_nil]⟩
  | cons i rest =>
    refine .inr ⟨rfl, Nat.lt_of_le_of_lt (strain_drain_le _ i) ?_⟩
    have hqueue : s.queues[q]? = some (i :: rest) := by
      cases hq : s.queues[q]? with
      | none =>
        rw [hq] at htasks
        cases htasks
      | some tasks =>
        rw [hq] at htasks
        exact congrArg some htasks
    have hpending : s.pending q = rest.length + 1 := by rw [pending, htasks, List.length_cons]
    have hrest : (s.modifyQueue q fun _ => rest).displays.size *
      (s.modifyQueue q fun _ => rest).restless = s.displays.size * s.restless := rfl
    rw [strain, strain, pending_taken hqueue, hpending, hrest]
    omega

/-- As many rounds as there are repaints to come leave none. -/
theorem pending_runRounds (s : Scene) (q : QueueId) {rounds : Nat} (h : s.strain q ≤ rounds) :
    (s.runRounds q rounds).1.pending q = 0 := by
  induction rounds generalizing s with
  | zero =>
    have hnone : s.strain q = 0 := Nat.le_zero.mp h
    exact (Nat.add_eq_zero_iff.mp hnone).1
  | succ rounds ih =>
    have hnext := strain_runNext s q
    rcases hrun : s.runNext q with ⟨s', ran⟩
    rw [hrun] at hnext
    unfold runRounds
    rw [hrun]
    rcases hnext with ⟨hsame, hnone⟩ | ⟨rfl, hless⟩
    · cases hsame
      exact hnone
    · exact ih s' (Nat.le_of_lt_succ (Nat.lt_of_lt_of_le hless h))

/-- **A queue whose repaints are all carried out is empty.** -/
theorem pending_runPending (s : Scene) (q : QueueId) : (s.runPending q).1.pending q = 0 := by
  refine pending_runRounds s q ?_
  rw [strain, Nat.mul_add]
  omega

end

end Scene

end TextPane
