import TextPane.Proofs.Scene.Repaint
import TextPane.Proofs.Scene.Sweep
import TextPane.Proofs.View.Work

/-! Updates and repaints leave views alone.

Whatever an update sets off, however deep rounds and repaints are nested and whichever of them fail, it
writes to the terminal, counts, asks for repaints and lets probes spend renderings, and that is all
(`Still`): no view gets another place or listener, and no display another child. What renders a tree does
this in pieces, so it is enough that each piece does (`still`). -/
namespace TextPane.Scene

/-- Nothing has changed about who holds a view and who listens to it: bodies are the same, but for what
probes have left to raise, and displays are the same, but for their repaints. None is disposed of. -/
structure Still (s s' : Scene) : Prop where
  size : s'.nodes.size = s.nodes.size
  notifier : ∀ n, s'.notifier n = s.notifier n
  body : ∀ n, s'.body n = s.body n ∨ ∃ p p', s.body n = .probe p ∧ s'.body n = .probe p'
  held : s'.held = s.held
  displays : s'.displays.size = s.displays.size
  display : ∀ (i : DisplayId) (d : Display), s.displays[i]? = some d →
    ∃ repaint, repaint.disposed = d.repaint.disposed ∧ s'.displays[i]? = some { d with repaint }
  queues : s.queues.size ≤ s'.queues.size

namespace Still
variable {s s' s'' : Scene}

theorem refl (s : Scene) : Still s s :=
  ⟨rfl, fun _ => rfl, fun _ => .inl rfl, rfl, rfl, fun _ d h => ⟨d.repaint, rfl, h⟩, Nat.le_refl _⟩

theorem trans (h : Still s s') (h' : Still s' s'') : Still s s'' where
  size := h'.size.trans h.size
  notifier n := (h'.notifier n).trans (h.notifier n)
  body n := by
    rcases h.body n with heq | ⟨p, p', hp, hp'⟩
    · rw [← heq]
      exact h'.body n
    · refine .inr ⟨p, ?_⟩
      rcases h'.body n with heq | ⟨_, q, _, hq⟩
      · exact ⟨p', hp, heq.trans hp'⟩
      · exact ⟨q, hp, hq⟩
  held := h'.held.trans h.held
  displays := h'.displays.trans h.displays
  display i d hd := by
    obtain ⟨_, hsame, hd'⟩ := h.display i d hd
    obtain ⟨repaint, hsame', hd''⟩ := h'.display i _ hd'
    exact ⟨repaint, hsame'.trans hsame, hd''⟩
  queues := Nat.le_trans h.queues h'.queues

/-- Where nodes, displays and queues are the same, nothing has changed. -/
theorem of_nodes (hnodes : s'.nodes = s.nodes) (hheld : s'.held = s.held)
    (hdisplays : s'.displays = s.displays) (hqueues : s'.queues = s.queues) : Still s s' where
  size := by rw [hnodes]
  notifier n := by simp only [Scene.notifier, node, hnodes]
  body n := .inl (by simp only [Scene.body, node, hnodes])
  held := hheld
  displays := by rw [hdisplays]
  display i d hd := ⟨d.repaint, rfl, hdisplays ▸ hd⟩
  queues := Nat.le_of_eq (by rw [hqueues])

theorem slots (h : Still s s') (n : NodeId) : (s'.body n).slots = (s.body n).slots := by
  rcases h.body n with heq | ⟨p, p', hp, hp'⟩
  · rw [heq]
  · rw [hp, hp']
    rfl

theorem keeps (h : Still s s') (n : NodeId) : (s'.body n).keeps = (s.body n).keeps := by
  rcases h.body n with heq | ⟨p, p', hp, hp'⟩
  · rw [heq]
  · rw [hp, hp']
    rfl

theorem child (h : Still s s') (i : DisplayId) :
    (s'.displays[i]?).bind (·.child) = (s.displays[i]?).bind (·.child) := by
  cases hd : s.displays[i]? with
  | some d =>
    obtain ⟨repaint, _, hd'⟩ := h.display i d hd
    rw [hd']
    rfl
  | none =>
    have hsize : s.displays.size ≤ i := Array.getElem?_eq_none_iff.mp hd
    rw [Array.getElem?_eq_none (h.displays ▸ hsize)]

theorem places (h : Still s s') : s'.places = s.places := by
  funext l
  cases l with
  | forward n => exact h.slots n
  | display i => exact congrArg Option.toList (h.child i)
  | watch k => rfl

theorem linked (h : Still s s') {hand : Listener → List Slot} (hlinked : s.Linked hand) :
    s'.Linked hand := by
  rw [Linked, h.places]
  exact Wired.congr hlinked h.notifier

end Still

/-! ### One step -/

section Steps
variable (s : Scene)

theorem still_modifyDisplay (i : DisplayId) (change : Repaint → Repaint)
    (hchange : ∀ d, s.displays[i]? = some d → (change d.repaint).disposed = d.repaint.disposed) :
    Still s (s.modifyDisplay i fun d => { d with repaint := change d.repaint }) where
  size := rfl
  notifier _ := rfl
  body _ := .inl rfl
  held := rfl
  displays := Array.size_modify
  display j d hd := by
    simp only [modifyDisplay, Array.getElem?_modify, hd, Option.map_some]
    by_cases hi : i = j
    · subst hi
      exact ⟨change d.repaint, hchange d hd, if_pos rfl⟩
    · exact ⟨d.repaint, rfl, if_neg hi⟩
  queues := Nat.le_refl _

theorem still_modifyQueue (q : QueueId) (f : List DisplayId → List DisplayId) :
    Still s (s.modifyQueue q f) :=
  { Still.refl s with
    queues := Nat.le_of_eq Array.size_modify.symm
    display := fun _ d hd => ⟨d.repaint, rfl, hd⟩ }

/-- A probe changes into a probe. -/
theorem still_setProbe {n : NodeId} {p : Probe} (hp : s.body n = .probe p) (p' : Probe) :
    Still s (s.setBody n (.probe p')) where
  size := size_setBody s n _
  notifier := notifier_setBody s n _
  body m := by
    rw [body_setBody]
    split
    · next h => exact .inr ⟨p, p', h.1 ▸ hp, rfl⟩
    · exact .inl rfl
  held := rfl
  displays := rfl
  display _ d hd := ⟨d.repaint, rfl, hd⟩
  queues := Nat.le_refl _

end Steps

/-! ### One after the other -/

section Along
variable {R : Scene → Scene → Prop} (hrefl : ∀ s, R s s)
  (htrans : ∀ {s s' s''}, R s s' → R s' s'' → R s s'')
include hrefl htrans

/-- What each of a list does comes to one relation. -/
theorem foldl_along {α : Type} {f : Scene → α → Scene} (hf : ∀ s a, R s (f s a)) (as : List α)
    (s : Scene) : R s (as.foldl f s) := by
  induction as generalizing s with
  | nil => exact hrefl s
  | cons a rest ih => exact htrans (hf s a) (ih _)

/-- Work that changes a scene into one that it is related to. -/
def along : Work SceneM where
  does work := ∀ s, R s (work s).2
  pure _ s := hrefl s
  bind {_ _ x f} hx hf s := by
    have hfirst : R s (x s).2 := hx s
    rcases hrun : x s with ⟨e | a, s'⟩
    · rw [hrun] at hfirst
      rw [bind_of_error hrun]
      exact hfirst
    · rw [hrun] at hfirst
      rw [bind_of_ok hrun]
      exact htrans hfirst (hf a s')

/-- Repainting is as paints and what is before and after them. -/
theorem drainRounds_along {raise : NodeId → Scene → Scene} {i : DisplayId}
    (hstart : ∀ s d repaint, s.displays[i]? = some d → d.repaint.start? = some repaint →
      R s (s.setRepaint i repaint))
    (hpaint : ∀ r child s, R s (paint raise r child s).2) (hfinish : ∀ s, R s (s.finishRepaint i))
    (rounds : Nat) (s : Scene) : R s (drainRounds raise i rounds s) := by
  induction rounds generalizing s with
  | zero => exact hrefl s
  | succ rounds ih =>
    unfold drainRounds
    cases hd : s.displays[i]? with
    | none => exact hrefl s
    | some d =>
      cases hrepaint : d.repaint.start? with
      | none =>
        simp only [hrepaint]
        exact hrefl s
      | some repaint =>
        simp only [hrepaint]
        exact htrans (htrans (hstart s d repaint hd hrepaint) (hpaint ..)) (htrans (hfinish _) (ih _))

end Along

/-! ### Painting in pieces -/

section Pieces
variable {W : Work SceneM} {raise : NodeId → Scene → Scene}
  (hterminal : ∀ {α : Type} (work : TerminalM α), W.does (onTerminal work))
  (hmeasure : ∀ n limit, W.does (measureProbe n limit))
  (hrender : ∀ n region, W.does (renderProbe raise n region))
include hterminal hmeasure hrender

theorem renders_treeBox (r : Renderer) (v : View SceneLeaf) : W.Renders (treeBox raise r v) := by
  apply W.renders_view
  · intro a _ limit
    cases a with
    | span span => exact hterminal _
    | probe n => exact hmeasure n limit
  · exact fun region => hterminal _
  · intro a _ region
    cases a with
    | span span => exact hterminal _
    | probe n => exact hrender n region

theorem does_paint (hget : W.does get) (r : Renderer) (child : Option NodeId) :
    W.does (paint raise r child) := by
  refine W.bind (hterminal _) fun _ => ?_
  have hflush : W.does (onTerminal (Terminal.call .flush)) := hterminal _
  cases child with
  | none => exact hflush
  | some n =>
    refine W.bind hget fun s => ?_
    exact W.bind (renders_treeBox hterminal hmeasure hrender r _ _) fun _ => hflush

end Pieces

/-! ### Rendering -/

/-- Work that leaves views alone. -/
def still : Work SceneM := along Still.refl Still.trans

theorem still_onTerminal {α : Type} (work : TerminalM α) : still.does (onTerminal work) :=
  fun _ => .of_nodes rfl rfl rfl rfl

section Raise
variable {raise : NodeId → Scene → Scene} (hraise : ∀ n s, Still s (raise n s))
include hraise

theorem still_probeUpdates {n : NodeId} {s : Scene} {p : Probe} (hp : s.body n = .probe p) :
    Still s (probeUpdates raise n p s) := by
  unfold probeUpdates
  split
  · exact .refl s
  · have hraised := foldl_along Still.refl Still.trans (f := fun s n => raise n s) fun s n => hraise n s
    exact (still_setProbe s hp _).trans (hraised _ _)

omit hraise in
theorem body_of_probe? {s : Scene} {n : NodeId} {p : Probe} (h : s.probe? n = some p) :
    s.body n = .probe p := by
  unfold probe? at h
  split at h
  · next hbody => exact hbody.trans (congrArg Body.probe (Option.some.inj h))
  · cases h

theorem still_renderProbe (n : NodeId) (region : Region) :
    still.does (renderProbe raise n region) := by
  intro s
  unfold renderProbe
  cases hp : s.probe? n with
  | none => exact .refl s
  | some p =>
    let logged : Scene := { s with probed := s.probed.push (.render p.name region) }
    have hlogged : logged.body n = .probe p := body_of_probe? hp
    have hlog : Still s logged := .of_nodes rfl rfl rfl rfl
    exact hlog.trans (still_probeUpdates hraise hlogged)

omit hraise in
theorem still_measureProbe (n : NodeId) (limit : Size) : still.does (measureProbe n limit) := by
  intro s
  unfold measureProbe
  cases s.probe? n with
  | none => exact .refl s
  | some p => exact .of_nodes rfl rfl rfl rfl

theorem still_treeBox (r : Renderer) (v : View SceneLeaf) : still.Renders (treeBox raise r v) :=
  renders_treeBox still_onTerminal still_measureProbe (still_renderProbe hraise) r v

theorem still_paint (r : Renderer) (child : Option NodeId) : still.does (paint raise r child) :=
  does_paint still_onTerminal still_measureProbe (still_renderProbe hraise) (fun s => .refl s) r child

/-! ### Repainting -/

omit hraise in
/-- A display that is given another repaint is not disposed of by it. -/
theorem still_setRepaint {s : Scene} {i : DisplayId} {d : Display} (hd : s.displays[i]? = some d)
    {repaint : Repaint} (hsame : repaint.disposed = d.repaint.disposed) :
    Still s (s.setRepaint i repaint) := by
  refine still_modifyDisplay s i (fun _ => repaint) fun d' hd' => ?_
  rw [hd] at hd'
  rw [← Option.some.inj hd', hsame]

omit hraise in
theorem disposed_start? {r r' : Repaint} (h : r.start? = some r') : r'.disposed = r.disposed := by
  unfold Repaint.start? at h
  split at h
  · rw [← Option.some.inj h]
  · cases h

omit hraise in
theorem disposed_request? {r r' : Repaint} (h : r.request? = some r') : r'.disposed = r.disposed := by
  unfold Repaint.request? at h
  split at h
  · cases h
  · rw [← Option.some.inj h]

theorem still_drainRounds (i : DisplayId) (rounds : Nat) (s : Scene) :
    Still s (drainRounds raise i rounds s) := by
  apply drainRounds_along Still.refl Still.trans
  · exact fun s d repaint hd hstart => still_setRepaint hd (disposed_start? hstart)
  · exact still_paint hraise
  · exact fun s => still_modifyDisplay s i Repaint.finish fun _ _ => rfl

theorem still_requestRepaint (i : DisplayId) (s : Scene) : Still s (requestRepaint raise i s) := by
  unfold requestRepaint
  cases hd : s.displays[i]? with
  | none => exact .refl s
  | some d =>
    cases hrequest : d.repaint.request? with
    | none =>
      simp only [hrequest]
      exact .refl s
    | some repaint =>
      simp only [hrequest]
      have hset := still_setRepaint hd (disposed_request? hrequest)
      cases d.queue with
      | some q => exact hset.trans (still_modifyQueue _ q _)
      | none => exact hset.trans (still_drainRounds hraise i _ _)

/-! ### Raising -/

theorem still_delivers (round : List Listener) (s : Scene) :
    Still s (round.foldl (deliver raise) s) := by
  apply foldl_along Still.refl Still.trans
  intro s l
  cases l with
  | forward n => exact hraise n s
  | watch counter => exact .of_nodes rfl rfl rfl rfl
  | display i => exact still_requestRepaint hraise i s

end Raise

theorem still_raiseWithin (depth : Nat) (n : NodeId) (s : Scene) :
    Still s (raiseWithin depth n s) := by
  induction depth generalizing n s with
  | zero => exact .refl s
  | succ depth ih => exact still_delivers ih _ s

/-- **An update leaves views alone**, with all that it sets off. -/
theorem still_raise (s : Scene) (n : NodeId) : Still s (s.raise n) := still_raiseWithin _ n s

theorem still_drain (s : Scene) (i : DisplayId) : Still s (s.drain i) :=
  still_drainRounds (still_raiseWithin _) i _ s

theorem still_nodeBox (s : Scene) (r : Renderer) (n : NodeId) (region : Region) :
    Still s ((s.nodeBox r n).render region s).2 := still_treeBox (still_raiseWithin _) r _ region s

/-! ### Displays and queues -/

theorem still_createQueue (s : Scene) : Still s s.createQueue.1 :=
  { Still.refl s with
    queues := by
      show s.queues.size ≤ (s.queues.push []).size
      rw [Array.size_push]
      exact Nat.le_succ _ }

theorem still_attempt (s : Scene) (c : Call) : Still s (s.attempt c) := still_onTerminal _ s

theorem still_refresh (s : Scene) (i : DisplayId) : Still s (s.refresh i) :=
  (still_modifyDisplay s i Repaint.demand fun _ _ => rfl).trans (still_drain _ i)

theorem still_runNext (s : Scene) (q : QueueId) : Still s (s.runNext q).1 := by
  unfold runNext
  split
  · exact .refl s
  · exact (still_modifyQueue s q _).trans (still_drain _ _)

theorem still_runRounds (s : Scene) (q : QueueId) (rounds : Nat) :
    Still s (s.runRounds q rounds).1 := by
  induction rounds generalizing s with
  | zero => exact .refl s
  | succ rounds ih =>
    have hnext : Still s (s.runNext q).1 := still_runNext s q
    rcases hrun : s.runNext q with ⟨s', ran⟩
    rw [hrun] at hnext
    unfold runRounds
    rw [hrun]
    cases ran with
    | false => exact hnext
    | true => exact hnext.trans (ih s')

theorem still_runPending (s : Scene) (q : QueueId) : Still s (s.runPending q).1 :=
  still_runRounds s q _

end TextPane.Scene
