import TextPane.Proofs.Scene.Paths

/-! What an update calls.

An update goes up through all places in which a node stands, and every listener on its way is called
(`raise_calls`). Displays repaint meanwhile, and what they render may raise further updates. Since a
display does not start over while it repaints, these nest only as deep as there are displays, and the
rounds of an update are never cut short (`sounds_raiseWithin`). -/
namespace TextPane.Scene

/-- A node is a probe, and its next rendering raises updates. -/
def Noisy (s : Scene) (n : NodeId) : Prop := ∃ p, s.body n = .probe p ∧ 0 < p.renders

theorem not_noisy {s : Scene} (hquiet : ∀ n < s.nodes.size, s.probe? n = none) (n : NodeId) :
    ¬s.Noisy n := by
  rintro ⟨p, hp, _⟩
  have hnone := hquiet n (lt_size_of_body hp (by simp))
  rw [probe?, hp] at hnone
  cases hnone

/-- Updates take no probe away. -/
theorem Still.probe?_eq_none {s s' : Scene} (h : Still s s') {n : NodeId} (hnone : s'.probe? n = none) :
    s.probe? n = none := by
  rcases h.body n with heq | ⟨_, _, _, heq⟩
  · rwa [probe?, ← heq]
  · rw [probe?, heq] at hnone
    cases hnone

/-- Since `s₀` there were updates and repaints only, and all displays but those of `free` repaint. -/
structure Ongoing (s₀ : Scene) (free : Finset DisplayId) (s : Scene) : Prop where
  still : Still s₀ s
  hits : s.hits.size = s₀.hits.size
  noisy : ∀ n, s.Noisy n → s₀.Noisy n
  busy : ∀ (i : DisplayId) (d : Display), s.displays[i]? = some d → i ∉ free → d.repaint.running = true

/-- Counters were called as often as `own` says, and by updates of noisy nodes besides. -/
def Counts (s₀ : Scene) (own : Nat → Nat) (s s' : Scene) : Prop :=
  ∃ us : List NodeId, (∀ u ∈ us, s₀.Noisy u) ∧ ∀ c < s₀.hits.size,
    s'.hitCount c = s.hitCount c + (own c + (us.map (s₀.calls · c)).sum)

/-- What goes on calls counters, and when it is over the same displays repaint as before. -/
def Sounds (s₀ : Scene) (free : Finset DisplayId) (own : Nat → Nat) (s s' : Scene) : Prop :=
  Ongoing s₀ free s → Ongoing s₀ free s' ∧ Counts s₀ own s s'

section
variable {s₀ s s' s'' : Scene} {free : Finset DisplayId} {own own' : Nat → Nat}

theorem Counts.of_hits (h : s'.hits = s.hits) : Counts s₀ 0 s s' :=
  ⟨[], fun _ hu => (List.not_mem_nil hu).elim, fun c _ => by simp [hitCount, h]⟩

theorem Counts.trans (h : Counts s₀ own s s') (h' : Counts s₀ own' s' s'') :
    Counts s₀ (own + own') s s'' := by
  obtain ⟨us, hus, hhits⟩ := h
  obtain ⟨us', hus', hhits'⟩ := h'
  refine ⟨us ++ us', fun u hu => (List.mem_append.mp hu).elim (hus u) (hus' u), fun c hc => ?_⟩
  rw [hhits' c hc, hhits c hc, List.map_append, List.sum_append, Pi.add_apply]
  omega

/-- The update of a noisy node is one of those besides. -/
theorem Counts.absorb {u : NodeId} (hu : s₀.Noisy u) (h : Counts s₀ (s₀.calls u) s s') :
    Counts s₀ 0 s s' := by
  obtain ⟨us, hus, hhits⟩ := h
  refine ⟨u :: us, fun u' hu' => ?_, fun c hc => ?_⟩
  · rcases List.mem_cons.mp hu' with rfl | hu'
    · exact hu
    · exact hus u' hu'
  · rw [hhits c hc, List.map_cons, List.sum_cons, Pi.zero_apply, Nat.zero_add]

namespace Sounds

theorem refl (s : Scene) : Sounds s₀ free 0 s s := fun h => ⟨h, .of_hits rfl⟩

theorem append (h : Sounds s₀ free own s s') (h' : Sounds s₀ free own' s' s'') :
    Sounds s₀ free (own + own') s s'' := by
  intro hongoing
  obtain ⟨hongoing', hcounts⟩ := h hongoing
  obtain ⟨hongoing'', hcounts'⟩ := h' hongoing'
  exact ⟨hongoing'', hcounts.trans hcounts'⟩

theorem trans (h : Sounds s₀ free 0 s s') (h' : Sounds s₀ free 0 s' s'') : Sounds s₀ free 0 s s'' := by
  have happend := h.append h'
  rwa [add_zero] at happend

theorem absorb {u : NodeId} (hu : s₀.Noisy u) (h : Sounds s₀ free (s₀.calls u) s s') :
    Sounds s₀ free 0 s s' := fun hongoing => (h hongoing).imp_right fun hcounts => hcounts.absorb hu

/-- Where nodes, displays and counters are the same, nothing was called. -/
theorem of_nodes (hnodes : s'.nodes = s.nodes) (hheld : s'.held = s.held)
    (hdisplays : s'.displays = s.displays) (hqueues : s'.queues = s.queues) (hhits : s'.hits = s.hits) :
    Sounds s₀ free 0 s s' := by
  rintro ⟨hstill, hsize, hnoisy, hbusy⟩
  refine ⟨⟨hstill.trans (.of_nodes hnodes hheld hdisplays hqueues), by rw [hhits, hsize], fun n hn => ?_, ?_⟩,
    .of_hits hhits⟩
  · rw [Noisy, body_of_nodes hnodes] at hn
    exact hnoisy n hn
  · rwa [hdisplays]

end Sounds

/-! ### Painting -/

section Pieces
variable {raise : NodeId → Scene → Scene}
  (hraise : ∀ u, s₀.Noisy u → ∀ s, Sounds s₀ free 0 s (raise u s))

/-- Work that calls counters through updates of noisy nodes only. -/
def sounding (s₀ : Scene) (free : Finset DisplayId) : Work SceneM :=
  along (R := Sounds s₀ free 0) .refl .trans

theorem sounds_onTerminal {α : Type} (work : TerminalM α) : (sounding s₀ free).does (onTerminal work) :=
  fun _ => .of_nodes rfl rfl rfl rfl rfl

theorem sounds_measureProbe (n : NodeId) (limit : Size) :
    (sounding s₀ free).does (measureProbe n limit) := by
  intro s
  unfold measureProbe
  cases s.probe? n with
  | none => exact .refl s
  | some p => exact .of_nodes rfl rfl rfl rfl rfl

include hraise

theorem sounds_probeUpdates {n : NodeId} {p : Probe} (hp : s.body n = .probe p) :
    Sounds s₀ free 0 s (probeUpdates raise n p s) := by
  unfold probeUpdates
  split
  · exact .refl s
  · next renders hrenders =>
    intro hongoing
    have hnoisy : s₀.Noisy n := hongoing.noisy n ⟨p, hp, hrenders ▸ Nat.succ_pos renders⟩
    have hset : Sounds s₀ free 0 s (s.setBody n (.probe { p with renders })) := by
      rintro ⟨hstill, hsize, hquiet, hbusy⟩
      refine ⟨⟨hstill.trans (still_setProbe s hp _), hsize, fun m hm => ?_, hbusy⟩, .of_hits rfl⟩
      rw [Noisy, body_setBody] at hm
      split at hm
      · next heq => exact heq.1 ▸ hnoisy
      · exact hquiet m hm
    have hraised : ∀ k s, Sounds s₀ free 0 s ((List.replicate k n).foldl (fun s n => raise n s) s) := by
      intro k
      induction k with
      | zero => exact fun s => .refl s
      | succ k ih => exact fun s => (hraise n hnoisy s).trans (ih _)
    exact hset.trans (hraised _ _) hongoing

theorem sounds_renderProbe (n : NodeId) (region : Region) :
    (sounding s₀ free).does (renderProbe raise n region) := by
  intro s
  unfold renderProbe
  cases hp : s.probe? n with
  | none => exact .refl s
  | some p =>
    let logged : Scene := { s with probed := s.probed.push (.render p.name region) }
    have hlogged : logged.body n = .probe p := body_of_probe? hp
    have hlog : Sounds s₀ free 0 s logged := .of_nodes rfl rfl rfl rfl rfl
    exact hlog.trans (sounds_probeUpdates hraise hlogged)

theorem sounds_paint (r : Renderer) (child : Option NodeId) :
    (sounding s₀ free).does (paint raise r child) :=
  does_paint sounds_onTerminal sounds_measureProbe (sounds_renderProbe hraise) (fun s => .refl s) r child

end Pieces

/-! ### Repainting -/

/-- A repaint starts where none is running. -/
theorem running_start? {r r' : Repaint} (h : r.start? = some r') :
    r.running = false ∧ r'.running = true := by
  unfold Repaint.start? at h
  split at h
  · next hstart =>
    simp only [Bool.and_eq_true, Bool.not_eq_true'] at hstart
    exact ⟨hstart.2, Option.some.inj h ▸ rfl⟩
  · cases h

theorem running_request? {r r' : Repaint} (h : r.request? = some r') : r'.running = r.running := by
  unfold Repaint.request? at h
  split at h
  · cases h
  · rw [← Option.some.inj h]

/-- A display that gets another repaint may be one of those that are free from now on, or has to run. -/
theorem Ongoing.modifyDisplay {free' : Finset DisplayId} (h : Ongoing s₀ free s) (i : DisplayId)
    (change : Repaint → Repaint)
    (hstill : ∀ d, s.displays[i]? = some d → (change d.repaint).disposed = d.repaint.disposed)
    (hself : ∀ d, s.displays[i]? = some d → i ∉ free' → (change d.repaint).running = true)
    (hothers : ∀ j, j ≠ i → j ∉ free' → j ∉ free) :
    Ongoing s₀ free' (s.modifyDisplay i fun d => { d with repaint := change d.repaint }) := by
  refine ⟨h.still.trans (still_modifyDisplay s i change hstill), h.hits, h.noisy, fun j d hd hj => ?_⟩
  rw [getElem?_modifyDisplay] at hd
  split at hd
  · next hij =>
    subst hij
    obtain ⟨d', hd', rfl⟩ := Option.map_eq_some_iff.mp hd
    exact hself d' hd' hj
  · next hij => exact h.busy j d hd (hothers j (fun heq => hij heq.symm) hj)

section Repainting
variable {raise : NodeId → Scene → Scene}
  (hraise : ∀ i ∈ free, ∀ u, s₀.Noisy u → ∀ s, Sounds s₀ (free.erase i) 0 s (raise u s))
include hraise

/-- A display is not free while it repaints. -/
theorem sounds_drainRounds (i : DisplayId) (rounds : Nat) (s : Scene) :
    Sounds s₀ free 0 s (drainRounds raise i rounds s) := by
  induction rounds generalizing s with
  | zero => exact .refl s
  | succ rounds ih =>
    unfold drainRounds
    cases hd : s.displays[i]? with
    | none => exact .refl s
    | some d =>
      cases hstart : d.repaint.start? with
      | none =>
        simp only [hstart]
        exact .refl s
      | some repaint =>
        simp only [hstart]
        intro hongoing
        obtain ⟨hidle, hrunning⟩ := running_start? hstart
        have hfree : i ∈ free := by
          by_contra hi
          rw [hongoing.busy i d hd hi] at hidle
          cases hidle
        have hstarted : Ongoing s₀ (free.erase i) (s.setRepaint i repaint) := by
          refine hongoing.modifyDisplay i (fun _ => repaint) (fun d' hd' => ?_) (fun _ _ _ => hrunning)
            fun j hne hj hmem => hj (Finset.mem_erase.mpr ⟨hne, hmem⟩)
          rw [← Option.some.inj (hd.symm.trans hd'), disposed_start? hstart]
        have hpaint := sounds_paint (hraise i hfree) d.renderer (d.child.map (·.node))
        obtain ⟨hpainted, hcounts⟩ := hpaint _ hstarted
        have hfinished : Ongoing s₀ free (finishRepaint _ i) :=
          hpainted.modifyDisplay i Repaint.finish (fun _ _ => rfl) (fun _ _ hi => (hi hfree).elim)
            fun j _ hj hmem => hj (Finset.mem_of_mem_erase hmem)
        obtain ⟨hrest, hcounts'⟩ := ih _ hfinished
        have hboth := hcounts.trans ((Counts.of_hits rfl).trans hcounts')
        rw [add_zero, add_zero] at hboth
        exact ⟨hrest, hboth⟩

theorem sounds_requestRepaint (i : DisplayId) (s : Scene) :
    Sounds s₀ free 0 s (requestRepaint raise i s) := by
  unfold requestRepaint
  cases hd : s.displays[i]? with
  | none => exact .refl s
  | some d =>
    cases hrequest : d.repaint.request? with
    | none =>
      simp only [hrequest]
      exact .refl s
    | some repaint =>
      simp only [hrequest]
      have hset : Sounds s₀ free 0 s (s.setRepaint i repaint) := by
        intro hongoing
        refine ⟨hongoing.modifyDisplay i (fun _ => repaint) (fun d' hd' => ?_) (fun _ _ hi => ?_)
          fun _ _ hj => hj, .of_hits rfl⟩
        · rw [← Option.some.inj (hd.symm.trans hd'), disposed_request? hrequest]
        · rw [running_request? hrequest]
          exact hongoing.busy i d hd hi
      cases d.queue with
      | some q =>
        have hqueue : Sounds s₀ free 0 (s.setRepaint i repaint)
            ((s.setRepaint i repaint).modifyQueue q (· ++ [i])) := by
          rintro ⟨hstill, hsize, hnoisy, hbusy⟩
          exact ⟨⟨hstill.trans (still_modifyQueue _ q _), hsize, hnoisy, hbusy⟩, .of_hits rfl⟩
        exact hset.trans hqueue
      | none => exact hset.trans (sounds_drainRounds hraise i _ _)

/-! ### Raising -/

theorem sounds_delivers (ls : List Listener)
    (hforward : ∀ p, .forward p ∈ ls → ∀ s, Sounds s₀ free (s₀.calls p) s (raise p s)) (s : Scene) :
    Sounds s₀ free (fun c => (ls.map (s₀.heard c)).sum) s (ls.foldl (deliver raise) s) := by
  induction ls generalizing s with
  | nil => exact .refl s
  | cons l rest ih =>
    have hrest := ih (fun p hp => hforward p (List.mem_cons_of_mem l hp)) (deliver raise s l)
    have hfirst : Sounds s₀ free (fun c => s₀.heard c l) s (deliver raise s l) := by
      cases l with
      | forward p => exact hforward p (List.mem_cons_self ..) s
      | display i => exact sounds_requestRepaint hraise i s
      | watch k =>
        rintro ⟨hstill, hsize, hnoisy, hbusy⟩
        refine ⟨⟨hstill.trans (.of_nodes rfl rfl rfl rfl), ?_, hnoisy, hbusy⟩, [], ?_, fun c hc => ?_⟩
        · rw [← hsize]
          exact Array.size_modify
        · exact fun _ hu => (List.not_mem_nil hu).elim
        · rw [← hsize] at hc
          simp only [hitCount, deliver, Array.getElem?_modify, heard, Array.getElem?_eq_getElem hc]
          split <;> simp
    exact hfirst.append hrest

end Repainting

end

section Raising
variable {s₀ : Scene} (htied : s₀.Tied) (hacyclic : s₀.Acyclic)
include htied hacyclic

/-- **An update reaches all that its rounds are to call** if they may nest deep enough: as deep as paths
lead up from the node, and once more so for each display that does not repaint yet. -/
theorem sounds_raiseWithin {depth h : Nat} {free : Finset DisplayId} {n : NodeId} (hn : n < s₀.nodes.size)
    (htops : s₀.Tops h n) (hdepth : free.card * (s₀.nodes.size + 1) + h + 1 ≤ depth) (s : Scene) :
    Sounds s₀ free (s₀.calls n) s (raiseWithin depth n s) := by
  induction depth generalizing h free n s with
  | zero => exact absurd hdepth (Nat.not_succ_le_zero _)
  | succ depth ih =>
    intro hongoing
    have hround : (s.node n).notifier.round = (s₀.notifier n).round :=
      congrArg Notifier.round (hongoing.still.notifier n)
    have hsum : (fun c => ((s₀.notifier n).round.map (s₀.heard c)).sum) = s₀.calls n :=
      funext fun c => sum_heard htied hacyclic hn c
    rw [raiseWithin, hround]
    rw [← hsum]
    refine sounds_delivers (fun i hi u hu s => ?_) _ (fun p hp s => ?_) s hongoing
    · -- The display is no longer free, which leaves room for any node.
      have hlt : u < s₀.nodes.size := by
        obtain ⟨probe, hprobe, _⟩ := hu
        exact lt_size_of_body hprobe (by simp)
      refine Sounds.absorb hu (ih hlt (tops_of_acyclic htied hacyclic hlt) ?_ s)
      obtain ⟨k, hk⟩ := Nat.exists_eq_succ_of_ne_zero (Finset.card_ne_zero_of_mem hi)
      rw [hk, Nat.succ_mul] at hdepth
      rw [Finset.card_erase_of_mem hi, hk, Nat.succ_sub_one]
      omega
    · obtain ⟨⟨id, l⟩, hlistens, rfl⟩ := List.mem_map.mp hp
      have hslot := (htied.linked.listens (.forward p) rfl ⟨n, id⟩).mp hlistens
      have hholds : s₀.Holds p n := ⟨⟨n, id⟩, hslot, rfl⟩
      obtain ⟨h', rfl, htops'⟩ := htops.up hholds
      exact ih (lt_size_of_holder hholds) htops' (Nat.le_of_succ_le_succ hdepth) s

/-- An update calls a counter once for every path from the node, and so do the updates of noisy nodes that
are rendered for it. -/
theorem hitCount_raise {n : NodeId} (hn : n < s₀.nodes.size) :
    ∃ us : List NodeId, (∀ u ∈ us, s₀.Noisy u) ∧ ∀ c < s₀.hits.size, (s₀.raise n).hitCount c =
      s₀.hitCount c + (s₀.calls n c + (us.map (s₀.calls · c)).sum) := by
  -- All displays may be free, and no other is there.
  have hongoing : Ongoing s₀ (Finset.range s₀.displays.size) s₀ :=
    ⟨.refl s₀, rfl, fun _ hnoisy => hnoisy, fun i d hd hi =>
      (hi (Finset.mem_range.mpr (Array.getElem?_eq_some_iff.mp hd).1)).elim⟩
  have hdepth : (Finset.range s₀.displays.size).card * (s₀.nodes.size + 1) + (s₀.nodes.size - 1) + 1 ≤
      s₀.depth := by
    rw [Finset.card_range, depth, Nat.succ_mul]
    omega
  exact (sounds_raiseWithin htied hacyclic hn (tops_of_acyclic htied hacyclic hn) hdepth s₀ hongoing).2

end Raising

/-- **An update calls each listener once for every path.** In whatever arrangement, as long as no node
stands in itself, an update of a node calls a counter once for every path that leads up from the node to
where the counter listens; what displays render meanwhile may raise further updates, of noisy nodes only,
and each of these calls counters in the same way. A path leads through places of the moment: only one
leads to the node itself, and none to a node that does not contain it. A node is listened to once for each
place that it stands in, so one that was removed or replaced is no longer listened to for that place. -/
theorem raise_calls (t : Terminal) (ms : List Move) (hms : (bare t).Allows ((bare t).run ms)) :
    let s := (bare t).moves ms
    s.Acyclic → ∀ v < s.nodes.size,
      (∃ us : List NodeId, (∀ u ∈ us, s.Noisy u) ∧ ∀ c < s.hits.size,
        (s.raise v).hitCount c = s.hitCount c + (s.calls v c + (us.map (s.calls · c)).sum)) ∧
      (∀ a path, path ∈ s.paths v a ↔ s.Leads a v path) ∧ (∀ a, (s.paths v a).Nodup) ∧
      s.paths v v = [[]] ∧ (∀ a, s.paths v a = [] ↔ ¬s.Contains a v) ∧
      ∀ p, s.listening (.forward p) v = (s.slots p).countP (·.node == v) := by
  intro s hacyclic v hv
  have htied : s.Tied := tied_moves hms
  exact ⟨hitCount_raise htied hacyclic hv, fun a path => mem_paths htied hacyclic hv,
    fun a => s.nodup_paths v a, paths_self htied hacyclic hv, fun a => paths_eq_nil_iff htied hacyclic hv,
    fun p => listening_eq htied.linked rfl v⟩

/-- A span stands three times in a stack, in a cell of a grid and at the head of a table, and all of these
stand in another stack; there are counters on each. Then the span is removed once from the first stack,
replaced in the grid, and the second counter of the outer stack is taken off. -/
def crossedMoves : List Move :=
  [.deed (.change (.content (.ofText "a"))), .deed (.change (.stack (some .vertical))),
    .deed (.change (.grid 0)), .deed (.change (.stack (some .vertical))), .deed (.change (.table 1)),
    .deed (.change (.push 1 0)), .deed (.change (.push 1 0)), .deed (.change (.push 1 0)),
    .deed (.change (.setChild 2 0 0 0)), .table .fields 5 (.addColumn { header := 0, factory := 0 }),
    .deed (.change (.push 3 1)), .deed (.change (.push 3 2)), .deed (.change (.push 3 5)),
    .deed (.change (.watch 0)), .deed (.change (.watch 1)), .deed (.change (.watch 2)),
    .deed (.change (.watch 5)), .deed (.change (.watch 3)), .deed (.change (.watch 3)),
    .deed (.change (.remove 1 0)), .deed (.change (.content (.ofText "b"))),
    .deed (.change (.setChild 2 7 0 0)), .deed (.unwatch 3 1)]

/-- Two paths lead from the span to the first stack, none to the grid and three to the outer stack. -/
theorem raise_calls_crossed :
    let s := (bare { size := ⟨4, 2⟩ }).moves crossedMoves
    s.Acyclic ∧ 0 < s.nodes.size ∧ (s.raise 0).hitCount 0 = s.hitCount 0 + 1 ∧
      (s.raise 0).hitCount 1 = s.hitCount 1 + 2 ∧ (s.raise 0).hitCount 2 = s.hitCount 2 ∧
      (s.raise 0).hitCount 4 = s.hitCount 4 + 3 ∧ (s.raise 0).hitCount 5 = s.hitCount 5 ∧
      s.listening (.forward 2) 0 = 0 := by
  intro s
  have hacyclic : s.Acyclic :=
    acyclic_of_rank (fun n => [0, 1, 1, 3, 0, 2, 1, 0].getD n 0) (by decide +kernel)
  have hsize : 0 < s.nodes.size := by decide +kernel
  have hcounter : ∀ c < 6, c < s.hits.size := by decide +kernel
  obtain ⟨⟨us, hus, hhits⟩, _, _, _, _, hlistening⟩ :=
    raise_calls { size := ⟨4, 2⟩ } crossedMoves (by decide +kernel) hacyclic 0 hsize
  have hquiet : ∀ n < s.nodes.size, s.probe? n = none := by decide +kernel
  obtain rfl : us = [] := List.eq_nil_iff_forall_not_mem.mpr fun u hu => not_noisy hquiet u (hus u hu)
  refine ⟨hacyclic, hsize, ?_, ?_, ?_, ?_, ?_, ?_⟩
  · rw [hhits 0 (hcounter 0 (by decide))]
    decide +kernel
  · rw [hhits 1 (hcounter 1 (by decide))]
    decide +kernel
  · rw [hhits 2 (hcounter 2 (by decide))]
    decide +kernel
  · rw [hhits 4 (hcounter 4 (by decide))]
    decide +kernel
  · rw [hhits 5 (hcounter 5 (by decide))]
    decide +kernel
  · rw [hlistening]
    decide +kernel

end TextPane.Scene
