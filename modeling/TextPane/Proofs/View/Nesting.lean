import Mathlib.Data.Finset.Card
import Mathlib.Logic.Relation
import TextPane.Proofs.View.Raising

/-! Rounds in rounds.

Where no notifier comes to raise itself, rounds nest no deeper than there are notifiers that raise others,
and the depth allowed for is enough (`nests_depth`), so raising a notifier is a run that comes to its end
(`runs_raise`). No call in it raises the notifier again (`Runs.avoids`), so in its run the notifier calls the
listeners that it had when it was raised, and each of them is followed by all that it brings about
(`exists_round`). Numbers are told of from the first subscription on (`Past`), so that none was given or taken
away twice (`Past.recounts`). -/
namespace TextPane.Network

/-- No notifier comes to raise itself. -/
def Acyclic (net : Network) : Prop := ∀ n, ¬Relation.TransGen net.Leads n n

/-- Notifiers that raise later ones only do not come to raise themselves. -/
theorem acyclic_of_lt {net : Network} (h : ∀ n < net.notifiers.length,
    ∀ l ∈ ((net.notifier? n).map (·.listeners)).getD [], ∀ m ∈ l.2.targets, n < m) : net.Acyclic := by
  have hleads : ∀ n m, net.Leads n m → n < m := by
    rintro n m ⟨l, ⟨source, hsource, hl⟩, hm⟩
    obtain ⟨hn, _⟩ := List.getElem?_eq_some_iff.mp (Option.join_eq_some_iff.mp hsource)
    refine h n hn l ?_ m hm
    rw [hsource]
    exact hl
  intro n hn
  have hlater : Relation.TransGen (· < ·) n n := Relation.TransGen.mono hleads n n hn
  rw [Relation.transGen_eq_self] at hlater
  exact Nat.lt_irrefl n hlater

theorem Runs.acyclic {net net' : Network} {tasks : List Task} {events : List Event}
    (h : Runs net tasks events net') (hnet : net.Acyclic) : net'.Acyclic :=
  fun n hn => hnet n (Relation.TransGen.mono (law_leads.runs h) n n hn)

/-- Who raises whom in the network is as `E` says at most. -/
def Under (E : Nat → Nat → Prop) (net : Network) : Prop := ∀ n m, net.Leads n m → E n m

theorem Under.after {E : Nat → Nat → Prop} {net : Network} (hnet : net.Under E) (t : Task) :
    (t.after net).Under E :=
  fun n m hleads => hnet n m (law_leads.task net t n m hleads)

theorem Runs.under {E : Nat → Nat → Prop} {net net' : Network} {tasks : List Task} {events : List Event}
    (h : Runs net tasks events net') (hnet : net.Under E) : net'.Under E :=
  fun n m hleads => hnet n m (law_leads.runs h n m hleads)

/-! ### Depth -/

/-- Going on from a notifier there are fewer than so many that raise others. -/
def Nests (E : Nat → Nat → Prop) (depth n : Nat) : Prop :=
  ∃ raising : Finset Nat, raising.card < depth ∧
    ∀ m, Relation.ReflTransGen E n m → (∃ k, E m k) → m ∈ raising

/-- One round deeper there is one less: the notifier itself is not come to again. -/
theorem Nests.step {E : Nat → Nat → Prop} {depth n m : Nat} (hE : ∀ n, ¬Relation.TransGen E n n)
    (h : Nests E (depth + 1) n) (hm : E n m) : Nests E depth m := by
  obtain ⟨raising, hcard, hraising⟩ := h
  have hn : n ∈ raising := hraising n .refl ⟨m, hm⟩
  refine ⟨raising.erase n, ?_, fun k hk hraises => ?_⟩
  · have hless := Finset.card_erase_lt_of_mem hn
    omega
  · refine Finset.mem_erase.mpr ⟨?_, hraising k (.head hm hk) hraises⟩
    rintro rfl
    exact hE k (.head' hm hk)

section Within
variable {E : Nat → Nat → Prop} {net : Network} {raise : Network → Nat → Network} {n : Nat}

/-- Work on each of a list is a run of the tasks when work on one is. -/
theorem Under.runs_foldl {α : Type} {work : Network → α → Network} {task : α → Task} {xs : List α}
    (h : ∀ x ∈ xs, ∀ net : Network, net.Under E → ∃ events, Runs net [task x] events (work net x))
    (hnet : net.Under E) : ∃ events, Runs net (xs.map task) events (xs.foldl work net) := by
  induction xs generalizing net with
  | nil => exact ⟨[], .done net⟩
  | cons x rest ih =>
    obtain ⟨hx, hrest⟩ := List.forall_mem_cons.mp h
    obtain ⟨events, hrun⟩ := hx net hnet
    obtain ⟨events', hrun'⟩ := ih hrest (hrun.under hnet)
    exact ⟨events ++ events', hrun.append hrun'⟩

theorem Under.runs_react {r : Reaction} (hraise : ∀ m ∈ r.target?, ∀ net : Network, net.Under E →
    ∃ events, Runs net [.raise m] events (raise net m)) (hnet : net.Under E) :
    ∃ events, Runs net [.react n r] events (react raise n net r) := by
  cases r with
  | raise target =>
    obtain ⟨events, hrun⟩ := hraise target rfl net hnet
    exact ⟨_, .step hrun⟩
  | _ => exact ⟨_, .step (.done _)⟩

theorem Under.runs_call {l : Nat × NetworkListener} (hraise : ∀ m ∈ l.2.targets, ∀ net : Network,
    net.Under E → ∃ events, Runs net [.raise m] events (raise net m)) (hnet : net.Under E) :
    ∃ events, Runs net [.call n l] events (call raise n net l.2) := by
  obtain ⟨id, target | ⟨tag, reactions⟩⟩ := l
  · obtain ⟨events, hrun⟩ := hraise target (List.mem_singleton.mpr rfl) net hnet
    exact ⟨_, .step hrun⟩
  · have hlogged : Under E { net with log := tag :: net.log } := hnet
    have hreacts : ∀ r ∈ reactions, ∀ net : Network, net.Under E →
        ∃ events, Runs net [.react n r] events (react raise n net r) :=
      fun r hr net hnet => hnet.runs_react fun m hm => hraise m (List.mem_filterMap.mpr ⟨r, hr, hm⟩)
    obtain ⟨events, hrun⟩ := hlogged.runs_foldl hreacts
    exact ⟨_, .single hrun⟩

/-- Raising with rounds nested up to a depth is a run where they nest no deeper. -/
theorem Nests.runs_raiseWithin (hE : ∀ n, ¬Relation.TransGen E n n) {depth : Nat} (h : Nests E depth n)
    (hnet : net.Under E) : ∃ events, Runs net [.raise n] events (raiseWithin depth net n) := by
  induction depth generalizing net n with
  | zero =>
    obtain ⟨raising, hcard, _⟩ := h
    exact absurd hcard (Nat.not_lt_zero _)
  | succ depth ih =>
    unfold raiseWithin
    cases hsource : net.notifier? n with
    | none =>
      refine ⟨[], .single (t := .raise n) ?_⟩
      rw [Task.next, hsource]
      exact .done net
    | some source =>
      -- Meanwhile the network may change, but nobody raises a notifier that was not raised before.
      have hcalls : ∀ l ∈ source.listeners, ∀ net' : Network, net'.Under E →
          ∃ events, Runs net' [.call n l] events (call (raiseWithin depth) n net' l.2) := by
        intro l hl net' hnet'
        refine hnet'.runs_call fun m hm net'' hnet'' => ih (h.step hE ?_) hnet''
        exact hnet n m ⟨l, ⟨source, hsource, hl⟩, hm⟩
      obtain ⟨events, hrun⟩ := hnet.runs_foldl hcalls
      have hround : source.round.foldl (call (raiseWithin depth) n) net =
          source.listeners.foldl (fun net l => call (raiseWithin depth) n net l.2) net := List.foldl_map
      refine ⟨events, .single (t := .raise n) ?_⟩
      rw [Task.next, hsource]
      show Runs net _ events (source.round.foldl (call (raiseWithin depth) n) net)
      rw [hround]
      exact hrun

end Within

/-- A listener that raises does something. -/
theorem listenerSize_pos {l : NetworkListener} {m : Nat} (h : m ∈ l.targets) : 0 < listenerSize l := by
  cases l with
  | forward target => exact Nat.one_pos
  | tagged tag reactions =>
    obtain ⟨r, hr, _⟩ := List.mem_filterMap.mp h
    exact List.length_pos_of_mem hr

/-- A notifier that raises others has listeners that do something. -/
theorem reactionCount_pos {net : Network} {n m : Nat} (h : net.Leads n m) :
    0 < reactionCount (net.notifier? n) := by
  obtain ⟨l, ⟨source, hsource, hl⟩, hm⟩ := h
  have hsize : listenerSize l.2 ∈ source.round.map listenerSize :=
    List.mem_map.mpr ⟨l.2, List.mem_map.mpr ⟨l, hl, rfl⟩, rfl⟩
  rw [hsource]
  refine Nat.pos_of_ne_zero fun hzero => ?_
  exact absurd (List.sum_eq_zero_iff_forall_eq_nat.mp hzero _ hsize) (Nat.ne_of_gt (listenerSize_pos hm))

theorem length_filter_pos_le {α : Type} (f : α → Nat) (xs : List α) :
    (xs.filter fun x => 0 < f x).length ≤ (xs.map f).sum := by
  induction xs with
  | nil => exact Nat.le_refl 0
  | cons x rest ih =>
    rw [List.filter_cons, List.map_cons, List.sum_cons]
    split
    · next hx =>
      have hpos : 0 < f x := of_decide_eq_true hx
      rw [List.length_cons]
      omega
    · omega

theorem map_reactionCount (net : Network) :
    (List.range net.notifiers.length).map (fun m => reactionCount (net.notifier? m)) =
      net.notifiers.map reactionCount := by
  apply List.ext_getElem
  · simp
  · intro m hm hm'
    rw [List.getElem_map, List.getElem_map, List.getElem_range]
    simp [notifier?, List.getElem?_eq_getElem (by simpa using hm')]

/-- No more notifiers raise others than listeners do things, so the depth allowed for is enough. -/
theorem nests_depth (net : Network) (n : Nat) : Nests net.Leads net.depth n := by
  let raising := (List.range net.notifiers.length).filter fun m => 0 < reactionCount (net.notifier? m)
  have hlength : raising.length ≤ (net.notifiers.map reactionCount).sum :=
    net.map_reactionCount ▸ length_filter_pos_le _ _
  refine ⟨raising.toFinset, ?_, fun m _ hraises => ?_⟩
  · have hcard : raising.toFinset.card ≤ raising.length := raising.toFinset_card_le
    calc raising.toFinset.card
      _ < (net.notifiers.map reactionCount).sum + 1 := by omega
      _ ≤ net.depth := Nat.le_mul_of_pos_right _ (by omega)
  · obtain ⟨k, hk⟩ := hraises
    obtain ⟨_, ⟨source, hsource, _⟩, _⟩ := id hk
    obtain ⟨hm, _⟩ := List.getElem?_eq_some_iff.mp (Option.join_eq_some_iff.mp hsource)
    rw [List.mem_toFinset]
    exact List.mem_filter.mpr ⟨List.mem_range.mpr hm, decide_eq_true (reactionCount_pos hk)⟩

/-- Where no notifier comes to raise itself, raising one comes to an end. -/
theorem runs_raise {net : Network} (h : net.Acyclic) (n : Nat) :
    ∃ events, Runs net [.raise n] events (net.raise n) :=
  (net.nests_depth n).runs_raiseWithin h fun _ _ => id

/-! ### Who is not called -/

namespace Task

/-- The task does not come to call the listeners of a notifier. -/
def Avoids (E : Nat → Nat → Prop) (n : Nat) : Task → Prop
  | .raise m => ¬Relation.ReflTransGen E m n
  | .call m l => m ≠ n ∧ ∀ k ∈ l.2.targets, ¬Relation.ReflTransGen E k n
  | .react _ r => ∀ k ∈ r.target?, ¬Relation.ReflTransGen E k n

section
variable {E : Nat → Nat → Prop} {net : Network} {n : Nat} {t : Task}

/-- What a listener does avoids a notifier when all do that it raises. -/
theorem avoids_next_call {m : Nat} {l : Nat × NetworkListener}
    (h : ∀ k ∈ l.2.targets, ¬Relation.ReflTransGen E k n) :
    ∀ t ∈ (Task.call m l).next net, t.Avoids E n := by
  obtain ⟨id, target | ⟨tag, reactions⟩⟩ := l
  · intro t ht
    rw [List.mem_singleton.mp ht]
    exact h target (List.mem_singleton.mpr rfl)
  · intro t ht
    obtain ⟨r, hr, rfl⟩ := List.mem_map.mp ht
    exact fun k hk => h k (List.mem_filterMap.mpr ⟨r, hr, hk⟩)

theorem Avoids.next (h : t.Avoids E n) (hnet : net.Under E) : ∀ t' ∈ t.next net, t'.Avoids E n := by
  cases t with
  | raise m =>
    cases hsource : net.notifier? m with
    | none => simp [Task.next, hsource]
    | some source =>
      intro t' ht'
      rw [Task.next, hsource] at ht'
      obtain ⟨l, hl, rfl⟩ := List.mem_map.mp ht'
      refine ⟨fun heq => h (heq ▸ .refl), fun k hk hreach => h (.head ?_ hreach)⟩
      exact hnet m k ⟨l, ⟨source, hsource, hl⟩, hk⟩
  | call m l => exact avoids_next_call h.2
  | react m r =>
    intro t' ht'
    obtain ⟨k, hk, rfl⟩ := List.mem_map.mp ht'
    exact h k (Option.mem_toList.mp hk)

theorem Avoids.called (h : t.Avoids E n) : (t.events net).filterMap (Event.called? n) = [] := by
  cases t with
  | raise m => rfl
  | call m l => simp [events, Event.called?, h.1]
  | react m r =>
    show (net.changes m r).filterMap (Event.called? n) = []
    rcases react_cases net m r with ⟨source, tag, _, htold⟩ | ⟨source, id, _, htold⟩ | ⟨_, htold⟩
    · rw [htold, joining]
      split <;> rfl
    · rw [htold, leaving]
      split <;> rfl
    · rw [htold]
      rfl

end

end Task

/-- Tasks that do not come to a notifier do not call its listeners. -/
theorem Runs.avoids {E : Nat → Nat → Prop} {net net' : Network} {tasks : List Task} {events : List Event}
    {n : Nat} (h : Runs net tasks events net') (hnet : net.Under E) (htasks : ∀ t ∈ tasks, t.Avoids E n) :
    events.filterMap (Event.called? n) = [] := by
  induction h with
  | done => rfl
  | @step net net' t rest events run ih =>
    obtain ⟨ht, hrest⟩ := List.forall_mem_cons.mp htasks
    rw [List.filterMap_append, ht.called, List.nil_append]
    exact ih (hnet.after t) (List.forall_mem_append.mpr ⟨ht.next hnet, hrest⟩)

/-- Listeners that do not come back to their notifier are called in turn, each once. -/
theorem Runs.called {E : Nat → Nat → Prop} {net net' : Network} {listeners : List (Nat × NetworkListener)}
    {events : List Event} {n : Nat} (h : Runs net (listeners.map (.call n)) events net') (hnet : net.Under E)
    (havoids : ∀ l ∈ listeners, ∀ k ∈ l.2.targets, ¬Relation.ReflTransGen E k n) :
    events.filterMap (Event.called? n) = listeners := by
  induction listeners generalizing net events with
  | nil =>
    cases h
    rfl
  | cons l rest ih =>
    obtain ⟨hl, hrest⟩ := List.forall_mem_cons.mp havoids
    rw [List.map_cons, ← List.singleton_append] at h
    obtain ⟨first, last, between, hfirst, hlast, rfl⟩ := h.split
    -- What the first one brings about does not come back to the notifier.
    have hown : first.filterMap (Event.called? n) = [l] := by
      cases hfirst with
      | step run =>
        rw [List.append_nil] at run
        rw [List.filterMap_append, run.avoids (hnet.after _) (Task.avoids_next_call hl), List.append_nil]
        simp [Task.events, Event.called?]
    rw [List.filterMap_append, hown, ih hlast (hfirst.under hnet) hrest]
    rfl

/-! ### Everything so far -/

/-- What was told since there were so many notifiers without listeners, and what came of them. That may be a
moment within a run, as tasks are done one by one. -/
inductive Past (count : Nat) : List Event → Network → Prop where
  | start : Past count [] (ofCount count)
  | subscribe {told : List Event} {net : Network} (past : Past count told net) (n : Nat) (tag : String)
    (l : NetworkListener) : Past count (told ++ net.joining n l) (net.subscribe n tag l)
  | unsubscribe {told : List Event} {net : Network} (past : Past count told net) (n id : Nat) :
    Past count (told ++ net.leaving n id) (net.unsubscribe n id).1
  | task {told : List Event} {net : Network} (past : Past count told net) (t : Task) :
    Past count (told ++ t.events net) (t.after net)
  | drop {told : List Event} {net : Network} (past : Past count told net) (n : Nat) :
    Past count told (net.drop n)

theorem Past.runs {count : Nat} {told events : List Event} {net net' : Network} {tasks : List Task}
    (h : Past count told net) (hruns : Runs net tasks events net') : Past count (told ++ events) net' := by
  induction hruns generalizing told with
  | done => exact (List.append_nil told).symm ▸ h
  | @step net net' t rest events _ ih =>
    have hrest := ih (h.task t)
    rwa [List.append_assoc] at hrest

/-- Letting a notifier listen to another one is subscribing, where both are there. -/
theorem Past.forward {count : Nat} {told : List Event} {net : Network} (h : Past count told net)
    (n target : Nat) (tag : String) : ∃ more, Past count (told ++ more) (net.forward n target tag) := by
  unfold Network.forward
  split
  · exact ⟨[], (List.append_nil told).symm ▸ h⟩
  · exact ⟨_, h.subscribe n tag (.forward target)⟩

/-- All that there is of notifiers came of what was told. -/
def Recounts (told : List Event) (net : Network) : Prop :=
  ∀ n s, net.notifier? n = some s → ({} : Notifier NetworkListener).Became
    (told.filterMap (Event.joined? n)) (told.filterMap (Event.left? n)) s

theorem Recounts.numbered {told : List Event} {net : Network} (h : Recounts told net) : net.Numbered :=
  fun n s hs => Notifier.numbered_empty.became (h n s hs)

theorem Recounts.follows {told events : List Event} {net net' : Network} (h : Recounts told net)
    (hfollows : ∀ n, Follows n events (net.notifier? n) (net'.notifier? n)) :
    Recounts (told ++ events) net' := by
  intro n s' hs'
  obtain ⟨was, hwas, hbecame⟩ := (hs' ▸ hfollows n).was
  rw [List.filterMap_append, List.filterMap_append]
  exact (h n was hwas).trans Notifier.numbered_empty hbecame

theorem Past.recounts {count : Nat} {told : List Event} {net : Network} (h : Past count told net) :
    Recounts told net := by
  induction h with
  | start =>
    intro n s hs
    have hplace : some s ∈ List.replicate count (some {}) :=
      List.mem_of_getElem? (Option.join_eq_some_iff.mp hs)
    rw [Option.some.inj (List.eq_of_mem_replicate hplace)]
    exact Notifier.became_same _
  | subscribe past n tag l ih => exact ih.follows (follows_joining _ n tag l)
  | unsubscribe past n id ih => exact ih.follows (follows_leaving _ n id)
  | task past t ih => exact ih.follows (law_follows.task _ t ih.numbered)
  | @drop told net past n ih =>
    intro m s hs
    refine ih m s ?_
    change ((net.notifiers.set n none)[m]?).join = some s at hs
    rw [List.getElem?_set] at hs
    split at hs
    · split at hs <;> cases hs
    · exact hs

/-! ### Rounds -/

/-- Raising a notifier that has these listeners comes to an end, having called them. -/
structure Round (net : Network) (n : Nat) (listeners : List (Nat × NetworkListener)) (events : List Event)
    (net' : Network) : Prop where
  run : Runs net [.raise n] events net'
  /-- It comes to no other end. -/
  only : ∀ others other, Runs net [.raise n] others other → others = events ∧ other = net'
  /-- Each of them is called, once and in order, and no other listener of the notifier. -/
  called : events.filterMap (Event.called? n) = listeners
  /-- All that one of them brings about is done before the next one is called. -/
  nested : ∀ before l after, listeners = before ++ l :: after → ∃ first own last between between',
    Runs net (before.map (.call n)) first between ∧ Runs between [.call n l] (.called n l :: own) between' ∧
    Runs between' (after.map (.call n)) last net' ∧ events = first ++ .called n l :: own ++ last
  log : net'.log = (events.filterMap Event.tag?).reverse ++ net.log

theorem exists_round {net : Network} (hacyclic : net.Acyclic) {n : Nat} {source : Notifier NetworkListener}
    (hsource : net.notifier? n = some source) :
    ∃ events, Round net n source.listeners events (net.raise n) := by
  obtain ⟨events, hrun⟩ := runs_raise hacyclic n
  have hcalls : Runs net (source.listeners.map (.call n)) events (net.raise n) := by
    cases hrun with
    | step run =>
      rw [Task.next, hsource, List.append_nil] at run
      exact run
  refine ⟨events, hrun, fun _ _ => hrun.unique, ?_, fun before l after hsplit => ?_, hrun.log_eq⟩
  · refine hcalls.called (fun _ _ => id) fun l hl k hk hreach => hacyclic n (.head' ?_ hreach)
    exact ⟨l, ⟨source, hsource, hl⟩, hk⟩
  · rw [hsplit, List.map_append, List.map_cons, ← List.singleton_append] at hcalls
    obtain ⟨first, rest, between, hfirst, hrest, rfl⟩ := hcalls.split
    obtain ⟨called, last, between', hcalled, hlast, rfl⟩ := hrest.split
    cases hcalled with
    | step run =>
      refine ⟨first, _, last, between, between', hfirst, .step run, hlast, ?_⟩
      simp [Task.events]

/-- **A round.** Where no notifier comes to raise itself, raising one comes to an end, also at a moment within
another round. The notifier calls the listeners that it had when it was raised, whoever leaves or joins
meanwhile, and all that one of them brings about is done before the next one is called. Afterwards still no
notifier comes to raise itself, and every notifier has the listeners that it had before and those that joined,
who do nothing, in order and without those that left. Over all that was ever told of a notifier, those who
joined were given the numbers from zero upwards, and no number left twice. -/
theorem raise_round {count : Nat} {told : List Event} {net : Network} (hpast : Past count told net)
    (hacyclic : net.Acyclic) {n : Nat} {source : Notifier NetworkListener}
    (hsource : net.notifier? n = some source) :
    ∃ events, Round net n source.listeners events (net.raise n) ∧
      Past count (told ++ events) (net.raise n) ∧ (net.raise n).Acyclic ∧
      ∀ m s, net.notifier? m = some s → ∃ s', (net.raise n).notifier? m = some s' ∧
        s.Became (events.filterMap (Event.joined? m)) (events.filterMap (Event.left? m)) s' ∧
        (∀ l ∈ events.filterMap (Event.joined? m), ∃ tag, l.2 = .tagged tag []) ∧
        ({} : Notifier NetworkListener).Became ((told ++ events).filterMap (Event.joined? m))
          ((told ++ events).filterMap (Event.left? m)) s' ∧
        s'.Numbered ∧
        ∀ id, (s'.unsubscribe id).1.count + (s'.unsubscribe id).2.toNat = s'.count := by
  obtain ⟨events, hround⟩ := exists_round hacyclic hsource
  have hafter := hpast.runs hround.run
  have hfollows := law_follows.runs hround.run hpast.recounts.numbered
  refine ⟨events, hround, hafter, hround.run.acyclic hacyclic, fun m s hs => ?_⟩
  obtain ⟨s', hs', hbecame⟩ := (hs ▸ hfollows m).is
  have hnumbered := hafter.recounts.numbered m s' hs'
  exact ⟨s', hs', hbecame, hround.run.joined, hafter.recounts m s' hs', hnumbered,
    hnumbered.count_unsubscribe⟩

/-- A notifier whose first listener removes the second, adds another and raises a second notifier, which the
third listener raises as well. -/
def nested : Network :=
  ((((ofCount 2).subscribe 0 "a" (.tagged "a" [.leave 0 1, .join 0 "x", .raise 1])).subscribe 0 "b"
    (.tagged "b" [])).forward 0 1 "f").subscribe 1 "c" (.tagged "c" [.remove "b"])

theorem past_nested : ∃ told, Past 2 told nested := by
  have hfirst := (@Past.start 2).subscribe 0 "a" (.tagged "a" [.leave 0 1, .join 0 "x", .raise 1])
  obtain ⟨more, hforward⟩ := (hfirst.subscribe 0 "b" (.tagged "b" [])).forward 0 1 "f"
  exact ⟨_, hforward.subscribe 1 "c" (.tagged "c" [.remove "b"])⟩

/-- Who was removed is called, and who was added is not. -/
theorem raise_round_nested :
    nested.Acyclic ∧ ∃ events, Runs nested [.raise 0] events (nested.raise 0) ∧
      (events.filterMap (Event.called? 0)).map (·.1) = [0, 1, 2] ∧
      events.filterMap Event.tag? = ["a", "c", "b", "c"] ∧
      ((nested.raise 0).notifier? 0).map (fun s => s.listeners.map (·.1)) = some [0, 2, 3] := by
  have hacyclic : nested.Acyclic := acyclic_of_lt (by decide)
  obtain ⟨told, hpast⟩ := past_nested
  obtain ⟨events, hround, -⟩ := raise_round hpast hacyclic (n := 0) rfl
  refine ⟨hacyclic, events, hround.run, ?_, ?_, by decide⟩
  · rw [hround.called]
    rfl
  · have hlog := hround.log
    have hmade : (nested.raise 0).log = ["c", "b", "c", "a"] := by decide
    have hbefore : nested.log = [] := rfl
    rw [hmade, hbefore, List.append_nil] at hlog
    exact List.reverse_eq_iff.mp hlog.symm

end TextPane.Network
