import TextPane.Proofs.View.Subscriptions
import TextPane.View.Network

/-! Raising, task by task.

What is yet to be done while notifiers are raised is a list of tasks, and those that a task brings about go
in front of all others (`Task.next`). A run does one task after the other until none is left and tells who was
called, who joined and who left (`Runs`). There is a run just when raising comes to an end, and then only one
(`Runs.unique`); tasks in turn have runs in turn (`Runs.append`, `Runs.split`).

What holds of each thing told holds of runs (`Law.runs`): the log names those who were called
(`Runs.log_eq`), what became of each notifier is what is told of it (`law_follows`), and nobody raises what
nobody raised before (`law_leads`). -/
namespace TextPane

/-- The notifier that a reaction raises. -/
def Reaction.target? : Reaction → Option Nat
  | .raise target => some target
  | _ => none

/-- The notifiers that a listener raises. -/
def NetworkListener.targets : NetworkListener → List Nat
  | .forward target => [target]
  | .tagged _ reactions => reactions.filterMap Reaction.target?

namespace Network

/-! ### Events and tasks -/

/-- What is told of a notifier; listeners are told with their numbers. -/
inductive Event where
  | called (n : Nat) (l : Nat × NetworkListener)
  | joined (n : Nat) (l : Nat × NetworkListener)
  /-- The listener of this number was there and was unsubscribed. -/
  | left (n id : Nat)
deriving DecidableEq, Repr

namespace Event

/-- Who was called, by a notifier. -/
def called? (n : Nat) : Event → Option (Nat × NetworkListener)
  | .called m l => if m = n then some l else none
  | _ => none

/-- Who joined a notifier. -/
def joined? (n : Nat) : Event → Option (Nat × NetworkListener)
  | .joined m l => if m = n then some l else none
  | _ => none

/-- Who left a notifier. -/
def left? (n : Nat) : Event → Option Nat
  | .left m id => if m = n then some id else none
  | _ => none

/-- The tag that a call is logged by. -/
def tag? : Event → Option String
  | .called _ (_, .tagged tag _) => some tag
  | _ => none

end Event

/-- What subscribing tells. -/
def joining (net : Network) (n : Nat) (l : NetworkListener) : List Event :=
  match net.notifier? n with
  | none => []
  | some source => [.joined n (source.next, l)]

/-- What unsubscribing tells. -/
def leaving (net : Network) (n id : Nat) : List Event :=
  if (net.unsubscribe n id).2 = some true then [.left n id] else []

/-- Something yet to be done. -/
inductive Task where
  | raise (n : Nat)
  | call (n : Nat) (l : Nat × NetworkListener)
  | react (n : Nat) (r : Reaction)

/-- What a reaction of a listener of notifier `n` tells. -/
def changes (net : Network) (n : Nat) : Reaction → List Event
  | .remove tag =>
    match net.tags.lookup tag with
    | none => []
    | some (source, id) => net.leaving source id
  | .add tag => net.joining n (.tagged tag [])
  | .leave source id => net.leaving source id
  | .join source tag => net.joining source (.tagged tag [])
  | .raise _ => []

namespace Task

/-- What doing a task makes of the network at once. -/
def after (net : Network) : Task → Network
  | .raise _ => net
  | .call _ (_, .forward _) => net
  | .call _ (_, .tagged tag _) => { net with log := tag :: net.log }
  | .react n r => Network.react (fun net _ => net) n net r

/-- What it tells. -/
def events (net : Network) : Task → List Event
  | .raise _ => []
  | .call n l => [.called n l]
  | .react n r => net.changes n r

/-- What it brings about, to be done before anything else. -/
def next (net : Network) : Task → List Task
  | .raise n =>
    match net.notifier? n with
    | none => []
    | some source => source.listeners.map (.call n)
  | .call _ (_, .forward target) => [.raise target]
  | .call n (_, .tagged _ reactions) => reactions.map (.react n)
  | .react _ r => r.target?.toList.map .raise

end Task

/-- Doing tasks, until there are none. -/
inductive Runs : Network → List Task → List Event → Network → Prop where
  | done (net : Network) : Runs net [] [] net
  | step {net net' : Network} {t : Task} {rest : List Task} {events : List Event}
    (run : Runs (t.after net) (t.next net ++ rest) events net') :
    Runs net (t :: rest) (t.events net ++ events) net'

section Runs
variable {net net' net'' : Network} {tasks more : List Task} {events events' : List Event}

/-- A task by itself. -/
theorem Runs.single {t : Task} (h : Runs (t.after net) (t.next net) events net') :
    Runs net [t] (t.events net ++ events) net' := by
  refine .step ?_
  rwa [List.append_nil]

theorem Runs.append (h : Runs net tasks events net') (h' : Runs net' more events' net'') :
    Runs net (tasks ++ more) (events ++ events') net'' := by
  induction h with
  | done => exact h'
  | step _ ih =>
    have hrest := ih h'
    rw [List.append_assoc] at hrest
    rw [List.cons_append, List.append_assoc]
    exact .step hrest

theorem Runs.split (h : Runs net (tasks ++ more) events net') : ∃ first second between,
    Runs net tasks first between ∧ Runs between more second net' ∧ events = first ++ second := by
  generalize hall : tasks ++ more = all at h
  -- What a task brings about goes in front, so it belongs to the part that the task is of.
  induction h generalizing tasks with
  | done net =>
    obtain ⟨rfl, rfl⟩ := List.append_eq_nil_iff.mp hall
    exact ⟨[], [], net, .done net, .done net, rfl⟩
  | @step net net' t rest events run ih =>
    cases tasks with
    | nil =>
      have hmore : more = t :: rest := hall
      exact ⟨[], _, net, .done net, hmore ▸ .step run, rfl⟩
    | cons t' tasks =>
      obtain ⟨rfl, rfl⟩ := List.cons.inj hall
      obtain ⟨first, second, between, hfirst, hsecond, rfl⟩ := ih (List.append_assoc ..)
      exact ⟨_, second, between, .step hfirst, hsecond, (List.append_assoc ..).symm⟩

/-- Tasks come to one end at most. -/
theorem Runs.unique (h : Runs net tasks events net') (h' : Runs net tasks events' net'') :
    events' = events ∧ net'' = net' := by
  induction h generalizing events' with
  | done =>
    cases h'
    exact ⟨rfl, rfl⟩
  | step _ ih =>
    cases h' with
    | step run' =>
      obtain ⟨rfl, rfl⟩ := ih run'
      exact ⟨rfl, rfl⟩

end Runs

/-! ### Subscribing and unsubscribing -/

section Changes
variable {net : Network} {n : Nat} {source : Notifier NetworkListener}

theorem notifier?_put (h : net.notifier? n = some source) (value : Option (Notifier NetworkListener))
    (m : Nat) : (net.put n value).notifier? m = if m = n then value else net.notifier? m := by
  obtain ⟨hn, _⟩ := List.getElem?_eq_some_iff.mp (Option.join_eq_some_iff.mp h)
  show ((net.notifiers.set n value)[m]?).join = _
  by_cases hm : m = n
  · subst hm
    rw [if_pos rfl, List.getElem?_set_self hn]
    rfl
  · rw [if_neg hm, List.getElem?_set_ne (Ne.symm hm)]
    rfl

theorem put_same (h : net.notifier? n = some source) : net.put n (some source) = net := by
  obtain ⟨hn, hsource⟩ := List.getElem?_eq_some_iff.mp (Option.join_eq_some_iff.mp h)
  show { net with notifiers := net.notifiers.set n (some source) } = net
  rw [← hsource, List.set_getElem_self]

theorem subscribe_dropped (h : net.notifier? n = none) (tag : String) (l : NetworkListener) :
    net.subscribe n tag l = net := by
  rw [subscribe, h]

theorem notifier?_subscribe (h : net.notifier? n = some source) (tag : String) (l : NetworkListener)
    (m : Nat) : (net.subscribe n tag l).notifier? m =
      if m = n then some (source.subscribe l).1 else net.notifier? m := by
  rw [← notifier?_put h, subscribe, h]
  rfl

theorem log_subscribe (net : Network) (n : Nat) (tag : String) (l : NetworkListener) :
    (net.subscribe n tag l).log = net.log := by
  unfold subscribe
  split <;> rfl

/-- Unsubscribing takes a listener away and tells so, or does nothing. -/
theorem unsubscribe_cases (net : Network) (n id : Nat) :
    (∃ source, net.notifier? n = some source ∧ (source.unsubscribe id).2 = true ∧
      (net.unsubscribe n id).1 = net.put n (some (source.unsubscribe id).1) ∧
      net.leaving n id = [.left n id]) ∨
    ((net.unsubscribe n id).1 = net ∧ net.leaving n id = []) := by
  cases hsource : net.notifier? n with
  | none => exact .inr (by simp [leaving, unsubscribe, hsource])
  | some source =>
    have hdone : net.unsubscribe n id =
        (net.put n (some (source.unsubscribe id).1), some (source.unsubscribe id).2) := by
      rw [unsubscribe, hsource]
    cases hfound : (source.unsubscribe id).2 with
    | true => exact .inl ⟨source, rfl, hfound, by rw [hdone], by rw [leaving, hdone, hfound, if_pos rfl]⟩
    | false =>
      rw [hfound, Notifier.unsubscribe_unknown hfound, put_same hsource] at hdone
      exact .inr ⟨by rw [hdone], by rw [leaving, hdone, if_neg (by simp)]⟩

/-- A reaction that raises nothing subscribes a listener that does nothing, unsubscribes a number, or
knows of nothing to do. -/
theorem react_cases (net : Network) (n : Nat) (r : Reaction) :
    (∃ source tag, react (fun net _ => net) n net r = net.subscribe source tag (.tagged tag []) ∧
      net.changes n r = net.joining source (.tagged tag [])) ∨
    (∃ source id, react (fun net _ => net) n net r = (net.unsubscribe source id).1 ∧
      net.changes n r = net.leaving source id) ∨
    (react (fun net _ => net) n net r = net ∧ net.changes n r = []) := by
  cases r with
  | remove tag =>
    cases hlookup : net.tags.lookup tag with
    | none => exact .inr (.inr (by simp [react, changes, hlookup]))
    | some place => exact .inr (.inl ⟨place.1, place.2, by simp [react, hlookup], by simp [changes, hlookup]⟩)
  | add tag => exact .inl ⟨n, tag, rfl, rfl⟩
  | leave source id => exact .inr (.inl ⟨source, id, rfl, rfl⟩)
  | join source tag => exact .inl ⟨source, tag, rfl, rfl⟩
  | raise target => exact .inr (.inr ⟨rfl, rfl⟩)

end Changes

/-! ### Laws of runs -/

/-- What holds of everything that is told holds of all of it. -/
structure Law (R : Network → List Event → Network → Prop) : Prop where
  same : ∀ net, R net [] net
  called : ∀ net n l, R net [.called n l] ((Task.call n l).after net)
  joined : ∀ net n source tag, net.notifier? n = some source →
    R net [.joined n (source.next, .tagged tag [])] (net.subscribe n tag (.tagged tag []))
  left : ∀ net n source id, net.notifier? n = some source → (source.unsubscribe id).2 = true →
    R net [.left n id] (net.put n (some (source.unsubscribe id).1))
  trans : ∀ {net net' net'' events events'}, R net events net' → R net' events' net'' →
    R net (events ++ events') net''

section Law
variable {R : Network → List Event → Network → Prop} {net net' : Network} {tasks : List Task}
  {events : List Event}

theorem Law.task (h : Law R) (net : Network) (t : Task) : R net (t.events net) (t.after net) := by
  cases t with
  | raise n => exact h.same net
  | call n l => exact h.called net n l
  | react n r =>
    show R net (net.changes n r) (react (fun net _ => net) n net r)
    rcases react_cases net n r with ⟨source, tag, hnet, htold⟩ | ⟨source, id, hnet, htold⟩ | ⟨hnet, htold⟩
    · rw [hnet, htold, joining]
      cases hsource : net.notifier? source with
      | none =>
        rw [subscribe_dropped hsource]
        exact h.same net
      | some found => exact h.joined net source found tag hsource
    · rw [hnet, htold]
      rcases unsubscribe_cases net source id with ⟨found, hsource, hfound, hnet, htold⟩ | ⟨hnet, htold⟩
      · rw [hnet, htold]
        exact h.left net source found id hsource hfound
      · rw [hnet, htold]
        exact h.same net
    · rw [hnet, htold]
      exact h.same net

/-- What holds of everything that is told holds of runs. -/
theorem Law.runs (h : Law R) (hruns : Runs net tasks events net') : R net events net' := by
  induction hruns with
  | done net => exact h.same net
  | step _ ih => exact h.trans (h.task ..) ih

end Law

/-- The log takes up the tags of those who were called, newest first. -/
theorem Runs.log_eq {net net' : Network} {tasks : List Task} {events : List Event}
    (h : Runs net tasks events net') : net'.log = (events.filterMap Event.tag?).reverse ++ net.log := by
  have hlaw : Law fun net events net' => net'.log = (events.filterMap Event.tag?).reverse ++ net.log := by
    refine ⟨fun _ => rfl, fun net n l => ?_, fun net n _ tag _ => ?_, fun _ _ _ _ _ _ => rfl, ?_⟩
    · obtain ⟨id, _ | _⟩ := l <;> rfl
    · exact log_subscribe net n tag _
    · intro _ _ _ _ _ h h'
      rw [h', h, List.filterMap_append, List.reverse_append, List.append_assoc]
  exact hlaw.runs h

/-! ### Notifiers along runs -/

/-- What is told of a notifier is what became of it, and of one that was dropped nothing is told. -/
inductive Follows (n : Nat) (events : List Event) :
    Option (Notifier NetworkListener) → Option (Notifier NetworkListener) → Prop where
  | dropped (joined : events.filterMap (Event.joined? n) = [])
    (left : events.filterMap (Event.left? n) = []) : Follows n events none none
  | kept {s s' : Notifier NetworkListener}
    (became : s.Became (events.filterMap (Event.joined? n)) (events.filterMap (Event.left? n)) s') :
    Follows n events (some s) (some s')

/-- The numbers of the listeners of all notifiers increase. -/
def Numbered (net : Network) : Prop := ∀ n s, net.notifier? n = some s → s.Numbered

section Follows
variable {net net' net'' : Network} {n : Nat} {events events' : List Event}
  {s s' s'' : Option (Notifier NetworkListener)}

/-- Where nothing is told of a notifier, nothing became of it. -/
theorem follows_same (hjoined : events.filterMap (Event.joined? n) = [])
    (hleft : events.filterMap (Event.left? n) = []) : Follows n events s s := by
  cases s with
  | none => exact .dropped hjoined hleft
  | some s =>
    refine .kept ?_
    rw [hjoined, hleft]
    exact s.became_same

theorem Follows.trans (hs : ∀ found, s = some found → found.Numbered) (h : Follows n events s s')
    (h' : Follows n events' s' s'') : Follows n (events ++ events') s s'' := by
  cases h with
  | dropped hjoined hleft =>
    cases h' with
    | dropped hjoined' hleft' =>
      exact .dropped (by rw [List.filterMap_append, hjoined, hjoined', List.append_nil])
        (by rw [List.filterMap_append, hleft, hleft', List.append_nil])
  | kept hbecame =>
    cases h' with
    | kept hbecame' =>
      refine .kept ?_
      rw [List.filterMap_append, List.filterMap_append]
      exact hbecame.trans (hs _ rfl) hbecame'

theorem follows_subscribe {source : Notifier NetworkListener} (hsource : net.notifier? n = some source)
    (tag : String) (l : NetworkListener) (m : Nat) :
    Follows m [.joined n (source.next, l)] (net.notifier? m) ((net.subscribe n tag l).notifier? m) := by
  rw [notifier?_subscribe hsource]
  by_cases hm : m = n
  · subst hm
    rw [if_pos rfl, hsource]
    refine .kept ?_
    simp only [List.filterMap_cons, Event.joined?, if_true, Event.left?, List.filterMap_nil]
    exact source.became_subscribe l
  · rw [if_neg hm]
    exact follows_same (by simp [Event.joined?, Ne.symm hm]) rfl

theorem follows_unsubscribe {source : Notifier NetworkListener} {id : Nat}
    (hsource : net.notifier? n = some source) (hfound : (source.unsubscribe id).2 = true) (m : Nat) :
    Follows m [.left n id] (net.notifier? m) ((net.put n (some (source.unsubscribe id).1)).notifier? m) := by
  rw [notifier?_put hsource]
  by_cases hm : m = n
  · subst hm
    rw [if_pos rfl, hsource]
    refine .kept ?_
    simp only [List.filterMap_cons, Event.joined?, if_true, Event.left?, List.filterMap_nil]
    exact Notifier.became_unsubscribe hfound
  · rw [if_neg hm]
    exact follows_same rfl (by simp [Event.left?, Ne.symm hm])

theorem follows_joining (net : Network) (n : Nat) (tag : String) (l : NetworkListener) (m : Nat) :
    Follows m (net.joining n l) (net.notifier? m) ((net.subscribe n tag l).notifier? m) := by
  unfold joining
  cases hsource : net.notifier? n with
  | none =>
    rw [subscribe_dropped hsource]
    exact follows_same rfl rfl
  | some source => exact follows_subscribe hsource tag l m

theorem follows_leaving (net : Network) (n id m : Nat) :
    Follows m (net.leaving n id) (net.notifier? m) ((net.unsubscribe n id).1.notifier? m) := by
  rcases unsubscribe_cases net n id with ⟨source, hsource, hfound, hnet, htold⟩ | ⟨hnet, htold⟩
  · rw [hnet, htold]
    exact follows_unsubscribe hsource hfound m
  · rw [hnet, htold]
    exact follows_same rfl rfl

/-- A notifier that is there was there. -/
theorem Follows.was {s' : Notifier NetworkListener} (h : Follows n events s (some s')) : ∃ was, s = some was ∧
    was.Became (events.filterMap (Event.joined? n)) (events.filterMap (Event.left? n)) s' := by
  cases h with
  | kept became => exact ⟨_, rfl, became⟩

/-- A notifier that was there is there. -/
theorem Follows.is {s : Notifier NetworkListener} (h : Follows n events (some s) s') : ∃ now, s' = some now ∧
    s.Became (events.filterMap (Event.joined? n)) (events.filterMap (Event.left? n)) now := by
  cases h with
  | kept became => exact ⟨_, rfl, became⟩

theorem Numbered.follows (hnet : net.Numbered)
    (h : ∀ n, Follows n events (net.notifier? n) (net'.notifier? n)) : net'.Numbered := by
  intro n s' hs'
  obtain ⟨was, hwas, hbecame⟩ := (hs' ▸ h n).was
  exact (hnet n was hwas).became hbecame

/-- What became of the notifiers is what is told of them. -/
theorem law_follows : Law fun net events net' => net.Numbered →
    ∀ n, Follows n events (net.notifier? n) (net'.notifier? n) := by
  refine ⟨fun _ _ _ => follows_same rfl rfl, fun net n l _ m => ?_,
    fun net n source tag hsource _ => follows_subscribe hsource tag _,
    fun net n source id hsource hfound _ => follows_unsubscribe hsource hfound, ?_⟩
  · obtain ⟨id, _ | _⟩ := l <;> exact follows_same rfl rfl
  · intro _ _ _ _ _ h h' hnet n
    exact (h hnet n).trans (hnet n) (h' (hnet.follows (h hnet)) n)

end Follows

/-! ### Who raises whom -/

/-- A listener is subscribed to a notifier under a number. -/
def Has (net : Network) (n : Nat) (l : Nat × NetworkListener) : Prop :=
  ∃ source, net.notifier? n = some source ∧ l ∈ source.listeners

/-- A listener of one notifier raises another one. -/
def Leads (net : Network) (n m : Nat) : Prop := ∃ l, net.Has n l ∧ m ∈ l.2.targets

section Leads
variable {net net' : Network} {tasks : List Task} {events : List Event}

/-- Nobody raises what nobody raised before: who joins does nothing. -/
theorem law_leads : Law fun net _ net' => ∀ n m, net'.Leads n m → net.Leads n m := by
  refine ⟨fun _ _ _ => id, fun net k l n m hleads => ?_, ?_, ?_, fun h h' n m hleads => h n m (h' n m hleads)⟩
  · obtain ⟨id, _ | _⟩ := l <;> exact hleads
  · rintro net k source tag hsource n m ⟨l, ⟨s, hs, hl⟩, hm⟩
    rw [notifier?_subscribe hsource] at hs
    by_cases hn : n = k
    · rw [if_pos hn] at hs
      cases hs
      rcases List.mem_append.mp hl with hl | hl
      · exact ⟨l, ⟨source, hn ▸ hsource, hl⟩, hm⟩
      · rw [List.mem_singleton.mp hl] at hm
        exact absurd hm List.not_mem_nil
    · rw [if_neg hn] at hs
      exact ⟨l, ⟨s, hs, hl⟩, hm⟩
  · rintro net k source id hsource hfound n m ⟨l, ⟨s, hs, hl⟩, hm⟩
    rw [notifier?_put hsource] at hs
    by_cases hn : n = k
    · rw [if_pos hn] at hs
      cases hs
      exact ⟨l, ⟨source, hn ▸ hsource, (List.mem_filter.mp hl).1⟩, hm⟩
    · rw [if_neg hn] at hs
      exact ⟨l, ⟨s, hs, hl⟩, hm⟩

/-- Only listeners that do nothing join. -/
theorem Runs.joined (h : Runs net tasks events net') {n : Nat} :
    ∀ l ∈ events.filterMap (Event.joined? n), ∃ tag, l.2 = .tagged tag [] := by
  have hlaw : Law fun _ events _ =>
      ∀ l ∈ events.filterMap (Event.joined? n), ∃ tag, l.2 = NetworkListener.tagged tag [] := by
    refine ⟨fun _ _ hl => absurd hl List.not_mem_nil, fun _ _ _ _ hl => absurd hl List.not_mem_nil,
      fun _ m _ tag _ l hl => ⟨tag, ?_⟩, fun _ _ _ _ _ _ _ hl => absurd hl List.not_mem_nil, ?_⟩
    · obtain ⟨_, hevent, hjoined⟩ := List.mem_filterMap.mp hl
      rw [List.mem_singleton.mp hevent, Event.joined?] at hjoined
      split at hjoined <;> cases hjoined
      rfl
    · intro _ _ _ _ _ h h' l hl
      rw [List.filterMap_append] at hl
      exact (List.mem_append.mp hl).elim (h l) (h' l)
  exact hlaw.runs h

end Leads

end Network

end TextPane
