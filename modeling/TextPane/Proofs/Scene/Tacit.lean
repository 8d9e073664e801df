import TextPane.Proofs.Scene.Listeners

/-! What nobody hears of.

Nodes are added, take places, give them up and are let go. As long as no update is raised, counters stand as
they did, and listen where they did (`Tacit`). The subscriptions that end are those of places, and no counter
has one of their numbers (`listening_leave`). -/
namespace TextPane.Scene

/-- Counters stand as they did and listen where they did. -/
structure Tacit (s s' : Scene) : Prop where
  hits : s'.hits = s.hits
  watched : ∀ k m, s'.listening (.watch k) m = s.listening (.watch k) m

/-- What takes a place is no counter. -/
theorem listening_enter (s : Scene) (parent child : NodeId) (k : Nat) (m : NodeId) :
    (s.enter parent child).1.listening (.watch k) m = s.listening (.watch k) m := by
  show (s.subscribe child (.forward parent)).1.listening (.watch k) m = _
  rw [listening, listening, notifier_subscribe]
  split
  · simp [Wired.listeners_subscribe]
  · rfl

namespace Tacit
variable {s s' s'' : Scene}

theorem refl (s : Scene) : Tacit s s := ⟨rfl, fun _ _ => rfl⟩

theorem trans (h : Tacit s s') (h' : Tacit s' s'') : Tacit s s'' where
  hits := h'.hits.trans h.hits
  watched k m := (h'.watched k m).trans (h.watched k m)

theorem of_notifier (hhits : s'.hits = s.hits) (hsame : ∀ m, s'.notifier m = s.notifier m) : Tacit s s' where
  hits := hhits
  watched k m := by rw [listening, listening, hsame]

theorem create (s : Scene) (b : Body) : Tacit s (s.create b).1 := .of_notifier rfl (notifier_addNode s b)

theorem hold (s : Scene) (n : NodeId) : Tacit s (s.hold n) := .of_notifier rfl fun _ => rfl

theorem setBody (s : Scene) (n : NodeId) (b : Body) : Tacit s (s.setBody n b) :=
  .of_notifier rfl (notifier_setBody s n b)

theorem enter (s : Scene) (parent child : NodeId) : Tacit s (s.enter parent child).1 where
  hits := rfl
  watched := listening_enter s parent child

end Tacit

/-! ### Subscriptions that end -/

section
variable {s : Scene} {use : Listener → List Slot} {l : Listener}

/-- The subscription of a place is not that of a counter. -/
theorem listening_leave (h : s.Wired use) (hl : l.isPlace) {slot : Slot} (hslot : slot ∈ use l)
    (k : Nat) (m : NodeId) : (s.leave slot).listening (.watch k) m = s.listening (.watch k) m := by
  rw [listening, listening, notifier_leave]
  split
  · next hm =>
    show ((s.notifier m).listeners.filter (·.1 != slot.subscription)).countP _ = _
    rw [List.countP_filter]
    refine List.countP_congr fun x hx => ?_
    simp only [Bool.and_eq_true, beq_iff_eq, bne_iff_ne, and_iff_left_iff_imp]
    intro hwatch hid
    have hlistens := (h.listens l hl slot).mpr hslot
    rw [hm.1, ← hid] at hlistens
    have hsame : l = x.2 := h.eq_of_listens hlistens hx
    rw [hsame, hwatch] at hl
    cases hl
  · rfl

theorem listening_leaveAll (h : s.Wired use) (hl : l.isPlace) {slots rest : List Slot}
    (hperm : (use l).Perm (slots ++ rest)) (k : Nat) (m : NodeId) :
    (s.leaveAll slots).listening (.watch k) m = s.listening (.watch k) m := by
  induction slots generalizing s use with
  | nil => rfl
  | cons slot slots ih =>
    have hslot : slot ∈ use l := hperm.mem_iff.mpr (List.mem_cons_self ..)
    have herase : ((use l).erase slot).Perm (slots ++ rest) := by
      have hcons := hperm.erase slot
      rwa [List.cons_append, List.erase_cons_head] at hcons
    have hrest := ih (h.leave hl hslot) (by rwa [Function.update_self])
    exact hrest.trans (listening_leave h hl hslot k m)

end

namespace Tacit

/-- A place in hand is given up. -/
theorem leave {s : Scene} {n : NodeId} {slot : Slot} {hand : Listener → List Slot} (h : s.Linked hand)
    (hslot : slot ∈ hand (.forward n)) : Tacit s (s.leave slot) where
  hits := rfl
  watched k m := listening_leave h rfl (List.mem_append_left _ hslot) k m

theorem hits_leaveAll (s : Scene) (slots : List Slot) : (s.leaveAll slots).hits = s.hits := by
  induction slots generalizing s with
  | nil => rfl
  | cons slot rest ih => exact ih (s.leave slot)

theorem release {s : Scene} (h : s.Linked nothing) (n : NodeId) : Tacit s (s.release n) where
  hits := hits_leaveAll s (s.body n).slots
  watched k m := by
    have hleft := listening_leaveAll h (l := .forward n) rfl (List.Perm.of_eq (List.append_nil _).symm) k m
    rw [Scene.release, listening, notifier_setBody]
    exact hleft

/-- Letting nodes go calls nobody. -/
theorem sweep {s : Scene} (h : s.Linked nothing) : Tacit s s.sweep := by
  have hreleases (ns : List NodeId) {s : Scene} (h : s.Linked nothing) :
      (ns.foldl Scene.release s).Linked nothing ∧ Tacit s (ns.foldl Scene.release s) := by
    induction ns generalizing s with
    | nil => exact ⟨h, .refl s⟩
    | cons n rest ih =>
      obtain ⟨hlinked, htacit⟩ := ih (h.release n)
      exact ⟨hlinked, (release h n).trans htacit⟩
  unfold Scene.sweep
  generalize s.nodes.size = rounds
  induction rounds generalizing s with
  | zero => exact .refl s
  | succ rounds ih =>
    unfold sweepRounds
    split
    · exact .refl s
    · obtain ⟨hlinked, htacit⟩ := hreleases s.orphans h
      exact htacit.trans (ih hlinked)

theorem letGo {s : Scene} (h : s.Linked nothing) (n : NodeId) : Tacit s (s.letGo n) :=
  (of_notifier rfl fun _ => rfl : Tacit s { s with held := s.held.erase n }).trans
    (.sweep (h.congr rfl fun _ => rfl))

end Tacit

end TextPane.Scene
