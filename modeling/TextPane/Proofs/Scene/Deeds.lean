import TextPane.Proofs.Scene.Tied

/-! Everything that may be done, step by step.

Views are changed, updates are raised and displays are told what to show, queues carry out repaints,
counters are taken off views again, views are bound to feeds that deliver into them, and an update may come
late to a display that has left the view since (`Deed`). From a scene in which there is nothing yet every
deed leads to one that is tied together (`tied_deeds`). -/
namespace TextPane

/-- One thing that may be done to a scene. -/
inductive Deed where
  | change (c : Change)
  | probe (p : Probe)
  /-- An update of a node is raised from outside. -/
  | notify (n : NodeId)
  | queue
  | screen (renderer : Renderer) (queue : Option QueueId) (hideCursor : Bool)
  | display (i : DisplayId) (child : Option NodeId)
  | refresh (i : DisplayId)
  | dispose (i : DisplayId)
  | runNext (q : QueueId)
  | runPending (q : QueueId)
  | render (renderer : Renderer) (n : NodeId) (region : Region)
  /-- The subscription of a counter ends. -/
  | unwatch (n : NodeId) (id : Nat)
  /-- A node is bound to a new feed. -/
  | bind (n : NodeId)
  /-- A span is delivered through a feed. -/
  | feed (feed : Nat) (span : Span)
  /-- An update that was under way reaches a display. -/
  | late (i : DisplayId)

/-- What is taken up is there, and what is taken off is a counter. -/
def Deed.Possible (s : Scene) : Deed → Prop
  | .change c => c.Valid s
  | .display _ child => ∀ n ∈ child.toList, n < s.nodes.size
  | .unwatch n id => ∀ x ∈ (s.notifier n).listeners, x.1 = id → x.2.isPlace = false
  | _ => True

instance (s : Scene) : (d : Deed) → Decidable (d.Possible s)
  | .change c => inferInstanceAs (Decidable (c.Valid s))
  | .display _ child => inferInstanceAs (Decidable (∀ n ∈ child.toList, n < s.nodes.size))
  | .unwatch n id =>
    inferInstanceAs (Decidable (∀ x ∈ (s.notifier n).listeners, x.1 = id → x.2.isPlace = false))
  | .probe _ | .notify _ | .queue | .screen .. | .refresh _ | .dispose _ | .runNext _ | .runPending _
  | .render .. | .bind _ | .feed .. | .late _ => .isTrue trivial

namespace Scene

def deed (s : Scene) : Deed → Scene
  | .change c => s.change c
  | .probe p => (s.create (.probe p)).1
  | .notify n => s.raise n
  | .queue => s.createQueue.1
  | .screen renderer queue hideCursor => (s.createDisplay renderer queue hideCursor).1
  | .display i child => s.setDisplayChild i child
  | .refresh i => s.refresh i
  | .dispose i => s.dispose i
  | .runNext q => (s.runNext q).1
  | .runPending q => (s.runPending q).1
  | .render renderer n region => ((s.nodeBox renderer n).render region s).2
  | .unwatch n id => (s.unsubscribe n id).1
  | .bind n => (s.bindFeed n).1
  | .feed feed span => (s.feed feed span).1
  | .late i => requestRepaint (raiseWithin s.depth) i s

def deeds (s : Scene) (ds : List Deed) : Scene := ds.foldl deed s

/-- Every deed is possible when its turn comes. -/
def Allows : Scene → List Deed → Prop
  | _, [] => True
  | s, d :: rest => d.Possible s ∧ Allows (s.deed d) rest

instance decidableAllows (s : Scene) (ds : List Deed) : Decidable (s.Allows ds) :=
  match ds with
  | [] => .isTrue trivial
  | d :: rest =>
    let _ := decidableAllows (s.deed d) rest
    inferInstanceAs (Decidable (d.Possible s ∧ (s.deed d).Allows rest))

theorem deeds_cons (s : Scene) (d : Deed) (ds : List Deed) : s.deeds (d :: ds) = (s.deed d).deeds ds := rfl

theorem deeds_append (s : Scene) (ds es : List Deed) : s.deeds (ds ++ es) = (s.deeds ds).deeds es :=
  List.foldl_append

theorem allows_append {s : Scene} {ds es : List Deed} :
    s.Allows (ds ++ es) ↔ s.Allows ds ∧ (s.deeds ds).Allows es := by
  induction ds generalizing s with
  | nil => exact ⟨fun h => ⟨trivial, h⟩, And.right⟩
  | cons d rest ih =>
    simp only [List.cons_append, Allows, ih, and_assoc]
    rfl

section
variable {s : Scene}

theorem Tied.unwatch (h : s.Tied) {n : NodeId} {id : Nat} (hid : (Deed.unwatch n id).Possible s) :
    (s.unsubscribe n id).1.Tied := by
  let slot : Slot := ⟨n, id⟩
  have hlinked : (s.leave slot).Linked nothing := by
    rw [Linked, places_leave]
    exact Wired.unwatch h.linked hid
  exact h.edited (edits_leave s slot) hlinked

theorem Tied.bindFeed (h : s.Tied) (n : NodeId) : (s.bindFeed n).1.Tied := by
  let counted : Scene := { s with feeds := s.feeds + 1 }
  have hcounted : counted.Tied :=
    h.edited (edits_of_nodes rfl rfl rfl rfl) (h.linked.congr rfl fun _ => rfl)
  cases hbody : counted.body n with
  | content span feed =>
    have hn : n < counted.nodes.size := lt_size_of_body hbody (by simp)
    have hsound : (Body.content span (some s.feeds)).Sound counted.nodes.size := trivial
    have hlinked : (counted.setBody n (.content span (some s.feeds))).Linked nothing := by
      refine hcounted.linked.setBody hn ?_ fun _ _ => rfl
      rw [hbody]
      exact .refl _
    simp only [Scene.bindFeed, counted, hbody]
    exact hcounted.edited (edits_setBody counted n hsound) hlinked
  | _ =>
    simp only [Scene.bindFeed, counted, hbody]
    exact hcounted

/-- What a feed delivers is a change of the node that it is bound to. -/
theorem feed_eq (s : Scene) (feed : Nat) (span : Span) :
    (s.feed feed span).1 = match s.fedBy? feed with
      | some n => s.change (.setSpan n span)
      | none => s := by
  unfold Scene.feed
  cases s.fedBy? feed <;> rfl

/-- **A deed keeps a scene tied together.** -/
theorem Tied.deed (h : s.Tied) {d : Deed} (hd : d.Possible s) : (s.deed d).Tied := by
  cases d with
  | change c => exact h.change hd
  | probe p => exact h.createProbe p
  | notify n => exact h.still (still_raise s n)
  | queue => exact h.still (still_createQueue s)
  | screen renderer queue hideCursor => exact h.createDisplay renderer queue hideCursor
  | display i child => exact h.setDisplayChild i hd
  | refresh i => exact h.still (still_refresh s i)
  | dispose i => exact h.dispose i
  | runNext q => exact h.still (still_runNext s q)
  | runPending q => exact h.still (still_runPending s q)
  | render renderer n region => exact h.still (still_nodeBox s renderer n region)
  | unwatch n id => exact h.unwatch hd
  | bind n => exact h.bindFeed n
  | feed feed span =>
    show (s.feed feed span).1.Tied
    rw [feed_eq]
    cases s.fedBy? feed with
    | none => exact h
    | some n => exact h.change (c := .setSpan n span) trivial
  | late i => exact h.still (still_requestRepaint (still_raiseWithin _) i s)

theorem Tied.deeds (ds : List Deed) (h : s.Tied) (hds : s.Allows ds) : (s.deeds ds).Tied := by
  induction ds generalizing s with
  | nil => exact h
  | cons d rest ih =>
    obtain ⟨hd, hrest⟩ := hds
    exact ih (h.deed hd) hrest

end

/-- Whatever is done, what comes of it is tied together. -/
theorem tied_deeds {t : Terminal} {ds : List Deed} (hds : (bare t).Allows ds) :
    ((bare t).deeds ds).Tied := (tied_bare t).deeds ds hds

end Scene

end TextPane
