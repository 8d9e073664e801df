import TextPane.Proofs.Scene.Build
import TextPane.Proofs.Scene.Sweep

/-! What is done to views, and what comes of it.

A change that is made through the API of a view edits that view alone, lets go what is no longer held
and raises one update of the view, or else it edits nothing that was there (`change_spec`). There is no
show of a body that raises no update. -/
namespace TextPane

/-- What may be done to nodes. -/
inductive Change where
  | content (span : Span)
  | stack (orientation : Option Orientation)
  | grid (gutter : Nat)
  | table (gutter : Nat)
  | setSpan (n : NodeId) (span : Span)
  | push (n child : NodeId)
  | remove (n child : NodeId)
  | clear (n : NodeId)
  | setColumns (n : NodeId) (tracks : List Track)
  | setRows (n : NodeId) (tracks : List Track)
  | setChild (n child : NodeId) (column row : Nat)
  /-- A table gets further columns, other items and the grid that was built for them. -/
  | install (n : NodeId) (new : List TableColumn) (items : List (List String)) (grid : NodeId)
  | watch (n : NodeId)
  | hold (n : NodeId)
  | letGo (n : NodeId)

namespace Scene

/-- A change that is refused leaves the scene as it is. -/
def accept (s : Scene) : Except LayoutError Scene → Scene
  | .ok s' => s'
  | .error _ => s

def change (s : Scene) : Change → Scene
  | .content span => (s.create (.content span none)).1
  | .stack orientation => (s.create (.stack orientation [])).1
  | .grid gutter => (s.create (.grid { gutter })).1
  | .table gutter => (s.createTable gutter).1
  | .setSpan n span => s.setSpan n span
  | .push n child => s.push n child
  | .remove n child => (s.remove n child).1
  | .clear n => s.clear n
  | .setColumns n tracks => s.accept (s.setColumns n tracks)
  | .setRows n tracks => s.accept (s.setRows n tracks)
  | .setChild n child column row => s.accept (s.setChild n child column row)
  | .install n new items grid => s.install n new items grid
  | .watch n => (s.watch n).1
  | .hold n => s.hold n
  | .letGo n => s.letGo n

end Scene

namespace Change

/-- The nodes that a change takes up are there. -/
def Valid (s : Scene) : Change → Prop
  | .push _ child => child < s.nodes.size
  | .setChild _ child _ _ => child < s.nodes.size
  | .install _ new _ built => built < s.nodes.size ∧ ∀ c ∈ new, c.header < s.nodes.size
  | .watch n => n < s.nodes.size
  | _ => True

instance (s : Scene) : (c : Change) → Decidable (c.Valid s)
  | .push _ child | .setChild _ child _ _ => inferInstanceAs (Decidable (child < s.nodes.size))
  | .install _ new _ built =>
    inferInstanceAs (Decidable (built < s.nodes.size ∧ ∀ c ∈ new, c.header < s.nodes.size))
  | .watch n => inferInstanceAs (Decidable (n < s.nodes.size))
  | .content _ | .stack _ | .grid _ | .table _ | .setSpan .. | .remove .. | .clear _ | .setColumns ..
  | .setRows .. | .hold _ | .letGo _ => .isTrue trivial

/-- The node of which a change raises an update, if it raises one: new contents always do, a removal of
what is there does, and so does whatever a grid does not refuse. -/
def raises (s : Scene) : Change → Option NodeId
  | .setSpan n _ =>
    match s.body n with
    | .content .. => some n
    | _ => none
  | .push n _ =>
    match s.body n with
    | .stack .. => some n
    | _ => none
  | .remove n child =>
    match s.body n with
    | .stack _ slots => if slots.any (·.node == child) then some n else none
    | _ => none
  | .clear n =>
    match s.body n with
    | .stack _ (_ :: _) => some n
    | _ => none
  | .setColumns n _ | .setRows n _ =>
    match s.body n with
    | .grid g => if g.locked then none else some n
    | _ => none
  | .setChild n child column row =>
    match s.place n child column row with
    | .ok _ => some n
    | .error _ => none
  | .install n .. =>
    match s.body n with
    | .table _ => some n
    | _ => none
  | _ => none

end Change

namespace Scene

/-- What a change comes to: an edit that takes no body away, and what is no longer held is let go
before or after the update. -/
inductive Changes (s : Scene) : Option NodeId → Scene → Prop where
  | quiet {s₁ s₂ : Scene} (edits : Edits none s s₁) (linked : s₁.Linked nothing)
      (swept : Swept s₁ s₂) : Changes s none s₂
  | raised {n : NodeId} {s₁ s₂ : Scene} (edits : Edits (some n) s s₁) (linked : s₁.Linked nothing)
      (swept : Swept s₁ s₂) : Changes s (some n) (s₂.raise n)
  | released {n : NodeId} {s₁ : Scene} (edits : Edits (some n) s s₁) (linked : s₁.Linked nothing)
      (fewer : ∀ m k, s₁.Holds m k → s.Holds m k) : Changes s (some n) (s₁.raise n).sweep

/-! ### What is in places -/

theorem notifier_of_nodes {s s' : Scene} (hnodes : s'.nodes = s.nodes) (n : NodeId) :
    s'.notifier n = s.notifier n := by
  rw [notifier, notifier, node, node, hnodes]

theorem body_of_nodes {s s' : Scene} (hnodes : s'.nodes = s.nodes) (n : NodeId) :
    s'.body n = s.body n := by
  rw [body, body, node, node, hnodes]

/-- Counters and what is held from outside are not seen. -/
theorem edits_of_nodes {s s' : Scene} (hterminal : s'.terminal = s.terminal)
    (hdisplays : s'.displays = s.displays) (hqueues : s'.queues = s.queues)
    (hnodes : s'.nodes = s.nodes) : Edits none s s' :=
  ⟨hterminal, hdisplays, hqueues, hnodes ▸ Nat.le_refl _, fun m _ _ => body_of_nodes hnodes m,
    fun m => .inl (body_of_nodes hnodes m)⟩

section
variable {s : Scene} (h : s.Linked nothing)
include h

/-- Only nodes and what displays show take part in who listens. -/
theorem Linked.congr {s' : Scene} (hnodes : s'.nodes = s.nodes)
    (hshown : ∀ i, s'.places (.display i) = s.places (.display i)) : s'.Linked nothing := by
  apply Wired.perm (Wired.congr h (notifier_of_nodes hnodes))
  intro l
  cases l with
  | forward n => rw [places, places, body_of_nodes hnodes]
  | display i => rw [hshown]
  | watch k => exact .refl _

/-- No change at all. -/
theorem Changes.refl : Changes s none s := .quiet (.refl s) h (.refl s)

theorem changes_create {b : Body} (hb : b.Sound (s.nodes.size + 1)) (hslots : b.slots = []) :
    Changes s none (s.create b).1 := by
  have hheld : Edits none (s.addNode b).1 (s.create b).1 := edits_of_nodes rfl rfl rfl rfl
  have hlinked : (s.create b).1.Linked nothing := (h.addNode hslots).congr rfl fun _ => rfl
  exact .quiet ((edits_addNode s hb).trans hheld) hlinked (.refl _)

/-- A new table listens to the grid that was added for it. -/
theorem changes_createTable (gutter : Nat) : Changes s none (s.createTable gutter).1 := by
  let s₁ := (s.addNode (.grid { gutter })).1
  let s₂ := (s₁.create .gone).1
  have hgrid : Edits none s s₁ := edits_addNode s ⟨rfl, fun _ => rfl⟩
  have hadded : s₁.Linked nothing := h.addNode rfl
  have hcreate : Edits none (s₁.addNode .gone).1 s₂ := edits_of_nodes rfl rfl rfl rfl
  have hcreated : s₂.Linked nothing := (hadded.addNode rfl).congr rfl fun _ => rfl
  have hchild : s.nodes.size < s₂.nodes.size := by
    show s.nodes.size < ((s.nodes.push _).push _).size
    rw [Array.size_push, Array.size_push]
    omega
  obtain ⟨s₃, slot, hentry, henter, hentered, _, _⟩ := hcreated.enter s₁.nodes.size hchild
  have hsound : (Body.table { gutter, grid := slot }).Sound s₃.nodes.size := fun c hc => by cases hc
  obtain ⟨hbuilt, hlinked, _⟩ := Linked.build rfl rfl (hcreate.trans henter) hentered hsound
  have htable : (s.createTable gutter).1 =
      s₃.setBody s₁.nodes.size (.table { gutter, grid := slot }) := by
    show (s₂.enter s₁.nodes.size s.nodes.size).1.setBody s₁.nodes.size
      (.table { gutter, grid := (s₂.enter s₁.nodes.size s.nodes.size).2 }) = _
    rw [hentry]
  rw [htable]
  exact .quiet (hgrid.trans hbuilt) hlinked (.refl _)

theorem changes_setSpan (n : NodeId) (span : Span) :
    Changes s (Change.raises s (.setSpan n span)) (s.setSpan n span) := by
  cases hbody : s.body n with
  | content old feed =>
    simp only [setSpan, Change.raises, hbody]
    have hn : n < s.nodes.size := lt_size_of_body hbody (by simp)
    have hsound : (Body.content span feed).Sound s.nodes.size := trivial
    refine .raised (edits_setBody s n hsound) (h.setBody hn ?_ fun _ _ => rfl) (.refl _)
    rw [hbody]
    exact .refl _
  | _ =>
    simp only [setSpan, Change.raises, hbody]
    exact .refl h

/-! ### Stacks -/

theorem changes_push (n : NodeId) {child : NodeId} (hchild : child < s.nodes.size) :
    Changes s (Change.raises s (.push n child)) (s.push n child) := by
  cases hbody : s.body n with
  | stack orientation slots =>
    simp only [push, Change.raises, hbody]
    have hn : n < s.nodes.size := lt_size_of_body hbody (by simp)
    obtain ⟨s₁, slot, hentry, henter, hentered, hsame, hsize⟩ := h.enter n hchild
    have hbody' : s₁.body n = .stack orientation slots := (hsame n).trans hbody
    have hn' : n < s₁.nodes.size := hsize ▸ hn
    rw [hentry]
    have hsound : (Body.stack orientation (slots ++ [slot])).Sound s₁.nodes.size := trivial
    refine .raised (henter.weaken.trans (edits_setBody s₁ n hsound)) ?_ (.refl _)
    refine hentered.setBody hn' ?_ fun l hl => (Function.update_of_ne hl _ _).symm
    rw [Function.update_self, hbody']
    exact (List.perm_append_singleton slot slots).symm
  | _ =>
    simp only [push, Change.raises, hbody]
    exact .refl h

/-- Places of a node are given up, and the rest stay. -/
theorem changes_giveUp {n : NodeId} {orientation : Option Orientation} {slots gone rest : List Slot}
    (hbody : s.body n = .stack orientation slots) (hperm : slots.Perm (gone ++ rest)) :
    Changes s (some n) (((s.setBody n (.stack orientation rest)).leaveAll gone).raise n).sweep := by
  have hn : n < s.nodes.size := lt_size_of_body hbody (by simp)
  have hsound : (Body.stack orientation rest).Sound s.nodes.size := trivial
  have hlinked : (s.setBody n (.stack orientation rest)).Linked
      (Function.update nothing (.forward n) gone) := by
    refine h.setBody hn ?_ fun l hl => Function.update_of_ne hl _ _
    rw [Function.update_self, hbody]
    exact hperm
  refine .released ((edits_setBody s n hsound).trans (edits_leaveAll _ _).weaken)
    (hlinked.leaveAll_last rfl) fun m k hholds => ?_
  obtain ⟨slot, hslot, hk⟩ := hholds
  rw [body_leaveAll, body_setBody] at hslot
  split at hslot
  · next hm =>
    obtain ⟨rfl, _⟩ := hm
    rw [Holds, hbody]
    exact ⟨slot, hperm.mem_iff.mpr (List.mem_append_right _ hslot), hk⟩
  · exact ⟨slot, hslot, hk⟩

theorem changes_remove (n child : NodeId) :
    Changes s (Change.raises s (.remove n child)) (s.remove n child).1 := by
  cases hbody : s.body n with
  | stack orientation slots =>
    simp only [remove, Change.raises, hbody]
    cases hfind : slots.find? (·.node == child) with
    | none =>
      have hany : slots.any (·.node == child) = false := by simpa using hfind
      rw [hany]
      exact .refl h
    | some slot =>
      obtain ⟨hslot, before, after, rfl, hbefore⟩ := List.find?_eq_some_iff_append.mp hfind
      have hany : (before ++ slot :: after).any (·.node == child) = true :=
        List.any_eq_true.mpr ⟨slot, List.mem_append_right _ (List.mem_cons_self ..), hslot⟩
      have herased : (before ++ slot :: after).eraseP (·.node == child) = before ++ after := by
        have hcons : (slot :: after).eraseP (·.node == child) = after := List.eraseP_cons_of_pos hslot
        rw [List.eraseP_append_right _ fun other hother => by simpa using hbefore other hother, hcons]
      have hperm : (before ++ slot :: after).Perm ([slot] ++ (before ++ after)) := List.perm_middle
      have hgiven := changes_giveUp h hbody hperm
      rw [leaveAll, List.foldl_cons, List.foldl_nil] at hgiven
      simp only [hany, herased, if_true]
      exact hgiven
  | _ =>
    simp only [remove, Change.raises, hbody]
    exact .refl h

theorem changes_clear (n : NodeId) : Changes s (Change.raises s (.clear n)) (s.clear n) := by
  cases hbody : s.body n with
  | stack orientation slots =>
    cases slots with
    | nil =>
      simp only [clear, Change.raises, hbody]
      exact .refl h
    | cons slot rest =>
      simp only [clear, Change.raises, hbody]
      refine changes_giveUp h hbody ?_
      rw [List.append_nil]
  | _ =>
    simp only [clear, Change.raises, hbody]
    exact .refl h

/-! ### Grids and tables -/

/-- Tracks are replaced before a grid is filled, when it holds nothing, and never after that. -/
theorem changes_setTracks (hs : s.Fit) (n : NodeId) (new : Grid Slot → Grid Slot) :
    Changes s
      (match s.body n with
        | .grid g => if g.locked then none else some n
        | _ => none)
      (s.accept (s.setTracks n new)) := by
  unfold setTracks
  cases hbody : s.body n with
  | grid g =>
    cases hopen : g.locked with
    | true =>
      simp only [Grid.setTracks, hopen, if_true]
      exact .refl h
    | false =>
      simp only [Grid.setTracks, hopen, Bool.false_eq_true, if_false]
      have hn : n < s.nodes.size := lt_size_of_body hbody (by simp)
      have hsound : (Body.grid (new g).blank).Sound s.nodes.size := (new g).shaped_blank
      have hempty : g.contents = [] := by
        have hshaped := hs n
        rw [hbody] at hshaped
        exact hshaped.open_empty hopen
      refine .raised (edits_setBody s n hsound) (h.setBody hn ?_ fun _ _ => rfl) (.refl _)
      rw [hbody]
      exact .of_eq (congrArg _ (hempty.trans (new g).contents_blank.symm))
  | _ => exact .refl h

/-- A grid refuses a cell that it does not have. -/
theorem place_cases (hs : s.Fit) (n : NodeId) {child : NodeId} (hchild : child < s.nodes.size)
    (column row : Nat) :
    (∃ e, s.place n child column row = .error e) ∨
      ∃ s', s.place n child column row = .ok s' ∧ Edits (some n) s s' ∧ s'.Linked nothing := by
  cases hbody : s.body n with
  | grid g =>
    by_cases hcell : column < g.columnCount ∧ row < g.rowCount
    · obtain ⟨s', _, hplace, hedits, hlinked, _, _⟩ := place_spec h hs hbody hchild hcell.1 hcell.2
      exact .inr ⟨s', hplace, hedits, hlinked⟩
    · refine .inl ⟨.cellOutOfRange column row g.columnCount g.rowCount, ?_⟩
      simp only [place, hbody, Grid.place, Grid.index?, if_neg hcell]
  | _ => exact .inr ⟨s, by simp only [place, hbody], .refl s, h⟩

theorem changes_setChild (hs : s.Fit) (n : NodeId) {child : NodeId} (hchild : child < s.nodes.size)
    (column row : Nat) :
    Changes s (Change.raises s (.setChild n child column row))
      (s.accept (s.setChild n child column row)) := by
  simp only [setChild, Change.raises]
  obtain ⟨e, hplace⟩ | ⟨s', hplace, hedits, hlinked⟩ := place_cases h hs n hchild column row
  · rw [hplace]
    exact .refl h
  · rw [hplace]
    exact .raised hedits hlinked (swept_sweep s')

/-- The holds of a call end, and a table takes the grid that was built for it. -/
theorem changes_install (hs : s.Fit) (n : NodeId) {new : List TableColumn} (items : List (List String))
    {grid : NodeId} (hvalid : (Change.install n new items grid).Valid s) :
    Changes s (Change.raises s (.install n new items grid)) (s.install n new items grid) := by
  obtain ⟨hgrid, hnew⟩ := hvalid
  let free : Scene := { s with held := (grid :: new.map TableColumn.header).foldl List.erase s.held }
  have hfree : Edits none s free := edits_of_nodes rfl rfl rfl rfl
  have hlinked : free.Linked nothing := h.congr rfl fun _ => rfl
  have hsame : free.body n = s.body n := body_of_nodes rfl n
  unfold install
  cases hbody : s.body n with
  | table t =>
    have hcolumns : ∀ c ∈ t.columns ++ new, c.header < s.nodes.size := fun c hc => by
      have hfits := hs n
      rw [hbody] at hfits
      exact (List.mem_append.mp hc).elim (hfits c) (hnew c)
    obtain ⟨hedits, hlinked'⟩ := regrid_spec hlinked (hsame.trans hbody) hgrid hcolumns items
    simp only [Change.raises, hbody]
    rw [show (free.body n) = .table t from hsame.trans hbody]
    exact .raised (hfree.weaken.trans hedits) hlinked' (swept_sweep _)
  | _ =>
    simp only [Change.raises, hbody]
    rw [show free.body n = _ from hsame.trans hbody]
    exact .quiet hfree hlinked (swept_sweep free)

/-! ### All changes -/

/-- A counter stands in no place. -/
theorem changes_watch {n : NodeId} (hn : n < s.nodes.size) : Changes s none (s.watch n).1 := by
  let counted : Scene := { s with hits := s.hits.push 0 }
  have hcounted : counted.Linked nothing := h.congr rfl fun _ => rfl
  have hcount : Edits none s counted := edits_of_nodes rfl rfl rfl rfl
  have hwatched : (counted.subscribe n (.watch s.hits.size)).1.Linked nothing := by
    rw [Linked, places_subscribe]
    exact Wired.watch _ hcounted hn rfl
  exact .quiet (hcount.trans (edits_subscribe _ _ _)) hwatched (.refl _)

/-- **A change edits its node and raises one update of it**, or edits nothing that was there. -/
theorem change_spec (hs : s.Fit) (c : Change) (hc : c.Valid s) :
    Changes s (c.raises s) (s.change c) := by
  cases c with
  | content span =>
    have hsound : (Body.content span none).Sound (s.nodes.size + 1) := trivial
    exact changes_create h hsound rfl
  | stack orientation =>
    have hsound : (Body.stack orientation []).Sound (s.nodes.size + 1) := trivial
    exact changes_create h hsound rfl
  | grid gutter =>
    have hsound : (Body.grid { gutter }).Sound (s.nodes.size + 1) := ⟨rfl, fun _ => rfl⟩
    exact changes_create h hsound rfl
  | table gutter => exact changes_createTable h gutter
  | setSpan n span => exact changes_setSpan h n span
  | push n child => exact changes_push h n hc
  | remove n child => exact changes_remove h n child
  | clear n => exact changes_clear h n
  | setColumns n tracks | setRows n tracks => exact changes_setTracks h hs n _
  | setChild n child column row => exact changes_setChild h hs n hc column row
  | install n new items grid => exact changes_install h hs n items hc
  | watch n => exact changes_watch h hc
  | hold n =>
    have hedits : Edits none s (s.hold n) := edits_of_nodes rfl rfl rfl rfl
    have hlinked : (s.hold n).Linked nothing := h.congr rfl fun _ => rfl
    exact .quiet hedits hlinked (.refl _)
  | letGo n =>
    let less : Scene := { s with held := s.held.erase n }
    have hedits : Edits none s less := edits_of_nodes rfl rfl rfl rfl
    have hlinked : less.Linked nothing := h.congr rfl fun _ => rfl
    exact .quiet hedits hlinked (swept_sweep less)

end

/-! ### Displays -/

theorem detach_eq (s : Scene) (slot : Option Slot) : s.detach slot = s.leaveAll slot.toList := by
  cases slot <;> rfl

/-- A display that is to show a node listens to it. -/
theorem attach_spec {s : Scene} (h : s.Linked nothing) (i : DisplayId) {child : Option NodeId}
    (hchild : ∀ n ∈ child, n < s.nodes.size) :
    (s.attach i child).2.map (·.node) = child ∧ Edits none s (s.attach i child).1 ∧
      (s.attach i child).1.Linked
        (Function.update nothing (.display i) (s.attach i child).2.toList) := by
  cases child with
  | none =>
    refine ⟨rfl, .refl s, ?_⟩
    show s.Linked (Function.update nothing (.display i) [])
    rw [update_nothing]
    exact h
  | some n => exact ⟨rfl, edits_subscribe s n _, h.subscribe (hchild n rfl) rfl⟩

/-- A display takes up the slot in hand and has the one before in hand. -/
theorem Linked.showSlot {s : Scene} {i : DisplayId} {slot : Option Slot}
    (h : s.Linked (Function.update nothing (.display i) slot.toList)) {display : Display}
    (f : Display → Display) (hdisplay : s.displays[i]? = some display)
    (hf : (f display).child = slot) :
    (s.modifyDisplay i f).Linked (Function.update nothing (.display i) display.child.toList) := by
  have hsame : ∀ n, (s.modifyDisplay i f).notifier n = s.notifier n := fun _ => rfl
  apply Wired.perm (Wired.congr h hsame)
  intro l
  by_cases hl : l = .display i
  · subst hl
    have hplaces : (s.modifyDisplay i f).places (.display i) = slot.toList := by
      rw [places, modifyDisplay, Array.getElem?_modify, if_pos rfl, hdisplay, ← hf]
      rfl
    rw [Function.update_self, Function.update_self, hplaces, places, hdisplay]
    exact List.perm_append_comm
  · rw [Function.update_of_ne hl, Function.update_of_ne hl]
    cases l with
    | display j =>
      have hj : i ≠ j := fun heq => hl (congrArg Listener.display heq.symm)
      rw [places, places, modifyDisplay, Array.getElem?_modify, if_neg hj]
    | _ => exact .refl _

end Scene

end TextPane
