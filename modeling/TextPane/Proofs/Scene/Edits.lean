import TextPane.Proofs.Scene.Links
import TextPane.Scene.Table

/-! Changes of nodes.

A change of a scene is made of a few moves: a node is added, a slot is taken in hand, a node gets
another body, a subscription ends. `Edits only s s'` says what all of them have in common: the
terminal, the displays and the queues stay as they are, no node but `only` gets another body, and the
bodies that are new are sound. `Linked s hand` says which subscriptions there are meanwhile. -/
namespace TextPane

/-! ### Sound bodies -/

/-- A grid has as many cells as its columns and rows make, and they are empty until its tracks are
settled. -/
structure Grid.Shaped {α : Type} (g : Grid α) : Prop where
  length : g.cells.length = g.columnCount * g.rowCount
  open_empty : g.locked = false → g.contents = []

theorem Grid.contents_blank {α : Type} (g : Grid α) : g.blank.contents = [] := by
  simp [contents, blank]

theorem Grid.shaped_blank {α : Type} (g : Grid α) : g.blank.Shaped :=
  ⟨List.length_replicate, fun _ => g.contents_blank⟩

/-- A body that a scene of so many nodes may have. It raises no update when it is rendered. -/
def Body.Sound (size : Nat) : Body → Prop
  | .grid g => g.Shaped
  | .table t => ∀ c ∈ t.columns, c.header < size
  | .probe _ => False
  | .content .. | .stack .. | .gone => True

theorem Body.Sound.mono {size size' : Nat} (h : size ≤ size') {b : Body} (hb : b.Sound size) :
    b.Sound size' := by
  cases b with
  | table t => exact fun c hc => Nat.lt_of_lt_of_le (hb c hc) h
  | _ => exact hb

/-- A body that a scene of so many nodes may have, probes among them. -/
def Body.Fits (size : Nat) : Body → Prop
  | .probe _ => True
  | b => b.Sound size

theorem Body.Sound.fits {size : Nat} {b : Body} (hb : b.Sound size) : b.Fits size := by
  cases b with
  | probe p => exact hb.elim
  | _ => exact hb

theorem Body.Fits.mono {size size' : Nat} (h : size ≤ size') {b : Body} (hb : b.Fits size) :
    b.Fits size' := by
  cases b with
  | probe p => trivial
  | table t => exact Body.Sound.mono (b := .table t) h hb
  | _ => exact hb

namespace Scene

/-- All bodies are sound. -/
def Sound (s : Scene) : Prop := ∀ n, (s.body n).Sound s.nodes.size

/-- All bodies are sound but for probes. -/
def Fit (s : Scene) : Prop := ∀ n, (s.body n).Fits s.nodes.size

theorem Sound.fit {s : Scene} (h : s.Sound) : s.Fit := fun n => (h n).fits

/-! ### Edits -/

/-- Of the nodes that were there before, no other than `only` has another body; bodies that are new are
sound; and nothing else changes but who listens. -/
structure Edits (only : Option NodeId) (s s' : Scene) : Prop where
  terminal : s'.terminal = s.terminal
  displays : s'.displays = s.displays
  queues : s'.queues = s.queues
  size : s.nodes.size ≤ s'.nodes.size
  body : ∀ m < s.nodes.size, only ≠ some m → s'.body m = s.body m
  sound : ∀ m, s'.body m = s.body m ∨ (s'.body m).Sound s'.nodes.size

namespace Edits
variable {only : Option NodeId} {s s' s'' : Scene}

theorem refl (s : Scene) : Edits only s s :=
  ⟨rfl, rfl, rfl, Nat.le_refl _, fun _ _ _ => rfl, fun _ => .inl rfl⟩

theorem trans_of {first second : Option NodeId} (h : Edits first s s') (h' : Edits second s' s'')
    (hfirst : ∀ m < s.nodes.size, only ≠ some m → first ≠ some m)
    (hsecond : ∀ m < s.nodes.size, only ≠ some m → second ≠ some m) : Edits only s s'' where
  terminal := h'.terminal.trans h.terminal
  displays := h'.displays.trans h.displays
  queues := h'.queues.trans h.queues
  size := Nat.le_trans h.size h'.size
  body m hm hne := by
    rw [h'.body m (Nat.lt_of_lt_of_le hm h.size) (hsecond m hm hne), h.body m hm (hfirst m hm hne)]
  sound m := by
    rcases h'.sound m with heq | hsound
    · rcases h.sound m with heq' | hsound'
      · exact .inl (heq.trans heq')
      · exact .inr (heq ▸ hsound'.mono h'.size)
    · exact .inr hsound

theorem trans (h : Edits only s s') (h' : Edits only s' s'') : Edits only s s'' :=
  h.trans_of h' (fun _ _ h => h) (fun _ _ h => h)

/-- Where no node gets another body, none but `only` does. -/
theorem weaken (h : Edits none s s') : Edits only s s' :=
  h.trans_of (refl s' : Edits none s' s') (fun _ _ _ => by simp) (fun _ _ _ => by simp)

theorem sound_all (h : Edits only s s') (hs : s.Sound) : s'.Sound := fun n => by
  rcases h.sound n with heq | hsound
  · rw [heq]
    exact (hs n).mono h.size
  · exact hsound

theorem fit_all (h : Edits only s s') (hs : s.Fit) : s'.Fit := fun n => by
  rcases h.sound n with heq | hsound
  · rw [heq]
    exact (hs n).mono h.size
  · exact hsound.fits

end Edits

section Moves
variable (s : Scene)

theorem edits_subscribe (n : NodeId) (l : Listener) : Edits none s (s.subscribe n l).1 :=
  ⟨rfl, rfl, rfl, Nat.le_of_eq (size_subscribe s n l).symm, fun m _ _ => body_subscribe s n l m,
    fun m => .inl (body_subscribe s n l m)⟩

theorem edits_leave (slot : Slot) : Edits none s (s.leave slot) :=
  ⟨rfl, rfl, rfl, Nat.le_of_eq (size_leave s slot).symm, fun m _ _ => body_leave s slot m,
    fun m => .inl (body_leave s slot m)⟩

theorem edits_leaveAll (slots : List Slot) : Edits none s (s.leaveAll slots) := by
  induction slots generalizing s with
  | nil => exact .refl s
  | cons slot rest ih => exact (edits_leave s slot).trans (ih _)

theorem edits_addNode {b : Body} (hb : b.Sound (s.nodes.size + 1)) : Edits none s (s.addNode b).1 where
  terminal := rfl
  displays := rfl
  queues := rfl
  size := Nat.le_of_lt (by rw [size_addNode]; exact Nat.lt_succ_self _)
  body m hm _ := by rw [body_addNode, if_neg (Nat.ne_of_lt hm)]
  sound m := by
    rw [body_addNode, size_addNode]
    split
    · exact .inr hb
    · exact .inl rfl

theorem edits_setBody (n : NodeId) {b : Body} (hb : b.Sound s.nodes.size) :
    Edits (some n) s (s.setBody n b) where
  terminal := rfl
  displays := rfl
  queues := rfl
  size := Nat.le_of_eq (size_setBody s n b).symm
  body m _ hne := by
    have hnm : n ≠ m := fun heq => hne (congrArg some heq)
    rw [body_setBody, if_neg fun h => hnm h.1]
  sound m := by
    rw [body_setBody, size_setBody]
    split
    · exact .inr hb
    · exact .inl rfl

/-- A node that is added may get its body at the end. -/
theorem edits_build {b b' : Body} {s' : Scene} (h : Edits none (s.addNode b).1 s')
    (hb' : b'.Sound s'.nodes.size) : Edits none s (s'.setBody s.nodes.size b') := by
  have hsize : s.nodes.size < s'.nodes.size := by
    have hle := h.size
    rw [size_addNode] at hle
    exact hle
  refine ⟨h.terminal, h.displays, h.queues, ?_, fun m hm _ => ?_, fun m => ?_⟩
  · rw [size_setBody]
    exact Nat.le_of_lt hsize
  · have hne : m ≠ s.nodes.size := Nat.ne_of_lt hm
    rw [body_setBody, if_neg fun h => hne h.1.symm, h.body m (by rw [size_addNode]; omega) (by simp),
      body_addNode, if_neg hne]
  · rw [body_setBody, size_setBody]
    by_cases hm : s.nodes.size = m
    · subst hm
      rw [if_pos ⟨rfl, hsize⟩]
      exact .inr hb'
    · rw [if_neg fun h => hm h.1]
      have hold := h.sound m
      rwa [body_addNode, if_neg (Ne.symm hm)] at hold

end Moves

/-! ### Slots in places and in hand -/

/-- The slots in the places that a listener stands for. -/
def places (s : Scene) : Listener → List Slot
  | .forward n => (s.body n).slots
  | .display i => ((s.displays[i]?).bind (·.child)).toList
  | .watch _ => []

/-- The slots in places and in hand are those through which nodes are listened to. -/
def Linked (s : Scene) (hand : Listener → List Slot) : Prop := s.Wired fun l => hand l ++ s.places l

/-- Nothing in hand. -/
def nothing : Listener → List Slot := fun _ => []

theorem update_nothing (l : Listener) : Function.update nothing l [] = nothing :=
  Function.update_eq_self l nothing

theorem places_congr {s s' : Scene} (hbody : ∀ n, s'.body n = s.body n)
    (hdisplays : s'.displays = s.displays) : s'.places = s.places := by
  funext l
  cases l with
  | forward n => rw [places, places, hbody]
  | display i => rw [places, places, hdisplays]
  | watch k => rfl

@[simp] theorem places_subscribe (s : Scene) (n : NodeId) (l : Listener) :
    (s.subscribe n l).1.places = s.places := places_congr (body_subscribe s n l) rfl

@[simp] theorem places_leave (s : Scene) (slot : Slot) : (s.leave slot).places = s.places :=
  places_congr (body_leave s slot) rfl

@[simp] theorem places_leaveAll (s : Scene) (slots : List Slot) :
    (s.leaveAll slots).places = s.places := by
  induction slots generalizing s with
  | nil => rfl
  | cons slot rest ih => exact (ih _).trans (places_leave s slot)

theorem places_addNode (s : Scene) {b : Body} (hb : b.slots = []) :
    (s.addNode b).1.places = s.places := by
  funext l
  cases l with
  | forward n =>
    rw [places, places, body_addNode]
    split
    · next h => rw [h, body_of_size_le (Nat.le_refl _), hb]; rfl
    · rfl
  | display i => rfl
  | watch k => rfl

namespace Linked
variable {s : Scene} {hand : Listener → List Slot}

theorem addNode (h : s.Linked hand) {b : Body} (hb : b.slots = []) : (s.addNode b).1.Linked hand := by
  rw [Linked, places_addNode s hb]
  exact Wired.congr h (notifier_addNode s b)

/-- A node that is taken into a place to be is subscribed to. -/
theorem subscribe (h : s.Linked hand) {n : NodeId} (hn : n < s.nodes.size) {l : Listener}
    (hl : l.isPlace) :
    (s.subscribe n l).1.Linked (Function.update hand l (⟨n, (s.subscribe n l).2⟩ :: hand l)) := by
  rw [Linked, places_subscribe]
  apply (Wired.subscribe l h hn hl).perm
  intro l'
  by_cases heq : l' = l
  · subst heq
    simp
  · simp [Function.update_of_ne heq]

/-- A node that enters a place is in hand for it, and nothing else has changed. -/
theorem enter (h : s.Linked hand) (parent : NodeId) {child : NodeId} (hchild : child < s.nodes.size) :
    ∃ s' slot, s.enter parent child = (s', slot) ∧ Edits none s s' ∧
      s'.Linked (Function.update hand (.forward parent) (slot :: hand (.forward parent))) ∧
      (∀ m, s'.body m = s.body m) ∧ s'.nodes.size = s.nodes.size :=
  ⟨_, _, rfl, edits_subscribe s child _, h.subscribe hchild rfl, body_subscribe s child _,
    size_subscribe s child _⟩

/-- What is in hand may be given up. -/
theorem leaveAll (h : s.Linked hand) {l : Listener} (hl : l.isPlace) {slots rest : List Slot}
    (hhand : (hand l).Perm (slots ++ rest)) :
    (s.leaveAll slots).Linked (Function.update hand l rest) := by
  rw [Linked, places_leaveAll]
  have hperm : (hand l ++ s.places l).Perm (slots ++ (rest ++ s.places l)) := by
    rw [← List.append_assoc]
    exact hhand.append_right _
  apply (Wired.leaveAll h hl hperm).perm
  intro l'
  by_cases heq : l' = l
  · subst heq
    simp
  · simp [Function.update_of_ne heq]

/-- All that is in hand may be given up. -/
theorem leaveAll_last {l : Listener} {slots : List Slot} (hl : l.isPlace)
    (h : s.Linked (Function.update nothing l slots)) : (s.leaveAll slots).Linked nothing := by
  have hrest : (s.leaveAll slots).Linked (Function.update (Function.update nothing l slots) l []) :=
    h.leaveAll hl (by rw [Function.update_self, List.append_nil])
  rwa [Function.update_idem, update_nothing] at hrest

theorem leave_last {n : NodeId} {slot : Slot}
    (h : s.Linked (Function.update nothing (.forward n) [slot])) : (s.leave slot).Linked nothing :=
  leaveAll_last rfl h

/-- A body lays slots down or takes them up. -/
theorem setBody (h : s.Linked hand) {n : NodeId} (hn : n < s.nodes.size) {b : Body}
    {hand' : Listener → List Slot}
    (hslots : (hand (.forward n) ++ (s.body n).slots).Perm (hand' (.forward n) ++ b.slots))
    (hrest : ∀ l ≠ .forward n, hand' l = hand l) : (s.setBody n b).Linked hand' := by
  apply Wired.perm (Wired.congr h (notifier_setBody s n b))
  intro l
  by_cases heq : l = .forward n
  · subst heq
    have hbody : (s.setBody n b).places (.forward n) = b.slots := by
      rw [places, body_setBody, if_pos ⟨rfl, hn⟩]
    rw [hbody]
    exact hslots
  · have hplaces : (s.setBody n b).places l = s.places l := by
      cases l with
      | forward m =>
        have hne : n ≠ m := fun hnm => heq (congrArg Listener.forward hnm.symm)
        rw [places, places, body_setBody, if_neg fun h => hne h.1]
      | display i => rfl
      | watch k => rfl
    rw [hplaces, hrest l heq]

/-- A node that was added takes up what is in hand for it. -/
theorem build {s' : Scene} {b b' : Body} {n : NodeId} (hn : n = s.nodes.size) (hb : b.slots = [])
    (hedits : Edits none (s.addNode b).1 s')
    (h : s'.Linked (Function.update hand (.forward n) (b'.slots ++ hand (.forward n))))
    (hb' : b'.Sound s'.nodes.size) :
    Edits none s (s'.setBody n b') ∧ (s'.setBody n b').Linked hand ∧
      n < (s'.setBody n b').nodes.size := by
  subst hn
  have hadded : s.nodes.size < (s.addNode b).1.nodes.size := by
    rw [size_addNode]
    exact Nat.lt_succ_self _
  have hn : s.nodes.size < s'.nodes.size := Nat.lt_of_lt_of_le hadded hedits.size
  have hbody : s'.body s.nodes.size = b := by
    rw [hedits.body _ hadded (by simp), body_addNode, if_pos rfl]
  refine ⟨edits_build s hedits hb', ?_, by rwa [size_setBody]⟩
  refine h.setBody hn ?_ fun l hl => (Function.update_of_ne hl _ _).symm
  rw [Function.update_self, hbody, hb, List.append_nil]
  exact List.perm_append_comm

/-- A place that is held is on a node of the scene. -/
theorem node_lt (h : s.Linked nothing) {n : NodeId} {slot : Slot} (hslot : slot ∈ (s.body n).slots) :
    slot.node < s.nodes.size := Wired.node_lt h (l := .forward n) rfl hslot

end Linked

end Scene

end TextPane
