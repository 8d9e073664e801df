import Mathlib.Data.List.Nodup
import Mathlib.Data.List.Perm.Basic
import Mathlib.Logic.Function.Basic
import TextPane.Scene.Container

/-! Places and their subscriptions.

Every place that holds a node listens to it through a subscription of its own, and no subscription
outlives its place. Between the two steps of a change a subscription has no place yet, or no longer:
it is in hand. `Linked s hand` says that the listeners of all nodes are those of the places of the
scene and of what is in hand, each through its own number.

Subscribing takes a slot in hand (`Linked.subscribe`), a new body may lay slots down or take them up
(`Linked.setBody`), and ending a subscription needs its slot in hand (`Linked.leave`). -/
namespace TextPane

/-- Whether a listener stands for places that hold nodes. -/
def Listener.isPlace : Listener → Bool
  | .watch _ => false
  | .forward _ | .display _ => true

namespace Scene

/-! ### Nodes one by one -/

/-- The notifier of a node. -/
def notifier (s : Scene) (n : NodeId) : Notifier Listener := (s.node n).notifier

theorem node_modifyNode (s : Scene) (n : NodeId) (f : Node → Node) (m : NodeId) :
    (s.modifyNode n f).node m = if n = m ∧ m < s.nodes.size then f (s.node m) else s.node m := by
  simp only [node, modifyNode, Array.getElem?_modify]
  by_cases hn : n = m
  · by_cases hm : m < s.nodes.size
    · simp [hn, hm]
    · simp [hn, hm]
  · simp [hn]

@[simp] theorem size_modifyNode (s : Scene) (n : NodeId) (f : Node → Node) :
    (s.modifyNode n f).nodes.size = s.nodes.size := by simp [modifyNode]

@[simp] theorem size_setBody (s : Scene) (n : NodeId) (b : Body) :
    (s.setBody n b).nodes.size = s.nodes.size := size_modifyNode ..

theorem body_setBody (s : Scene) (n : NodeId) (b : Body) (m : NodeId) :
    (s.setBody n b).body m = if n = m ∧ m < s.nodes.size then b else s.body m := by
  simp only [body, setBody, node_modifyNode]
  split <;> rfl

@[simp] theorem notifier_setBody (s : Scene) (n : NodeId) (b : Body) (m : NodeId) :
    (s.setBody n b).notifier m = s.notifier m := by
  simp only [notifier, setBody, node_modifyNode]
  split <;> rfl

/-- Where there is no node there is nothing. -/
theorem node_of_size_le {s : Scene} {n : NodeId} (h : s.nodes.size ≤ n) : s.node n = {} := by
  simp [node, Array.getElem?_eq_none h]
  rfl

theorem body_of_size_le {s : Scene} {n : NodeId} (h : s.nodes.size ≤ n) : s.body n = .gone := by
  rw [body, node_of_size_le h]

theorem body_addNode (s : Scene) (b : Body) (m : NodeId) :
    (s.addNode b).1.body m = if m = s.nodes.size then b else s.body m := by
  simp only [body, node, addNode, Array.getElem?_push]
  split <;> rfl

@[simp] theorem notifier_addNode (s : Scene) (b : Body) (m : NodeId) :
    (s.addNode b).1.notifier m = s.notifier m := by
  simp only [notifier, node, addNode, Array.getElem?_push]
  split
  · next h =>
    rw [h, Array.getElem?_eq_none (Nat.le_refl _)]
    rfl
  · rfl

@[simp] theorem addNode_snd (s : Scene) (b : Body) : (s.addNode b).2 = s.nodes.size := rfl

@[simp] theorem size_addNode (s : Scene) (b : Body) :
    (s.addNode b).1.nodes.size = s.nodes.size + 1 := by simp [addNode]

/-! ### Subscriptions one by one -/

theorem notifier_subscribe (s : Scene) (n : NodeId) (l : Listener) (m : NodeId) :
    (s.subscribe n l).1.notifier m =
      if n = m ∧ m < s.nodes.size then ((s.notifier m).subscribe l).1 else s.notifier m := by
  simp only [notifier, subscribe, node_modifyNode]
  split
  · next h => rw [h.1]
  · rfl

theorem notifier_leave (s : Scene) (slot : Slot) (m : NodeId) :
    (s.leave slot).notifier m =
      if slot.node = m ∧ m < s.nodes.size then ((s.notifier m).unsubscribe slot.subscription).1
      else s.notifier m := by
  simp only [notifier, leave, unsubscribe, node_modifyNode]
  split
  · next h => rw [h.1]
  · rfl

@[simp] theorem body_subscribe (s : Scene) (n : NodeId) (l : Listener) (m : NodeId) :
    (s.subscribe n l).1.body m = s.body m := by
  simp only [body, subscribe, node_modifyNode]
  split <;> rfl

@[simp] theorem size_subscribe (s : Scene) (n : NodeId) (l : Listener) :
    (s.subscribe n l).1.nodes.size = s.nodes.size := size_modifyNode ..

@[simp] theorem body_leave (s : Scene) (slot : Slot) (m : NodeId) :
    (s.leave slot).body m = s.body m := by
  simp only [body, leave, unsubscribe, node_modifyNode]
  split <;> rfl

@[simp] theorem size_leave (s : Scene) (slot : Slot) : (s.leave slot).nodes.size = s.nodes.size :=
  size_modifyNode ..

/-! ### Listeners and the slots they listen through -/

/-- The listeners of all nodes are numbered apart, and each one that stands for places listens through
the slots of `use`. -/
structure Wired (s : Scene) (use : Listener → List Slot) : Prop where
  fresh : ∀ n, ∀ x ∈ (s.notifier n).listeners, x.1 < (s.notifier n).next
  ids : ∀ n, ((s.notifier n).listeners.map Prod.fst).Nodup
  nodup : ∀ l, (use l).Nodup
  listens : ∀ l, l.isPlace → ∀ slot : Slot,
    (slot.subscription, l) ∈ (s.notifier slot.node).listeners ↔ slot ∈ use l

namespace Wired
variable {s s' : Scene} {use : Listener → List Slot}

theorem congr (h : s.Wired use) (heq : ∀ n, s'.notifier n = s.notifier n) : s'.Wired use :=
  ⟨fun n => heq n ▸ h.fresh n, fun n => heq n ▸ h.ids n, h.nodup, fun l hl slot => by
    rw [heq]
    exact h.listens l hl slot⟩

theorem perm (h : s.Wired use) {use' : Listener → List Slot} (hperm : ∀ l, (use l).Perm (use' l)) :
    s.Wired use' :=
  ⟨h.fresh, h.ids, fun l => (hperm l).nodup_iff.mp (h.nodup l), fun l hl slot => by
    rw [h.listens l hl slot, (hperm l).mem_iff]⟩

/-- What listens through a slot is on a node of the scene. -/
theorem node_lt (h : s.Wired use) {l : Listener} (hl : l.isPlace) {slot : Slot}
    (hslot : slot ∈ use l) : slot.node < s.nodes.size := by
  by_contra hsize
  have hlistens := (h.listens l hl slot).mpr hslot
  rw [notifier, node_of_size_le (Nat.not_lt.mp hsize)] at hlistens
  cases hlistens

/-- One number belongs to one listener. -/
theorem eq_of_listens (h : s.Wired use) {n id : Nat} {l l' : Listener}
    (hl : (id, l) ∈ (s.notifier n).listeners) (hl' : (id, l') ∈ (s.notifier n).listeners) : l = l' :=
  congrArg Prod.snd (List.inj_on_of_nodup_map (h.ids n) hl hl' rfl)

/-- A subscription with its number. -/
theorem subscribe_eq (n : NodeId) (l : Listener) :
    (s.subscribe n l).2 = (s.notifier n).next := rfl

theorem listeners_subscribe (N : Notifier Listener) (l : Listener) :
    (N.subscribe l).1 = ⟨N.next + 1, N.listeners ++ [(N.next, l)]⟩ := rfl

section Subscribe
variable {n : NodeId} (l : Listener)

theorem fresh_subscribe (h : s.Wired use) (hn : n < s.nodes.size) (m : NodeId) :
    ∀ x ∈ ((s.subscribe n l).1.notifier m).listeners,
      x.1 < ((s.subscribe n l).1.notifier m).next := by
  intro x hx
  rw [notifier_subscribe] at hx ⊢
  by_cases hm : n = m
  · subst hm
    simp only [hn, and_self, if_true, listeners_subscribe] at hx ⊢
    rcases List.mem_append.mp hx with hx | hx
    · exact Nat.lt_succ_of_lt (h.fresh n x hx)
    · rw [List.mem_singleton.mp hx]
      exact Nat.lt_succ_self _
  · simp only [hm, false_and, if_false] at hx ⊢
    exact h.fresh m x hx

theorem ids_subscribe (h : s.Wired use) (hn : n < s.nodes.size) (m : NodeId) :
    (((s.subscribe n l).1.notifier m).listeners.map Prod.fst).Nodup := by
  rw [notifier_subscribe]
  by_cases hm : n = m
  · subst hm
    simp only [hn, and_self, if_true, listeners_subscribe, List.map_append, List.map_cons,
      List.map_nil]
    refine List.nodup_append.mpr ⟨h.ids n, List.nodup_singleton _, fun id hid id' hid' => ?_⟩
    rw [List.mem_singleton.mp hid']
    obtain ⟨x, hx, rfl⟩ := List.mem_map.mp hid
    exact Nat.ne_of_lt (h.fresh n x hx)
  · simp only [hm, false_and, if_false]
    exact h.ids m

theorem mem_subscribe (hn : n < s.nodes.size) (l' : Listener) (slot : Slot) :
    (slot.subscription, l') ∈ ((s.subscribe n l).1.notifier slot.node).listeners ↔
      (slot.subscription, l') ∈ (s.notifier slot.node).listeners ∨
        (slot = ⟨n, (s.notifier n).next⟩ ∧ l' = l) := by
  obtain ⟨m, id⟩ := slot
  rw [notifier_subscribe]
  by_cases hm : n = m
  · subst hm
    simp [hn, listeners_subscribe]
  · have hm' : m ≠ n := Ne.symm hm
    simp [hm, hm']

/-- The number of a new subscription is not in use yet. -/
theorem next_not_mem (h : s.Wired use) (hl : l.isPlace) :
    (⟨n, (s.notifier n).next⟩ : Slot) ∉ use l :=
  fun hmem => Nat.lt_irrefl _ (h.fresh n _ ((h.listens l hl _).mpr hmem))

/-- A counter takes no place. -/
theorem watch (h : s.Wired use) (hn : n < s.nodes.size) (hl : l.isPlace = false) :
    (s.subscribe n l).1.Wired use where
  fresh := h.fresh_subscribe l hn
  ids := h.ids_subscribe l hn
  nodup := h.nodup
  listens l' hl' slot := by
    rw [mem_subscribe l hn, h.listens l' hl']
    have hne : l' ≠ l := by
      rintro rfl
      rw [hl] at hl'
      cases hl'
    simp [hne]

/-- A new subscription is in use. -/
theorem subscribe (h : s.Wired use) (hn : n < s.nodes.size) (hl : l.isPlace) :
    (s.subscribe n l).1.Wired
      (Function.update use l (⟨n, (s.subscribe n l).2⟩ :: use l)) where
  fresh := h.fresh_subscribe l hn
  ids := h.ids_subscribe l hn
  nodup l' := by
    by_cases hl' : l' = l
    · subst hl'
      rw [Function.update_self]
      exact List.nodup_cons.mpr ⟨h.next_not_mem l' hl, h.nodup l'⟩
    · rw [Function.update_of_ne hl']
      exact h.nodup l'
  listens l' hl' slot := by
    rw [mem_subscribe l hn, h.listens l' hl', subscribe_eq]
    by_cases heq : l' = l
    · subst heq
      simp [or_comm]
    · simp [heq]

end Subscribe

/-- What is left of the listeners of a node when one subscription ends. -/
theorem mem_leave (s : Scene) (slot : Slot) (m : NodeId) (x : Nat × Listener) :
    x ∈ ((s.leave slot).notifier m).listeners ↔
      x ∈ (s.notifier m).listeners ∧ ¬(slot.node = m ∧ x.1 = slot.subscription) := by
  rw [notifier_leave]
  by_cases hm : slot.node = m
  · by_cases hsize : m < s.nodes.size
    · simp [hm, hsize, Notifier.unsubscribe]
    · rw [notifier, node_of_size_le (Nat.not_lt.mp hsize)]
      simp [hsize]
  · simp [hm]

theorem fresh_leave (h : s.Wired use) (slot : Slot) (m : NodeId) :
    ∀ x ∈ ((s.leave slot).notifier m).listeners, x.1 < ((s.leave slot).notifier m).next := by
  intro x hx
  have hold := h.fresh m x ((mem_leave s slot m x).mp hx).1
  rw [notifier_leave]
  split
  · exact hold
  · exact hold

theorem ids_leave (h : s.Wired use) (slot : Slot) (m : NodeId) :
    (((s.leave slot).notifier m).listeners.map Prod.fst).Nodup := by
  rw [notifier_leave]
  split
  · exact (h.ids m).sublist (List.filter_sublist.map _)
  · exact h.ids m

/-- The end of a counter takes up no place. -/
theorem unwatch (h : s.Wired use) {slot : Slot}
    (hfree : ∀ x ∈ (s.notifier slot.node).listeners, x.1 = slot.subscription → x.2.isPlace = false) :
    (s.leave slot).Wired use where
  fresh := h.fresh_leave slot
  ids := h.ids_leave slot
  nodup := h.nodup
  listens l hl slot' := by
    rw [mem_leave, h.listens l hl]
    refine and_iff_left_of_imp fun hslot => ?_
    rintro ⟨hnode, hid⟩
    have hlistens := (h.listens l hl slot').mpr hslot
    rw [← hnode] at hlistens
    have hcounter := hfree _ hlistens hid
    rw [hl] at hcounter
    cases hcounter

/-- A subscription that ends is no longer in use. -/
theorem leave (h : s.Wired use) {l : Listener} (hl : l.isPlace) {slot : Slot} (hslot : slot ∈ use l) :
    (s.leave slot).Wired (Function.update use l ((use l).erase slot)) where
  fresh := h.fresh_leave slot
  ids := h.ids_leave slot
  nodup l' := by
    by_cases heq : l' = l
    · subst heq
      rw [Function.update_self]
      exact (h.nodup l').erase _
    · rw [Function.update_of_ne heq]
      exact h.nodup l'
  listens l' hl' slot' := by
    have hlistens := (h.listens l hl slot).mpr hslot
    rw [mem_leave, h.listens l' hl']
    by_cases heq : l' = l
    · subst heq
      rw [Function.update_self, (h.nodup l').mem_erase_iff]
      obtain ⟨n, id⟩ := slot
      obtain ⟨n', id'⟩ := slot'
      simp only [ne_eq, Slot.mk.injEq]
      constructor
      · rintro ⟨hmem, hne⟩
        exact ⟨fun heq => hne ⟨heq.1.symm, heq.2⟩, hmem⟩
      · rintro ⟨hne, hmem⟩
        exact ⟨hmem, fun heq => hne ⟨heq.1.symm, heq.2⟩⟩
    · rw [Function.update_of_ne heq]
      refine ⟨And.left, fun hmem => ⟨hmem, ?_⟩⟩
      rintro ⟨hnode, hid⟩
      -- The number that ends would belong to two listeners.
      have hlistens' := (h.listens l' hl' slot').mpr hmem
      change slot'.subscription = slot.subscription at hid
      rw [← hnode, hid] at hlistens'
      exact heq (h.eq_of_listens hlistens' hlistens)

theorem leaveAll (h : s.Wired use) {l : Listener} (hl : l.isPlace) {slots rest : List Slot}
    (hperm : (use l).Perm (slots ++ rest)) :
    (s.leaveAll slots).Wired (Function.update use l rest) := by
  induction slots generalizing s use with
  | nil =>
    apply h.perm
    intro l'
    by_cases heq : l' = l
    · subst heq
      rw [Function.update_self]
      exact hperm
    · rw [Function.update_of_ne heq]
  | cons slot slots ih =>
    have hslot : slot ∈ use l := hperm.mem_iff.mpr (List.mem_cons_self ..)
    have herase : ((use l).erase slot).Perm (slots ++ rest) := by
      have hcons := hperm.erase slot
      rwa [List.cons_append, List.erase_cons_head] at hcons
    have hrest := ih (h.leave hl hslot) (by rwa [Function.update_self])
    rw [Function.update_idem] at hrest
    exact hrest

end Wired

end Scene

end TextPane
