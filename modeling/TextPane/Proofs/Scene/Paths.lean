import Mathlib.Algebra.BigOperators.Group.Finset.Basic
import Mathlib.Algebra.BigOperators.Ring.Finset
import TextPane.Proofs.Scene.Listeners

/-! The ways up from a node.

A node may stand in several places, and so may those that hold it. A path leads from a node up to one
that contains it, through one place at a time (`Leads`). Where no node stands in itself there are only so
many paths, and `paths` lists each of them once (`mem_paths`, `nodup_paths`).

Each place that holds a node listens to it, so an update goes on from a node as the paths do. How often
it is to call a counter is therefore a matter of paths (`calls`), and of what a round of the node calls
(`sum_heard`). -/
namespace TextPane

/-- The node to which a listener forwards an update. -/
def Listener.target? : Listener → Option NodeId
  | .forward p => some p
  | .watch _ | .display _ => none

namespace Scene

/-- From a node a path leads up to `a`: the places that it leads through, each with its holder and its
position there. -/
inductive Leads (s : Scene) (a : NodeId) : NodeId → List (NodeId × Nat) → Prop where
  | here : Leads s a a []
  | up {p k : Nat} {slot : Slot} {path : List (NodeId × Nat)} (stands : (s.slots p)[k]? = some slot)
      (rest : Leads s a p path) : Leads s a slot.node ((p, k) :: path)

/-- The places in which a node stands. -/
def standing (s : Scene) (n : NodeId) : List (NodeId × Nat) :=
  (List.range s.nodes.size).flatMap fun p =>
    ((s.slots p).zipIdx.filter (·.1.node == n)).map fun place => (p, place.2)

/-- The paths from a node up to `a` that are shorter than that. -/
def pathsWithin (s : Scene) : Nat → NodeId → NodeId → List (List (NodeId × Nat))
  | 0, _, _ => []
  | k + 1, n, a =>
    (if n = a then [[]] else []) ++
      (s.standing n).flatMap fun place => (s.pathsWithin k place.1 a).map (place :: ·)

/-- The paths from a node up to `a`. No node stands in itself, so they are shorter than there are nodes. -/
def paths (s : Scene) (n a : NodeId) : List (List (NodeId × Nat)) := s.pathsWithin s.nodes.size n a

section
variable {s : Scene} {n p a : NodeId} {k : Nat} {path : List (NodeId × Nat)}

/-! ### Places -/

theorem mem_standing {place : NodeId × Nat} :
    place ∈ s.standing n ↔ ∃ slot, (s.slots place.1)[place.2]? = some slot ∧ slot.node = n := by
  obtain ⟨p, k⟩ := place
  simp only [standing, List.mem_flatMap, List.mem_range, List.mem_map, List.mem_filter,
    List.mem_zipIdx_iff_getElem?, Prod.mk.injEq, beq_iff_eq]
  constructor
  · rintro ⟨p', _, ⟨slot, k'⟩, ⟨hslot, hnode⟩, rfl, rfl⟩
    exact ⟨slot, hslot, hnode⟩
  · rintro ⟨slot, hslot, hnode⟩
    refine ⟨p, ?_, (slot, k), ⟨hslot, hnode⟩, rfl, rfl⟩
    by_contra hp
    rw [slots, body_of_size_le (Nat.not_lt.mp hp)] at hslot
    cases hslot

theorem holds_iff : s.Holds p n ↔ ∃ k, (p, k) ∈ s.standing n := by
  constructor
  · rintro ⟨slot, hslot, hnode⟩
    obtain ⟨k, hk⟩ := List.mem_iff_getElem?.mp hslot
    exact ⟨k, mem_standing.mpr ⟨slot, hk, hnode⟩⟩
  · rintro ⟨k, hk⟩
    obtain ⟨slot, hslot, hnode⟩ := mem_standing.mp hk
    exact ⟨slot, List.mem_iff_getElem?.mpr ⟨k, hslot⟩, hnode⟩

theorem nodup_standing (s : Scene) (n : NodeId) : (s.standing n).Nodup := by
  refine List.nodup_flatMap.mpr ⟨fun p _ => ?_, ?_⟩
  · have hpositions : ((s.slots p).zipIdx.map Prod.snd).Nodup := by
      rw [List.zipIdx_map_snd]
      exact List.nodup_range'
    have hthere : (((s.slots p).zipIdx.filter (·.1.node == n)).map Prod.snd).Nodup :=
      hpositions.sublist (List.filter_sublist.map Prod.snd)
    have hpairs := hthere.map (f := fun k => (p, k)) fun k k' hk => (Prod.mk.inj hk).2
    rwa [List.map_map] at hpairs
  · refine List.nodup_range.imp fun {p p'} hne place hplace hplace' => ?_
    obtain ⟨_, _, rfl⟩ := List.mem_map.mp hplace
    obtain ⟨_, _, heq⟩ := List.mem_map.mp hplace'
    exact hne (Prod.mk.inj heq).1.symm

/-! ### Paths -/

theorem mem_pathsWithin : path ∈ s.pathsWithin k n a ↔ path.length < k ∧ s.Leads a n path := by
  induction k generalizing n path with
  | zero => simp [pathsWithin]
  | succ k ih =>
    rw [pathsWithin, List.mem_append, List.mem_flatMap]
    constructor
    · rintro (hhere | ⟨⟨p, position⟩, hplace, hpath⟩)
      · split at hhere
        · next heq =>
          rw [List.mem_singleton.mp hhere, heq]
          exact ⟨Nat.succ_pos k, .here⟩
        · cases hhere
      · obtain ⟨rest, hrest, rfl⟩ := List.mem_map.mp hpath
        obtain ⟨hlength, hleads⟩ := ih.mp hrest
        obtain ⟨slot, hslot, rfl⟩ := mem_standing.mp hplace
        exact ⟨Nat.succ_lt_succ hlength, .up hslot hleads⟩
    · rintro ⟨hlength, hleads⟩
      cases hleads with
      | here =>
        rw [if_pos rfl]
        exact .inl (List.mem_singleton_self _)
      | up stands rest =>
        have hrest := ih.mpr ⟨Nat.lt_of_succ_lt_succ hlength, rest⟩
        exact .inr ⟨_, mem_standing.mpr ⟨_, stands, rfl⟩, List.mem_map_of_mem hrest⟩

theorem nodup_pathsWithin (s : Scene) (k : Nat) (n a : NodeId) : (s.pathsWithin k n a).Nodup := by
  induction k generalizing n with
  | zero => exact List.nodup_nil
  | succ k ih =>
    rw [pathsWithin]
    refine List.nodup_append.mpr ⟨?_, List.nodup_flatMap.mpr ⟨fun place _ => ?_, ?_⟩, ?_⟩
    · split
      · exact List.nodup_singleton _
      · exact List.nodup_nil
    · exact (ih place.1).map fun path path' heq => (List.cons.inj heq).2
    · refine (s.nodup_standing n).imp fun {place place'} hne path hpath hpath' => ?_
      obtain ⟨_, _, rfl⟩ := List.mem_map.mp hpath
      obtain ⟨_, _, heq⟩ := List.mem_map.mp hpath'
      exact hne (List.cons.inj heq).1.symm
    · intro path hhere path' hup heq
      obtain ⟨place, _, hpath'⟩ := List.mem_flatMap.mp hup
      obtain ⟨rest, _, rfl⟩ := List.mem_map.mp hpath'
      split at hhere
      · rw [List.mem_singleton.mp hhere] at heq
        cases heq
      · cases hhere

theorem nodup_paths (s : Scene) (n a : NodeId) : (s.paths n a).Nodup := s.nodup_pathsWithin _ n a

theorem Leads.depth (h : s.Leads a n path) : s.Below a path.length n := by
  induction h with
  | here => exact .here
  | up stands _ ih => exact ih.step ⟨_, List.mem_iff_getElem?.mpr ⟨_, stands⟩, rfl⟩

theorem Leads.contains (h : s.Leads a n path) : s.Contains a n := by
  induction h with
  | here => exact .refl
  | up stands _ ih => exact ih.tail ⟨_, List.mem_iff_getElem?.mpr ⟨_, stands⟩, rfl⟩

theorem Contains.leads (h : s.Contains a n) : ∃ path, s.Leads a n path := by
  induction h with
  | refl => exact ⟨[], .here⟩
  | tail _ hholds ih =>
    obtain ⟨path, hpath⟩ := ih
    obtain ⟨slot, hslot, rfl⟩ := hholds
    obtain ⟨k, hk⟩ := List.mem_iff_getElem?.mp hslot
    exact ⟨_, .up hk hpath⟩

/-! ### No path is long -/

/-- A node stands in others no more than so many nodes deep. -/
def Tops (s : Scene) (h : Nat) (n : NodeId) : Prop := ∀ j c, s.Below c j n → j ≤ h

/-- Those who hold a node stand less deep. -/
theorem Tops.up {h : Nat} (htops : s.Tops h n) (hp : s.Holds p n) : ∃ h', h = h' + 1 ∧ s.Tops h' p := by
  cases h with
  | zero => exact absurd (htops 1 p (.step .here hp)) (Nat.not_succ_le_zero 0)
  | succ h => exact ⟨h, rfl, fun j c hbelow => Nat.le_of_succ_le_succ (htops _ c (hbelow.step hp))⟩

/-- Where no path is longer, more room for paths makes no more of them. -/
theorem pathsWithin_of_tops {h k' : Nat} (htops : s.Tops h n) (hk : h < k) (hk' : h < k') :
    s.pathsWithin k n a = s.pathsWithin k' n a := by
  induction h generalizing n k k' with
  | zero =>
    obtain ⟨k, rfl⟩ := Nat.exists_eq_add_of_lt hk
    obtain ⟨k', rfl⟩ := Nat.exists_eq_add_of_lt hk'
    have hnone : s.standing n = [] := List.eq_nil_iff_forall_not_mem.mpr fun place hplace => by
      obtain ⟨_, heq, _⟩ := htops.up (holds_iff.mpr ⟨place.2, hplace⟩)
      cases heq
    rw [pathsWithin, pathsWithin, hnone]
    rfl
  | succ h ih =>
    obtain ⟨k, rfl⟩ : ∃ j, k = j + 1 := ⟨k - 1, by omega⟩
    obtain ⟨k', rfl⟩ : ∃ j, k' = j + 1 := ⟨k' - 1, by omega⟩
    rw [pathsWithin, pathsWithin]
    refine congrArg _ (List.flatMap_congr fun place hplace => ?_)
    obtain ⟨h', heq, htops'⟩ := htops.up (holds_iff.mpr ⟨place.2, hplace⟩)
    obtain rfl := Nat.succ.inj heq
    rw [ih htops' (Nat.lt_of_succ_lt_succ hk) (Nat.lt_of_succ_lt_succ hk')]

theorem Below.lt_size {c : NodeId} (h : s.Below c k n) (hn : n < s.nodes.size) : c < s.nodes.size := by
  induction h with
  | here => exact hn
  | step _ hholds ih => exact ih (lt_size_of_holder hholds)

section Acyclic
variable (htied : s.Tied) (hs : s.Acyclic) (hn : n < s.nodes.size)
include htied hs hn

/-- Where no node stands in itself, none stands deeper than there are others. -/
theorem tops_of_acyclic : s.Tops (s.nodes.size - 1) n := fun _ _ hbelow =>
  Nat.le_sub_one_of_lt (hbelow.lt (shallow_of_acyclic htied.linked hs (hbelow.lt_size hn)))

/-- **The paths of a node are those that lead up from it.** -/
theorem mem_paths : path ∈ s.paths n a ↔ s.Leads a n path := by
  rw [paths, mem_pathsWithin]
  refine and_iff_right_of_imp fun hleads => ?_
  have hlength : path.length ≤ s.nodes.size - 1 := tops_of_acyclic htied hs hn _ _ hleads.depth
  exact Nat.lt_of_le_sub_one (Nat.zero_lt_of_lt hn) hlength

theorem paths_eq_nil_iff : s.paths n a = [] ↔ ¬s.Contains a n := by
  rw [List.eq_nil_iff_forall_not_mem]
  constructor
  · intro hnone hcontains
    obtain ⟨path, hpath⟩ := hcontains.leads
    exact hnone path ((mem_paths htied hs hn).mpr hpath)
  · exact fun hnot path hpath => hnot ((mem_paths htied hs hn).mp hpath).contains

/-- Only one path leads from a node to itself. -/
theorem paths_self : s.paths n n = [[]] := by
  have hhere : [] ∈ s.paths n n := (mem_paths htied hs hn).mpr .here
  have honly : ∀ path ∈ s.paths n n, path = [] := by
    intro path hpath
    have hleads := (mem_paths htied hs hn).mp hpath
    cases hleads with
    | here => rfl
    | up stands rest =>
      have hholds : s.Holds _ _ := ⟨_, List.mem_iff_getElem?.mpr ⟨_, stands⟩, rfl⟩
      exact (hs _ (.tail' rest.contains hholds)).elim
  have hreplicate := List.eq_replicate_of_mem honly
  have hnodup := s.nodup_paths n n
  rw [hreplicate] at hhere hnodup ⊢
  rw [List.nodup_replicate] at hnodup
  obtain ⟨hpos, _⟩ := List.mem_replicate.mp hhere
  rw [show (s.paths n n).length = 1 by omega]
  rfl

/-- A path leads on from a node through one of its places. -/
theorem paths_eq : s.paths n a = (if n = a then [[]] else []) ++
    (s.standing n).flatMap fun place => (s.paths place.1 a).map (place :: ·) := by
  have htops := tops_of_acyclic htied hs hn
  have hsize : s.nodes.size - 1 < s.nodes.size := Nat.sub_one_lt_of_lt hn
  rw [paths, pathsWithin_of_tops htops hsize (Nat.lt_succ_of_lt hsize), pathsWithin]
  rfl

end Acyclic

/-! ### Calls -/

/-- How often an update of a node is to call a counter: wherever it listens, once for each path. -/
def calls (s : Scene) (n : NodeId) (c : Nat) : Nat :=
  ∑ a ∈ Finset.range s.nodes.size, s.listening (.watch c) a * (s.paths n a).length

/-- How often a listener that an update reaches is to call a counter. -/
def heard (s : Scene) (c : Nat) : Listener → Nat
  | .forward p => s.calls p c
  | .watch k => if k = c then 1 else 0
  | .display _ => 0

theorem count_target (ls : List Listener) (p : NodeId) :
    (ls.filterMap Listener.target?).count p = ls.countP (· == .forward p) := by
  rw [List.count_filterMap]
  refine List.countP_congr fun l _ => ?_
  cases l with
  | forward p' => simp [Listener.target?]
  | _ => simp [Listener.target?]

theorem count_standing (s : Scene) (n p : NodeId) :
    ((s.standing n).map Prod.fst).count p = (s.slots p).countP (·.node == n) := by
  -- The places of one holder count if it is `p`, and then they are the slots that hold the node.
  have hone : ∀ p', ((((s.slots p').zipIdx.filter (·.1.node == n)).map fun place => (p', place.2)).map
      Prod.fst).count p = if p' = p then (s.slots p').countP (·.node == n) else 0 := by
    intro p'
    have hslots : (s.slots p').countP (·.node == n) =
        ((s.slots p').zipIdx.filter (·.1.node == n)).length := by
      conv_lhs => rw [← List.zipIdx_map_fst 0 (s.slots p'), List.countP_map, List.countP_eq_length_filter]
      rfl
    have hmap : (((s.slots p').zipIdx.filter (·.1.node == n)).map fun place => (p', place.2)).map Prod.fst =
        List.replicate ((s.slots p').zipIdx.filter (·.1.node == n)).length p' := by
      rw [List.map_map]
      exact List.map_const' ..
    rw [hmap, List.count_replicate, hslots]
    simp only [beq_iff_eq]
  have hall : ((s.standing n).map Prod.fst).count p = ∑ p' ∈ Finset.range s.nodes.size,
      if p' = p then (s.slots p').countP (·.node == n) else 0 := by
    rw [standing, List.map_flatMap, List.count_flatMap]
    exact congrArg List.sum (List.map_congr_left fun p' _ => hone p')
  rw [hall, Finset.sum_ite_eq']
  split
  · rfl
  · next hp =>
    rw [Finset.mem_range] at hp
    rw [slots, body_of_size_le (Nat.not_lt.mp hp)]
    rfl

/-- An update of a node is forwarded to those who hold it, once for each place. -/
theorem targets_perm (h : s.Linked nothing) (n : NodeId) :
    ((s.notifier n).round.filterMap Listener.target?).Perm ((s.standing n).map Prod.fst) := by
  refine List.perm_iff_count.mpr fun p => ?_
  rw [count_target, count_standing, Notifier.round, List.countP_map]
  exact listening_eq h rfl n

theorem sum_heard_eq (ls : List Listener) (c : Nat) :
    (ls.map (s.heard c)).sum =
      ls.countP (· == .watch c) + ((ls.filterMap Listener.target?).map (s.calls · c)).sum := by
  induction ls with
  | nil => rfl
  | cons l rest ih =>
    rw [List.map_cons, List.sum_cons, ih, List.countP_cons, List.filterMap_cons]
    cases l with
    | forward p => simp [heard, Listener.target?, Nat.add_left_comm]
    | watch k => simp [heard, Listener.target?, Nat.add_comm, Nat.add_left_comm]
    | display i => simp [heard, Listener.target?]

section Rounds
variable (htied : s.Tied) (hs : s.Acyclic) (hn : n < s.nodes.size)
include htied hs hn

/-- A counter is called where a path ends: at the node itself, or by way of one of its places. -/
theorem calls_eq (c : Nat) : s.calls n c =
    s.listening (.watch c) n + ((s.standing n).map fun place => s.calls place.1 c).sum := by
  have hlength : ∀ a, (s.paths n a).length =
      (if n = a then 1 else 0) + ((s.standing n).map fun place => (s.paths place.1 a).length).sum := by
    intro a
    rw [paths_eq htied hs hn, List.length_append, List.length_flatMap]
    simp only [List.length_map]
    split <;> rfl
  have hplaces : ∀ places : List (NodeId × Nat),
      (∑ a ∈ Finset.range s.nodes.size, s.listening (.watch c) a *
        (places.map fun place => (s.paths place.1 a).length).sum) =
          (places.map fun place => s.calls place.1 c).sum := by
    intro places
    induction places with
    | nil => simp
    | cons place rest ih =>
      simp only [List.map_cons, List.sum_cons, Nat.mul_add, Finset.sum_add_distrib, ih]
      rfl
  have hself : (∑ a ∈ Finset.range s.nodes.size, s.listening (.watch c) a * if n = a then 1 else 0) =
      s.listening (.watch c) n := by
    simp [hn]
  simp only [calls, hlength, Nat.mul_add, Finset.sum_add_distrib, hself]
  rw [hplaces]
  rfl

/-- **What the listeners of a node are to call comes to one call for each path.** -/
theorem sum_heard (c : Nat) : ((s.notifier n).round.map (s.heard c)).sum = s.calls n c := by
  have htargets := (targets_perm htied.linked n).map (s.calls · c)
  rw [sum_heard_eq, htargets.sum_eq, calls_eq htied hs hn, List.map_map, Notifier.round, List.countP_map]
  rfl

end Rounds

end

end Scene

end TextPane
