import Mathlib.Data.Finset.Card
import Mathlib.Data.Finset.Range
import Mathlib.Logic.Relation
import TextPane.Proofs.Scene.Edits
import TextPane.Proofs.View.Carry

/-! What a node holds, and its tree.

The tree of a node is made of the bodies of the nodes it contains, and of nothing else
(`treeWithin_congr`). Where no node contains itself, a chain of nodes each of which holds the next is
shorter than there are nodes (`shallow_of_acyclic`), so the tree is whole at that depth and does not
show when further nodes are added (`tree_eq`). -/
namespace TextPane.Scene

/-- A node stands in a place of another one. -/
def Holds (s : Scene) (n m : NodeId) : Prop := ∃ slot ∈ (s.body n).slots, slot.node = m

/-- A node is another one or stands in it at some depth. -/
def Contains (s : Scene) : NodeId → NodeId → Prop := Relation.ReflTransGen s.Holds

theorem lt_size_of_holder {s : Scene} {n m : NodeId} (h : s.Holds n m) : n < s.nodes.size := by
  obtain ⟨slot, hslot, _⟩ := h
  by_contra hn
  rw [body_of_size_le (Nat.not_lt.mp hn)] at hslot
  cases hslot

/-- No node stands in itself. -/
def Acyclic (s : Scene) : Prop := ∀ n, ¬Relation.TransGen s.Holds n n

section
variable {s s' : Scene}

theorem acyclic_of_holds (hs : s.Acyclic) (hfewer : ∀ m k, s'.Holds m k → s.Holds m k) : s'.Acyclic :=
  fun n hn => hs n (Relation.TransGen.mono hfewer n n hn)

theorem acyclic_of_rank (rank : NodeId → Nat)
    (h : ∀ n < s.nodes.size, ∀ slot ∈ (s.body n).slots, rank slot.node < rank n) : s.Acyclic := by
  have holder : ∀ n m, s.Holds n m → rank m < rank n := by
    intro n m hholds
    have hn := lt_size_of_holder hholds
    obtain ⟨slot, hslot, rfl⟩ := hholds
    exact h n hn slot hslot
  have hbelow : ∀ n m, Relation.TransGen s.Holds n m → rank m < rank n := fun n m hnm => by
    induction hnm with
    | single hholds => exact holder _ _ hholds
    | tail _ hholds ih => exact Nat.lt_trans (holder _ _ hholds) ih
  exact fun n hn => Nat.lt_irrefl _ (hbelow n n hn)

/-- Nodes that hold older ones only do not stand in themselves. -/
theorem acyclic_of_lt (h : ∀ n < s.nodes.size, ∀ slot ∈ (s.body n).slots, slot.node < n) :
    s.Acyclic := acyclic_of_rank id h

end

section Congr
variable {s s' : Scene} {c : NodeId}

theorem holds_congr {n m : NodeId} (h : s'.body n = s.body n) : s'.Holds n m ↔ s.Holds n m := by
  rw [Holds, Holds, h]

/-- What a node contains is a matter of the bodies of the nodes it contains. -/
theorem contains_congr (h : ∀ m, s.Contains c m → s'.body m = s.body m) {n : NodeId} :
    s'.Contains c n ↔ s.Contains c n := by
  constructor <;> intro hn
  · induction hn with
    | refl => exact .refl
    | tail _ hholds ih => exact ih.tail ((holds_congr (h _ ih)).mp hholds)
  · induction hn with
    | refl => exact .refl
    | tail hcm hholds ih => exact ih.tail ((holds_congr (h _ hcm)).mpr hholds)

/-- What a node shows is a matter of its body and of what the nodes show that it holds. -/
theorem treeWithin_succ_congr {n : NodeId} {k k' : Nat} (hbody : s'.body n = s.body n)
    (h : ∀ m, s.Holds n m → s'.treeWithin k' m = s.treeWithin k m) :
    s'.treeWithin (k' + 1) n = s.treeWithin (k + 1) n := by
  unfold treeWithin
  rw [hbody]
  unfold Holds at h
  cases hn : s.body n with
  | stack orientation slots =>
    rw [hn] at h
    simp only [View.stack.injEq, true_and]
    exact List.map_congr_left fun slot hslot => h _ ⟨slot, hslot, rfl⟩
  | grid g =>
    rw [hn] at h
    simp only [View.grid.injEq, true_and]
    apply List.map_congr_left
    intro cell hcell
    cases cell with
    | none => rfl
    | some slot =>
      have hslot : slot ∈ g.contents := List.mem_filterMap.mpr ⟨_, hcell, rfl⟩
      exact congrArg some (h _ ⟨slot, hslot, rfl⟩)
  | table t =>
    rw [hn] at h
    exact h _ ⟨t.grid, List.mem_singleton.mpr rfl, rfl⟩
  | _ => rfl

/-- The tree of a node is made of the bodies of the nodes it contains. -/
theorem treeWithin_congr (k : Nat) (h : ∀ m, s.Contains c m → s'.body m = s.body m) :
    s'.treeWithin k c = s.treeWithin k c := by
  induction k generalizing c with
  | zero => rfl
  | succ k ih =>
    refine treeWithin_succ_congr (h c .refl) fun m hm => ih fun m' hm' => ?_
    exact h m' (.head hm hm')

end Congr

/-! ### Depth -/

/-- Chains of nodes that begin with this one have no more than `k` nodes. -/
def Shallow (s : Scene) : Nat → NodeId → Prop
  | 0, _ => False
  | k + 1, n => ∀ m, s.Holds n m → s.Shallow k m

/-- At a depth that no chain of nodes exceeds the tree is whole. -/
theorem treeWithin_of_shallow {s : Scene} {k k' : Nat} {n : NodeId} (h : s.Shallow k n)
    (hle : k ≤ k') : s.treeWithin k' n = s.treeWithin k n := by
  induction k generalizing k' n with
  | zero => exact h.elim
  | succ k ih =>
    cases k' with
    | zero => exact absurd hle (Nat.not_succ_le_zero k)
    | succ k' => exact treeWithin_succ_congr rfl fun m hm => ih (h m hm) (Nat.le_of_succ_le_succ hle)

/-- Chains are no longer than there are nodes to go on with. -/
theorem shallow_of_available {s : Scene} (hs : s.Acyclic) (available : Finset NodeId) (n : NodeId)
    (h : ∀ m, Relation.TransGen s.Holds n m → m ∈ available) : s.Shallow (available.card + 1) n := by
  induction hcard : available.card generalizing available n with
  | zero =>
    intro m hm
    have hmem := h m (.single hm)
    rw [Finset.card_eq_zero.mp hcard] at hmem
    exact absurd hmem (Finset.notMem_empty m)
  | succ k ih =>
    intro m hm
    have hmem : m ∈ available := h m (.single hm)
    -- Behind `m` the chain goes on with what is available but for `m` itself.
    refine ih (available.erase m) m (fun m' hm' => ?_) ?_
    · exact Finset.mem_erase.mpr ⟨fun heq => hs m (heq ▸ hm'), h m' (.head hm hm')⟩
    · rw [Finset.card_erase_of_mem hmem, hcard, Nat.add_sub_cancel]

section Linked
variable {s : Scene} (hlinked : s.Linked nothing) (hs : s.Acyclic)
include hlinked

theorem lt_size_of_holds {n m : NodeId} (h : s.Holds n m) : m < s.nodes.size := by
  obtain ⟨slot, hslot, rfl⟩ := h
  exact hlinked.node_lt hslot

theorem lt_size_of_transGen {n m : NodeId} (h : Relation.TransGen s.Holds n m) :
    m < s.nodes.size := by
  cases h with
  | single h => exact lt_size_of_holds hlinked h
  | tail _ h => exact lt_size_of_holds hlinked h

include hs

/-- Where no node stands in itself, chains are no longer than there are nodes. -/
theorem shallow_of_acyclic {n : NodeId} (hn : n < s.nodes.size) : s.Shallow s.nodes.size n := by
  have hshallow := shallow_of_available hs ((Finset.range s.nodes.size).erase n) n fun m hm =>
    Finset.mem_erase.mpr ⟨fun heq => hs n (heq ▸ hm),
      Finset.mem_range.mpr (lt_size_of_transGen hlinked hm)⟩
  rwa [Finset.card_erase_add_one (Finset.mem_range.mpr hn), Finset.card_range] at hshallow

/-- Nodes that are added do not change a tree. -/
theorem tree_eq {s' : Scene} {c : NodeId} (hc : c < s.nodes.size) (hsize : s.nodes.size ≤ s'.nodes.size)
    (h : ∀ m, s.Contains c m → s'.body m = s.body m) : s'.tree c = s.tree c := by
  rw [tree, tree, treeWithin_congr _ h,
    treeWithin_of_shallow (shallow_of_acyclic hlinked hs hc) hsize]

end Linked

/-! ### The way up -/

/-- A node stands in another one, so many nodes deep. -/
inductive Below (s : Scene) (c : NodeId) : Nat → NodeId → Prop where
  | here : Below s c 0 c
  | step {k : Nat} {p n : NodeId} (above : Below s c k p) (holds : s.Holds p n) : Below s c (k + 1) n

theorem Contains.below {s : Scene} {c n : NodeId} (h : s.Contains c n) : ∃ k, s.Below c k n := by
  induction h with
  | refl => exact ⟨0, .here⟩
  | tail _ hholds ih =>
    obtain ⟨k, hk⟩ := ih
    exact ⟨k + 1, hk.step hholds⟩

/-- A node stands less deep than chains are long. -/
theorem Below.lt {s : Scene} {c n : NodeId} {k depth : Nat} (h : s.Below c k n)
    (hc : s.Shallow depth c) : k < depth := by
  have hrest : ∃ rest, depth = rest + k ∧ s.Shallow rest n := by
    induction h with
    | here => exact ⟨depth, rfl, hc⟩
    | step _ hholds ih =>
      obtain ⟨rest, rfl, hp⟩ := ih
      cases rest with
      | zero => exact hp.elim
      | succ rest => exact ⟨rest, by omega, hp _ hholds⟩
  obtain ⟨rest, rfl, hn⟩ := hrest
  cases rest with
  | zero => exact hn.elim
  | succ rest => omega

/-! ### Trees of spans -/

/-- The span of a leaf; a leaf that is none shows nothing. -/
def leafSpan : SceneLeaf → Span
  | .span span => span
  | .probe _ => .empty

/-- The tree of a node as a tree of spans. -/
def spanTree (s : Scene) (n : NodeId) : View Span := (s.tree n).map leafSpan

/-- In a sound scene all leaves are spans. -/
theorem treeWithin_eq_map {s : Scene} (hs : s.Sound) (k : Nat) (n : NodeId) :
    ((s.treeWithin k n).map leafSpan).map .span = s.treeWithin k n := by
  induction k generalizing n with
  | zero => rfl
  | succ k ih =>
    have hn := hs n
    unfold treeWithin
    cases hbody : s.body n with
    | stack orientation slots =>
      simp [View.map, View.mapAll_eq, Function.comp_def, ih]
    | grid g =>
      simp [View.map, View.mapCells_eq, Function.comp_def, ih]
    | table t => exact ih t.grid.node
    | probe p =>
      rw [hbody] at hn
      exact hn.elim
    | content span feed => rfl
    | gone => rfl

theorem spanTree_eq_map {s : Scene} (hs : s.Sound) (n : NodeId) : (s.spanTree n).map .span = s.tree n :=
  treeWithin_eq_map hs _ n

end TextPane.Scene
