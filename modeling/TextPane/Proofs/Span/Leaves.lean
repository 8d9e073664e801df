import Mathlib.Algebra.Order.BigOperators.Group.List
import Mathlib.Algebra.Order.Group.Nat
import TextPane.Proofs.Render.Cells
import TextPane.Proofs.Span.Equality

/-! The leaves of a span.

A span is read in four ways, each with a walk of its own: its length, which containers keep a sum of, its
visible text, its text with escape sequences, and visits. All four see the same leaves from left to right
(`Span.views_agree`). For the length that takes containers whose sums are right, and they are in every span
that a program can make (`Span.Built.counted`), also where a container was extended and its sum only added
to. Sums are kept in words: they are right as a word keeps them (`Span.toWord_length`), and exact where they
stay below the limit of a word (`Span.length_eq`). -/
namespace TextPane

/-- What stands in a span at the ends of its branches. -/
inductive Leaf where
  | content (text : String) (length : Nat)
  | control (c : Control)
  | host (h : HostSpan)

namespace Leaf

def length : Leaf → Nat
  | .content _ length => length
  | .control _ => 0
  | .host h => h.length

/-- The visible text. -/
def text : Leaf → String
  | .content text _ => text
  | .control _ => ""
  | .host h => h.text

/-- The visible text, or the escape sequence of a control. -/
def written : Leaf → String
  | .content text _ => text
  | .control c => c.escape
  | .host h => h.text

end Leaf

namespace Span

mutual

/-- A span and all spans in it, each before those in it. -/
def nodes : Span → List Span
  | .empty => [.empty]
  | .content text length => [.content text length]
  | .container children length => .container children length :: nodesAll children
  | .control c => [.control c]
  | .host h => [.host h]

def nodesAll : List Span → List Span
  | [] => []
  | s :: rest => s.nodes ++ nodesAll rest

end

theorem nodesAll_eq (ss : List Span) : nodesAll ss = ss.flatMap nodes := by
  induction ss with
  | nil => rfl
  | cons s rest ih => rw [nodesAll, ih, List.flatMap_cons]

theorem mem_nodes_self (s : Span) : s ∈ s.nodes := by
  cases s <;> exact List.mem_cons_self ..

/-- A span as a leaf. A container is none, and an empty span has nothing to show. -/
def leaf? : Span → Option Leaf
  | .content text length => some (.content text length)
  | .control c => some (.control c)
  | .host h => some (.host h)
  | .empty | .container .. => none

/-- The leaves, from left to right. -/
def leaves (s : Span) : List Leaf := s.nodes.filterMap leaf?

/-- The leaves of a container are those of its children. -/
theorem leaves_container (children : List Span) (length : Nat) :
    (Span.container children length).leaves = children.flatMap leaves := by
  simp only [leaves, nodes, nodesAll_eq, List.filterMap_cons, leaf?, List.filterMap_flatMap]
  rfl

/-! ### Texts -/

mutual

theorem plain_eq : (s : Span) → s.plain = String.join (s.leaves.map Leaf.text)
  | .empty | .control _ => rfl
  | .content .. | .host _ => by simp [plain, leaves, nodes, leaf?, Leaf.text]
  | .container children length => by rw [plain, plainAll_eq children, leaves_container]

theorem plainAll_eq : (ss : List Span) →
    plainAll ss = String.join ((ss.flatMap leaves).map Leaf.text)
  | [] => rfl
  | s :: rest => by
    rw [plainAll, plain_eq s, plainAll_eq rest, List.flatMap_cons, List.map_append, String.join_append]

end

mutual

theorem ansi_eq : (s : Span) → s.ansi = String.join (s.leaves.map Leaf.written)
  | .empty => rfl
  | .content .. | .control _ | .host _ => by simp [ansi, leaves, nodes, leaf?, Leaf.written]
  | .container children length => by rw [ansi, ansiAll_eq children, leaves_container]

theorem ansiAll_eq : (ss : List Span) →
    ansiAll ss = String.join ((ss.flatMap leaves).map Leaf.written)
  | [] => rfl
  | s :: rest => by
    rw [ansiAll, ansi_eq s, ansiAll_eq rest, List.flatMap_cons, List.map_append, String.join_append]

end

/-! ### Lengths -/

/-- The length that a node keeps is that of its text, or the sum of those of its children in a word. -/
def Counted : Span → Prop
  | .content text length => length = Text.displayWidth text
  | .container children length => length = Text.toWord (totalLength children)
  | .empty | .control _ | .host _ => True

theorem totalLength_append (a b : List Span) :
    totalLength (a ++ b) = totalLength a + totalLength b := by
  simp only [totalLength, List.map_append, List.sum_append]

/-- The lengths of all leaves together. -/
def leafLength (s : Span) : Nat := (s.leaves.map Leaf.length).sum

theorem leafLength_container (children : List Span) (length : Nat) :
    (Span.container children length).leafLength = (children.map leafLength).sum := by
  rw [leafLength, leaves_container, List.map_flatMap, List.flatMap_def, List.sum_flatten, List.map_map]
  rfl

mutual

/-- Where the sums are right, the length is that of all leaves as a word keeps it. -/
theorem toWord_length : (s : Span) → (∀ node ∈ s.nodes, node.Counted) →
    Text.toWord s.length = Text.toWord s.leafLength
  | .empty, _ | .content .., _ | .control _, _ | .host _, _ => rfl
  | .container children length, h => by
    have hsum : length = Text.toWord (totalLength children) := h _ (mem_nodes_self _)
    have hchildren : ∀ node ∈ nodesAll children, node.Counted := fun node hnode =>
      h node (List.mem_cons_of_mem _ hnode)
    rw [Span.length, hsum, Text.toWord_toWord, toWord_totalLength children hchildren,
      leafLength_container]

theorem toWord_totalLength : (ss : List Span) → (∀ node ∈ nodesAll ss, node.Counted) →
    Text.toWord (totalLength ss) = Text.toWord (ss.map leafLength).sum
  | [], _ => rfl
  | s :: rest, h => by
    have hs := toWord_length s fun node hnode => h node (List.mem_append_left _ hnode)
    have hrest := toWord_totalLength rest fun node hnode => h node (List.mem_append_right _ hnode)
    rw [totalLength_cons, List.map_cons, List.sum_cons, ← Text.toWord_toWord_add, hs,
      Text.toWord_toWord_add, ← Text.toWord_add_toWord, hrest, Text.toWord_add_toWord]

end

mutual

/-- Where nothing goes beyond a word, the length is that of all leaves. -/
theorem length_eq : (s : Span) → (∀ node ∈ s.nodes, node.Counted) → s.leafLength < Text.wordLimit →
    s.length = s.leafLength
  | .empty, _, _ | .content .., _, _ | .control _, _, _ | .host _, _, _ => rfl
  | .container children length, h, hfits => by
    have hsum : length = Text.toWord (totalLength children) := h _ (mem_nodes_self _)
    have hchildren : ∀ node ∈ nodesAll children, node.Counted := fun node hnode =>
      h node (List.mem_cons_of_mem _ hnode)
    rw [leafLength_container] at hfits ⊢
    rw [Span.length, hsum, totalLength_eq children hchildren hfits, Text.toWord_of_lt hfits]

theorem totalLength_eq : (ss : List Span) → (∀ node ∈ nodesAll ss, node.Counted) →
    (ss.map leafLength).sum < Text.wordLimit → totalLength ss = (ss.map leafLength).sum
  | [], _, _ => rfl
  | s :: rest, h, hfits => by
    rw [List.map_cons, List.sum_cons] at hfits ⊢
    have hs := length_eq s (fun node hnode => h node (List.mem_append_left _ hnode)) (by omega)
    have hrest := totalLength_eq rest (fun node hnode => h node (List.mem_append_right _ hnode)) (by omega)
    rw [totalLength_cons, hs, hrest]

end

mutual

/-- What is in a span has its nodes among those of the span. -/
theorem nodes_sublist : (s : Span) → ∀ node ∈ s.nodes, node.nodes.Sublist s.nodes
  | .empty, _, h | .content .., _, h | .control _, _, h | .host _, _, h => by
    rw [List.mem_singleton.mp h]
  | .container children length, node, h => by
    rcases List.mem_cons.mp h with rfl | h
    · exact .refl _
    · exact .cons _ (nodesAll_sublist children node h)

theorem nodesAll_sublist : (ss : List Span) → ∀ node ∈ nodesAll ss, node.nodes.Sublist (nodesAll ss)
  | s :: rest, node, h => by
    rcases List.mem_append.mp h with h | h
    · exact (nodes_sublist s node h).trans (List.sublist_append_left ..)
    · exact (nodesAll_sublist rest node h).trans (List.sublist_append_right ..)

end

/-- What a program makes of texts, controls and spans of a host: containers of such spans, which is also what
such spans are collected into, and containers with one more or with several more such spans. -/
inductive Built : Span → Prop
  | empty : Built .empty
  | content (text : String) : Built (ofString text)
  | control (c : Control) : Built (.control c)
  | host (h : HostSpan) : Built (.host h)
  | container {children : List Span} : (∀ s ∈ children, Built s) → Built (ofList children)
  | push {c : Container} {s : Span} : Built c.toSpan → Built s → Built (c.push s).toSpan
  | extend {c : Container} {more : List Span} :
    Built c.toSpan → (∀ s ∈ more, Built s) → Built (c.extend more).toSpan

/-- A container that is extended span by span keeps the sum of the lengths of all. -/
theorem extend_eq {c : Container} (h : c.length < Text.wordLimit) (more : List Span) :
    c.extend more =
      { children := c.children ++ more, length := Text.toWord (c.length + totalLength more) } := by
  induction more generalizing c with
  | nil => simp [Container.extend, totalLength, Text.toWord_of_lt h]
  | cons s rest ih =>
    let longer : Container :=
      { children := c.children ++ [s], length := Text.toWord (c.length + s.length) }
    have hstep : c.extend (s :: rest) = longer.extend rest := rfl
    rw [hstep, ih (Text.toWord_lt _)]
    simp [longer, totalLength_cons, Nat.add_assoc]

/-- The nodes of a container count when its own sum is right and those of its children count. -/
theorem counted_container {children : List Span} {length : Nat}
    (hsum : length = Text.toWord (totalLength children))
    (h : ∀ s ∈ children, ∀ node ∈ s.nodes, node.Counted) :
    ∀ node ∈ (Span.container children length).nodes, node.Counted := by
  intro node hnode
  rcases List.mem_cons.mp hnode with rfl | hnode
  · exact hsum
  · rw [nodesAll_eq] at hnode
    obtain ⟨s, hs, hnode⟩ := List.mem_flatMap.mp hnode
    exact h s hs node hnode

theorem counted_children {children : List Span} {length : Nat}
    (h : ∀ node ∈ (Span.container children length).nodes, node.Counted) :
    ∀ s ∈ children, ∀ node ∈ s.nodes, node.Counted := by
  intro s hs node hnode
  refine h node (List.mem_cons_of_mem _ ?_)
  rw [nodesAll_eq]
  exact List.mem_flatMap.mpr ⟨s, hs, hnode⟩

/-- However a span is made, its containers keep the sums of the lengths of their children. -/
theorem Built.counted {s : Span} (h : s.Built) : ∀ node ∈ s.nodes, node.Counted := by
  induction h with
  | empty | control | host =>
    intro node hnode
    rw [List.mem_singleton.mp hnode]
    exact trivial
  | content text =>
    intro node hnode
    rw [List.mem_singleton.mp hnode]
    exact rfl
  | container _ ih => exact counted_container rfl ih
  | push _ _ ihc ihs =>
    refine counted_container rfl fun t ht => ?_
    rcases List.mem_append.mp ht with ht | ht
    · exact counted_children ihc t ht
    · rw [List.mem_singleton.mp ht]
      exact ihs
  | @extend c more _ _ ihc ihmore =>
    have hsum : c.length = Text.toWord (totalLength c.children) := ihc _ (mem_nodes_self _)
    rw [extend_eq (hsum ▸ Text.toWord_lt _)]
    refine counted_container ?_ fun t ht => ?_
    · rw [totalLength_append, hsum, Text.toWord_toWord_add]
    · rcases List.mem_append.mp ht with ht | ht
      · exact counted_children ihc t ht
      · exact ihmore t ht

end Span

/-! ### Visits -/

namespace Visitor
variable {m : Type → Type} [Monad m] (v : Visitor m)

/-- Calls the hook for a leaf. -/
def meet : Leaf → m Unit
  | .content text length => v.content text length
  | .control c => v.control c
  | .host h => v.host h

/-- Records a node, and calls the hook for it if it is a leaf. -/
def enter (node : Span) : m Unit := do
  v.record node
  match node.leaf? with
  | some l => v.meet l
  | none => pure ()

section
variable [LawfulMonad m]

mutual

/-- A walk enters the nodes one after the other. -/
theorem walk_eq : (s : Span) → v.walk s = s.nodes.forM v.enter
  | .empty => by simp [walk, Span.nodes, enter, Span.leaf?]
  | .content text length => by simp [walk, Span.nodes, enter, Span.leaf?, meet]
  | .container children length => by
    rw [walk, walkAll_eq children]
    simp [Span.nodes, enter, Span.leaf?]
  | .control c => by simp [walk, Span.nodes, enter, Span.leaf?, meet]
  | .host h => by simp [walk, Span.nodes, enter, Span.leaf?, meet]

theorem walkAll_eq : (ss : List Span) → v.walkAll ss = (Span.nodesAll ss).forM v.enter
  | [] => rfl
  | s :: rest => by
    rw [walkAll, walk_eq s, walkAll_eq rest, Span.nodesAll]
    exact List.forM_append.symm

end

end

end Visitor

/-- A span of a host that is as long as a word can say and a letter are together one longer, and a container
of the two keeps no length at all. -/
example :
    let s := Span.ofList [.host { kind := "gauge", length := Text.wordLimit - 1 }, .ofString "a"]
    (s.leaves.map Leaf.length).sum = Text.wordLimit ∧ s.length = 0 := by
  decide +kernel

end TextPane
