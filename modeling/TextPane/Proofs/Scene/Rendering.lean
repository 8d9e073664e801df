import TextPane.Proofs.Scene.Repaint
import TextPane.Proofs.View.Frame

/-! Rendering a node.

The tree of a node, however its stacks, grids and tables are nested, is a tree of spans where no probe
stands in it, and rendering it is drawing what that tree draws (`nodeBox_eq`). So what is known of trees
holds for nodes of a scene: nothing outside of the region changes and no two leaves are handed the same
cell (`render_stays`), and a console shows the same as a terminal that obeys escape sequences
(`render_agrees`).

For the cells both need that the sequences of colours and text attributes select graphic renditions, as
those made by name or mixed do. A colour can be made of any sequence, and one that clears the screen does that wherever
it is rendered (`render_strays`), while a console goes by its name (`render_disagrees`). -/
namespace TextPane

/-! ### Regions handed to leaves -/

mutual

theorem View.leaves_map {α β : Type} (f : α → β) : (v : View α) → (v.map f).leaves = v.leaves.map f
  | .leaf _ => rfl
  | .stack _ children => leavesAll_mapAll f children
  | .grid _ _ _ cells => leavesCells_mapCells f cells

theorem View.leavesAll_mapAll {α β : Type} (f : α → β) : (vs : List (View α)) →
    View.leavesAll (View.mapAll f vs) = (View.leavesAll vs).map f
  | [] => rfl
  | v :: rest => by
    rw [View.mapAll, View.leavesAll, View.leavesAll, List.map_append, leaves_map f v,
      leavesAll_mapAll f rest]

theorem View.leavesCells_mapCells {α β : Type} (f : α → β) : (cells : List (Option (View α))) →
    View.leavesCells (View.mapCells f cells) = (View.leavesCells cells).map f
  | [] => rfl
  | none :: rest => leavesCells_mapCells f rest
  | some v :: rest => by
    rw [View.mapCells, View.leavesCells, View.leavesCells, List.map_append, leaves_map f v,
      leavesCells_mapCells f rest]

end

/-- The region that a leaf is handed when it is drawn. -/
def Draw.handed? : Draw → Option Region
  | .span _ region => some region
  | .blank _ => none

/-- The regions that a tree hands to its leaves, one for each leaf that it comes to. -/
def View.handed (v : View Span) (region : Region) : List Region :=
  (v.draws region).filterMap Draw.handed?

/-- The regions of the leaves are packed in the region of the tree. -/
theorem View.packs_handed (v : View Span) {region : Region} (hregion : region.Bounded) :
    region.Packs (v.handed region) := by
  obtain ⟨hinside, hapart⟩ := v.packs_draws hregion
  have hpart {d : Draw} {part : Region} (h : d.handed? = some part) : d.region = part := by
    cases d with
    | span s region => exact Option.some.inj h
    | blank region => cases h
  refine ⟨fun part hhanded => ?_, ?_⟩
  · obtain ⟨d, hd, hdpart⟩ := List.mem_filterMap.mp hhanded
    exact hpart hdpart ▸ hinside _ (List.mem_map.mpr ⟨d, hd, rfl⟩)
  · refine List.Pairwise.filterMap Draw.handed? ?_ (List.pairwise_map.mp hapart)
    intro d d' hdd' part hd part' hd'
    exact hpart hd ▸ hpart hd' ▸ hdd'

/-! ### Nodes -/

/-- The text is printable but for line ends, and all controls are colours and text attributes, whatever
their sequences are. -/
structure Span.Inked (s : Span) : Prop where
  text : ∀ text, .text text ∈ s.inflows → ∀ c ∈ text.toList,
    c = '\n' ∨ c = '\r' ∨ Text.isPrintable c
  control : ∀ c, .control c ∈ s.inflows → (∃ k, c = .color k) ∨ ∃ k, c = .style k

/-- A text behind a colour. -/
theorem Span.inked_colored (color : ColorControl) {text : String} (length length' : Nat)
    (h : text.toList.all Text.isPrintable = true) :
    (Span.container [.control (.color color), .content text length] length').Inked where
  text := by
    intro piece hpiece c hc
    rcases List.mem_cons.mp hpiece with heq | hpiece
    · cases heq
    · cases List.mem_singleton.mp hpiece
      exact .inr (.inr (List.all_eq_true.mp h c hc))
  control := by
    intro c hc
    rcases List.mem_cons.mp hc with heq | hc
    · cases heq
      exact .inl ⟨color, rfl⟩
    · cases List.mem_singleton.mp hc

namespace Scene

/-- The leaves of the tree of a node are spans that have a property. -/
def OnlySpans (s : Scene) (P : Span → Prop) (n : NodeId) : Prop :=
  ∀ a ∈ (s.tree n).leaves, ∃ span, a = .span span ∧ P span

section Node
variable {s : Scene} {n : NodeId}

theorem OnlySpans.mono {P Q : Span → Prop} (h : s.OnlySpans P n) (hPQ : ∀ span, P span → Q span) :
    s.OnlySpans Q n := by
  intro a ha
  obtain ⟨span, hspan, hP⟩ := h a ha
  exact ⟨span, hspan, hPQ span hP⟩

theorem OnlySpans.leaves {P : Span → Prop} (h : s.OnlySpans P n) :
    ∀ span ∈ (s.spanTree n).leaves, P span := by
  intro span hspan
  rw [spanTree, View.leaves_map] at hspan
  obtain ⟨a, ha, rfl⟩ := List.mem_map.mp hspan
  obtain ⟨span, rfl, hP⟩ := h a ha
  exact hP

/-- A node with spans for leaves is laid out as a tree of spans. -/
theorem nodeBox_eq {P : Span → Prop} (h : s.OnlySpans P n) (r : Renderer) :
    s.nodeBox r n = ((s.spanTree n).onTerminal r).map carryTerminal := by
  have hleaf : ∀ a ∈ (s.tree n).leaves,
      leafBox (raiseWithin s.depth) r a = (r.spanBox (leafSpan a)).map carryTerminal := by
    intro a ha
    obtain ⟨span, rfl, _⟩ := h a ha
    rfl
  rw [nodeBox, treeBox, View.box_congr _ hleaf, View.onTerminal, spanTree, View.box_map, View.map_box]
  rfl

/-- Rendering a node is drawing what its tree draws, and changes nothing but the terminal. -/
theorem render_nodeBox {P : Span → Prop} (h : s.OnlySpans P n) (r : Renderer) (region : Region) :
    (s.nodeBox r n).render region = onTerminal (r.perform ((s.spanTree n).draws region)) := by
  rw [nodeBox_eq h, ← r.render_eq_perform]
  rfl

end Node

/-- A table of two columns over a text, before a screen with dots. -/
def shelf : Scene where
  terminal := { size := ⟨8, 3⟩, calls := #[.write "........"] }
  nodes := #[{ body := .content (.content "ab" 2) none },
    { body := .content (.container [.foreground "red", .content "c d" 3] 3) none },
    { body := .grid { columns := [.fixed 2, .star 1], gutter := 1, locked := true,
                      cells := [some ⟨0, 0⟩, some ⟨1, 0⟩] } },
    { body := .table { grid := ⟨2, 0⟩ } },
    { body := .stack (some .vertical) [⟨3, 0⟩, ⟨0, 1⟩] }]

theorem onlySpans_shelf : shelf.OnlySpans Span.Tame 4 := by
  have hleaves : (shelf.tree 4).leaves = [.span (.content "ab" 2),
      .span (.container [.foreground "red", .content "c d" 3] 3), .span (.content "ab" 2)] := rfl
  have hplain : (Span.content "ab" 2).Tame := Span.tame_content 2 (by decide)
  have hred : (Span.container [.foreground "red", .content "c d" 3] 3).Tame := by
    apply Span.tame_container
    intro s hs
    rcases List.mem_cons.mp hs with rfl | hs
    · exact Span.tame_control (Control.Standard.named "red" .foreground).graphic
    · rw [List.mem_singleton.mp hs]
      exact Span.tame_content 3 (by decide)
  intro a ha
  rw [hleaves] at ha
  rcases List.mem_cons.mp ha with rfl | ha
  · exact ⟨_, rfl, hplain⟩
  rcases List.mem_cons.mp ha with rfl | ha
  · exact ⟨_, rfl, hred⟩
  rw [List.mem_singleton.mp ha]
  exact ⟨_, rfl, hplain⟩

/-- **Rendering stays in its region.** A node of spans hands its leaves regions inside of the region and
apart from each other. Where all the spans are tame, no cell outside of the region changes, whichever
calls of the terminal fail. -/
theorem render_stays (s : Scene) (n : NodeId) (r : Renderer) (region : Region)
    (hspans : s.OnlySpans (fun _ => True) n) (hregion : region.Bounded) :
    let drawn := (s.spanTree n).draws region
    let handed := (s.spanTree n).handed region
    (s.nodeBox r n).render region s = onTerminal (r.perform drawn) s ∧
      (∀ part ∈ handed, part.Inside region) ∧ handed.Pairwise Region.Apart ∧
      (s.OnlySpans Span.Tame n → r.mode ≠ .file → ∀ row column, ¬region.Has row column →
        ((s.nodeBox r n).render region s).2.terminal.screen.cell? row column =
          s.terminal.screen.cell? row column) := by
  intro drawn handed
  have hpacks := (s.spanTree n).packs_handed hregion
  refine ⟨congrFun (render_nodeBox hspans r region) s, hpacks.inside, hpacks.apart, ?_⟩
  intro htame hmode row column hout
  have hcell := View.cell?_render_outside htame.leaves hmode hregion s.terminal hout
  rw [nodeBox_eq htame]
  exact hcell

/-- A table of two columns over a text is rendered into the middle of a screen. -/
theorem render_stays_shelf :
    let region : Region := { left := 1, top := 0, width := 6, height := 2 }
    let done := ((shelf.nodeBox { mode := .ansi } 4).render region shelf).2
    (shelf.spanTree 4).handed region = [{ left := 1, top := 0, width := 2, height := 1 },
      { left := 4, top := 0, width := 3, height := 1 }, { left := 1, top := 1, width := 6, height := 1 }] ∧
    ((shelf.spanTree 4).handed region).Pairwise Region.Apart ∧
    (∀ row column, ¬region.Has row column →
      done.terminal.screen.cell? row column = shelf.terminal.screen.cell? row column) ∧
    done.terminal.screen.lines = [".ab c d.", " ab", ""] := by
  intro region done
  obtain ⟨_, _, hapart, hcells⟩ := render_stays shelf 4 { mode := .ansi } region
    (onlySpans_shelf.mono fun _ _ => trivial) ⟨by decide, by decide⟩
  exact ⟨by decide +kernel, hapart, hcells onlySpans_shelf (by decide), by decide +kernel⟩

/-- A red whose sequence clears the screen, and a text. -/
def clearingRed : Span :=
  .container [.control (.color { name := "red", channel := .foreground, code := Escape.clearScreen }),
    .content "x" 1] 1

/-- The clearing red, before a screen with letters. -/
def clearingScene : Scene where
  terminal := { size := ⟨6, 2⟩, calls := #[.write "abcdef"] }
  nodes := #[{ body := .content clearingRed none }]

theorem onlySpans_clearingScene : clearingScene.OnlySpans Span.Inked 0 := by
  have hleaves : (clearingScene.tree 0).leaves = [.span clearingRed] := rfl
  intro a ha
  rw [hleaves] at ha
  exact ⟨clearingRed, List.mem_singleton.mp ha, Span.inked_colored _ 1 1 (by decide)⟩

/-- A colour that carries another sequence than a rendition does not stay in its region. -/
theorem render_strays :
    ¬∀ (s : Scene) (n : NodeId) (r : Renderer) (region : Region), s.OnlySpans Span.Inked n →
      r.mode ≠ .file → region.Bounded → ∀ row column, ¬region.Has row column →
        ((s.nodeBox r n).render region s).2.terminal.screen.cell? row column =
          s.terminal.screen.cell? row column := by
  intro hstays
  have hcell := hstays clearingScene 0 { mode := .ansi }
    { left := 3, top := 1, width := 2, height := 1 } onlySpans_clearingScene (by decide)
    ⟨by decide, by decide⟩ 0 0 (by unfold Region.Has; decide)
  exact absurd hcell (by decide +kernel)

/-- The tree of a node is a matter of the nodes. -/
theorem tree_of_nodes {s s' : Scene} (h : s'.nodes = s.nodes) (n : NodeId) : s'.tree n = s.tree n := by
  have hbody : ∀ m, s'.body m = s.body m := fun m => by rw [body, body, node, node, h]
  rw [tree, tree, h]
  exact treeWithin_congr _ fun m _ => hbody m

/-- **A console shows the same.** A node whose spans are all tame is rendered into a region in two modes,
over the same cells, and no call fails. Then both terminals show the same lines. -/
theorem render_agrees (s s' : Scene) (n : NodeId) (r r' : Renderer) (region : Region)
    (htame : s.OnlySpans Span.Tame n) (hmode : r.mode ≠ .file) (hmode' : r'.mode ≠ .file)
    (hregion : region.Bounded) (hnodes : s'.nodes = s.nodes)
    (hcells : s.terminal.screen.cells = s'.terminal.screen.cells)
    (hok : ((s.nodeBox r n).render region s).1 = .ok ())
    (hok' : ((s'.nodeBox r' n).render region s').1 = .ok ()) :
    ((s.nodeBox r n).render region s).2.terminal.screen.lines =
      ((s'.nodeBox r' n).render region s').2.terminal.screen.lines := by
  have htame' : s'.OnlySpans Span.Tame n := by rwa [OnlySpans, tree_of_nodes hnodes]
  have hscreen {s : Scene} {r : Renderer} (htame : s.OnlySpans Span.Tame n)
      (hok : ((s.nodeBox r n).render region s).1 = .ok ()) :
      ((s.nodeBox r n).render region s).2.terminal.screen =
        s.terminal.screen.replayAll
          (r.performCalls s.terminal.colors ((s.spanTree n).draws region)) := by
    rw [render_nodeBox htame] at hok ⊢
    change (r.perform ((s.spanTree n).draws region) s.terminal).1 = .ok () at hok
    show (r.perform ((s.spanTree n).draws region) s.terminal).2.screen = _
    rw [Renderer.perform_eq_makeAll] at hok ⊢
    rw [Terminal.eq_after_of_makeAll hok, Terminal.screen_after]
  rw [hscreen htame hok, hscreen htame' hok', spanTree_of_nodes hnodes]
  exact congrArg (List.map Screen.lineText) (Renderer.cells_performCalls_mode hmode hmode'
    (View.able_draws htame.leaves hregion) s.terminal.colors s'.terminal.colors hcells)

/-- The table and the text come out the same in escape sequences and by console calls. -/
theorem render_agrees_shelf :
    let region : Region := { left := 1, top := 0, width := 6, height := 2 }
    ((shelf.nodeBox { mode := .ansi } 4).render region shelf).2.terminal.screen.lines =
        ((shelf.nodeBox { mode := .console } 4).render region shelf).2.terminal.screen.lines ∧
      ((shelf.nodeBox { mode := .console } 4).render region shelf).2.terminal.screen.lines =
        [".ab c d.", " ab", ""] := by
  intro region
  have hlines := render_agrees shelf shelf 4 { mode := .ansi } { mode := .console } region
    onlySpans_shelf (by decide) (by decide) ⟨by decide, by decide⟩ rfl rfl (by decide +kernel)
    (by decide +kernel)
  exact ⟨hlines, by decide +kernel⟩

/-- A console goes by the name of a colour, so it does not follow another sequence. -/
theorem render_disagrees :
    ¬∀ (s s' : Scene) (n : NodeId) (r r' : Renderer) (region : Region),
      s.OnlySpans Span.Inked n → r.mode ≠ .file → r'.mode ≠ .file → region.Bounded →
      s'.nodes = s.nodes → s.terminal.screen.cells = s'.terminal.screen.cells →
      ((s.nodeBox r n).render region s).1 = .ok () →
      ((s'.nodeBox r' n).render region s').1 = .ok () →
      ((s.nodeBox r n).render region s).2.terminal.screen.lines =
        ((s'.nodeBox r' n).render region s').2.terminal.screen.lines := by
  intro hagrees
  have hlines := hagrees clearingScene clearingScene 0 { mode := .ansi } { mode := .console }
    { left := 3, top := 1, width := 2, height := 1 } onlySpans_clearingScene (by decide) (by decide)
    ⟨by decide, by decide⟩ rfl rfl (by decide +kernel) (by decide +kernel)
  exact absurd hlines (by decide +kernel)

end Scene

end TextPane
