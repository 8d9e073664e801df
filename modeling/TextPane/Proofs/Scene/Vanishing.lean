import TextPane.Proofs.Scene.Rendering
import TextPane.Proofs.View.Vanishing

/-! No room, nothing to do.

A region without columns or without rows takes no output: whatever stands in a node, rendering it there calls
nothing of the terminal, and measuring it against such a size calls nothing either and gives no more than the
size (`vanishes_in_no_room`). What is measured is no size at all unless a grid gives tracks a length along the
other axis (`fixed_column_in_no_rows`). -/
namespace TextPane.Scene

/-- **No room, nothing to do.** Rendered into an empty region, a node calls nothing of the terminal. Measured
against an empty size it calls nothing either, and gives a size without columns or without rows. That is no
size at all without columns to stand in if no grid in the node has rows of a fixed height, and without rows
to stand in if no grid has columns of a fixed width or gutters. -/
theorem vanishes_in_no_room (s : Scene) (n : NodeId) (r : Renderer) (h : s.OnlySpans (fun _ => True) n) :
    (∀ region : Region, region.isEmpty = true → (s.nodeBox r n).render region s = (.ok (), s)) ∧
    ∀ limit : Size, limit.isEmpty = true → ∃ size, (s.nodeBox r n).measure limit s = (.ok size, s) ∧
      size.Within limit ∧ size.isEmpty = true ∧
      (limit.width = 0 → (s.spanTree n).EveryGrid Track.LaxRows → size = .zero) ∧
      (limit.height = 0 → (s.spanTree n).EveryGrid Track.LaxColumns → size = .zero) := by
  refine ⟨fun region hregion => ?_, fun limit hlimit => ?_⟩
  · have hdraws := (s.spanTree n).hollow_drawn.renders region hregion
    rw [render_nodeBox h, View.draws, r.perform_hollow hdraws]
    rfl
  · have hwithin := ((s.spanTree n).fits_drawn limit).value
    refine ⟨((s.spanTree n).drawn.measure limit).value, ?_, hwithin, ?_, fun hwidth hgrids => ?_,
      fun hheight hgrids => ?_⟩
    · rw [nodeBox_eq h]
      show carryTerminal.run (((s.spanTree n).onTerminal r).measure limit) s = _
      rw [View.measure_onTerminal]
      rfl
    · exact hwithin.isEmpty hlimit
    · have hempty : ∀ limit : Size, limit.width = 0 → limit.isEmpty = true := fun _ h => by
        simp [Size.isEmpty, h]
      exact ((s.spanTree n).vanishes_drawn hempty (fun _ => Grid.vanishes_width _) hgrids limit hwidth).value
    · have hempty : ∀ limit : Size, limit.height = 0 → limit.isEmpty = true := fun _ h => by
        simp [Size.isEmpty, h]
      exact ((s.spanTree n).vanishes_drawn hempty (fun _ => Grid.vanishes_height _) hgrids limit
        hheight).value

/-- A table measured against no columns, and rendered into no rows. -/
theorem vanishes_in_no_room_shelf :
    (shelf.nodeBox { mode := .ansi } 4).measure ⟨0, 3⟩ shelf = (.ok .zero, shelf) ∧
    (shelf.nodeBox { mode := .ansi } 4).render { left := 1, top := 0, width := 6, height := 0 } shelf =
      (.ok (), shelf) := by
  have honly : shelf.OnlySpans (fun _ => True) 4 := onlySpans_shelf.mono fun _ _ => trivial
  obtain ⟨hrenders, hmeasures⟩ := vanishes_in_no_room shelf 4 { mode := .ansi } honly
  obtain ⟨size, hsize, _, _, hzero, _⟩ := hmeasures ⟨0, 3⟩ rfl
  have hrows : (shelf.spanTree 4).EveryGrid Track.LaxRows :=
    ⟨⟨fun _ ht => absurd ht List.not_mem_nil, trivial, trivial, trivial⟩, trivial, trivial⟩
  exact ⟨hzero rfl hrows ▸ hsize, hrenders _ rfl⟩

/-- A grid of one column of three cells, with nothing in it. -/
def vacant : Scene where
  terminal := { size := ⟨10, 3⟩ }
  nodes := #[{ body := .grid { columns := [.fixed 3] } }]

/-- A column of a fixed width takes it even where there is no row. -/
theorem fixed_column_in_no_rows :
    ¬∀ (s : Scene) (n : NodeId) (r : Renderer), s.OnlySpans (fun _ => True) n → ∀ limit : Size,
      limit.isEmpty = true → (s.nodeBox r n).measure limit s = (.ok .zero, s) := by
  intro hzero
  have hleaves : (vacant.tree 0).leaves = [] := rfl
  have honly : vacant.OnlySpans (fun _ => True) 0 := by
    intro a ha
    rw [hleaves] at ha
    exact absurd ha List.not_mem_nil
  have hmeasured := congrArg Prod.fst (hzero vacant 0 { mode := .ansi } honly ⟨5, 0⟩ rfl)
  have hthree : ((vacant.nodeBox { mode := .ansi } 0).measure ⟨5, 0⟩ vacant).1 = .ok ⟨3, 0⟩ := rfl
  rw [hthree] at hmeasured
  exact absurd (Except.ok.inj hmeasured) (by decide)

end TextPane.Scene
