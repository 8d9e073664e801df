import TextPane.Proofs.Scene.Edits
import TextPane.Proofs.View.Slots

/-! Cells and grids.

A cell of a grid takes a node in and gives the one before up (`place_spec`), and a table takes a grid that
was built for it and leaves the one that it had (`regrid_spec`). -/
namespace TextPane

/-- Filling a place of a list changes what stands in it by one. -/
theorem List.perm_set {α : Type} (cells : List (Option α)) (a : α) {i : Nat} (hi : i < cells.length) :
    (a :: cells.filterMap id).Perm (cells[i].toList ++ (cells.set i (some a)).filterMap id) := by
  have hold : cells = cells.take i ++ cells[i] :: cells.drop (i + 1) := by
    rw [List.getElem_cons_drop, List.take_append_drop]
  have hnew : cells.set i (some a) = cells.take i ++ some a :: cells.drop (i + 1) :=
    List.set_eq_take_append_cons_drop.trans (if_pos hi)
  rw [hnew, List.filterMap_append, List.filterMap_cons_some (show id (some a) = some a from rfl)]
  conv_lhs => rw [hold, List.filterMap_append]
  cases cells[i] with
  | none =>
    rw [List.filterMap_cons_none (show id (none : Option α) = none from rfl)]
    exact List.perm_middle.symm
  | some b =>
    rw [List.filterMap_cons_some (show id (some b) = some b from rfl)]
    refine (List.perm_middle.cons a).trans ((List.Perm.swap ..).trans ?_)
    exact List.perm_middle.symm.cons b

/-- A cell that is filled gives up what stood in it. -/
theorem Grid.contents_fill {α : Type} {g : Grid α} {column row : Nat}
    (hlength : g.cells.length = g.columnCount * g.rowCount) (hcolumn : column < g.columnCount)
    (hrow : row < g.rowCount) (a : α) :
    (a :: g.contents).Perm ((g.cell? column row).toList ++ (g.fill column row a).contents) := by
  have hi := index_lt hlength hcolumn hrow
  have hslot := slot?_eq hlength hcolumn hrow
  rw [slot?, List.getElem?_eq_getElem hi] at hslot
  rw [← Option.some.inj hslot]
  exact List.perm_set g.cells a hi

namespace Scene

/-! ### Cells -/

/-- A grid whose tracks are those of another one. -/
def SameTracks (g g' : Grid Slot) : Prop := g'.columns = g.columns ∧ g'.rows = g.rows

section Cells
variable {s : Scene} {n : NodeId} {g : Grid Slot}

theorem lt_size_of_body {b : Body} (h : s.body n = b) (hb : b ≠ .gone) : n < s.nodes.size := by
  by_contra hsize
  exact hb (h.symm.trans (body_of_size_le (Nat.not_lt.mp hsize)))

theorem setTracks_eq (hbody : s.body n = .grid g) (new : Grid Slot → Grid Slot) :
    s.setTracks n new = if g.locked then .error .tracksLocked else
      .ok ((s.setBody n (.grid (new g).blank)).raise n) := by
  simp only [setTracks, hbody, Grid.setTracks]
  cases g.locked <;> rfl

/-- A cell takes a node in and gives up the one that stood there. -/
theorem place_spec (h : s.Linked nothing) (hs : s.Fit) (hbody : s.body n = .grid g) {child : NodeId}
    (hchild : child < s.nodes.size) {column row : Nat} (hcolumn : column < g.columnCount)
    (hrow : row < g.rowCount) :
    ∃ s' g', s.place n child column row = .ok s' ∧ Edits (some n) s s' ∧ s'.Linked nothing ∧
      s'.body n = .grid g' ∧ SameTracks g g' := by
  have hshaped : g.Shaped := by
    have hsound := hs n
    rwa [hbody] at hsound
  have hn : n < s.nodes.size := lt_size_of_body hbody (by simp)
  obtain ⟨s₁, slot, hentry, henter, hentered, hsame, hsize⟩ := h.enter n hchild
  have hbody' : s₁.body n = .grid g := (hsame n).trans hbody
  have hn' : n < s₁.nodes.size := hsize ▸ hn
  let g' := g.fill column row slot
  have hshaped' : g'.Shaped :=
    ⟨(Grid.length_fill ..).trans hshaped.length, fun hopen => by cases hopen⟩
  have hedits : Edits (some n) s (s₁.setBody n (.grid g')) :=
    henter.weaken.trans (edits_setBody s₁ n hshaped')
  have hbodyn : (s₁.setBody n (.grid g')).body n = .grid g' := by
    rw [body_setBody, if_pos ⟨rfl, hn'⟩]
  have hlinked : (s₁.setBody n (.grid g')).Linked
      (Function.update nothing (.forward n) (g.cell? column row).toList) := by
    refine hentered.setBody hn' ?_ fun l hl => ?_
    · rw [Function.update_self, Function.update_self, hbody']
      exact Grid.contents_fill hshaped.length hcolumn hrow slot
    · rw [Function.update_of_ne hl, Function.update_of_ne hl]
  have htracks : SameTracks g g' := ⟨rfl, rfl⟩
  simp only [place, hbody, hentry, Grid.place_eq hcolumn hrow]
  cases hold : g.cell? column row with
  | none =>
    rw [hold, Option.toList_none, update_nothing] at hlinked
    exact ⟨_, g', rfl, hedits, hlinked, hbodyn, htracks⟩
  | some old =>
    rw [hold, Option.toList_some] at hlinked
    exact ⟨_, g', rfl, hedits.trans (edits_leave _ old).weaken, hlinked.leave_last,
      (body_leave ..).trans hbodyn, htracks⟩

end Cells

/-! ### Grids of tables -/

namespace SameTracks
variable {g g' : Grid Slot}

theorem columnCount (h : SameTracks g g') : g'.columnCount = g.columnCount := by
  rw [Grid.columnCount, Grid.columnCount, h.1]

theorem rowCount (h : SameTracks g g') : g'.rowCount = g.rowCount := by
  rw [Grid.rowCount, Grid.rowCount, h.2]

end SameTracks

/-- With a grid that was built for it, a table has the slot of the one before in hand. -/
theorem takeGrid_spec {s : Scene} {n grid : NodeId} {t : Table} (h : s.Linked nothing)
    (hbody : s.body n = .table t) (hgrid : grid < s.nodes.size) {new : List TableColumn}
    (hcolumns : ∀ c ∈ t.columns ++ new, c.header < s.nodes.size) (items : List (List String)) :
    Edits (some n) s (s.takeGrid n t new items grid) ∧
      (s.takeGrid n t new items grid).Linked (Function.update nothing (.forward n) [t.grid]) := by
  have hn : n < s.nodes.size := lt_size_of_body hbody (by simp)
  obtain ⟨s₁, slot, hentry, henter, hentered, hsame, hsize⟩ := h.enter n hgrid
  let table : Table := { t with columns := t.columns ++ new, items, grid := slot }
  have hsound : (Body.table table).Sound s₁.nodes.size := by rwa [hsize]
  have htake : s.takeGrid n t new items grid = s₁.setBody n (.table table) := by
    rw [takeGrid, hentry]
  rw [htake]
  refine ⟨henter.weaken.trans (edits_setBody s₁ n hsound), ?_⟩
  refine hentered.setBody (hsize ▸ hn) ?_ fun l hl => ?_
  · rw [Function.update_self, Function.update_self, hsame, hbody]
    exact List.Perm.swap ..
  · rw [Function.update_of_ne hl, Function.update_of_ne hl]

/-- A table listens to its new grid and no longer to the one before. -/
theorem regrid_spec {s : Scene} {n grid : NodeId} {t : Table} (h : s.Linked nothing)
    (hbody : s.body n = .table t) (hgrid : grid < s.nodes.size) {new : List TableColumn}
    (hcolumns : ∀ c ∈ t.columns ++ new, c.header < s.nodes.size) (items : List (List String)) :
    Edits (some n) s ((s.takeGrid n t new items grid).leave t.grid) ∧
      ((s.takeGrid n t new items grid).leave t.grid).Linked nothing := by
  obtain ⟨hedits, hlinked⟩ := takeGrid_spec h hbody hgrid hcolumns items
  exact ⟨hedits.trans (edits_leave _ t.grid).weaken, hlinked.leave_last⟩

end Scene

end TextPane
