import TextPane.Proofs.Scene.Rounds
import TextPane.Proofs.Scene.Tables

/-! Calls of a table.

Whenever a table takes items or a column, it gets a new grid, for which its factories are called. While the
grid is built and takes the place of the one before, no counter notices anything but what the factories do,
and then the table raises one update (`Underway.takes_over`). That leaves what stands in the grid as it is
(`Lays.still`), so it is there after each call (`TableCall.renews`), and the next one begins with it
(`TableCall.tied_moves`). -/
namespace TextPane

namespace TableCall

/-- How factories are called for a call of a table. -/
def made (script : Script) (n : NodeId) (s : Scene) (c : TableCall) : List FillRun :=
  FillRun.made (c.runs script n s)

/-- The header that a call adds is there, and the factories that it has called leave alone the table and the
grid that is built for it. -/
def Discreet (script : Script) (n : NodeId) (s : Scene) (c : TableCall) : Prop :=
  (∀ column ∈ c.new, column.header < s.nodes.size) ∧ ∀ r ∈ c.made script n s, r.Discreet n s.nodes.size

def items? : TableCall → Option (List (List String))
  | .setItems items => some items
  | .addColumn _ => none

/-- The items that a table has after calls: those that it was given last. -/
def itemsAfter (items : List (List String)) (cs : List TableCall) : List (List String) :=
  ((cs.filterMap items?).getLast?).getD items

/-- The columns that a table has after calls: it was given further ones in order. -/
def columnsAfter (columns : List TableColumn) (cs : List TableCall) : List TableColumn :=
  columns ++ cs.flatMap new

/-- Calls of a table as moves of a caller. -/
def moves (n : NodeId) (calls : List (Script × TableCall)) : List Move :=
  calls.map fun (script, c) => .table script n c

/-- The factories are discreet in each of the calls when it is made. -/
def DiscreetAll (n : NodeId) : Scene → List (Script × TableCall) → Prop
  | _, [] => True
  | s, (script, c) :: rest =>
    c.Discreet script n s ∧ DiscreetAll n (c.perform script.factories n s).1 rest

theorem discreetAll_append {n : NodeId} {s : Scene} {calls later : List (Script × TableCall)} :
    DiscreetAll n s (calls ++ later) ↔
      DiscreetAll n s calls ∧ DiscreetAll n (s.moves (moves n calls)) later := by
  induction calls generalizing s with
  | nil => exact ⟨fun h => ⟨trivial, h⟩, And.right⟩
  | cons call rest ih =>
    simp only [List.cons_append, DiscreetAll, ih, and_assoc]
    rfl

theorem items_eq (t : Table) (c : TableCall) : c.items t = itemsAfter t.items [c] := by
  cases c <;> rfl

theorem columns_eq (t : Table) (c : TableCall) : t.columns ++ c.new = columnsAfter t.columns [c] := by
  rw [columnsAfter, List.flatMap_singleton]

theorem columnsAfter_append (columns : List TableColumn) (cs ds : List TableCall) :
    columnsAfter columns (cs ++ ds) = columnsAfter (columnsAfter columns cs) ds := by
  simp only [columnsAfter, List.flatMap_append, List.append_assoc]

theorem itemsAfter_append (items : List (List String)) (cs ds : List TableCall) :
    itemsAfter items (cs ++ ds) = itemsAfter (itemsAfter items cs) ds := by
  simp only [itemsAfter, List.filterMap_append, List.getLast?_append]
  cases (ds.filterMap items?).getLast? <;> rfl

end TableCall

namespace Scene

/-! ### What stands in a grid -/

/-- A grid is laid out for a table: the headers stand in the first row, and below them the views that the
factories of the columns returned when they were called, once for each item. -/
structure Lays (s : Scene) (grid : NodeId) (t : Table) (script : Script) (runs : List FillRun) : Prop where
  tracks : ∃ g, s.body grid = .grid g ∧ g.columns = t.columns.map (·.track) ∧
    g.rows = List.replicate (t.items.length + 1) .auto ∧ g.gutter = t.gutter ∧
    g.cells.length = t.columns.length * (t.items.length + 1) ∧ none ∉ g.cells
  called : runs.map (·.filling) = fillings t.columns t.items
  cells : ∀ (i : Nat) (c : TableColumn), t.columns[i]? = some c → s.child? grid i 0 = some c.header ∧
    ∀ (r : Nat) (item : List String), t.items[r]? = some item →
      ∃ run ∈ runs, run.filling = ⟨i, r + 1, .made c.factory item⟩ ∧
        script c.factory run.scene item = (run.deeds, run.view) ∧
        s.child? grid i (r + 1) = some run.view

section
variable {s s' : Scene} {grid : NodeId} {t : Table} {script : Script} {runs : List FillRun}

theorem Lays.congr (h : s.Lays grid t script runs) (hsame : s'.body grid = s.body grid) :
    s'.Lays grid t script runs := by
  have hchild : ∀ column row, s'.child? grid column row = s.child? grid column row := fun column row => by
    rw [child?, child?, hsame]
  refine ⟨by rw [hsame]; exact h.tracks, h.called, fun i c hc => ?_⟩
  simp only [hchild]
  exact h.cells i c hc

/-- An update leaves what stands in a grid as it is. -/
theorem Lays.still (h : s.Lays grid t script runs) (hstill : Still s s') : s'.Lays grid t script runs := by
  obtain ⟨g, hbody, _⟩ := h.tracks
  rcases hstill.body grid with heq | ⟨p, _, hp, _⟩
  · exact h.congr heq
  · rw [hbody] at hp
    cases hp

end

/-- Where every cell in range is filled, no slot is empty. -/
theorem none_not_mem_cells {g : Grid Slot} (hlength : g.cells.length = g.columnCount * g.rowCount)
    (hfilled : ∀ column < g.columnCount, ∀ row < g.rowCount, g.cell? column row ≠ none) : none ∉ g.cells := by
  intro hmem
  obtain ⟨i, hi⟩ := List.mem_iff_getElem?.mp hmem
  have hlt : i < g.columnCount * g.rowCount := hlength ▸ (List.getElem?_eq_some_iff.mp hi).1
  have hpos : 0 < g.columnCount := Nat.pos_of_mul_pos_right (Nat.zero_lt_of_lt hlt)
  have hcolumn : i % g.columnCount < g.columnCount := Nat.mod_lt i hpos
  have hrow : i / g.columnCount < g.rowCount := Nat.div_lt_of_lt_mul hlt
  have hslot := Grid.slot?_eq hlength hcolumn hrow
  rw [Grid.slot?, Nat.div_add_mod', hi] at hslot
  exact hfilled _ hcolumn _ hrow (Option.some.inj hslot).symm

/-- The runs that fill the cells of a table are found by the cells. -/
theorem Stocked.cells {script : Script} {columns : List TableColumn} {items : List (List String)}
    {runs : List FillRun} {cells : Nat → Nat → Option NodeId}
    (h : Stocked script (fillings columns items) runs (fun _ _ => none) cells) {i : Nat} {c : TableColumn}
    (hc : columns[i]? = some c) :
    cells i 0 = some c.header ∧ ∀ (r : Nat) (item : List String), items[r]? = some item →
      ∃ run ∈ runs, run.filling = ⟨i, r + 1, .made c.factory item⟩ ∧
        script c.factory run.scene item = (run.deeds, run.view) ∧ cells i (r + 1) = some run.view := by
  have hfound : ∀ f ∈ fillings columns items, ∃ run ∈ runs, run.filling = f ∧
      f.filler.script script run.scene = (run.deeds, run.view) ∧ cells f.column f.row = some run.view := by
    intro f hf
    rw [← h.filled] at hf
    obtain ⟨run, hrun, rfl⟩ := List.mem_map.mp hf
    exact ⟨run, hrun, rfl, h.made run hrun, h.views run hrun⟩
  refine ⟨?_, fun r item hitem => ?_⟩
  · obtain ⟨run, _, _, hmade, hcell⟩ :=
      hfound ⟨i, 0, .header c.header⟩ (mem_fillings.mpr ⟨i, c, hc, .inl rfl⟩)
    rw [hcell, ← (Prod.mk.inj hmade).2]
  · obtain ⟨run, hrun, hfilling, hmade, hcell⟩ := hfound ⟨i, r + 1, .made c.factory item⟩
      (mem_fillings.mpr ⟨i, c, hc, .inr ⟨r, item, hitem, rfl⟩⟩)
    exact ⟨run, hrun, hfilling, hmade, hcell⟩

/-- Headers and cells fill the grid of a table that has columns. -/
theorem Stocked.lays {script : Script} {runs : List FillRun} {cells : Nat → Nat → Option NodeId} {t : Table}
    (h : Stocked script (fillings t.columns t.items) runs (fun _ _ => none) cells) (hne : t.columns ≠ [])
    {s : Scene} {grid : NodeId} (hgrid : s.Assembled grid (plan t.gutter t.columns t.items) cells) :
    s.Lays grid t script runs := by
  obtain ⟨g, hbody, htracks, hgutter, hlength, hstands⟩ := hgrid.body
  have hcolumns : g.columns = t.columns.map (·.track) := htracks.1
  have hrows : g.rows = List.replicate (t.items.length + 1) .auto := htracks.2
  have hcolumnCount : g.columnCount = t.columns.length := by
    rw [Grid.columnCount, hcolumns, List.length_map]
    exact Nat.max_eq_left (List.length_pos_iff.mpr hne)
  have hrowCount : g.rowCount = t.items.length + 1 := by
    rw [Grid.rowCount, hrows, List.length_replicate]
    exact Nat.max_eq_left (Nat.succ_pos _)
  have hchild : ∀ column row, s.child? grid column row = cells column row := fun column row => by
    simp only [child?, hbody]
    exact hstands column row
  refine ⟨⟨g, hbody, hcolumns, hrows, hgutter, ?_, ?_⟩, h.filled, fun i c hc => ?_⟩
  · rw [hlength, hcolumnCount, hrowCount]
  · refine none_not_mem_cells hlength fun column hcolumn row hrow hnone => ?_
    have hempty : cells column row = none := by rw [← hstands, hnone, Option.map_none]
    rw [hcolumnCount] at hcolumn
    rw [hrowCount] at hrow
    obtain ⟨hheader, hitems⟩ := h.cells (List.getElem?_eq_getElem hcolumn)
    cases row with
    | zero =>
      rw [hheader] at hempty
      cases hempty
    | succ row =>
      obtain ⟨_, _, _, _, hcell⟩ := hitems row _ (List.getElem?_eq_getElem (Nat.lt_of_succ_lt_succ hrow))
      rw [hcell] at hempty
      cases hempty
  · simp only [hchild]
    exact h.cells hc

/-! ### Taking the grid -/

theorem body_takeGrid {s : Scene} {n : NodeId} (hn : n < s.nodes.size) (t : Table) (new : List TableColumn)
    (items : List (List String)) (grid m : NodeId) :
    (s.takeGrid n t new items grid).body m = if n = m then
      .table { t with columns := t.columns ++ new, items, grid := (s.enter n grid).2 } else s.body m := by
  have hsize : (s.enter n grid).1.nodes.size = s.nodes.size := size_subscribe ..
  have hentered : (s.enter n grid).1.body m = s.body m := body_subscribe ..
  show ((s.enter n grid).1.setBody n (.table _)).body m = _
  rw [body_setBody, hsize, hentered]
  by_cases hm : n = m
  · rw [if_pos ⟨hm, hm ▸ hn⟩, if_pos hm]
    rfl
  · rw [if_neg fun heq => hm heq.1, if_neg hm]

/-- Nobody notices that a table takes another grid and leaves the one before. -/
theorem Tacit.takeGrid {s : Scene} {n grid : NodeId} {t : Table} {new : List TableColumn}
    {items : List (List String)}
    (h : (s.takeGrid n t new items grid).Linked (Function.update nothing (.forward n) [t.grid])) :
    Tacit s ((s.takeGrid n t new items grid).leave t.grid) := by
  have hgiven : t.grid ∈ Function.update nothing (.forward n) [t.grid] (.forward n) := by
    rw [Function.update_self]
    exact List.mem_singleton_self _
  exact ((Tacit.enter s n grid).trans (.setBody _ n _)).trans (.leave h hgiven)

/-- **A table takes the grid that was built for it**, and raises one update; nothing is noticed before. -/
theorem Underway.takes_over {n grid : NodeId} {t : Table} {g₀ : Grid Slot} {s₀ s : Scene}
    {cells : Nat → Nat → Option NodeId} (h : Underway n grid t g₀ s₀ s cells) {new : List TableColumn}
    (hnew : ∀ c ∈ new, c.header < s.nodes.size)
    (hheld : n ∈ (grid :: new.map TableColumn.header).foldl List.erase s.held) (items : List (List String)) :
    ∃ quiet slot, s.install n new items grid = quiet.raise n ∧ quiet.Tied ∧ n ∈ quiet.held ∧
      quiet.body n = .table { t with columns := t.columns ++ new, items, grid := slot } ∧ slot.node = grid ∧
      quiet.body grid = s.body grid ∧ Tacit s quiet := by
  let free : Scene := { s with held := (grid :: new.map TableColumn.header).foldl List.erase s.held }
  let left := (free.takeGrid n t new items grid).leave t.grid
  let slot := (free.enter n grid).2
  have hn : n < s.nodes.size := lt_size_of_body h.table (by simp)
  have hfree : free.Tied := h.tied.edited (edits_of_nodes rfl rfl rfl rfl : Edits none s free)
    (h.tied.linked.congr rfl fun _ => rfl)
  have hcolumns : ∀ c ∈ t.columns ++ new, c.header < free.nodes.size := fun c hc => by
    have hfits := h.tied.fit n
    rw [h.table] at hfits
    exact (List.mem_append.mp hc).elim (hfits c) (hnew c)
  obtain ⟨hedits, hhand⟩ := takeGrid_spec hfree.linked h.table h.assembled.lt_size hcolumns items
  have hleft : left.Tied :=
    hfree.edited (hedits.trans (edits_leave (free.takeGrid n t new items grid) t.grid).weaken)
      hhand.leave_last
  have hbody : ∀ m, left.body m = if n = m then
      .table { t with columns := t.columns ++ new, items, grid := slot } else s.body m := fun m =>
    (body_leave ..).trans (body_takeGrid (s := free) hn t new items grid m)
  have hheldLeft : n ∈ left.held := hheld
  have hholds : left.Holds n grid := by
    refine ⟨slot, ?_, rfl⟩
    rw [hbody, if_pos rfl]
    exact List.mem_singleton_self _
  have htacit : Tacit s left :=
    (.of_notifier rfl fun _ => rfl : Tacit s free).trans (.takeGrid hhand)
  refine ⟨left.sweep, slot, ?_, hleft.swept (swept_sweep left), ?_, ?_, rfl, ?_, ?_⟩
  · have htable : free.body n = .table t := h.table
    simp only [free] at htable
    simp only [install, htable, left, free]
  · rw [(swept_sweep left).held]
    exact hheldLeft
  · rw [body_sweep hheldLeft, hbody, if_pos rfl]
  · rw [body_sweep_of_contains hheldLeft (.single hholds), hbody, if_neg h.table_ne]
  · exact htacit.trans (.sweep hleft.linked)

/-! ### What is heard of it -/

/-- An update of a node calls a counter of that node alone as often as the counter listens there. -/
theorem Watches.calls_self {s : Scene} {k : Nat} {n : NodeId} (hk : s.Watches k n) (htied : s.Tied)
    (hacyclic : s.Acyclic) (hn : n < s.nodes.size) : s.calls n k = s.listening (.watch k) n := by
  rw [calls, Finset.sum_eq_single_of_mem n (Finset.mem_range.mpr hn) fun m _ hm => by
    rw [hk.alone m hm, Nat.zero_mul], paths_self htied hacyclic hn, List.length_singleton, Nat.mul_one]

/-- A call was made of a table, and it was not refused. The table has what it was asked to have, and another
grid, which is laid out for it. It raised one update, before which counters noticed nothing but what the
factories did (`quiet`), and those of the table nothing at all if they noticed nothing of the factories. The
table listens to the new grid, once, and no longer to the one before. -/
structure Renews (n : NodeId) (script : Script) (c : TableCall) (s : Scene) (t : Table) (s' : Scene)
    (t' : Table) : Prop where
  accepted : c.perform script.factories n s = (s', .ok ())
  before : s.body n = .table t
  after : s'.body n = .table t'
  columns : t'.columns = t.columns ++ c.new
  items : t'.items = c.items t
  gutter : t'.gutter = t.gutter
  lays : t'.columns ≠ [] → s'.Lays t'.grid.node t' script (c.runs script n s)
  once : ∃ quiet, s' = quiet.raise n ∧ TacitBetween s (c.made script n s) quiet ∧
    ((∀ r ∈ c.made script n s, Silent n r.scene r.after) → Silent n s quiet) ∧ (s'.Acyclic →
      ∃ us : List NodeId, (∀ u ∈ us, quiet.Noisy u) ∧ ∀ k, quiet.Watches k n → s'.hitCount k =
        quiet.hitCount k + (quiet.listening (.watch k) n + (us.map (quiet.calls · k)).sum))
  replaced : t'.grid.node ≠ t.grid.node
  released : s'.listening (.forward n) t.grid.node = 0
  subscribed : s'.listening (.forward n) t'.grid.node = 1

/-- A table listens to its grid once, and to nothing else. -/
theorem listening_table {s : Scene} (h : s.Linked nothing) {n : NodeId} {t : Table}
    (hbody : s.body n = .table t) (m : NodeId) :
    s.listening (.forward n) m = if t.grid.node = m then 1 else 0 := by
  rw [listening_eq h rfl, places, hbody]
  simp [Body.slots, List.countP_cons]

/-- An update leaves a table as it is. -/
theorem body_raise_table {s : Scene} {n : NodeId} {t : Table} (h : s.body n = .table t) :
    (s.raise n).body n = .table t := by
  rcases (still_raise s n).body n with heq | ⟨p, _, hp, _⟩
  · rw [heq, h]
  · rw [h] at hp
    cases hp

end Scene

namespace TableCall
open Scene
variable {s : Scene} {n : NodeId} {t : Table}

theorem nodes_holds (c : TableCall) (s : Scene) : (s.deeds c.holds).nodes = s.nodes := by
  cases c <;> rfl

theorem held_holds (c : TableCall) (s : Scene) :
    (s.deeds c.holds).held = c.new.map TableColumn.header ++ s.held := by
  cases c <;> rfl

theorem tacit_holds (c : TableCall) (s : Scene) : Tacit s (s.deeds c.holds) :=
  .of_notifier (by cases c <;> rfl) (notifier_of_nodes (c.nodes_holds s))

/-- **A grid is built for a call of a table**, which then comes to taking it. The headers that the call adds
are there, and the table is held besides them and the grid. -/
theorem underway (htied : s.Tied) (hheld : n ∈ s.held) (hbody : s.body n = .table t) {script : Script}
    {c : TableCall} (hc : c.Discreet script n s) :
    ∃ s₁ g₀ cells, c.perform script.factories n s =
        (s₁.install n c.new (c.items t) s.nodes.size, .ok ()) ∧
      Underway n s.nodes.size t g₀ (s.deeds c.holds) s₁ cells ∧
      TacitBetween s (c.made script n s) s₁ ∧
      (∀ column ∈ c.new, column.header < s₁.nodes.size) ∧
      n ∈ (s.nodes.size :: c.new.map TableColumn.header).foldl List.erase s₁.held ∧
      (t.columns ++ c.new ≠ [] → g₀ = plan t.gutter (t.columns ++ c.new) (c.items t) ∧
        Stocked script (fillings (t.columns ++ c.new) (c.items t)) (c.runs script n s)
          (fun _ _ => none) cells) := by
  obtain ⟨hheaders, hruns⟩ := hc
  let s₀ := s.deeds c.holds
  have hallows : s.Allows c.holds := by cases c <;> trivial
  have htied₀ : s₀.Tied := htied.deeds _ hallows
  have hsize : s₀.nodes.size = s.nodes.size := congrArg Array.size (c.nodes_holds s)
  have hbody₀ : s₀.body n = .table t := (body_of_nodes (c.nodes_holds s) n).trans hbody
  have hheld₀ : s₀.held.count n = (c.new.map TableColumn.header).count n + s.held.count n := by
    rw [held_holds, List.count_append]
  have hcount : 0 < s.held.count n := List.count_pos_iff.mpr hheld
  have hcolumns : ∀ column ∈ t.columns ++ c.new, column.header < s₀.nodes.size := fun column hcolumn => by
    have hfits := htied.fit n
    rw [hbody] at hfits
    rw [hsize]
    exact (List.mem_append.mp hcolumn).elim (hfits column) (hheaders column)
  have hdeeds : c.runs script n s = s₀.buildRuns script t.gutter (t.columns ++ c.new) (c.items t) := by
    simp only [runs, hbody]
    rfl
  rw [made, hdeeds, ← hsize] at hruns
  obtain ⟨s₁, g₀, cells, hbuilt, hunderway, hbetween, hstocked⟩ :=
    buildGrid_underway htied₀ (List.count_pos_iff.mp (by omega)) hbody₀ script t.gutter (c.items t)
      hcolumns hruns
  have hgrid := hunderway.assembled.lt_size
  have hkept : n ∈ (s₀.nodes.size :: c.new.map TableColumn.header).foldl List.erase s₁.held := by
    have hother : (s₀.nodes.size :: c.new.map TableColumn.header).count n =
        (c.new.map TableColumn.header).count n := List.count_cons_of_ne hunderway.table_ne.symm
    have hbefore := hunderway.held
    rw [← List.diff_eq_foldl, ← List.count_pos_iff, List.count_diff, hother]
    omega
  rw [made, hdeeds, ← hsize]
  refine ⟨s₁, g₀, cells, ?_, hunderway, (c.tacit_holds s).between hbetween, fun column hcolumn => ?_, hkept,
    hstocked⟩
  · rw [perform_eq hbody, rebuild, hbuilt]
  · exact Nat.lt_trans (hcolumns column (List.mem_append_right _ hcolumn)) hgrid

/-- **A call of a table is not refused**, and it renews what the table shows. -/
theorem renews (htied : s.Tied) (hheld : n ∈ s.held) (hbody : s.body n = .table t) {script : Script}
    {c : TableCall} (hc : c.Discreet script n s) :
    ∃ s' t', Renews n script c s t s' t' ∧ s'.Tied ∧ n ∈ s'.held := by
  obtain ⟨s₁, g₀, cells, hperform, hunderway, hbetween, hheaders, hkept, hstocked⟩ :=
    underway htied hheld hbody hc
  obtain ⟨quiet, slot, hinstall, htied', hheld', hafter, hslot, hsame, htacit⟩ :=
    hunderway.takes_over hheaders hkept (c.items t)
  let t' : Table := { t with columns := t.columns ++ c.new, items := c.items t, grid := slot }
  have hstill := still_raise quiet n
  have hquiet : TacitBetween s (c.made script n s) quiet := hbetween.trans htacit
  have hold : t.grid.node < slot.node := by
    rw [hslot]
    refine htied.linked.node_lt (n := n) ?_
    rw [hbody]
    exact List.mem_singleton_self _
  have htable : (quiet.raise n).body n = .table t' := body_raise_table hafter
  have hlistening := listening_table (htied'.still hstill).linked htable
  have hrenews : Renews n script c s t (quiet.raise n) t' :=
    { accepted := by
        rw [hperform, ← hinstall]
      before := hbody
      after := htable
      columns := rfl
      items := rfl
      gutter := rfl
      lays := fun hne => by
        obtain ⟨rfl, hfull⟩ := hstocked hne
        have hlays := hfull.lays (t := t') hne hunderway.assembled
        rw [show t'.grid.node = s.nodes.size from hslot]
        exact (hlays.congr hsame).still hstill
      once := by
        refine ⟨quiet, rfl, hquiet, hquiet.silent, fun hacyclic => ?_⟩
        have hbefore : quiet.Acyclic := acyclic_of_holds hacyclic fun m k hholds => by
          rwa [Holds, hstill.slots]
        have hn := lt_size_of_body hafter (by simp)
        obtain ⟨us, hus, hcount⟩ := hitCount_raise htied' hbefore hn
        refine ⟨us, hus, fun k hk => ?_⟩
        rw [hcount k hk.there, hk.calls_self htied' hbefore hn]
      replaced := Nat.ne_of_gt hold
      released := by
        rw [hlistening, if_neg (Nat.ne_of_gt hold)]
      subscribed := by
        rw [hlistening, if_pos rfl] }
  refine ⟨quiet.raise n, t', hrenews, htied'.still hstill, ?_⟩
  rw [hstill.held]
  exact hheld'

/-- The table goes on to be held, and has what the calls gave it. -/
theorem tied_moves (calls : List (Script × TableCall)) (htied : s.Tied) (hheld : n ∈ s.held)
    (hbody : s.body n = .table t) (hcalls : DiscreetAll n s calls) :
    let s' := s.moves (moves n calls)
    s'.Tied ∧ n ∈ s'.held ∧ ∃ slot, s'.body n = .table { t with
      columns := columnsAfter t.columns (calls.map Prod.snd)
      items := itemsAfter t.items (calls.map Prod.snd), grid := slot } := by
  induction calls generalizing s t with
  | nil =>
    refine ⟨htied, hheld, t.grid, ?_⟩
    rw [List.map_nil, columnsAfter, List.flatMap_nil, List.append_nil]
    exact hbody
  | cons call rest ih =>
    obtain ⟨script, c⟩ := call
    obtain ⟨hc, hrest⟩ := hcalls
    obtain ⟨s₁, t₁, hrenews, htied₁, hheld₁⟩ := renews htied hheld hbody hc
    rw [hrenews.accepted] at hrest
    have hmove : s.move (.table script n c) = s₁ := congrArg Prod.fst hrenews.accepted
    obtain ⟨htied', hheld', slot, hbody'⟩ := ih htied₁ hheld₁ hrenews.after hrest
    have hmoves : s.moves (moves n ((script, c) :: rest)) = s₁.moves (moves n rest) := by
      rw [← hmove]
      rfl
    rw [hmoves]
    refine ⟨htied', hheld', slot, ?_⟩
    rw [hbody', hrenews.columns, hrenews.items, hrenews.gutter, items_eq, columns_eq,
      ← columnsAfter_append, ← itemsAfter_append]
    rfl

end TableCall

namespace Scene

/-- **A table shows its columns and items after every call.** Whatever was done before, and whatever the
factories do that leave the table and its new grid alone, no call is refused that gives a table items or a
column. After each of them the table has the columns that it was given, in order, and the items that it was
given last. Its grid has a column with the track of each, and one row more than there are items; the headers
stand in the first row, a cell below has the view that the factory of its column returned for the item in
this call, and no cell is empty (`Lays`). The table raises one update, and whatever counters notice before
they notice of the factories; those of the table notice nothing before if the factories update nothing that
it shows. After it the table listens to the new grid once, and to the one before no longer (`Renews`). -/
theorem tableCalls_renew (terminal : Terminal) (ms : List Move)
    (hms : (bare terminal).Allows ((bare terminal).run ms)) :
    let s := (bare terminal).moves ms
    ∀ n ∈ s.held, ∀ t, s.body n = .table t → ∀ calls : List (Script × TableCall),
      TableCall.DiscreetAll n s calls →
        ∀ before script c after, calls = before ++ (script, c) :: after →
          let s₁ := s.moves (TableCall.moves n before)
          ∃ t₁ s₂ t₂, Renews n script c s₁ t₁ s₂ t₂ ∧ t₂.gutter = t.gutter ∧
            t₂.columns = TableCall.columnsAfter t.columns (before.map Prod.snd ++ [c]) ∧
            t₂.items = TableCall.itemsAfter t.items (before.map Prod.snd ++ [c]) := by
  rintro s n hheld t hbody calls hcalls before script c after rfl s₁
  obtain ⟨hbefore, hc, _⟩ := TableCall.discreetAll_append.mp hcalls
  obtain ⟨htied₁, hheld₁, slot, hbody₁⟩ :=
    TableCall.tied_moves before (Scene.tied_moves hms) hheld hbody hbefore
  obtain ⟨s₂, t₂, hrenews, _⟩ := TableCall.renews htied₁ hheld₁ hbody₁ hc
  refine ⟨_, s₂, t₂, hrenews, hrenews.gutter, ?_, ?_⟩
  · rw [hrenews.columns, TableCall.columns_eq, TableCall.columnsAfter_append]
  · rw [hrenews.items, TableCall.items_eq, TableCall.itemsAfter_append]

/-! ### Finding out whether factories are discreet -/

theorem listening_of_size_le {s : Scene} {l : Listener} {m : NodeId} (h : s.nodes.size ≤ m) :
    s.listening l m = 0 := by
  rw [listening, notifier, node_of_size_le h]
  rfl

theorem watches_iff {s : Scene} {k : Nat} {n : NodeId} : s.Watches k n ↔
    k < s.hits.size ∧ 0 < s.listening (.watch k) n ∧
      ∀ m < s.nodes.size, m ≠ n → s.listening (.watch k) m = 0 := by
  refine ⟨fun h => ⟨h.there, h.listens, fun m _ => h.alone m⟩, fun h => ⟨h.1, h.2.1, fun m hm => ?_⟩⟩
  rcases Nat.lt_or_ge m s.nodes.size with hlt | hge
  · exact h.2.2 m hlt hm
  · exact listening_of_size_le hge

instance (s : Scene) (k : Nat) (n : NodeId) : Decidable (s.Watches k n) :=
  decidable_of_iff _ watches_iff.symm

theorem silent_iff {n : NodeId} {s s' : Scene} : Silent n s s' ↔ ∀ k < s.hits.size, s.Watches k n →
    s'.hits[k]? = s.hits[k]? ∧ ∀ m < max s.nodes.size s'.nodes.size,
      s'.listening (.watch k) m = s.listening (.watch k) m := by
  refine ⟨fun h k _ hk => ⟨(h k hk).1, fun m _ => (h k hk).2 m⟩, fun h k hk => ?_⟩
  obtain ⟨hhits, hlistening⟩ := h k hk.there hk
  refine ⟨hhits, fun m => ?_⟩
  rcases Nat.lt_or_ge m (max s.nodes.size s'.nodes.size) with hlt | hge
  · exact hlistening m hlt
  · obtain ⟨hge, hge'⟩ := max_le_iff.mp hge
    rw [listening_of_size_le hge, listening_of_size_le hge']

instance (n : NodeId) (s s' : Scene) : Decidable (Silent n s s') := decidable_of_iff _ silent_iff.symm

end Scene

open Scene

theorem FillRun.discreet_iff {n grid : NodeId} {r : FillRun} : r.Discreet n grid ↔
    r.scene.Allows r.deeds ∧ r.view < r.after.nodes.size ∧ r.view ≠ grid ∧
      r.after.asTable? n = r.scene.asTable? n ∧ (r.view :: r.scene.held).count n ≤ r.after.held.count n ∧
      r.after.asGrid? grid = r.scene.asGrid? grid ∧ r.after.listenerCount grid = 0 ∧ grid ∈ r.after.held :=
  ⟨fun ⟨h₁, h₂, h₃, h₄, h₅, h₆, h₇, h₈⟩ => ⟨h₁, h₂, h₃, h₄, h₅, h₆, h₇, h₈⟩,
    fun ⟨h₁, h₂, h₃, h₄, h₅, h₆, h₇, h₈⟩ => ⟨h₁, h₂, h₃, h₄, h₅, h₆, h₇, h₈⟩⟩

instance (n grid : NodeId) (r : FillRun) : Decidable (r.Discreet n grid) :=
  decidable_of_iff _ FillRun.discreet_iff.symm

namespace TableCall

instance (script : Script) (n : NodeId) (s : Scene) (c : TableCall) : Decidable (c.Discreet script n s) :=
  inferInstanceAs (Decidable (_ ∧ _))

instance decidableDiscreetAll (n : NodeId) (s : Scene) (calls : List (Script × TableCall)) :
    Decidable (DiscreetAll n s calls) :=
  match calls with
  | [] => .isTrue trivial
  | (script, c) :: rest =>
    let _ := decidableDiscreetAll n (c.perform script.factories n s).1 rest
    inferInstanceAs (Decidable (c.Discreet script n s ∧ DiscreetAll n (c.perform script.factories n s).1 rest))

end TableCall

namespace Scene

/-- Two headers, a line that tells who came last, a mark, and a table with a counter. -/
def peopleMoves : List Move :=
  [.deed (.change (.content (.ofText "Name"))), .deed (.change (.content (.ofText "Here"))),
    .deed (.change (.content .empty)), .deed (.change (.content (.ofText "x"))),
    .deed (.change (.table 1)), .deed (.change (.watch 5))]

/-- The first factory makes a cell of the name. The second one updates the line, and returns the mark for
every item. -/
def peopleScript : Script := fun factory s item =>
  let name : Span := .ofText (item.headD "")
  match factory with
  | 0 => ([.change (.content name)], s.nodes.size)
  | _ => ([.change (.setSpan 2 name), .change (.hold 3)], 3)

/-- The table gets an item before it has columns. -/
def peopleCalls : List (Script × TableCall) :=
  [(peopleScript, .setItems [["Ada"]]), (peopleScript, .addColumn { header := 0, factory := 0 }),
    (peopleScript, .addColumn { header := 1, factory := 1 })]

/-- The last call, which gives the table two items. -/
def peopleCall : TableCall := .setItems [["Ada"], ["Grace"]]

theorem tableCalls_renew_people :
    let s := (bare { size := ⟨30, 6⟩ }).moves peopleMoves
    let s₁ := s.moves (TableCall.moves 5 peopleCalls)
    ∃ t₁ s₂ t₂, Renews 5 peopleScript peopleCall s₁ t₁ s₂ t₂ ∧ s₂.child? t₂.grid.node 1 0 = some 1 ∧
      s₂.child? t₂.grid.node 1 1 = some 3 ∧ s₂.child? t₂.grid.node 1 2 = some 3 ∧
      s₂.hitCount 0 = s₁.hitCount 0 + 1 := by
  intro s s₁
  have hbody : s.body 5 = .table { gutter := 1, grid := ⟨4, 0⟩ } := rfl
  obtain ⟨t₁, s₂, t₂, hrenews, _, hcolumns, hitems⟩ :=
    tableCalls_renew { size := ⟨30, 6⟩ } peopleMoves (by decide +kernel) 5 (by decide +kernel) _ hbody
      (peopleCalls ++ [(peopleScript, peopleCall)]) (by decide +kernel) peopleCalls peopleScript peopleCall []
      rfl
  have hlays := hrenews.lays (by rw [hcolumns]; exact List.cons_ne_nil _ _)
  obtain ⟨hheader, hcells⟩ := hlays.cells 1 { header := 1, factory := 1 } (by rw [hcolumns]; rfl)
  have hmark : ∀ (r : Nat) (item : List String), t₂.items[r]? = some item →
      s₂.child? t₂.grid.node 1 (r + 1) = some 3 := fun r item hitem => by
    obtain ⟨run, _, _, hmade, hcell⟩ := hcells r item hitem
    rw [hcell, ← (Prod.mk.inj hmade).2]
  refine ⟨t₁, s₂, t₂, hrenews, hheader, hmark 0 ["Ada"] (by rw [hitems]; rfl),
    hmark 1 ["Grace"] (by rw [hitems]; rfl), ?_⟩
  have hs₂ : s₂ = (peopleCall.perform peopleScript.factories 5 s₁).1 :=
    (congrArg Prod.fst hrenews.accepted).symm
  have hacyclic : s₂.Acyclic := by
    rw [hs₂]
    exact acyclic_of_rank (fun n => if n = 5 then 2 else if n = 11 then 1 else 0) (by decide +kernel)
  have hnone : ∀ u < s₂.nodes.size, s₂.probe? u = none := by
    rw [hs₂]
    decide +kernel
  obtain ⟨quiet, rfl, _, hsilent, hcount⟩ := hrenews.once
  replace hsilent := hsilent (by decide +kernel)
  obtain ⟨us, hus, hcount⟩ := hcount hacyclic
  have hstill := still_raise quiet 5
  have hquiet : ∀ u, ¬quiet.Noisy u :=
    not_noisy fun u hu => hstill.probe?_eq_none (hnone u (hstill.size ▸ hu))
  obtain rfl : us = [] := List.eq_nil_iff_forall_not_mem.mpr fun u hu => hquiet u (hus u hu)
  have hwatches : s₁.Watches 0 5 := by decide +kernel
  rw [hcount 0 (hsilent.watches hwatches), hsilent.hitCount hwatches, (hsilent 0 hwatches).2, List.map_nil,
    List.sum_nil]
  decide +kernel

end Scene

end TextPane
