import TextPane.Proofs.Scene.Filling
import TextPane.Proofs.Scene.Tacit

/-! The grid of a table.

A table gets a grid that is new, so nobody listens to it while its tracks are set and its cells are filled,
and an update of it reaches nobody (`raise_of_unheard`). Between two cells a factory is called, which may do
what it likes as long as it leaves the table and the grid alone (`FillRun.Discreet`). Filling a cell keeps
what is true of a grid on the way (`Underway.step`), and so does filling all of them (`Underway.fill`): no
view is refused, each cell has the one that was made for it, and whatever counters notice meanwhile they
notice of the factories (`TacitBetween`). -/
namespace TextPane

/-! ### What comes into the cells -/

/-- The cells of two fillings are not the same. -/
def Filling.Apart (f f' : Filling) : Prop := ¬(f.column = f'.column ∧ f.row = f'.row)

/-- Whether a factory is called for a cell. -/
def Filler.isMade : Filler → Bool
  | .header _ => false
  | .made .. => true

/-- The runs in which factories are called. -/
def FillRun.made (runs : List FillRun) : List FillRun := runs.filter (·.filling.filler.isMade)

theorem mem_fillings {columns : List TableColumn} {items : List (List String)} {f : Filling} :
    f ∈ fillings columns items ↔ ∃ (i : Nat) (c : TableColumn), columns[i]? = some c ∧
      (f = ⟨i, 0, .header c.header⟩ ∨
        ∃ (r : Nat) (item : List String), items[r]? = some item ∧ f = ⟨i, r + 1, .made c.factory item⟩) := by
  simp only [fillings, TableColumn.fillings, List.mem_flatMap, Prod.exists, List.mem_zipIdx_iff_getElem?,
    List.mem_cons, List.mem_map, eq_comm (b := f)]
  constructor
  · rintro ⟨c, i, hc, hf | ⟨item, r, hitem, hf⟩⟩
    · exact ⟨i, c, hc, .inl hf⟩
    · exact ⟨i, c, hc, .inr ⟨r, item, hitem, hf⟩⟩
  · rintro ⟨i, c, hc, hf | ⟨r, item, hitem, hf⟩⟩
    · exact ⟨c, i, hc, .inl hf⟩
    · exact ⟨c, i, hc, .inr ⟨item, r, hitem, hf⟩⟩

theorem header_of_mem_fillings {columns : List TableColumn} {items : List (List String)} {f : Filling}
    (hf : f ∈ fillings columns items) {n : NodeId} (hn : f.filler = .header n) :
    ∃ c ∈ columns, c.header = n := by
  obtain ⟨i, c, hc, rfl | ⟨r, item, _, rfl⟩⟩ := mem_fillings.mp hf
  · exact ⟨c, List.mem_of_getElem? hc, Filler.header.inj hn⟩
  · cases hn

theorem pairwise_zipIdx {α : Type} (l : List α) : l.zipIdx.Pairwise fun a b => a.2 < b.2 := by
  rw [← List.pairwise_map (f := Prod.snd), List.zipIdx_map_snd]
  exact List.pairwise_lt_range' 1

theorem TableColumn.column_of_mem {c : TableColumn} {column : Nat} {items : List (List String)} {f : Filling}
    (hf : f ∈ c.fillings column items) : f.column = column := by
  rcases List.mem_cons.mp hf with rfl | hf
  · rfl
  · obtain ⟨⟨item, r⟩, _, rfl⟩ := List.mem_map.mp hf
    rfl

theorem TableColumn.apart_fillings (c : TableColumn) (column : Nat) (items : List (List String)) :
    (c.fillings column items).Pairwise Filling.Apart := by
  refine List.pairwise_cons.mpr ⟨?_, ?_⟩
  · rintro f hf ⟨_, hrow⟩
    obtain ⟨⟨item, r⟩, _, rfl⟩ := List.mem_map.mp hf
    cases hrow
  · refine List.pairwise_map.mpr ((pairwise_zipIdx items).imp fun hlt hsame => ?_)
    exact Nat.ne_of_lt hlt (Nat.succ.inj hsame.2)

/-- Each cell is filled once. -/
theorem apart_fillings (columns : List TableColumn) (items : List (List String)) :
    (fillings columns items).Pairwise Filling.Apart := by
  refine List.pairwise_flatMap.mpr ⟨fun c _ => c.1.apart_fillings c.2 items, ?_⟩
  refine (pairwise_zipIdx columns).imp fun {a b} hlt f hf f' hf' hsame => ?_
  rw [TableColumn.column_of_mem hf, TableColumn.column_of_mem hf'] at hsame
  exact Nat.ne_of_lt hlt hsame.1

namespace Scene

/-! ### What is not noticed -/

/-- A counter listens to a node, and to no other. -/
structure Watches (s : Scene) (k : Nat) (n : NodeId) : Prop where
  there : k < s.hits.size
  listens : 0 < s.listening (.watch k) n
  alone : ∀ m, m ≠ n → s.listening (.watch k) m = 0

/-- The counters of a node stand as they did and listen as they did. -/
def Silent (n : NodeId) (s s' : Scene) : Prop :=
  ∀ k, s.Watches k n → s'.hits[k]? = s.hits[k]? ∧
    ∀ m, s'.listening (.watch k) m = s.listening (.watch k) m

section
variable {n : NodeId} {k : Nat} {s s' s'' : Scene}

theorem Silent.watches (h : Silent n s s') (hk : s.Watches k n) : s'.Watches k n := by
  obtain ⟨hhits, hlistening⟩ := h k hk
  refine ⟨?_, hlistening n ▸ hk.listens, fun m hm => (hlistening m).trans (hk.alone m hm)⟩
  rw [Array.getElem?_eq_getElem hk.there] at hhits
  exact (Array.getElem?_eq_some_iff.mp hhits).1

theorem Silent.hitCount (h : Silent n s s') (hk : s.Watches k n) : s'.hitCount k = s.hitCount k := by
  rw [Scene.hitCount, (h k hk).1, Scene.hitCount]

theorem Silent.trans (h : Silent n s s') (h' : Silent n s' s'') : Silent n s s'' := fun k hk => by
  obtain ⟨hhits, hlistening⟩ := h k hk
  obtain ⟨hhits', hlistening'⟩ := h' k (h.watches hk)
  exact ⟨hhits'.trans hhits, fun m => (hlistening' m).trans (hlistening m)⟩

theorem Tacit.silent (h : Tacit s s') : Silent n s s' := fun k _ => ⟨by rw [h.hits], h.watched k⟩

end

/-- Counters stand and listen alike, but for what is done in these runs. -/
def TacitBetween : Scene → List FillRun → Scene → Prop
  | s, [], s' => Tacit s s'
  | s, r :: rest, s' => Tacit s r.scene ∧ TacitBetween r.after rest s'

section
variable {n : NodeId} {s s' s'' : Scene} {runs : List FillRun}

theorem Tacit.between (h : Tacit s s') (h' : TacitBetween s' runs s'') : TacitBetween s runs s'' := by
  cases runs with
  | nil => exact h.trans h'
  | cons r rest => exact ⟨h.trans h'.1, h'.2⟩

theorem TacitBetween.trans (h : TacitBetween s runs s') (h' : Tacit s' s'') : TacitBetween s runs s'' := by
  induction runs generalizing s with
  | nil => exact h.trans h'
  | cons r rest ih => exact ⟨h.1, ih h.2⟩

/-- Where the runs are not noticed, nothing is. -/
theorem TacitBetween.silent (h : TacitBetween s runs s') (hruns : ∀ r ∈ runs, Silent n r.scene r.after) :
    Silent n s s' := by
  induction runs generalizing s with
  | nil => exact h.silent
  | cons r rest ih =>
    obtain ⟨hrun, hrest⟩ := List.forall_mem_cons.mp hruns
    exact (h.1.silent.trans hrun).trans (ih h.2 hrest)

/-- A run in which no factory is called has to be tacit. -/
theorem TacitBetween.cons {r : FillRun} (hheader : r.filling.filler.isMade = false → Tacit r.scene r.after)
    (h : TacitBetween r.after (FillRun.made runs) s') :
    TacitBetween r.scene (FillRun.made (r :: runs)) s' := by
  rw [FillRun.made, List.filter_cons]
  cases hmade : r.filling.filler.isMade with
  | true => exact ⟨.refl _, h⟩
  | false => exact (hheader hmade).between h

end

end Scene

/-! ### The first of many cells -/

namespace FillRun

/-- How a cell is filled first. -/
def first (script : Script) (s : Scene) (f : Filling) : FillRun where
  filling := f
  scene := s
  deeds := (f.filler.script script s).1
  view := (f.filler.script script s).2

theorem first_header {script : Script} {s : Scene} {f : Filling} {n : NodeId} (h : f.filler = .header n) :
    first script s f = { filling := f, scene := s, deeds := [.change (.hold n)], view := n } := by
  simp only [first, h, Filler.script]

/-- A header is just held. -/
theorem tacit_first (script : Script) (s : Scene) (f : Filling) (h : f.filler.isMade = false) :
    Scene.Tacit s (first script s f).after := by
  cases hfiller : f.filler with
  | header n =>
    rw [first_header hfiller]
    exact .hold s n
  | made factory item =>
    rw [hfiller] at h
    cases h

end FillRun

namespace Scene

section
variable {script : Script} {s s' : Scene} {grid : NodeId} {f : Filling} {rest : List Filling}

theorem fillRuns_cons (h : (FillRun.first script s f).after.setChild grid (FillRun.first script s f).view
      f.column f.row = .ok s') : s.fillRuns script grid (f :: rest) =
    FillRun.first script s f :: (s'.letGo (FillRun.first script s f).view).fillRuns script grid rest := by
  simp only [fillRuns, FillRun.first] at h ⊢
  simp only [h]

theorem fill_cons (h : (FillRun.first script s f).after.setChild grid (FillRun.first script s f).view
      f.column f.row = .ok s') : s.fill script.factories grid (f :: rest) =
    (s'.letGo (FillRun.first script s f).view).fill script.factories grid rest := by
  have hview : f.filler.view s script.factories =
      ((FillRun.first script s f).after, (FillRun.first script s f).view) := by
    simp only [FillRun.first, FillRun.after]
    cases f.filler <;> rfl
  simp only [fill, hview, h]

end

/-- An update that nobody listens to reaches nobody. -/
theorem raise_of_unheard {s : Scene} {n : NodeId} (h : (s.notifier n).listeners = []) : s.raise n = s := by
  have hround : (s.node n).notifier.round = [] := by
    rw [Notifier.round, show (s.node n).notifier.listeners = [] from h]
    rfl
  obtain ⟨depth, hdepth⟩ : ∃ depth, s.depth = depth + 1 :=
    Nat.exists_eq_succ_of_ne_zero (Nat.mul_ne_zero (Nat.succ_ne_zero _) (Nat.succ_ne_zero _))
  rw [raise, hdepth, raiseWithin, hround]
  rfl

/-! ### A grid that is filled -/

/-- A grid that nobody listens to: it has the tracks of `g₀`, and these nodes stand in its cells. -/
structure Assembled (s : Scene) (grid : NodeId) (g₀ : Grid Slot) (cells : Nat → Nat → Option NodeId) :
    Prop where
  body : ∃ g, s.body grid = .grid g ∧ SameTracks g₀ g ∧ g.gutter = g₀.gutter ∧
    g.cells.length = g.columnCount * g.rowCount ∧
    ∀ column row, (g.cell? column row).map (·.node) = cells column row
  unheard : (s.notifier grid).listeners = []

namespace Assembled
variable {s s' : Scene} {grid : NodeId} {g₀ : Grid Slot} {cells : Nat → Nat → Option NodeId}

theorem lt_size (h : s.Assembled grid g₀ cells) : grid < s.nodes.size := by
  obtain ⟨g, hbody, _⟩ := h.body
  exact lt_size_of_body hbody (by simp)

theorem congr (h : s.Assembled grid g₀ cells) (hbody : s'.body grid = s.body grid)
    (hunheard : (s'.notifier grid).listeners = []) : s'.Assembled grid g₀ cells :=
  ⟨by rw [hbody]; exact h.body, hunheard⟩

/-- An empty cell takes a node in. -/
theorem place (h : s.Assembled grid g₀ cells) {child : NodeId} (hchild : child ≠ grid) {column row : Nat}
    (hcolumn : column < g₀.columnCount) (hrow : row < g₀.rowCount) (hempty : cells column row = none) :
    ∃ s', s.place grid child column row = .ok s' ∧ s'.held = s.held ∧ Tacit s s' ∧
      (∀ m, m ≠ grid → s'.body m = s.body m) ∧
      s'.Assembled grid g₀ fun c r => if column = c ∧ row = r then some child else cells c r := by
  obtain ⟨g, hbody, htracks, hgutter, hlength, hcells⟩ := h.body
  rw [← htracks.columnCount] at hcolumn
  rw [← htracks.rowCount] at hrow
  have hnone : g.cell? column row = none := by
    rw [← hcells] at hempty
    exact Option.map_eq_none_iff.mp hempty
  let entered := (s.enter grid child).1
  let g' := g.fill column row (s.enter grid child).2
  have hlt : grid < entered.nodes.size := by
    show grid < (s.subscribe child _).1.nodes.size
    rw [size_subscribe]
    exact h.lt_size
  refine ⟨entered.setBody grid (.grid g'), ?_, rfl, (Tacit.enter s grid child).trans (.setBody ..), ?_, ?_, ?_⟩
  · simp only [Scene.place, hbody, Grid.place_eq hcolumn hrow, hnone]
    rfl
  · intro m hm
    rw [body_setBody, if_neg fun heq => hm heq.1.symm]
    exact body_subscribe ..
  · refine ⟨g', ?_, ⟨htracks.1, htracks.2⟩, hgutter, (Grid.length_fill ..).trans hlength, fun c r => ?_⟩
    · rw [body_setBody, if_pos ⟨rfl, hlt⟩]
    · rw [Grid.cell?_fill hlength hcolumn hrow]
      split
      · rfl
      · exact hcells c r
  · rw [notifier_setBody]
    show ((s.subscribe child _).1.notifier grid).listeners = []
    rw [notifier_subscribe, if_neg fun heq => hchild heq.1, h.unheard]

end Assembled

/-! ### Factories -/

/-- The table that a node is. -/
def asTable? (s : Scene) (n : NodeId) : Option Table :=
  match s.body n with
  | .table t => some t
  | _ => none

/-- The grid that a node is. -/
def asGrid? (s : Scene) (n : NodeId) : Option (Grid Slot) :=
  match s.body n with
  | .grid g => some g
  | _ => none

theorem asTable?_eq_some {s : Scene} {n : NodeId} {t : Table} :
    s.asTable? n = some t ↔ s.body n = .table t := by
  unfold asTable?
  cases s.body n <;> simp

theorem asGrid?_eq_some {s : Scene} {n : NodeId} {g : Grid Slot} :
    s.asGrid? n = some g ↔ s.body n = .grid g := by
  unfold asGrid?
  cases s.body n <;> simp

end Scene

open Scene

/-- What a factory does to make a view concerns neither the table nor the grid that is built for it. The
table stays as it is, and whoever held it holds it still; and the grid is out of reach. -/
structure FillRun.Discreet (n grid : NodeId) (r : FillRun) : Prop where
  possible : r.scene.Allows r.deeds
  there : r.view < r.after.nodes.size
  other : r.view ≠ grid
  table : r.after.asTable? n = r.scene.asTable? n
  held : (r.view :: r.scene.held).count n ≤ r.after.held.count n
  built : r.after.asGrid? grid = r.scene.asGrid? grid
  unheard : r.after.listenerCount grid = 0
  kept : grid ∈ r.after.held

namespace Scene

/-- A grid is being built for a table: these nodes stand in its cells, it is held, and so is the table. -/
structure Underway (n grid : NodeId) (t : Table) (g₀ : Grid Slot) (s₀ s : Scene)
    (cells : Nat → Nat → Option NodeId) : Prop where
  tied : s.Tied
  table : s.body n = .table t
  held : s₀.held.count n ≤ s.held.count n
  kept : grid ∈ s.held
  assembled : s.Assembled grid g₀ cells

/-- Cells have been filled with the views that were made for them, and no others. -/
structure Stocked (script : Script) (fs : List Filling) (runs : List FillRun)
    (cells cells' : Nat → Nat → Option NodeId) : Prop where
  filled : runs.map (·.filling) = fs
  made : ∀ r ∈ runs, r.filling.filler.script script r.scene = (r.deeds, r.view)
  views : ∀ r ∈ runs, cells' r.filling.column r.filling.row = some r.view
  others : ∀ column row, (∀ f ∈ fs, ¬(f.column = column ∧ f.row = row)) →
    cells' column row = cells column row

/-- A cell is filled first, and those of the others are not the same. -/
theorem Stocked.cons {script : Script} {fs : List Filling} {runs : List FillRun}
    {cells cells' : Nat → Nat → Option NodeId} {r : FillRun}
    (h : Stocked script fs runs
      (fun column row => if r.filling.column = column ∧ r.filling.row = row then some r.view
        else cells column row) cells')
    (hmade : r.filling.filler.script script r.scene = (r.deeds, r.view))
    (hapart : ∀ f ∈ fs, r.filling.Apart f) : Stocked script (r.filling :: fs) (r :: runs) cells cells' where
  filled := by rw [List.map_cons, h.filled]
  made := List.forall_mem_cons.mpr ⟨hmade, h.made⟩
  views := by
    refine List.forall_mem_cons.mpr ⟨?_, h.views⟩
    rw [h.others _ _ fun f hf hsame => hapart f hf ⟨hsame.1.symm, hsame.2.symm⟩, if_pos ⟨rfl, rfl⟩]
  others column row hothers := by
    obtain ⟨hother, hrest⟩ := List.forall_mem_cons.mp hothers
    rw [h.others column row hrest, if_neg hother]

namespace Underway
variable {n grid : NodeId} {t : Table} {g₀ : Grid Slot} {s₀ s : Scene}
  {cells : Nat → Nat → Option NodeId}

theorem table_held (h : Underway n grid t g₀ s₀ s cells) (hn : n ∈ s₀.held) : n ∈ s.held :=
  List.count_pos_iff.mp (Nat.lt_of_lt_of_le (List.count_pos_iff.mpr hn) h.held)

theorem table_ne (h : Underway n grid t g₀ s₀ s cells) : n ≠ grid := by
  rintro rfl
  obtain ⟨g, hbody, _⟩ := h.assembled.body
  rw [h.table] at hbody
  cases hbody

/-- What is let go besides is neither the table nor the grid. -/
theorem sweep (h : Underway n grid t g₀ s₀ s cells) (hn : n ∈ s₀.held) :
    Underway n grid t g₀ s₀ s.sweep cells := by
  have hswept := swept_sweep s
  have hunheard : (s.sweep.notifier grid).listeners = [] :=
    List.eq_nil_iff_forall_not_mem.mpr fun x hx => by
      have hbefore := hswept.heard grid x hx
      rw [h.assembled.unheard] at hbefore
      cases hbefore
  refine ⟨h.tied.swept hswept, (body_sweep (h.table_held hn)).trans h.table, ?_, ?_,
    h.assembled.congr (body_sweep h.kept) hunheard⟩
  · rw [hswept.held]
    exact h.held
  · rw [hswept.held]
    exact h.kept

/-- A view is let go of that was held for whoever asked for it. -/
theorem letGo (h : Underway n grid t g₀ s₀ s cells) (hn : n ∈ s₀.held) {view : NodeId}
    (hview : view ≠ grid) (hheld : (view :: s₀.held).count n ≤ s.held.count n) :
    Underway n grid t g₀ s₀ (s.letGo view) cells := by
  let less : Scene := { s with held := s.held.erase view }
  have hcount : s₀.held.count n ≤ less.held.count n := by
    show s₀.held.count n ≤ (s.held.erase view).count n
    rw [List.count_cons] at hheld
    rw [List.count_erase]
    omega
  have hless : Underway n grid t g₀ s₀ less cells :=
    { tied := h.tied.edited (edits_of_nodes rfl rfl rfl rfl : Edits none s less)
        (h.tied.linked.congr rfl fun _ => rfl)
      table := h.table
      held := hcount
      kept := (List.mem_erase_of_ne hview.symm).mpr h.kept
      assembled := h.assembled.congr rfl h.assembled.unheard }
  exact hless.sweep hn

/-- A node is put into a cell, and nobody hears of it. -/
theorem put (h : Underway n grid t g₀ s₀ s cells) (hn : n ∈ s₀.held) {child : NodeId}
    (hchild : child < s.nodes.size) (hne : child ≠ grid) {column row : Nat}
    (hcolumn : column < g₀.columnCount) (hrow : row < g₀.rowCount) (hempty : cells column row = none) :
    ∃ s', s.setChild grid child column row = .ok s' ∧ s'.held = s.held ∧ Tacit s s' ∧
      Underway n grid t g₀ s₀ s' fun c r => if column = c ∧ row = r then some child else cells c r := by
  obtain ⟨s₁, hplace, hheld, htacit, hbody, hassembled⟩ := h.assembled.place hne hcolumn hrow hempty
  have htied : s₁.Tied := by
    obtain ⟨e, herror⟩ | ⟨s₂, hok, hedits, hlinked⟩ :=
      place_cases h.tied.linked h.tied.fit grid hchild column row
    · rw [hplace] at herror
      cases herror
    · rw [hplace] at hok
      obtain rfl := Except.ok.inj hok
      exact h.tied.edited hedits hlinked
  have hplaced : Underway n grid t g₀ s₀ s₁ fun c r =>
      if column = c ∧ row = r then some child else cells c r :=
    { tied := htied
      table := (hbody n h.table_ne).trans h.table
      held := hheld ▸ h.held
      kept := hheld ▸ h.kept
      assembled := hassembled }
  have hswept := hplaced.sweep hn
  refine ⟨s₁.sweep, ?_, (swept_sweep s₁).held.trans hheld, htacit.trans (.sweep htied.linked), hswept⟩
  rw [setChild, hplace]
  show Except.ok (s₁.sweep.raise grid) = _
  rw [raise_of_unheard hswept.assembled.unheard]

/-- A factory is called. -/
theorem after (h : Underway n grid t g₀ s₀ s cells) {r : FillRun} (hr : r.Discreet n grid)
    (hscene : r.scene = s) : Underway n grid t g₀ s₀ r.after cells := by
  subst hscene
  obtain ⟨g, hbody, _⟩ := h.assembled.body
  have hgrid : r.after.body grid = r.scene.body grid := by
    rw [hbody]
    exact asGrid?_eq_some.mp (hr.built.trans (asGrid?_eq_some.mpr hbody))
  have hcount : r.scene.held.count n ≤ (r.view :: r.scene.held).count n := List.count_le_count_cons
  exact
    { tied := h.tied.deeds _ hr.possible
      table := asTable?_eq_some.mp (hr.table.trans (asTable?_eq_some.mpr h.table))
      held := (h.held.trans hcount).trans hr.held
      kept := hr.kept
      assembled := h.assembled.congr hgrid (List.eq_nil_of_length_eq_zero hr.unheard) }

/-- **A cell is filled with the view that was made for it.** -/
theorem step (h : Underway n grid t g₀ s₀ s cells) (hn : n ∈ s₀.held) {r : FillRun}
    (hr : r.Discreet n grid) (hscene : r.scene = s) {column row : Nat} (hcolumn : column < g₀.columnCount)
    (hrow : row < g₀.rowCount) (hempty : cells column row = none) :
    ∃ s', r.after.setChild grid r.view column row = .ok s' ∧ Tacit r.after (s'.letGo r.view) ∧
      Underway n grid t g₀ s₀ (s'.letGo r.view) fun c r' =>
        if column = c ∧ row = r' then some r.view else cells c r' := by
  obtain ⟨s', hput, hheld, htacit, hlater⟩ :=
    (h.after hr hscene).put hn hr.there hr.other hcolumn hrow hempty
  refine ⟨s', hput, htacit.trans (.letGo hlater.tied.linked _), hlater.letGo hn hr.other ?_⟩
  have hbefore := h.held
  have hafter := hr.held
  rw [hscene, List.count_cons] at hafter
  rw [hheld, List.count_cons]
  omega

/-- Only a factory does anything that has to be discreet. -/
theorem discreet_first (h : Underway n grid t g₀ s₀ s cells) {script : Script} {f : Filling}
    (hheader : ∀ header, f.filler = .header header → header < grid)
    (hmade : f.filler.isMade = true → (FillRun.first script s f).Discreet n grid) :
    (FillRun.first script s f).Discreet n grid := by
  cases hfiller : f.filler with
  | header k =>
    have hk := hheader k hfiller
    rw [FillRun.first_header hfiller]
    exact
      { possible := ⟨trivial, trivial⟩
        there := Nat.lt_trans hk h.assembled.lt_size
        other := Nat.ne_of_lt hk
        table := rfl
        held := Nat.le_refl _
        built := rfl
        unheard := congrArg List.length h.assembled.unheard
        kept := List.mem_cons_of_mem _ h.kept }
  | made factory item => exact hmade (by rw [hfiller]; rfl)

/-- **No view is refused, and all cells are filled**, which nobody notices but for what factories do. -/
theorem fill (script : Script) (fs : List Filling) (h : Underway n grid t g₀ s₀ s cells)
    (hn : n ∈ s₀.held) (hheaders : ∀ f ∈ fs, ∀ header, f.filler = .header header → header < grid)
    (hmade : ∀ r ∈ FillRun.made (s.fillRuns script grid fs), r.Discreet n grid)
    (hrange : ∀ f ∈ fs, f.column < g₀.columnCount ∧ f.row < g₀.rowCount)
    (hempty : ∀ f ∈ fs, cells f.column f.row = none) (hapart : fs.Pairwise Filling.Apart) :
    ∃ s' cells', s.fill script.factories grid fs = (s', .ok ()) ∧ Underway n grid t g₀ s₀ s' cells' ∧
      Stocked script fs (s.fillRuns script grid fs) cells cells' ∧
      TacitBetween s (FillRun.made (s.fillRuns script grid fs)) s' := by
  induction fs generalizing s cells with
  | nil =>
    refine ⟨s, cells, rfl, h, ⟨rfl, ?_, ?_, fun _ _ _ => rfl⟩, .refl s⟩
    · intro r hr
      cases hr
    · intro r hr
      cases hr
  | cons f rest ih =>
    have hdiscreet : (FillRun.first script s f).Discreet n grid :=
      h.discreet_first (hheaders f (List.mem_cons_self ..)) fun hcalled =>
        hmade _ (List.mem_filter.mpr ⟨List.mem_cons_self .., hcalled⟩)
    obtain ⟨hcolumn, hrow⟩ := hrange f (List.mem_cons_self ..)
    obtain ⟨s₁, hput, htacit, hstep⟩ :=
      h.step hn hdiscreet rfl hcolumn hrow (hempty f (List.mem_cons_self ..))
    obtain ⟨hfirst, hlater⟩ := List.pairwise_cons.mp hapart
    rw [fillRuns_cons hput] at hmade ⊢
    obtain ⟨s', cells', hfill, hdone, hstocked, hbetween⟩ :=
      ih hstep (fun f' hf' => hheaders f' (List.mem_cons_of_mem f hf'))
        (fun r hr => hmade r (((List.sublist_cons_self _ _).filter _).subset hr))
        (fun f' hf' => hrange f' (List.mem_cons_of_mem f hf'))
        (fun f' hf' => by
          rw [if_neg (hfirst f' hf')]
          exact hempty f' (List.mem_cons_of_mem f hf')) hlater
    exact ⟨s', cells', (fill_cons hput).trans hfill, hdone, hstocked.cons (r := .first script s f) rfl hfirst,
      .cons (FillRun.tacit_first script s f) (htacit.between hbetween)⟩

end Underway

/-! ### The grid that is built -/

/-- A node may just as well be created with the body that it gets. -/
theorem setBody_create (s : Scene) (b b' : Body) :
    (s.create b).1.setBody s.nodes.size b' = (s.create b').1 := by
  have hnodes : (s.nodes.push { body := b }).modify s.nodes.size (fun node => { node with body := b' }) =
      s.nodes.push { body := b' } := by
    refine Array.ext_getElem? fun i => ?_
    rw [Array.getElem?_modify, Array.getElem?_push, Array.getElem?_push]
    by_cases hi : i = s.nodes.size
    · simp [hi]
    · simp [hi, Ne.symm hi]
  exact congrArg (fun nodes => { s with nodes, held := s.nodes.size :: s.held }) hnodes

/-- A node that was just created has no listeners. -/
theorem notifier_created (s : Scene) (b : Body) : ((s.create b).1.notifier s.nodes.size).listeners = [] := by
  show ((s.addNode b).1.notifier s.nodes.size).listeners = []
  rw [notifier_addNode, notifier, node_of_size_le (Nat.le_refl _)]

theorem body_create (s : Scene) (b : Body) (m : NodeId) :
    (s.create b).1.body m = if m = s.nodes.size then b else s.body m := body_addNode s b m

/-- A grid may just as well be created with the tracks that it gets. -/
theorem setTracks_create (s : Scene) {g : Grid Slot} (hopen : g.locked = false)
    (new : Grid Slot → Grid Slot) :
    (s.create (.grid g)).1.setTracks s.nodes.size new = .ok (s.create (.grid (new g).blank)).1 := by
  rw [setTracks_eq (g := g) (by rw [body_create, if_pos rfl]), hopen, if_neg Bool.false_ne_true,
    setBody_create, raise_of_unheard (notifier_created s _)]

/-- The tracks of a grid that is built for columns and items. -/
def plan (gutter : Nat) (columns : List TableColumn) (items : List (List String)) : Grid Slot :=
  Grid.blank { columns := columns.map (·.track), rows := List.replicate (items.length + 1) .auto, gutter }

/-- To settle the tracks of a grid call by call comes to creating it with them. -/
theorem settle_plan (s : Scene) (gutter : Nat) (columns : List TableColumn) (items : List (List String)) :
    (s.create (.grid { gutter })).1.settle s.nodes.size columns items.length =
      .ok (s.create (.grid (plan gutter columns items))).1 := by
  let first : Grid Slot := { gutter }
  let second : Grid Slot := Grid.blank { first with columns := columns.map (·.track) }
  have hcolumns := setTracks_create s (g := first) rfl fun g => { g with columns := columns.map (·.track) }
  have hrows := setTracks_create s (g := second) rfl fun g =>
    { g with rows := List.replicate (items.length + 1) .auto }
  rw [settle, setColumns, hcolumns]
  exact hrows

/-- There is a cell for everything that is to come into one. -/
theorem lt_plan_of_mem {columns : List TableColumn} {items : List (List String)} {f : Filling}
    (hf : f ∈ fillings columns items) (gutter : Nat) :
    f.column < (plan gutter columns items).columnCount ∧ f.row < (plan gutter columns items).rowCount := by
  have hcolumnCount : columns.length ≤ (plan gutter columns items).columnCount := by
    show columns.length ≤ max (columns.map _).length 1
    rw [List.length_map]
    exact Nat.le_max_left ..
  have hrowCount : items.length + 1 ≤ (plan gutter columns items).rowCount := by
    show items.length + 1 ≤ max (List.replicate _ _).length 1
    rw [List.length_replicate]
    exact Nat.le_max_left ..
  obtain ⟨i, c, hc, hfilled⟩ := mem_fillings.mp hf
  have hi := (List.getElem?_eq_some_iff.mp hc).1
  rcases hfilled with rfl | ⟨r, item, hitem, rfl⟩
  · exact ⟨Nat.lt_of_lt_of_le hi hcolumnCount, Nat.lt_of_lt_of_le (Nat.succ_pos _) hrowCount⟩
  · have hr := (List.getElem?_eq_some_iff.mp hitem).1
    exact ⟨Nat.lt_of_lt_of_le hi hcolumnCount, Nat.lt_of_lt_of_le (Nat.succ_lt_succ hr) hrowCount⟩

section
variable {s : Scene} {n : NodeId} {t : Table}

/-- A grid is created for a table, and no cell of it is filled. -/
theorem underway_create (htied : s.Tied) (hbody : s.body n = .table t) {g : Grid Slot} (hg : g.Shaped)
    (hempty : g.contents = []) :
    Underway n s.nodes.size t g s (s.create (.grid g)).1 fun _ _ => none where
  tied := htied.changes (changes_create htied.linked (b := .grid g) hg hempty)
  table := by
    rw [body_create, if_neg (Nat.ne_of_lt (lt_size_of_body hbody (by simp)))]
    exact hbody
  held := List.count_le_count_cons
  kept := List.mem_cons_self ..
  assembled := by
    refine ⟨⟨g, by rw [body_create, if_pos rfl], ⟨rfl, rfl⟩, rfl, hg.length, fun column row => ?_⟩,
      notifier_created s _⟩
    rw [Grid.cell?_of_contents_nil hempty]
    rfl

/-- **A grid is built for a table**, without anything being refused. If there are columns, each cell has the
view that was made for it. -/
theorem buildGrid_underway (htied : s.Tied) (hn : n ∈ s.held) (hbody : s.body n = .table t) (script : Script)
    (gutter : Nat) {columns : List TableColumn} (items : List (List String))
    (hcolumns : ∀ c ∈ columns, c.header < s.nodes.size)
    (hmade : ∀ r ∈ FillRun.made (s.buildRuns script gutter columns items), r.Discreet n s.nodes.size) :
    ∃ s' g₀ cells, s.buildGrid script.factories gutter columns items = (s', .ok s.nodes.size) ∧
      Underway n s.nodes.size t g₀ s s' cells ∧
      TacitBetween s (FillRun.made (s.buildRuns script gutter columns items)) s' ∧
      (columns ≠ [] → g₀ = plan gutter columns items ∧
        Stocked script (fillings columns items) (s.buildRuns script gutter columns items)
          (fun _ _ => none) cells) := by
  cases hsome : columns.isEmpty with
  | true =>
    obtain rfl := List.isEmpty_iff.mp hsome
    exact ⟨_, { gutter }, _, rfl, underway_create htied hbody ⟨rfl, fun _ => rfl⟩ rfl, .create s _,
      fun hne => absurd rfl hne⟩
  | false =>
    let g := plan gutter columns items
    have hne : columns ≠ [] := List.isEmpty_eq_false_iff.mp hsome
    have hsettle := settle_plan s gutter columns items
    have hbegun : s.deeds (s.beginning gutter columns items.length) = (s.create (.grid g)).1 := by
      have hsettled := (settle_create (s := s) gutter hsome items.length).symm.trans hsettle
      exact Except.ok.inj hsettled
    have hcreated : Underway n s.nodes.size t g s (s.create (.grid g)).1 fun _ _ => none :=
      underway_create htied hbody (Grid.shaped_blank _) (Grid.contents_blank _)
    rw [buildRuns, hbegun] at hmade ⊢
    have hheaders : ∀ f ∈ fillings columns items, ∀ header, f.filler = .header header →
        header < s.nodes.size := fun f hf header hheader => by
      obtain ⟨c, hc, rfl⟩ := header_of_mem_fillings hf hheader
      exact hcolumns c hc
    obtain ⟨s', cells, hfill, hdone, hstocked, hbetween⟩ := hcreated.fill script _ hn hheaders hmade
      (fun f hf => lt_plan_of_mem hf gutter) (fun _ _ => rfl) (apart_fillings columns items)
    refine ⟨s', g, cells, ?_, hdone, (Tacit.create s _).between hbetween, fun _ => ⟨rfl, hstocked⟩⟩
    have hcreate : s.create (.grid { gutter }) = ((s.create (.grid { gutter })).1, s.nodes.size) := rfl
    change (s.create (.grid (plan gutter columns items))).1.fill _ _ _ = _ at hfill
    rw [buildGrid, hcreate]
    simp only [hsome, Bool.false_eq_true, if_false, hsettle, hfill]

end

end Scene

end TextPane
