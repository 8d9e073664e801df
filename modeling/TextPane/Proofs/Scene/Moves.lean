import TextPane.Proofs.Scene.Deeds

/-! What callers do, move by move.

A caller does one thing, or asks a table for something, and then the factories of the table are called,
which may do anything before they return a view. What a factory does is a run of deeds, which may be another
one for every scene and item (`Script`). So a move comes down to deeds, one or many of them (`Move.deeds`),
and whatever is true of all runs of deeds is true of moves (`moves_eq_deeds`). -/
namespace TextPane

/-- What each factory does when it is called with an item, and the view that it returns. -/
abbrev Script := FactoryId → Scene → List String → List Deed × NodeId

/-- The factories that follow a script. -/
def Script.factories (script : Script) : Factories := fun factory s item =>
  let (deeds, view) := script factory s item
  (s.deeds deeds, view)

/-- Factories that show the field of an item that has their number. -/
def Script.fields : Script := fun field s item =>
  ([.change (.content (.ofText ((item[field]?).getD "")))], s.nodes.size)

example : Script.fields.factories = fun field => .ofField field none := rfl

/-- What is done before there is a view for a cell, and the view. -/
def Filler.script (script : Script) (s : Scene) : Filler → List Deed × NodeId
  | .header n => ([.change (.hold n)], n)
  | .made factory item => script factory s item

/-- How a cell is filled: what is done in a scene before there is a view for the cell, and the view. -/
structure FillRun where
  filling : Filling
  scene : Scene
  deeds : List Deed
  view : NodeId

namespace FillRun

/-- The scene in which the view is there. -/
def after (r : FillRun) : Scene := r.scene.deeds r.deeds

/-- All that is done to fill a cell of a grid. -/
def told (r : FillRun) (grid : NodeId) : List Deed :=
  r.deeds ++ [.change (.setChild grid r.view r.filling.column r.filling.row), .change (.letGo r.view)]

end FillRun

/-- What a table may be asked. -/
inductive TableCall where
  | setItems (items : List (List String))
  | addColumn (column : TableColumn)

namespace TableCall

/-- The columns that a call adds. -/
def new : TableCall → List TableColumn
  | .setItems _ => []
  | .addColumn column => [column]

/-- The items that a table has after a call. -/
def items (t : Table) : TableCall → List (List String)
  | .setItems items => items
  | .addColumn _ => t.items

def perform (factories : Factories) (n : NodeId) (s : Scene) :
    TableCall → Scene × Except LayoutError Unit
  | .setItems items => s.setItems factories n items
  | .addColumn column => s.addColumn factories n column

end TableCall

namespace Scene

/-! ### What building a grid comes down to -/

/-- How cells of a grid are filled, until a view is refused. -/
def fillRuns (s : Scene) (script : Script) (grid : NodeId) : List Filling → List FillRun
  | [] => []
  | f :: rest =>
    let (deeds, view) := f.filler.script script s
    let run : FillRun := { filling := f, scene := s, deeds, view }
    run :: match run.after.setChild grid view f.column f.row with
      | .error _ => []
      | .ok s => (s.letGo view).fillRuns script grid rest

/-- A grid is created, and its tracks are settled if there are columns. -/
def beginning (s : Scene) (gutter : Nat) (columns : List TableColumn) (items : Nat) : List Deed :=
  .change (.grid gutter) ::
    if columns.isEmpty then [] else
      [.change (.setColumns s.nodes.size (columns.map (·.track))),
        .change (.setRows s.nodes.size (List.replicate (items + 1) .auto))]

/-- How the cells of a grid that is built are filled. -/
def buildRuns (s : Scene) (script : Script) (gutter : Nat) (columns : List TableColumn)
    (items : List (List String)) : List FillRun :=
  (s.deeds (s.beginning gutter columns items.length)).fillRuns script s.nodes.size
    (fillings columns items)

/-- A grid is created and filled, and let go if that was refused. -/
def buildDeeds (s : Scene) (script : Script) (gutter : Nat) (columns : List TableColumn)
    (items : List (List String)) : List Deed :=
  s.beginning gutter columns items.length ++
    (s.buildRuns script gutter columns items).flatMap (·.told s.nodes.size) ++
    match (s.buildGrid script.factories gutter columns items).2 with
    | .ok _ => []
    | .error _ => [.change (.letGo s.nodes.size)]

/-- A grid is built for a table, which takes it. -/
def rebuildDeeds (s : Scene) (script : Script) (n : NodeId) (t : Table) (new : List TableColumn)
    (items : List (List String)) : List Deed :=
  s.buildDeeds script t.gutter (t.columns ++ new) items ++
    match (s.buildGrid script.factories t.gutter (t.columns ++ new) items).2 with
    | .ok grid => [.change (.install n new items grid)]
    | .error _ => new.map fun c => .change (.letGo c.header)

end Scene

namespace TableCall

/-- The headers of columns that are added are held for the call. -/
def holds (c : TableCall) : List Deed := c.new.map fun column => .change (.hold column.header)

/-- How the cells of the grid are filled that a call builds. -/
def runs (script : Script) (n : NodeId) (s : Scene) (c : TableCall) : List FillRun :=
  match s.body n with
  | .table t => (s.deeds c.holds).buildRuns script t.gutter (t.columns ++ c.new) (c.items t)
  | _ => []

/-- The deeds that a call comes down to. -/
def deeds (script : Script) (n : NodeId) (s : Scene) (c : TableCall) : List Deed :=
  match s.body n with
  | .table t => c.holds ++ (s.deeds c.holds).rebuildDeeds script n t c.new (c.items t)
  | _ => []

end TableCall

/-- What a caller may do. -/
inductive Move where
  | deed (d : Deed)
  /-- A table is asked for something, and its factories follow a script. -/
  | table (script : Script) (n : NodeId) (c : TableCall)

/-- The deeds that a move comes down to. -/
def Move.deeds (s : Scene) : Move → List Deed
  | .deed d => [d]
  | .table script n c => c.deeds script n s

namespace Scene

def move (s : Scene) : Move → Scene
  | .deed d => s.deed d
  | .table script n c => (c.perform script.factories n s).1

def moves (s : Scene) (ms : List Move) : Scene := ms.foldl move s

/-- The deeds that moves come down to. -/
def run : Scene → List Move → List Deed
  | _, [] => []
  | s, m :: rest => m.deeds s ++ (s.move m).run rest

theorem moves_append (s : Scene) (ms ms' : List Move) :
    s.moves (ms ++ ms') = (s.moves ms).moves ms' := List.foldl_append

theorem run_append (s : Scene) (ms ms' : List Move) :
    s.run (ms ++ ms') = s.run ms ++ (s.moves ms).run ms' := by
  induction ms generalizing s with
  | nil => rfl
  | cons m rest ih =>
    simp only [List.cons_append, run, ih, List.append_assoc]
    rfl

/-! ### Moves are runs of deeds -/

section
variable {s : Scene} (script : Script)

theorem fill_eq_deeds (grid : NodeId) (fs : List Filling) :
    (s.fill script.factories grid fs).1 = s.deeds ((s.fillRuns script grid fs).flatMap (·.told grid)) := by
  induction fs generalizing s with
  | nil => rfl
  | cons f rest ih =>
    have hview : f.filler.view s script.factories =
        (s.deeds (f.filler.script script s).1, (f.filler.script script s).2) := by
      cases f.filler <;> rfl
    simp only [fill, fillRuns, hview, List.flatMap_cons, FillRun.told, FillRun.after, deeds_append]
    generalize f.filler.script script s = made
    obtain ⟨ds, view⟩ := made
    have hput : (s.deeds ds).deed (.change (.setChild grid view f.column f.row)) =
        (s.deeds ds).accept ((s.deeds ds).setChild grid view f.column f.row) := rfl
    rw [deeds_cons, hput, deeds_cons]
    cases (s.deeds ds).setChild grid view f.column f.row with
    | error e => rfl
    | ok placed => exact ih

/-- The tracks of a grid that is open yet are never refused. -/
theorem settle_eq_deeds {grid : NodeId} {g : Grid Slot} (hbody : s.body grid = .grid g)
    (hopen : g.locked = false) (columns : List TableColumn) (items : Nat) :
    s.settle grid columns items = .ok (s.deeds
      [.change (.setColumns grid (columns.map (·.track))),
        .change (.setRows grid (List.replicate (items + 1) .auto))]) := by
  let wide : Grid Slot := Grid.blank { g with columns := columns.map (·.track) }
  let s₁ := (s.setBody grid (.grid wide)).raise grid
  have hsize : grid < s.nodes.size := lt_size_of_body hbody (by simp)
  have hbody₁ : s₁.body grid = .grid wide := by
    rcases (still_raise (s.setBody grid (.grid wide)) grid).body grid with heq | ⟨p, _, hp, _⟩
    · rw [heq, body_setBody, if_pos ⟨rfl, hsize⟩]
    · rw [body_setBody, if_pos ⟨rfl, hsize⟩] at hp
      cases hp
  have hcolumns : s.setColumns grid (columns.map (·.track)) = .ok s₁ := by
    rw [setColumns, setTracks_eq hbody, if_neg (Bool.eq_false_iff.mp hopen)]
  obtain ⟨s₂, hrows⟩ : ∃ s₂, s₁.setRows grid (List.replicate (items + 1) .auto) = .ok s₂ := by
    have hopen₁ : ¬wide.locked = true := Bool.eq_false_iff.mp hopen
    rw [setRows, setTracks_eq hbody₁, if_neg hopen₁]
    exact ⟨_, rfl⟩
  rw [settle, hcolumns]
  refine hrows.trans ?_
  simp only [deeds, List.foldl_cons, List.foldl_nil, deed, change, hcolumns, hrows, accept]

theorem settle_create (gutter : Nat) {columns : List TableColumn} (hne : columns.isEmpty = false)
    (items : Nat) :
    (s.create (.grid { gutter })).1.settle s.nodes.size columns items =
      .ok (s.deeds (s.beginning gutter columns items)) := by
  have hbody : (s.create (.grid { gutter })).1.body s.nodes.size = .grid { gutter } :=
    (body_addNode s _ _).trans (if_pos rfl)
  rw [settle_eq_deeds hbody rfl, beginning, hne]
  rfl

theorem buildGrid_eq_deeds (gutter : Nat) (columns : List TableColumn) (items : List (List String)) :
    (s.buildGrid script.factories gutter columns items).1 =
      s.deeds (s.buildDeeds script gutter columns items) := by
  rw [buildDeeds, deeds_append, deeds_append, buildRuns, ← fill_eq_deeds, buildGrid]
  cases hne : columns.isEmpty with
  | true =>
    obtain rfl := List.isEmpty_iff.mp hne
    rfl
  | false =>
    have hsettle := settle_create (s := s) gutter hne items.length
    dsimp only [create, addNode] at hsettle ⊢
    simp only [Bool.false_eq_true, if_false, hsettle]
    generalize s.deeds (s.beginning gutter columns items.length) = settled
    cases hfill : settled.fill script.factories s.nodes.size (fillings columns items) with
    | mk s' result => cases result <;> rfl

theorem rebuild_eq_deeds (n : NodeId) (t : Table) (new : List TableColumn) (items : List (List String)) :
    (s.rebuild script.factories n t new items).1 =
      s.deeds (s.rebuildDeeds script n t new items) := by
  rw [rebuildDeeds, deeds_append, ← buildGrid_eq_deeds, rebuild]
  cases s.buildGrid script.factories t.gutter (t.columns ++ new) items with
  | mk s' result =>
    cases result with
    | ok grid => rfl
    | error e =>
      simp only [deeds, List.foldl_map]
      rfl

end

end Scene

/-- A call of a table is that of a grid built for it, with the headers held. -/
theorem TableCall.perform_eq {s : Scene} {n : NodeId} {t : Table} (hbody : s.body n = .table t)
    (factories : Factories) (c : TableCall) :
    c.perform factories n s = (s.deeds c.holds).rebuild factories n t c.new (c.items t) := by
  cases c with
  | setItems items =>
    simp only [perform, Scene.setItems, hbody]
    rfl
  | addColumn column =>
    simp only [perform, Scene.addColumn, hbody]
    rfl

theorem TableCall.perform_eq_deeds (script : Script) (n : NodeId) (s : Scene) (c : TableCall) :
    (c.perform script.factories n s).1 = s.deeds (c.deeds script n s) := by
  cases hbody : s.body n with
  | table t =>
    rw [perform_eq hbody, Scene.rebuild_eq_deeds]
    simp only [deeds, hbody, Scene.deeds_append]
  | _ =>
    cases c <;> simp only [perform, Scene.setItems, Scene.addColumn, deeds, hbody] <;> rfl

namespace Scene

theorem move_eq_deeds (s : Scene) (m : Move) : s.move m = s.deeds (m.deeds s) := by
  cases m with
  | deed d => rfl
  | table script n c => exact c.perform_eq_deeds script n s

/-- **What callers do comes down to deeds**, whatever the factories of tables do meanwhile. -/
theorem moves_eq_deeds (s : Scene) (ms : List Move) : s.moves ms = s.deeds (s.run ms) := by
  induction ms generalizing s with
  | nil => rfl
  | cons m rest ih =>
    rw [run, deeds_append, ← move_eq_deeds]
    exact ih (s.move m)

/-- Whatever callers do, what comes of it is tied together. -/
theorem tied_moves {t : Terminal} {ms : List Move} (hms : (bare t).Allows ((bare t).run ms)) :
    ((bare t).moves ms).Tied := by
  rw [moves_eq_deeds]
  exact tied_deeds hms

end Scene

end TextPane
