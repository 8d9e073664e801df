import TextPane.Proofs.Scene.Build
import TextPane.Proofs.Scene.Still

/-! Filling a grid.

A grid takes columns and rows until its first cell is filled, and none after that, so a cell keeps its slot.
What is done to a grid is gone through step by step here (`GridCall.run`): a call may be refused at one of
its steps, with all that was done up to there left done, and it fails where it looks for a slot that there is
not. It never fails, and where it is refused nothing was done (`GridCall.run_eq`). Each call keeps what is
true of a grid and the calls before (`Filled.call`), and hence so do all calls (`Filled.calls`). -/
namespace TextPane

/-- What may be done to a grid. -/
inductive GridCall where
  | setColumns (tracks : List Track)
  | setRows (tracks : List Track)
  | setChild (child : NodeId) (column row : Nat)
deriving DecidableEq, Repr

/-- Work on a scene in steps. Where it is refused, the steps before stay done; and it may fail. -/
abbrev SteppedM := ExceptT LayoutError (StateT Scene Option)

namespace Scene

/-- The outcome of work that leaves the scene as it is where it is refused. -/
def outcome (s : Scene) : Except LayoutError Scene → Except LayoutError Unit × Scene
  | .ok s' => (.ok (), s')
  | .error e => (.error e, s)

end Scene

namespace SteppedM

/-- The grid of a node. -/
def grid (n : NodeId) : SteppedM (Grid Slot) := fun s =>
  match s.body n with
  | .grid g => some (.ok g, s)
  | _ => none

/-- What there should be. -/
def find {α : Type} (found : Option α) : SteppedM α := fun s => found.map fun a => (.ok a, s)

def edit (f : Scene → Scene) : SteppedM Unit := fun s => some (.ok (), f s)

def enter (n child : NodeId) : SteppedM Slot := fun s => some (.ok (s.enter n child).2, (s.enter n child).1)

/-- Replaces tracks, and empties all cells. -/
def setTracks (n : NodeId) (new : Grid Slot → Grid Slot) : SteppedM Unit := do
  let g ← grid n
  if g.locked then throw .tracksLocked
  edit fun s => s.setBody n (.grid (new g).blank)
  edit fun s => s.raise n

/-- Fills a cell and gives up what stood there. -/
def setChild (n child : NodeId) (column row : Nat) : SteppedM Unit := do
  let g ← grid n
  if ¬(column < g.columnCount ∧ row < g.rowCount) then
    throw (.cellOutOfRange column row g.columnCount g.rowCount)
  let slot ← enter n child
  let old ← find (g.slot? column row)
  let cells := g.cells.set (row * g.columnCount + column) (some slot)
  edit fun s => s.setBody n (.grid { g with cells, locked := true })
  if let some old := old then edit fun s => s.leave old
  edit Scene.sweep
  edit fun s => s.raise n

/-- The node in a cell. -/
def child (n : NodeId) (column row : Nat) : SteppedM (Option NodeId) := do
  let g ← grid n
  if ¬(column < g.columnCount ∧ row < g.rowCount) then return none
  return (← find (g.slot? column row)).map (·.node)

end SteppedM

namespace GridCall

/-- A call of a grid. -/
def perform (n : NodeId) (s : Scene) : GridCall → Except LayoutError Scene
  | .setColumns tracks => s.setColumns n tracks
  | .setRows tracks => s.setRows n tracks
  | .setChild child column row => s.setChild n child column row

/-- A call of a grid in steps. -/
def run (n : NodeId) : GridCall → SteppedM Unit
  | .setColumns tracks => .setTracks n fun g => { g with columns := tracks }
  | .setRows tracks => .setTracks n fun g => { g with rows := tracks }
  | .setChild child column row => .setChild n child column row

/-- Calls made one after the other, with what comes of each. -/
def runAll (n : NodeId) : List GridCall → Scene → Option (List (Except LayoutError Unit) × Scene)
  | [], s => some ([], s)
  | c :: rest, s => do
    let (result, s) ← c.run n s
    let (results, s) ← runAll n rest s
    return (result :: results, s)

/-- Why a grid refuses a call, if it does. -/
def refusal? (g : Grid Slot) : GridCall → Option LayoutError
  | .setColumns _ | .setRows _ => if g.locked then some .tracksLocked else none
  | .setChild _ column row =>
    if column < g.columnCount ∧ row < g.rowCount then none
    else some (.cellOutOfRange column row g.columnCount g.rowCount)

/-- What a call has put into a cell. -/
def put? (column row : Nat) : GridCall × Except LayoutError Unit → Option NodeId
  | (.setChild child column' row', .ok _) => if column' = column ∧ row' = row then some child else none
  | _ => none

/-- What was put into a cell last. -/
def last? (done : List (GridCall × Except LayoutError Unit)) (column row : Nat) : Option NodeId :=
  (done.filterMap (put? column row)).getLast?

end GridCall

/-! ### Step by step -/

namespace SteppedM
variable {α β : Type} {s s' : Scene} {x : SteppedM α} {a : α}

theorem bind_of_ok (h : x s = some (.ok a, s')) (f : α → SteppedM β) : (x >>= f) s = f a s' := by
  show (x s).bind (fun next => ExceptT.bindCont f next.1 next.2) = _
  rw [h]
  rfl

variable {n : NodeId} {g : Grid Slot}

theorem grid_eq (h : s.body n = .grid g) : grid n s = some (.ok g, s) := by
  simp only [grid, h]

theorem setTracks_eq (hbody : s.body n = .grid g) (new : Grid Slot → Grid Slot) :
    setTracks n new s = some (s.outcome
      (if g.locked then .error .tracksLocked else .ok ((s.setBody n (.grid (new g).blank)).raise n))) := by
  rw [setTracks, bind_of_ok (grid_eq hbody)]
  cases g.locked <;> rfl

theorem setChild_eq (hbody : s.body n = .grid g) (hlength : g.cells.length = g.columnCount * g.rowCount)
    (child column row : Nat) :
    setChild n child column row s = some (s.outcome (s.setChild n child column row)) := by
  rw [setChild, bind_of_ok (grid_eq hbody), Scene.setChild, Scene.place]
  simp only [hbody]
  by_cases hrange : column < g.columnCount ∧ row < g.rowCount
  · have hslot : find (g.slot? column row) (s.enter n child).1 =
        some (.ok (g.cell? column row), (s.enter n child).1) := by
      rw [Grid.slot?_eq hlength hrange.1 hrange.2]
      rfl
    simp only [hrange, Grid.place_eq hrange.1 hrange.2]
    have hentry : enter n child s = some (.ok (s.enter n child).2, (s.enter n child).1) := rfl
    refine (bind_of_ok hentry _).trans ?_
    refine (bind_of_ok hslot _).trans ?_
    cases g.cell? column row <;> rfl
  · simp only [hrange, Grid.place_refused hrange]
    rfl

theorem child_eq (hbody : s.body n = .grid g) (hlength : g.cells.length = g.columnCount * g.rowCount)
    (column row : Nat) : child n column row s = some (.ok (s.child? n column row), s) := by
  rw [child, bind_of_ok (grid_eq hbody), Scene.child?]
  simp only [hbody]
  by_cases hrange : column < g.columnCount ∧ row < g.rowCount
  · have hslot : find (g.slot? column row) s = some (.ok (g.cell? column row), s) := by
      rw [Grid.slot?_eq hlength hrange.1 hrange.2]
      rfl
    simp only [hrange]
    exact bind_of_ok hslot _
  · have hnone : g.cell? column row = none := by rw [Grid.cell?, Grid.index?, if_neg hrange]; rfl
    simp only [hrange, hnone]
    rfl

end SteppedM

/-- No step of a call fails, and where one is refused no step before it did anything. -/
theorem GridCall.run_eq {s : Scene} {n : NodeId} {g : Grid Slot} (hbody : s.body n = .grid g)
    (hlength : g.cells.length = g.columnCount * g.rowCount) (c : GridCall) :
    c.run n s = some (s.outcome (c.perform n s)) := by
  cases c with
  | setColumns tracks =>
    rw [perform, Scene.setColumns, Scene.setTracks_eq hbody]
    exact SteppedM.setTracks_eq hbody _
  | setRows tracks =>
    rw [perform, Scene.setRows, Scene.setTracks_eq hbody]
    exact SteppedM.setTracks_eq hbody _
  | setChild child column row => exact SteppedM.setChild_eq hbody hlength child column row

theorem GridCall.perform_refused {s : Scene} {n : NodeId} {g : Grid Slot} (hbody : s.body n = .grid g)
    {c : GridCall} {e : LayoutError} (h : c.refusal? g = some e) : c.perform n s = .error e := by
  cases c with
  | setColumns tracks =>
    obtain ⟨hlocked, rfl⟩ : g.locked = true ∧ LayoutError.tracksLocked = e := by
      simpa [refusal?] using h
    rw [perform, Scene.setColumns, Scene.setTracks_eq hbody, if_pos hlocked]
  | setRows tracks =>
    obtain ⟨hlocked, rfl⟩ : g.locked = true ∧ LayoutError.tracksLocked = e := by
      simpa [refusal?] using h
    rw [perform, Scene.setRows, Scene.setTracks_eq hbody, if_pos hlocked]
  | setChild child column row =>
    by_cases hrange : column < g.columnCount ∧ row < g.rowCount
    · rw [refusal?, if_pos hrange] at h
      cases h
    · rw [refusal?, if_neg hrange] at h
      cases h
      simp only [perform, Scene.setChild, Scene.place, hbody, Grid.place_refused hrange]
      rfl

/-! ### What calls keep -/

namespace GridCall
variable {done : List (GridCall × Except LayoutError Unit)} {call : GridCall × Except LayoutError Unit}
  {column row : Nat}

theorem last?_of_none (h : put? column row call = none) :
    last? (done ++ [call]) column row = last? done column row := by
  rw [last?, List.filterMap_append, List.filterMap_cons_none h, List.filterMap_nil, List.append_nil, last?]

theorem last?_of_some {child : NodeId} (h : put? column row call = some child) :
    last? (done ++ [call]) column row = some child := by
  rw [last?, List.filterMap_append, List.filterMap_cons_some h, List.filterMap_nil, List.getLast?_concat]

end GridCall

theorem Grid.cell?_of_contents_nil {α : Type} {g : Grid α} (h : g.contents = []) (column row : Nat) :
    g.cell? column row = none := by
  by_contra hsome
  obtain ⟨a, ha⟩ := Option.ne_none_iff_exists'.mp hsome
  have hmem := mem_contents_of_cell? ha
  rw [h] at hmem
  cases hmem

namespace Scene

/-- What is true of a grid that these calls were made of. -/
structure Filled (s : Scene) (n : NodeId) (done : List (GridCall × Except LayoutError Unit))
    (g : Grid Slot) : Prop where
  held : n ∈ s.held
  body : s.body n = .grid g
  length : g.cells.length = g.columnCount * g.rowCount
  locked : g.locked = true ↔ g.contents ≠ []
  cells : ∀ column row, (g.cell? column row).map (·.node) = GridCall.last? done column row

/-- A cell of a grid that takes a node in. -/
theorem place_fills {s : Scene} {n : NodeId} {g : Grid Slot} (hbody : s.body n = .grid g)
    {column row : Nat} (hcolumn : column < g.columnCount) (hrow : row < g.rowCount) (child : NodeId) :
    ∃ s', s.place n child column row = .ok s' ∧ s'.held = s.held ∧
      s'.body n = .grid (g.fill column row (s.enter n child).2) := by
  have hn : n < (s.enter n child).1.nodes.size := by
    show n < (s.subscribe child _).1.nodes.size
    rw [size_subscribe]
    exact lt_size_of_body hbody (by simp)
  have hset (b : Body) : ((s.enter n child).1.setBody n b).body n = b := by
    rw [body_setBody, if_pos ⟨rfl, hn⟩]
  simp only [place, hbody, Grid.place_eq hcolumn hrow]
  cases g.cell? column row with
  | none => exact ⟨_, rfl, rfl, hset _⟩
  | some old => exact ⟨_, rfl, rfl, (body_leave ..).trans (hset _)⟩

theorem filled_create (s : Scene) (gutter : Nat) :
    (s.create (.grid { gutter })).1.Filled s.nodes.size [] { gutter } where
  held := List.mem_cons_self ..
  body := by
    show (s.addNode _).1.body s.nodes.size = _
    rw [body_addNode, if_pos rfl]
  length := rfl
  locked := ⟨fun h => (nomatch h), fun h => absurd rfl h⟩
  cells column row := by
    rw [Grid.cell?_of_contents_nil rfl]
    rfl

namespace Filled
variable {s s' : Scene} {n : NodeId} {done : List (GridCall × Except LayoutError Unit)} {g : Grid Slot}

theorem still (h : s.Filled n done g) (hstill : Still s s') : s'.Filled n done g :=
  { h with
    held := hstill.held ▸ h.held
    body := by
      rcases hstill.body n with heq | ⟨p, _, hp, _⟩
      · rw [heq, h.body]
      · rw [h.body] at hp
        cases hp }

theorem refused (h : s.Filled n done g) (c : GridCall) (e : LayoutError) :
    s.Filled n (done ++ [(c, .error e)]) g :=
  { h with
    cells := fun column row => by
      rw [h.cells, GridCall.last?_of_none (by cases c <;> rfl)] }

/-- As long as no cell is filled, tracks may be replaced. -/
theorem setTracks (h : s.Filled n done g) {c : GridCall}
    (hc : ∀ column row, GridCall.put? column row (c, .ok ()) = none) (new : Grid Slot)
    (hopen : g.locked = false) (hnew : new.locked = false) :
    ((s.setBody n (.grid new.blank)).raise n).Filled n (done ++ [(c, .ok ())]) new.blank := by
  have hempty : g.contents = [] := by
    by_contra hsome
    rw [h.locked.mpr hsome] at hopen
    cases hopen
  have hset : (s.setBody n (.grid new.blank)).Filled n (done ++ [(c, .ok ())]) new.blank := by
    refine ⟨h.held, ?_, List.length_replicate, ?_, fun column row => ?_⟩
    · rw [body_setBody, if_pos ⟨rfl, lt_size_of_body h.body (by simp)⟩]
    · have hblank : new.blank.locked = false := hnew
      rw [hblank, new.contents_blank]
      simp
    · rw [GridCall.last?_of_none (hc column row), ← h.cells, Grid.cell?_of_contents_nil hempty,
        Grid.cell?_of_contents_nil new.contents_blank]
  exact hset.still (still_raise ..)

/-- A cell of the grid may be filled, and filled again. -/
theorem setChild (h : s.Filled n done g) {column row : Nat} (hcolumn : column < g.columnCount)
    (hrow : row < g.rowCount) (child : NodeId) :
    ∃ s' g', s.setChild n child column row = .ok s' ∧
      s'.Filled n (done ++ [(.setChild child column row, .ok ())]) g' := by
  obtain ⟨s₁, hplace, hheld, hbody⟩ := place_fills h.body hcolumn hrow child
  have hcell := Grid.cell?_fill h.length hcolumn hrow (s.enter n child).2
  have hfilled : s₁.Filled n (done ++ [(.setChild child column row, .ok ())])
      (g.fill column row (s.enter n child).2) := by
    refine ⟨hheld ▸ h.held, hbody, ?_, ?_, fun column' row' => ?_⟩
    · rw [Grid.length_fill]
      exact h.length
    · have hsome : (s.enter n child).2 ∈ (g.fill column row (s.enter n child).2).contents :=
        Grid.mem_contents_of_cell? ((hcell column row).trans (if_pos ⟨rfl, rfl⟩))
      exact iff_of_true rfl (List.ne_nil_of_mem hsome)
    · have hput : GridCall.put? column' row' (.setChild child column row, .ok ()) =
          if column = column' ∧ row = row' then some child else none := rfl
      rw [hcell]
      by_cases hsame : column = column' ∧ row = row'
      · rw [if_pos hsame, GridCall.last?_of_some (hput.trans (if_pos hsame))]
        rfl
      · rw [if_neg hsame, GridCall.last?_of_none (hput.trans (if_neg hsame)), h.cells]
  have hswept : s₁.sweep.Filled n (done ++ [(.setChild child column row, .ok ())])
      (g.fill column row (s.enter n child).2) :=
    { hfilled with
      held := (swept_sweep s₁).held ▸ hfilled.held
      body := (body_sweep hfilled.held).trans hfilled.body }
  refine ⟨s₁.sweep.raise n, _, ?_, hswept.still (still_raise ..)⟩
  rw [Scene.setChild, hplace]
  rfl

/-- A call that there is nothing against is accepted. -/
theorem accepted (h : s.Filled n done g) {c : GridCall} (hc : c.refusal? g = none) :
    ∃ s' g', c.perform n s = .ok s' ∧ s'.Filled n (done ++ [(c, .ok ())]) g' := by
  cases c with
  | setColumns tracks =>
    have hopen : g.locked = false := by simpa [GridCall.refusal?] using hc
    refine ⟨_, _, ?_, h.setTracks (fun _ _ => rfl) { g with columns := tracks } hopen hopen⟩
    rw [GridCall.perform, setColumns, setTracks_eq h.body, hopen, if_neg Bool.false_ne_true]
  | setRows tracks =>
    have hopen : g.locked = false := by simpa [GridCall.refusal?] using hc
    refine ⟨_, _, ?_, h.setTracks (fun _ _ => rfl) { g with rows := tracks } hopen hopen⟩
    rw [GridCall.perform, setRows, setTracks_eq h.body, hopen, if_neg Bool.false_ne_true]
  | setChild child column row =>
    have hrange : column < g.columnCount ∧ row < g.rowCount := by
      by_contra hnot
      rw [GridCall.refusal?, if_neg hnot] at hc
      cases hc
    exact h.setChild hrange.1 hrange.2 child

/-- A call fails at no step, and keeps what is true of a grid. -/
theorem call (h : s.Filled n done g) (c : GridCall) :
    ∃ result s' g', c.run n s = some (result, s') ∧ s'.Filled n (done ++ [(c, result)]) g' := by
  have hrun := c.run_eq h.body h.length
  cases hrefusal : c.refusal? g with
  | some e =>
    rw [GridCall.perform_refused h.body hrefusal] at hrun
    exact ⟨.error e, s, g, hrun, h.refused c e⟩
  | none =>
    obtain ⟨s', g', hperform, hfilled⟩ := h.accepted hrefusal
    rw [hperform] at hrun
    exact ⟨.ok (), s', g', hrun, hfilled⟩

/-- So do calls that are made one after the other. -/
theorem calls (h : s.Filled n done g) (cs : List GridCall) :
    ∃ results s' g', GridCall.runAll n cs s = some (results, s') ∧ results.length = cs.length ∧
      s'.Filled n (done ++ cs.zip results) g' := by
  induction cs generalizing s done g with
  | nil => exact ⟨[], s, g, rfl, rfl, by rwa [List.zip_nil_left, List.append_nil]⟩
  | cons c rest ih =>
    obtain ⟨result, s₁, g₁, hrun, hfirst⟩ := h.call c
    obtain ⟨results, s₂, g₂, hrest, hlength, hlater⟩ := ih hfirst
    refine ⟨result :: results, s₂, g₂, ?_, congrArg (· + 1) hlength, ?_⟩
    · simp only [GridCall.runAll, hrun, hrest, Option.bind_eq_bind, Option.bind_some]
      rfl
    · rwa [List.append_assoc] at hlater

end Filled

/-- What holds of a grid after calls. -/
structure KeepsCells (s : Scene) (n : NodeId) (done : List (GridCall × Except LayoutError Unit))
    (g : Grid Slot) : Prop where
  body : s.body n = .grid g
  slots : g.cells.length = max 1 g.columns.length * max 1 g.rows.length
  locked : g.locked = true ↔ g.contents ≠ []
  /-- A cell has what was put there last. -/
  child : ∀ column row, s.child? n column row = GridCall.last? done column row
  outside : ∀ column row, ¬(column < max 1 g.columns.length ∧ row < max 1 g.rows.length) →
    s.child? n column row = none
  /-- No look for a slot fails when a cell is asked for what stands there. -/
  found : ∀ column row, SteppedM.child n column row s = some (.ok (s.child? n column row), s)
  /-- A call that is refused has done nothing. -/
  refused : ∀ (c : GridCall) (e : LayoutError), c.refusal? g = some e →
    c.perform n s = .error e ∧ c.run n s = some (.error e, s)
  accepted : ∀ c : GridCall, c.refusal? g = none →
    ∃ s', c.perform n s = .ok s' ∧ c.run n s = some (.ok (), s')
  /-- No look for a slot fails when the grid is measured or rendered. -/
  rendered : ∀ {m : Type → Type} [Monad m] [LawfulMonad m] (view : Slot → Box m) (clear : Region → m Unit),
    (g.map view).checkedBox clear = (Grid.box clear (g.map view)).map Carry.safe

theorem Filled.keepsCells {s : Scene} {n : NodeId} {done : List (GridCall × Except LayoutError Unit)}
    {g : Grid Slot} (h : s.Filled n done g) : s.KeepsCells n done g where
  body := h.body
  slots := by rw [h.length, Grid.columnCount, Grid.rowCount, Nat.max_comm, Nat.max_comm g.rows.length]
  locked := h.locked
  child column row := by
    rw [← h.cells]
    simp only [child?, h.body]
  outside column row hrange := by
    have hindex : g.index? column row = none := by
      rw [Nat.max_comm, Nat.max_comm 1] at hrange
      exact if_neg hrange
    simp only [child?, h.body, Grid.cell?, hindex]
    rfl
  found := SteppedM.child_eq h.body h.length
  refused c e hc := by
    have hperform := GridCall.perform_refused h.body hc
    refine ⟨hperform, ?_⟩
    rw [c.run_eq h.body h.length, hperform]
    rfl
  accepted c hc := by
    obtain ⟨s', _, hperform, _⟩ := h.accepted hc
    refine ⟨s', hperform, ?_⟩
    rw [c.run_eq h.body h.length, hperform]
    rfl
  rendered view clear := Grid.checkedBox_eq ((List.length_map ..).trans h.length) clear

/-- **Calls keep the cells of a grid**, whichever of them are refused, and none fails. -/
theorem calls_keep_cells (s : Scene) (gutter : Nat) (cs : List GridCall) :
    let (s₀, n) := s.create (.grid { gutter })
    ∃ results s' g, GridCall.runAll n cs s₀ = some (results, s') ∧ results.length = cs.length ∧
      s'.KeepsCells n (cs.zip results) g := by
  obtain ⟨results, s', g, hrun, hlength, hfilled⟩ := (s.filled_create gutter).calls cs
  exact ⟨results, s', g, hrun, hlength, hfilled.keepsCells⟩

end Scene

end TextPane
