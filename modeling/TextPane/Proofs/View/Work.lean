import TextPane.View.Tree

/-! What layouts do.

A layout has boxes measured and rendered and regions blanked, one after the other, and does nothing
besides. So a property of work that doing nothing has, and that work done in turn has when its parts
have it (`Work`), is one of measuring a tree where it is one of measuring the leaves
(`Work.measures_view`), and one of rendering the tree where it is one of rendering the leaves and of
blanking regions too (`Work.renders_view`). -/
namespace TextPane

/-- A property of work that doing nothing has, and that work done in turn has from its parts. -/
structure Work (m : Type → Type) [Monad m] where
  does : {α : Type} → m α → Prop
  pure : ∀ {α : Type} (a : α), does (Pure.pure a)
  bind : ∀ {α β : Type} {x : m α} {f : α → m β}, does x → (∀ a, does (f a)) → does (x >>= f)

/-! ### The leaves of a tree -/

namespace View
variable {α : Type}

mutual

/-- The leaves of a tree, in order. -/
def leaves : View α → List α
  | .leaf a => [a]
  | .stack _ children => leavesAll children
  | .grid _ _ _ cells => leavesCells cells

def leavesAll : List (View α) → List α
  | [] => []
  | v :: rest => v.leaves ++ leavesAll rest

def leavesCells : List (Option (View α)) → List α
  | [] => []
  | none :: rest => leavesCells rest
  | some v :: rest => v.leaves ++ leavesCells rest

end

section Forall
variable {m : Type → Type} [Monad m]

/-- A property that stacks and grids have when all boxes in them have it. -/
structure Inherits (clear : Region → m Unit) (P : Box m → Prop) : Prop where
  stack : ∀ o boxes, (∀ b ∈ boxes, P b) → P (Stack.box o boxes)
  grid : ∀ g : Grid (Box m), (∀ b ∈ g.contents, P b) → P (Grid.box clear g)

variable {P : Box m → Prop} {leaf : α → Box m} {clear : Region → m Unit}

mutual

/-- A tree has what it inherits from its leaves. -/
theorem Inherits.box (hP : Inherits clear P) : (v : View α) → (∀ a ∈ v.leaves, P (leaf a)) →
    P (v.box leaf clear)
  | .leaf a, h => h a (List.mem_singleton.mpr rfl)
  | .stack o children, h => hP.stack o _ (hP.boxes children h)
  | .grid _ _ _ cells, h => hP.grid _ (hP.cellBoxes cells h)

theorem Inherits.boxes (hP : Inherits clear P) : (vs : List (View α)) →
    (∀ a ∈ leavesAll vs, P (leaf a)) → ∀ b ∈ View.boxes leaf clear vs, P b
  | [], _, _, hb => absurd hb List.not_mem_nil
  | v :: rest, h, b, hb => by
    rcases List.mem_cons.mp hb with rfl | hb
    · exact hP.box v fun a ha => h a (List.mem_append_left _ ha)
    · exact hP.boxes rest (fun a ha => h a (List.mem_append_right _ ha)) b hb

theorem Inherits.cellBoxes (hP : Inherits clear P) : (cells : List (Option (View α))) →
    (∀ a ∈ leavesCells cells, P (leaf a)) →
    ∀ b ∈ (View.cellBoxes leaf clear cells).filterMap id, P b
  | [], _, _, hb => absurd hb List.not_mem_nil
  | none :: rest, h, b, hb => hP.cellBoxes rest h b hb
  | some v :: rest, h, b, hb => by
    rcases List.mem_cons.mp hb with rfl | hb
    · exact hP.box v fun a ha => h a (List.mem_append_left _ ha)
    · exact hP.cellBoxes rest (fun a ha => h a (List.mem_append_right _ ha)) b hb

end

end Forall

section Congr
variable {m : Type → Type} [Monad m] {leaf leaf' : α → Box m} {clear : Region → m Unit}

mutual

/-- A tree is laid out by what its leaves are laid out as. -/
theorem box_congr : (v : View α) → (∀ a ∈ v.leaves, leaf a = leaf' a) →
    v.box leaf clear = v.box leaf' clear
  | .leaf a, h => h a (List.mem_singleton.mpr rfl)
  | .stack o children, h => by simp only [box, boxes_congr children h]
  | .grid _ _ _ cells, h => by simp only [box, cellBoxes_congr cells h]

theorem boxes_congr : (vs : List (View α)) → (∀ a ∈ leavesAll vs, leaf a = leaf' a) →
    boxes leaf clear vs = boxes leaf' clear vs
  | [], _ => rfl
  | v :: rest, h => by
    rw [boxes, boxes, box_congr v fun a ha => h a (List.mem_append_left _ ha),
      boxes_congr rest fun a ha => h a (List.mem_append_right _ ha)]

theorem cellBoxes_congr : (cells : List (Option (View α))) →
    (∀ a ∈ leavesCells cells, leaf a = leaf' a) →
    cellBoxes leaf clear cells = cellBoxes leaf' clear cells
  | [], _ => rfl
  | none :: rest, h => by rw [cellBoxes, cellBoxes, cellBoxes_congr rest h]
  | some v :: rest, h => by
    rw [cellBoxes, cellBoxes, box_congr v fun a ha => h a (List.mem_append_left _ ha),
      cellBoxes_congr rest fun a ha => h a (List.mem_append_right _ ha)]

end

end Congr

end View

/-! ### Stacks and grids -/

/-- What stands in a cell is among the contents. -/
theorem Grid.mem_contents_of_cell? {α : Type} {g : Grid α} {column row : Nat} {a : α}
    (h : g.cell? column row = some a) : a ∈ g.contents := by
  obtain ⟨i, _, hi⟩ := Option.bind_eq_some_iff.mp h
  exact List.mem_filterMap.mpr ⟨some a, List.mem_of_getElem? (Option.join_eq_some_iff.mp hi), rfl⟩

namespace Work
variable {m : Type → Type} [Monad m] (W : Work m)

/-- Measuring a box is such work. -/
def Measures (b : Box m) : Prop := ∀ limit, W.does (b.measure limit)

/-- Rendering a box is such work. -/
def Renders (b : Box m) : Prop := ∀ region, W.does (b.render region)

theorem ite {α : Type} {c : Prop} [Decidable c] {x y : m α} (hx : W.does x) (hy : W.does y) :
    W.does (if c then x else y) := by
  split
  · exact hx
  · exact hy

section Stack
variable {o : Orientation} {boxes : List (Box m)} (hmeasures : ∀ b ∈ boxes, W.Measures b)
include hmeasures

theorem measureAll (maxCross room cross : Nat) :
    W.does (Stack.measureAll o maxCross room cross boxes) := by
  induction boxes generalizing room cross with
  | nil => exact W.pure _
  | cons b rest ih =>
    unfold Stack.measureAll
    split
    · exact W.pure _
    · refine W.bind (hmeasures b (List.mem_cons_self ..) _) fun size => ?_
      exact ih (fun b' hb' => hmeasures b' (List.mem_cons_of_mem b hb')) _ _

theorem measures_stack : W.Measures (Stack.box o boxes) := by
  intro limit
  exact W.bind (W.measureAll hmeasures _ _ _) fun _ => W.pure _

theorem renders_stack (hrenders : ∀ b ∈ boxes, W.Renders b) : W.Renders (Stack.box o boxes) := by
  have hfrom (region : Region) (offset : Nat) :
      W.does (Stack.renderFrom o region offset boxes) := by
    induction boxes generalizing offset with
    | nil => exact W.pure _
    | cons b rest ih =>
      unfold Stack.renderFrom
      apply W.ite
      · exact W.pure _
      · refine W.bind (hmeasures b (List.mem_cons_self ..) _) fun size => ?_
        refine W.bind (hrenders b (List.mem_cons_self ..) _) fun _ => ?_
        exact ih (fun b' hb' => hmeasures b' (List.mem_cons_of_mem b hb'))
          (fun b' hb' => hrenders b' (List.mem_cons_of_mem b hb')) _
  intro region
  exact hfrom region 0

end Stack

section Tracks
variable {need : Nat → Nat → m Nat} (hneed : ∀ index available, W.does (need index available))
include hneed

theorem sizeContent (room : Nat) (lanes : List Lane) : W.does (Lane.sizeContent need room lanes) := by
  induction lanes generalizing room with
  | nil => exact W.pure _
  | cons l rest ih =>
    unfold Lane.sizeContent
    split
    · exact W.bind (hneed _ _) fun wanted => W.bind (ih _) fun _ => W.pure _
    · exact W.bind (ih _) fun _ => W.pure _

theorem sizeStars (pass : Pass) (pool total handed : Nat) (lanes : List Lane) :
    W.does (Lane.sizeStars need pass pool total handed lanes) := by
  induction lanes generalizing handed with
  | nil => exact W.pure _
  | cons l rest ih =>
    unfold Lane.sizeStars
    have hsized (handed size : Nat) : W.does (do
        return { l with size } :: (← Lane.sizeStars need pass pool total handed rest)) :=
      W.bind (ih _) fun _ => W.pure _
    split
    · cases pass with
      | render => exact W.bind (W.pure _) fun size => hsized _ _
      | measure =>
        exact W.bind (hneed _ _) fun wanted => W.bind (W.pure _) fun size => hsized _ _
    · exact W.bind (ih _) fun _ => W.pure _

theorem solve (tracks : List Track) (available gutter : Nat) (pass : Pass) :
    W.does (Track.solve need tracks available gutter pass) := by
  refine W.bind (W.sizeContent hneed _ _) fun sized => ?_
  apply W.ite
  · exact W.bind (W.sizeStars hneed _ _ _ _ _) fun _ => W.pure _
  · exact W.bind (W.pure _) fun _ => W.pure _

end Tracks

section Grid
variable {g : Grid (Box m)} (hmeasures : ∀ b ∈ g.contents, W.Measures b)

theorem largest (soFar : Nat) (extents : List (m Nat)) (h : ∀ extent ∈ extents, W.does extent) :
    W.does (Grid.largest soFar extents) := by
  induction extents generalizing soFar with
  | nil => exact W.pure _
  | cons extent rest ih =>
    exact W.bind (h extent (List.mem_cons_self ..)) fun _ =>
      ih _ fun e he => h e (List.mem_cons_of_mem extent he)

include hmeasures

theorem layout (available : Size) (pass : Pass) : W.does (g.layout available pass) := by
  have hcell {column row : Nat} {b : Box m} (hb : g.cell? column row = some b) : W.Measures b :=
    hmeasures b (Grid.mem_contents_of_cell? hb)
  refine W.bind (W.solve (fun column width => ?_) _ _ _ _) fun columns => ?_
  · refine W.largest _ _ fun extent hextent => ?_
    obtain ⟨row, _, hrow⟩ := List.mem_filterMap.mp hextent
    obtain ⟨b, hb, rfl⟩ := Option.map_eq_some_iff.mp hrow
    exact W.bind (hcell hb _) fun _ => W.pure _
  refine W.bind (W.solve (fun row height => ?_) _ _ _ _) fun rows => W.pure _
  refine W.largest _ _ fun extent hextent => ?_
  obtain ⟨column, _, hcolumn⟩ := List.mem_filterMap.mp hextent
  obtain ⟨b, hb, rfl⟩ := Option.map_eq_some_iff.mp hcolumn
  exact W.bind (hcell hb _) fun _ => W.pure _

theorem measures_grid (clear : Region → m Unit) : W.Measures (Grid.box clear g) := by
  intro limit
  exact W.bind (W.layout hmeasures _ _) fun _ => W.pure _

theorem renders_grid {clear : Region → m Unit} (hclear : ∀ region, W.does (clear region))
    (hrenders : ∀ b ∈ g.contents, W.Renders b) : W.Renders (Grid.box clear g) := by
  have hareas (overwrite : Bool) (areas : List GridArea) :
      W.does (g.renderAreas clear overwrite areas) := by
    induction areas with
    | nil => exact W.pure _
    | cons area rest ih =>
      cases area with
      | cell column row region =>
        unfold Grid.renderAreas
        cases hcell : g.cell? column row with
        | none => exact W.ite (W.bind (hclear region) fun _ => ih) ih
        | some b => exact W.bind (hrenders b (Grid.mem_contents_of_cell? hcell) region) fun _ => ih
      | gutter region =>
        exact W.ite (W.bind (hclear region) fun _ => ih) ih
  intro region
  show W.does (if region.isEmpty = true then Pure.pure () else _)
  split
  · exact W.pure _
  · exact W.bind (W.layout hmeasures _ _) fun l => hareas _ _

end Grid

/-! ### Trees -/

section View
variable {α : Type} {leaf : α → Box m} {clear : Region → m Unit} {v : View α}
  (hmeasures : ∀ a ∈ v.leaves, W.Measures (leaf a))
include hmeasures

/-- Measuring a tree is measuring leaves. -/
theorem measures_view : W.Measures (v.box leaf clear) :=
  View.Inherits.box ⟨fun _ _ h => W.measures_stack h, fun _ h => W.measures_grid h clear⟩ v hmeasures

/-- Rendering a tree is measuring and rendering leaves and blanking regions. -/
theorem renders_view (hclear : ∀ region, W.does (clear region))
    (hrenders : ∀ a ∈ v.leaves, W.Renders (leaf a)) : W.Renders (v.box leaf clear) := by
  have hinherits : View.Inherits clear fun b => W.Measures b ∧ W.Renders b := by
    refine ⟨fun o boxes h => ?_, fun g h => ?_⟩
    · exact ⟨W.measures_stack fun b hb => (h b hb).1,
        W.renders_stack (fun b hb => (h b hb).1) fun b hb => (h b hb).2⟩
    · exact ⟨W.measures_grid (fun b hb => (h b hb).1) clear,
        W.renders_grid (fun b hb => (h b hb).1) hclear fun b hb => (h b hb).2⟩
  exact (hinherits.box v fun a ha => ⟨hmeasures a ha, hrenders a ha⟩).2

end View

end Work

end TextPane
