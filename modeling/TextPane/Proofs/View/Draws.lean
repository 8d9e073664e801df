import TextPane.Proofs.Render.Delivery
import TextPane.Proofs.View.Carry

/-! What a tree draws.

Laying out a tree of spans touches the terminal only where a span is rendered or a region is blanked.
Which spans and regions these are can be told without a terminal (`View.draws`), and rendering the tree
is doing just that, one after the other (`View.render_eq_perform`). Each of them is a list of calls that
depends on the colours of the moment (`perform_eq_makeAll`). -/
namespace TextPane

/-- One thing that a tree draws. -/
inductive Draw where
  | span (s : Span) (region : Region)
  | blank (region : Region)

/-- A value, and what is drawn on the way to it. -/
structure Drawing (α : Type) where
  value : α
  draws : List Draw

namespace Drawing

instance : Monad Drawing where
  pure a := ⟨a, []⟩
  bind x f := ⟨(f x.value).value, x.draws ++ (f x.value).draws⟩

instance : LawfulMonad Drawing :=
  .mk' Drawing (fun x => congrArg (Drawing.mk x.value) (List.append_nil _)) (fun _ _ => rfl)
    fun _ _ _ => congrArg (Drawing.mk _) (List.append_assoc ..)

/-- A span as a box that draws. -/
def spanBox (s : Span) : Box Drawing where
  measure limit := pure (s.measure limit)
  render region := ⟨(), [.span s region]⟩

/-- Blanks a region. -/
def clearRegion (region : Region) : Drawing Unit := ⟨(), [.blank region]⟩

end Drawing

/-- What a tree draws into a region, in order. -/
def View.draws (v : View Span) (region : Region) : List Draw :=
  ((v.box Drawing.spanBox Drawing.clearRegion).render region).draws

/-- A region that is not empty has a row. -/
theorem Region.height_eq_succ {region : Region} (h : region.isEmpty = false) :
    ∃ count, region.height = count + 1 := by
  apply Nat.exists_eq_succ_of_ne_zero
  intro hzero
  simp [isEmpty, Size.isEmpty, size, hzero] at h

namespace Renderer
open Terminal (makeAll makeAll_single)

/-- Draws one thing. -/
def draw (r : Renderer) : Draw → TerminalM Unit
  | .span s region => r.render s region
  | .blank region => r.clearRegion region

/-- Draws one thing after the other. -/
def perform (r : Renderer) : List Draw → TerminalM Unit
  | [] => pure ()
  | d :: rest => do
    r.draw d
    r.perform rest

theorem perform_append (r : Renderer) (a b : List Draw) :
    r.perform (a ++ b) = (do r.perform a; r.perform b) := by
  induction a with
  | nil => simp [perform]
  | cons d rest ih => simp only [List.cons_append, perform, ih, bind_assoc]

theorem perform_single (r : Renderer) (d : Draw) : r.perform [d] = r.draw d := by
  simp only [perform, bind_pure_unit]

/-- Drawing carried over to the terminal. -/
def performing (r : Renderer) : Carry Drawing TerminalM where
  run x := do
    r.perform x.draws
    pure x.value
  run_pure a := by
    show (do r.perform []; pure a) = pure a
    simp [perform]
  run_bind x f := by
    show (do r.perform (x.draws ++ (f x.value).draws); pure (f x.value).value) = _
    simp [perform_append]

theorem map_spanBox (r : Renderer) (s : Span) :
    (Drawing.spanBox s).map r.performing = r.spanBox s := by
  simp only [Box.map, spanBox, Box.mk.injEq]
  constructor
  · funext limit
    exact r.performing.run_pure _
  · funext region
    show (do r.perform [.span s region]; pure ()) = r.render s region
    rw [perform_single]
    exact bind_pure_unit

theorem run_clearRegion (r : Renderer) (region : Region) :
    r.performing.run (Drawing.clearRegion region) = r.clearRegion region := by
  show (do r.perform [.blank region]; pure ()) = r.clearRegion region
  rw [perform_single]
  exact bind_pure_unit

/-- A tree on a terminal is a tree that draws. -/
theorem onTerminal_eq (r : Renderer) (v : View Span) :
    v.onTerminal r = (v.box Drawing.spanBox Drawing.clearRegion).map r.performing := by
  rw [View.map_box]
  simp only [map_spanBox, run_clearRegion]
  rfl

/-- Rendering a tree is drawing what it draws. -/
theorem render_eq_perform (r : Renderer) (v : View Span) (region : Region) :
    (v.onTerminal r).render region = r.perform (v.draws region) := by
  rw [onTerminal_eq]
  exact bind_pure_unit

/-! ### The calls of a drawing -/

/-- The calls that blank rows of a region, from row number `index` on. -/
def blankRowCalls (region : Region) (index : Nat) : Nat → List Call
  | 0 => []
  | count + 1 =>
    .moveTo region.left (Print.row region index) :: .write (Command.blanks region.width) ::
      blankRowCalls region (index + 1) count

/-- The calls that blank a region. -/
def blankCalls (r : Renderer) (region : Region) : List Call :=
  if region.isEmpty then []
  else match r.mode with
    | .file => []
    | .console => blankRowCalls region 0 region.height
    | .ansi | .auto => [.write (Command.encodeAll (blankCommands region))]

/-- The calls that draw one thing when the colours are `k`. -/
def drawCalls (r : Renderer) (k : Colors) : Draw → List Call
  | .span s region => r.renderCalls s region k
  | .blank region => r.blankCalls region

/-- The calls that draw one thing after the other, each with the colours that the ones before it
leave. -/
def performCalls (r : Renderer) (k : Colors) : List Draw → List Call
  | [] => []
  | d :: rest => r.drawCalls k d ++ r.performCalls (k.afterAll (r.drawCalls k d)) rest

theorem blankRows_eq_makeAll (region : Region) (index count : Nat) :
    blankRows region index count = makeAll (blankRowCalls region index count) := by
  induction count generalizing index with
  | zero => rfl
  | succ count ih =>
    rw [blankRows, ih]
    rfl

theorem clearRegion_eq_makeAll (r : Renderer) (region : Region) :
    r.clearRegion region = makeAll (r.blankCalls region) := by
  unfold clearRegion blankCalls
  cases hempty : region.isEmpty
  · simp only [Bool.false_eq_true, if_false]
    have hsend : Command.send (blankCommands region) =
        makeAll [.write (Command.encodeAll (blankCommands region))] := by
      obtain ⟨count, hcount⟩ := Region.height_eq_succ hempty
      rw [blankCommands, hcount, List.range_succ_eq_map, List.flatMap_cons, List.cons_append]
      exact Print.send_moveTo _ _ _
    cases r.mode with
    | file => rfl
    | console => exact blankRows_eq_makeAll region 0 region.height
    | ansi => exact hsend
    | auto => exact hsend
  · rfl

theorem draw_eq_makeAll (r : Renderer) (d : Draw) (t : Terminal) :
    r.draw d t = makeAll (r.drawCalls t.colors d) t := by
  cases d with
  | span s region => exact r.render_eq_makeAll s region t
  | blank region => exact congrFun (r.clearRegion_eq_makeAll region) t

/-- Drawing is making calls that depend on the colours at the start alone. -/
theorem perform_eq_makeAll (r : Renderer) (ds : List Draw) (t : Terminal) :
    r.perform ds t = makeAll (r.performCalls t.colors ds) t := by
  induction ds generalizing t with
  | nil => rfl
  | cons d rest ih =>
    rw [perform, performCalls, Terminal.makeAll_append]
    have hdraw := r.draw_eq_makeAll d t
    rcases hmade : makeAll (r.drawCalls t.colors d) t with ⟨e | _, t'⟩
    · rw [bind_of_error (hdraw.trans hmade), bind_of_error hmade]
    · have hafter : t' = t.after (r.drawCalls t.colors d) := by
        rw [← Terminal.eq_after_of_makeAll (by rw [hmade]), hmade]
      rw [bind_of_ok (hdraw.trans hmade), bind_of_ok hmade, ih, hafter, Terminal.colors_after]

end Renderer

end TextPane
