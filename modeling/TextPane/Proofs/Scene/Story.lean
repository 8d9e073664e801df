import TextPane.Proofs.Render.Strokes
import TextPane.Proofs.Scene.Repaint
import TextPane.Proofs.View.Work
import TextPane.Scene.Display

/-! What happens to displays.

Updates that reach displays, demands on them and the repaints that come of these happen one after the
other, and a scene does not keep that order. Here everything that may come to a repaint is done once more
with a story beside it of what happened to which display. The story only listens: without it, everything
is as it was (`fst_tellRaise`, `fst_tellRunPending`, …). What holds of every piece that something is told of
holds of all of it (`does_tellPaint`, `tellDrainRounds_along`). -/
namespace TextPane

/-- What may happen to a display. -/
inductive Moment where
  /-- An update reaches it. -/
  | update
  /-- It is told to repaint now. -/
  | demand
  | start
  | finish
deriving DecidableEq, Repr

/-- What happened to displays, in order. -/
abbrev Story := List (DisplayId × Moment)

/-- What happened to one display. -/
def Story.of (i : DisplayId) (story : Story) : List Moment :=
  story.filterMap fun (j, m) => if j = i then some m else none

/-- A scene and what happened until it came about. -/
abbrev Tale := Scene × Story

/-- Goes on with a tale. -/
def Tale.andThen (t : Tale) (f : Scene → Tale) : Tale := ((f t.1).1, t.2 ++ (f t.1).2)

/-- Work on a scene that may fail, and what happens meanwhile. -/
def Telling (α : Type) : Type := Scene → (Except Failure α × Scene) × Story

instance : Monad Telling where
  pure a s := ((.ok a, s), [])
  bind x f s :=
    match x s with
    | ((.error e, s), story) => ((.error e, s), story)
    | ((.ok a, s), story) => ((f a s).1, story ++ (f a s).2)

/-- Work of which there is nothing to tell. -/
def quietly {α : Type} (work : SceneM α) : Telling α := fun s => (work s, [])

/-- Work without what is told of it. -/
def untold : Carry Telling SceneM where
  run x s := (x s).1
  run_pure _ := rfl
  run_bind {α β} x f := by
    funext s
    have hbind : (x >>= f) s = match x s with
      | ((.error e, s), story) => ((.error e, s), story)
      | ((.ok a, s), story) => ((f a s).1, story ++ (f a s).2) := rfl
    rw [hbind]
    rcases hrun : x s with ⟨⟨e | a, s'⟩, story⟩
    · have hfails : (x s).1 = (.error e, s') := by rw [hrun]
      exact (bind_of_error (x := fun s => (x s).1) hfails fun a s => (f a s).1).symm
    · have hdone : (x s).1 = (.ok a, s') := by rw [hrun]
      exact (bind_of_ok (x := fun s => (x s).1) hdone fun a s => (f a s).1).symm

namespace Scene

/-! ### Rendering -/

section Tell
variable (tell : NodeId → Scene → Tale)

/-- Does the same with each of a list. -/
def tellEach {α : Type} (f : α → Scene → Tale) : List α → Scene → Tale
  | [], s => (s, [])
  | a :: rest, s => (f a s).andThen (tellEach f rest)

def tellProbeUpdates (n : NodeId) (p : Probe) (s : Scene) : Tale :=
  match p.renders with
  | 0 => (s, [])
  | renders + 1 => tellEach tell (List.replicate p.notifies n) (s.setBody n (.probe { p with renders }))

def tellRenderProbe (n : NodeId) (region : Region) : Telling Unit := fun s =>
  match s.probe? n with
  | none => ((.ok (), s), [])
  | some p =>
    let logged := { s with probed := s.probed.push (.render p.name region) }
    let told := tellProbeUpdates tell n p logged
    ((if p.fails then .error .view else .ok (), told.1), told.2)

def tellLeafBox (r : Renderer) : SceneLeaf → Box Telling
  | .span span =>
    { measure := fun limit => quietly (onTerminal ((r.spanBox span).measure limit))
      render := fun region => quietly (onTerminal ((r.spanBox span).render region)) }
  | .probe n =>
    { measure := fun limit => quietly (measureProbe n limit), render := tellRenderProbe tell n }

def tellTreeBox (r : Renderer) (v : View SceneLeaf) : Box Telling :=
  v.box (tellLeafBox tell r) fun region => quietly (onTerminal (r.clearRegion region))

def tellPaint (r : Renderer) (child : Option NodeId) : Telling Unit := do
  quietly (onTerminal r.clearScreen)
  if let some n := child then
    let s ← quietly get
    (tellTreeBox tell r (s.tree n)).render (.ofSize s.terminal.size)
  quietly (onTerminal (Terminal.call .flush))

/-! ### Repainting -/

def tellDrainRounds (i : DisplayId) : Nat → Scene → Tale
  | 0, s => (s, [])
  | rounds + 1, s =>
    match s.displays[i]? with
    | none => (s, [])
    | some display =>
      match display.repaint.start? with
      | none => (s, [])
      | some repaint =>
        let painted := tellPaint tell display.renderer (display.child.map (·.node))
          (s.setRepaint i repaint)
        let rest := tellDrainRounds i rounds (painted.1.2.finishRepaint i)
        (rest.1, (i, .start) :: painted.2 ++ (i, .finish) :: rest.2)

def tellDrainWith (i : DisplayId) (s : Scene) : Tale := tellDrainRounds tell i (s.restless + 1) s

def tellRequest (i : DisplayId) (s : Scene) : Tale :=
  match s.displays[i]? with
  | none => (s, [])
  | some display =>
    match display.repaint.request? with
    | none => (s, [(i, .update)])
    | some repaint =>
      let s := s.setRepaint i repaint
      match display.queue with
      | some q => (s.modifyQueue q (· ++ [i]), [(i, .update)])
      | none => ((tellDrainWith tell i s).1, (i, .update) :: (tellDrainWith tell i s).2)

/-! ### Raising -/

def tellDeliver : Listener → Scene → Tale
  | .forward n, s => tell n s
  | .watch counter, s => ({ s with hits := s.hits.modify counter (· + 1) }, [])
  | .display i, s => tellRequest tell i s

end Tell

def tellRaiseWithin : Nat → NodeId → Scene → Tale
  | 0, _, s => (s, [])
  | depth + 1, n, s => tellEach (tellDeliver (tellRaiseWithin depth)) (s.node n).notifier.round s

def tellRaise (s : Scene) (n : NodeId) : Tale := tellRaiseWithin s.depth n s

def tellDrain (s : Scene) (i : DisplayId) : Tale := tellDrainWith (tellRaiseWithin s.depth) i s

def tellNodeBox (s : Scene) (r : Renderer) (n : NodeId) : Box Telling :=
  tellTreeBox (tellRaiseWithin s.depth) r (s.tree n)

/-! ### Displays and queues -/

def tellRefresh (s : Scene) (i : DisplayId) : Tale :=
  let told := (s.modifyDisplay i fun display =>
    { display with repaint := display.repaint.demand }).tellDrain i
  (told.1, (i, .demand) :: told.2)

def tellRunNext (s : Scene) (q : QueueId) : Tale × Bool :=
  match (s.queues[q]?).getD [] with
  | [] => ((s, []), false)
  | i :: rest => ((s.modifyQueue q fun _ => rest).tellDrain i, true)

def tellRunRounds (q : QueueId) : Nat → Scene → Tale
  | 0, s => (s, [])
  | rounds + 1, s =>
    match s.tellRunNext q with
    | (t, false) => t
    | (t, true) => t.andThen (tellRunRounds q rounds)

def tellRunPending (s : Scene) (q : QueueId) : Tale :=
  tellRunRounds q (s.pending q + s.displays.size * (s.restless + 1)) s

/-! ### Without the story -/

section Tell
variable {tell : NodeId → Scene → Tale} {raise : NodeId → Scene → Scene}
  (htell : ∀ n s, (tell n s).1 = raise n s)
include htell

omit htell in
theorem fst_tellEach {α : Type} {f : α → Scene → Tale} {g : Scene → α → Scene}
    (hf : ∀ a s, (f a s).1 = g s a) (as : List α) (s : Scene) :
    (tellEach f as s).1 = as.foldl g s := by
  induction as generalizing s with
  | nil => rfl
  | cons a rest ih =>
    show (tellEach f rest (f a s).1).1 = rest.foldl g (g s a)
    rw [ih, hf]

theorem fst_tellProbeUpdates (n : NodeId) (p : Probe) (s : Scene) :
    (tellProbeUpdates tell n p s).1 = probeUpdates raise n p s := by
  unfold tellProbeUpdates probeUpdates
  cases p.renders with
  | zero => rfl
  | succ renders => exact fst_tellEach htell _ _

theorem run_tellRenderProbe (n : NodeId) (region : Region) :
    untold.run (tellRenderProbe tell n region) = renderProbe raise n region := by
  funext s
  show (tellRenderProbe tell n region s).1 = _
  unfold tellRenderProbe renderProbe
  cases s.probe? n with
  | none => rfl
  | some p => exact congrArg (Prod.mk _) (fst_tellProbeUpdates htell n p _)

theorem map_tellTreeBox (r : Renderer) (v : View SceneLeaf) :
    (tellTreeBox tell r v).map untold = treeBox raise r v := by
  have hleaf : (fun leaf => (tellLeafBox tell r leaf).map untold) = leafBox raise r := by
    funext leaf
    cases leaf with
    | span span => rfl
    | probe n =>
      show Box.mk _ _ = _
      rw [leafBox]
      congr
      funext region
      exact run_tellRenderProbe htell n region
  rw [tellTreeBox, View.map_box, hleaf]
  rfl

theorem run_tellPaint (r : Renderer) (child : Option NodeId) :
    untold.run (tellPaint tell r child) = paint raise r child := by
  have hbox (v : View SceneLeaf) (region : Region) :
      untold.run ((tellTreeBox tell r v).render region) = (treeBox raise r v).render region := by
    rw [← map_tellTreeBox htell]
    rfl
  unfold tellPaint paint
  cases child with
  | none => rw [untold.run_bind]; rfl
  | some n =>
    simp only [untold.run_bind, hbox]
    rfl

theorem fst_tellDrainRounds (i : DisplayId) (rounds : Nat) (s : Scene) :
    (tellDrainRounds tell i rounds s).1 = drainRounds raise i rounds s := by
  induction rounds generalizing s with
  | zero => rfl
  | succ rounds ih =>
    unfold tellDrainRounds drainRounds
    cases s.displays[i]? with
    | none => rfl
    | some d =>
      cases hstart : d.repaint.start? with
      | none => simp only [hstart]
      | some repaint =>
        simp only [hstart]
        rw [ih, ← run_tellPaint htell]
        rfl

theorem fst_tellDrainWith (i : DisplayId) (s : Scene) :
    (tellDrainWith tell i s).1 = drainWith raise i s := fst_tellDrainRounds htell i _ s

theorem fst_tellRequest (i : DisplayId) (s : Scene) :
    (tellRequest tell i s).1 = requestRepaint raise i s := by
  unfold tellRequest requestRepaint
  cases s.displays[i]? with
  | none => rfl
  | some d =>
    cases hrequest : d.repaint.request? with
    | none => simp only [hrequest]
    | some repaint =>
      simp only [hrequest]
      cases d.queue with
      | some q => rfl
      | none => exact fst_tellDrainWith htell i _

theorem fst_tellDeliver (l : Listener) (s : Scene) : (tellDeliver tell l s).1 = deliver raise s l := by
  cases l with
  | forward n => exact htell n s
  | watch counter => rfl
  | display i => exact fst_tellRequest htell i s

end Tell

theorem fst_tellRaiseWithin (depth : Nat) (n : NodeId) (s : Scene) :
    (tellRaiseWithin depth n s).1 = raiseWithin depth n s := by
  induction depth generalizing n s with
  | zero => rfl
  | succ depth ih => exact fst_tellEach (fst_tellDeliver ih) _ s

theorem fst_tellRaise (s : Scene) (n : NodeId) : (s.tellRaise n).1 = s.raise n :=
  fst_tellRaiseWithin _ n s

theorem fst_tellDrain (s : Scene) (i : DisplayId) : (s.tellDrain i).1 = s.drain i :=
  fst_tellDrainWith (fst_tellRaiseWithin _) i s

theorem map_tellNodeBox (s : Scene) (r : Renderer) (n : NodeId) :
    (s.tellNodeBox r n).map untold = s.nodeBox r n := map_tellTreeBox (fst_tellRaiseWithin _) r _

theorem fst_tellRefresh (s : Scene) (i : DisplayId) : (s.tellRefresh i).1 = s.refresh i :=
  fst_tellDrain _ i

theorem fst_tellRunNext (s : Scene) (q : QueueId) :
    ((s.tellRunNext q).1.1, (s.tellRunNext q).2) = s.runNext q := by
  unfold tellRunNext runNext
  cases (s.queues[q]?).getD [] with
  | nil => rfl
  | cons i rest => exact congrArg (·, true) (fst_tellDrain _ i)

theorem fst_tellRunRounds (s : Scene) (q : QueueId) (rounds : Nat) :
    (tellRunRounds q rounds s).1 = (s.runRounds q rounds).1 := by
  induction rounds generalizing s with
  | zero => rfl
  | succ rounds ih =>
    unfold tellRunRounds runRounds
    rw [← fst_tellRunNext]
    rcases s.tellRunNext q with ⟨t, ran⟩
    cases ran with
    | false => rfl
    | true => exact ih t.1

theorem fst_tellRunPending (s : Scene) (q : QueueId) :
    (s.tellRunPending q).1 = (s.runPending q).1 := fst_tellRunRounds s q _

/-! ### Piece by piece -/

section Along
variable {R : Scene → Story → Scene → Prop} (hrefl : ∀ s, R s [] s)
  (htrans : ∀ {s s' s'' story story'}, R s story s' → R s' story' s'' → R s (story ++ story') s'')
include hrefl htrans

theorem tellEach_along {α : Type} {f : α → Scene → Tale} (hf : ∀ a s, R s (f a s).2 (f a s).1)
    (as : List α) (s : Scene) : R s (tellEach f as s).2 (tellEach f as s).1 := by
  induction as generalizing s with
  | nil => exact hrefl s
  | cons a rest ih => exact htrans (hf a s) (ih _)

/-- Work of which it is told how one scene comes from another. -/
def telling : Work Telling where
  does x := ∀ s, R s (x s).2 (x s).1.2
  pure _ s := hrefl s
  bind {α β x f} hx hf s := by
    have hbind : (x >>= f) s = match x s with
      | ((.error e, s), story) => ((.error e, s), story)
      | ((.ok a, s), story) => ((f a s).1, story ++ (f a s).2) := rfl
    have hfirst : R s (x s).2 (x s).1.2 := hx s
    rw [hbind]
    rcases hrun : x s with ⟨⟨e | a, s'⟩, story⟩
    · rw [hrun] at hfirst
      exact hfirst
    · rw [hrun] at hfirst
      exact htrans hfirst (hf a s')

/-- A relation that paints and what is before and after them have holds of repainting. -/
theorem tellDrainRounds_along {tell : NodeId → Scene → Tale} {j : DisplayId}
    (hstart : ∀ s repaint, R s [(j, .start)] (s.setRepaint j repaint))
    (hpaint : ∀ r child s, R s (tellPaint tell r child s).2 (tellPaint tell r child s).1.2)
    (hfinish : ∀ s, R s [(j, .finish)] (s.finishRepaint j)) (rounds : Nat) (s : Scene) :
    R s (tellDrainRounds tell j rounds s).2 (tellDrainRounds tell j rounds s).1 := by
  induction rounds generalizing s with
  | zero => exact hrefl s
  | succ rounds ih =>
    unfold tellDrainRounds
    cases s.displays[j]? with
    | none => exact hrefl s
    | some d =>
      cases hrepaint : d.repaint.start? with
      | none =>
        simp only [hrepaint]
        exact hrefl s
      | some repaint =>
        simp only [hrepaint]
        exact htrans (htrans (hstart s repaint) (hpaint ..)) (htrans (hfinish _) (ih _))

end Along

section Pieces
variable {W : Work Telling} {tell : NodeId → Scene → Tale}
  (hterminal : ∀ {α : Type} {work : TerminalM α}, Renderer.Stroke work → W.does (quietly (onTerminal work)))
  (hmeasure : ∀ n limit, W.does (quietly (measureProbe n limit)))
  (hrender : ∀ n region, W.does (tellRenderProbe tell n region))
include hterminal hmeasure hrender

theorem renders_tellTreeBox (r : Renderer) (v : View SceneLeaf) : W.Renders (tellTreeBox tell r v) := by
  apply W.renders_view
  · intro a _ limit
    cases a with
    | span span => exact hterminal (.measure r span limit)
    | probe n => exact hmeasure n limit
  · exact fun region => hterminal (.blank r region)
  · intro a _ region
    cases a with
    | span span => exact hterminal (.render r span region)
    | probe n => exact hrender n region

theorem does_tellPaint (hget : W.does (quietly get)) (r : Renderer) (child : Option NodeId) :
    W.does (tellPaint tell r child) := by
  refine W.bind (hterminal (.clear r)) fun _ => ?_
  have hflush : W.does (quietly (onTerminal (Terminal.call .flush))) := hterminal .flush
  cases child with
  | none => exact hflush
  | some n =>
    refine W.bind hget fun s => ?_
    exact W.bind (renders_tellTreeBox hterminal hmeasure hrender r _ _) fun _ => hflush

end Pieces

end Scene

end TextPane
