import TextPane.Proofs.Scene.Moves
import TextPane.Proofs.Scene.Story

/-! What is told of deeds.

A change is made without the terminal or a display noticing, and in the scene that comes of it (`stage`)
its update is raised, if it raises one (`staged`). So everything that may be done is done once more with a
story beside it (`tellDeeds`, `tellMoves`), and without the story it is as it was (`fst_tellMoves`). -/
namespace TextPane

/-- Whether what is no longer held is let go after the update. -/
def Change.releases : Change → Bool
  | .remove .. | .clear _ => true
  | _ => false

namespace Scene

/-- A grid whose tracks are replaced, if it takes the new ones. -/
def tracked (s : Scene) (n : NodeId) (new : Grid Slot → Grid Slot) : Option (Scene × NodeId) :=
  match s.body n with
  | .grid g => (g.setTracks new).toOption.map fun g => (s.setBody n (.grid g), n)
  | _ => none

/-- The scene in which a change raises its update, and the node of which it raises it. -/
def stage (s : Scene) : Change → Option (Scene × NodeId)
  | .setSpan n span =>
    match s.body n with
    | .content _ feed => some (s.setBody n (.content span feed), n)
    | _ => none
  | .push n child =>
    match s.body n with
    | .stack orientation slots =>
      let (s, slot) := s.enter n child
      some (s.setBody n (.stack orientation (slots ++ [slot])), n)
    | _ => none
  | .remove n child =>
    match s.body n with
    | .stack orientation slots =>
      (slots.find? (·.node == child)).map fun slot =>
        ((s.setBody n (.stack orientation (slots.eraseP (·.node == child)))).leave slot, n)
    | _ => none
  | .clear n =>
    match s.body n with
    | .stack orientation (slot :: slots) =>
      some ((s.setBody n (.stack orientation [])).leaveAll (slot :: slots), n)
    | _ => none
  | .setColumns n columns => s.tracked n fun g => { g with columns }
  | .setRows n rows => s.tracked n fun g => { g with rows }
  | .setChild n child column row => (s.place n child column row).toOption.map fun s => (s.sweep, n)
  | .install n new items grid =>
    let s := { s with held := (grid :: new.map TableColumn.header).foldl List.erase s.held }
    match s.body n with
    | .table t => some (((s.takeGrid n t new items grid).leave t.grid).sweep, n)
    | _ => none
  | _ => none

/-- Nothing has come to the terminal or to displays. -/
structure Unseen (s s' : Scene) : Prop where
  terminal : s'.terminal = s.terminal
  displays : s'.displays = s.displays

section
variable {s s' s'' : Scene}

theorem Unseen.refl (s : Scene) : Unseen s s := ⟨rfl, rfl⟩

theorem Unseen.of_eq (h : s' = s) : Unseen s s' := h ▸ .refl s

theorem Unseen.trans (h : Unseen s s') (h' : Unseen s' s'') : Unseen s s'' :=
  ⟨h'.terminal.trans h.terminal, h'.displays.trans h.displays⟩

theorem Edits.unseen {only : Option NodeId} (h : Edits only s s') : Unseen s s' :=
  ⟨h.terminal, h.displays⟩

theorem Swept.unseen (h : Swept s s') : Unseen s s' := ⟨h.terminal, h.displays⟩

/-- How a change comes about: it is made unseen, and then its update is raised if it raises one. -/
inductive Staged (s : Scene) (c : Change) : Prop where
  | quiet (unstaged : s.stage c = none) (unseen : Unseen s (s.change c))
  | raised {s₁ : Scene} {n : NodeId} (comes : s.stage c = some (s₁, n)) (unseen : Unseen s s₁)
      (made : s.change c = if c.releases then (s₁.raise n).sweep else s₁.raise n)

/-- Tracks are replaced if the grid takes them. -/
theorem staged_setTracks (s : Scene) (n : NodeId) {c : Change} (new : Grid Slot → Grid Slot)
    (hstage : s.stage c = s.tracked n new) (hchange : s.change c = s.accept (s.setTracks n new))
    (hreleases : c.releases = false) : Staged s c := by
  cases hbody : s.body n with
  | grid g =>
    cases hnew : g.setTracks new with
    | error e =>
      refine .quiet (by simp only [hstage, tracked, hbody, hnew]; rfl) (.of_eq ?_)
      simp only [hchange, setTracks, hbody, hnew]
      rfl
    | ok g' =>
      have hsome : s.stage c = some (s.setBody n (.grid g'), n) := by
        simp only [hstage, tracked, hbody, hnew]
        rfl
      refine .raised hsome ⟨rfl, rfl⟩ ?_
      simp only [hchange, setTracks, hbody, hnew, hreleases]
      rfl
  | _ =>
    refine .quiet (by simp only [hstage, tracked, hbody]) (.of_eq ?_)
    simp only [hchange, setTracks, hbody]
    rfl

theorem staged_setSpan (s : Scene) (n : NodeId) (span : Span) : Staged s (.setSpan n span) := by
  cases hbody : s.body n with
  | content old feed =>
    have hstage : s.stage (.setSpan n span) = some (s.setBody n (.content span feed), n) := by
      simp only [stage, hbody]
    refine .raised hstage ⟨rfl, rfl⟩ ?_
    simp only [change, setSpan, hbody]
    rfl
  | _ => exact .quiet (by simp only [stage, hbody]) (.of_eq (by simp only [change, setSpan, hbody]))

theorem staged_push (s : Scene) (n child : NodeId) : Staged s (.push n child) := by
  cases hbody : s.body n with
  | stack orientation slots =>
    have hstage : s.stage (.push n child) = some ((s.enter n child).1.setBody n
        (.stack orientation (slots ++ [(s.enter n child).2])), n) := by
      simp only [stage, hbody]
    refine .raised hstage ⟨rfl, rfl⟩ ?_
    simp only [change, push, hbody]
    rfl
  | _ => exact .quiet (by simp only [stage, hbody]) (.of_eq (by simp only [change, push, hbody]))

theorem staged_remove (s : Scene) (n child : NodeId) : Staged s (.remove n child) := by
  cases hbody : s.body n with
  | stack orientation slots =>
    cases hfind : slots.find? (·.node == child) with
    | none =>
      exact .quiet (by simp only [stage, hbody, hfind, Option.map_none])
        (.of_eq (by simp only [change, remove, hbody, hfind]))
    | some slot =>
      have hstage : s.stage (.remove n child) = some ((s.setBody n
          (.stack orientation (slots.eraseP (·.node == child)))).leave slot, n) := by
        simp only [stage, hbody, hfind, Option.map_some]
      refine .raised hstage ⟨rfl, rfl⟩ ?_
      simp only [change, remove, hbody, hfind]
      rfl
  | _ => exact .quiet (by simp only [stage, hbody]) (.of_eq (by simp only [change, remove, hbody]))

theorem staged_clear (s : Scene) (n : NodeId) : Staged s (.clear n) := by
  cases hbody : s.body n with
  | stack orientation slots =>
    cases slots with
    | nil => exact .quiet (by simp only [stage, hbody]) (.of_eq (by simp only [change, clear, hbody]))
    | cons slot rest =>
      have hstage : s.stage (.clear n) =
          some ((s.setBody n (.stack orientation [])).leaveAll (slot :: rest), n) := by
        simp only [stage, hbody]
      have hset : Unseen s (s.setBody n (.stack orientation [])) := ⟨rfl, rfl⟩
      refine .raised hstage (hset.trans (edits_leaveAll _ _).unseen) ?_
      simp only [change, clear, hbody]
      rfl
  | _ => exact .quiet (by simp only [stage, hbody]) (.of_eq (by simp only [change, clear, hbody]))

/-- The holds of a call end, and a table takes the grid that was built for it. -/
theorem staged_install (s : Scene) (n : NodeId) (new : List TableColumn) (items : List (List String))
    (grid : NodeId) : Staged s (.install n new items grid) := by
  let free : Scene := { s with held := (grid :: new.map TableColumn.header).foldl List.erase s.held }
  have hfree : Unseen s free := ⟨rfl, rfl⟩
  cases hbody : free.body n with
  | table t =>
    have hstage : s.stage (.install n new items grid) =
        some (((free.takeGrid n t new items grid).leave t.grid).sweep, n) := by
      simp only [stage, free] at hbody ⊢
      rw [hbody]
    have htaken : Unseen s ((free.takeGrid n t new items grid).leave t.grid) := ⟨rfl, rfl⟩
    refine .raised hstage (htaken.trans (swept_sweep _).unseen) ?_
    simp only [change, install, free] at hbody ⊢
    rw [hbody]
    rfl
  | _ =>
    refine .quiet ?_ (hfree.trans ?_)
    · simp only [stage, free] at hbody ⊢
      rw [hbody]
    · simp only [change, install, free] at hbody ⊢
      rw [hbody]
      exact (swept_sweep _).unseen

section
variable (h : s.Tied)
include h

theorem staged_setChild (n : NodeId) {child : NodeId} (hchild : child < s.nodes.size) (column row : Nat) :
    Staged s (.setChild n child column row) := by
  obtain ⟨e, hplace⟩ | ⟨s', hplace, hedits, _⟩ := place_cases h.linked h.fit n hchild column row
  · refine .quiet (by rw [stage, hplace]; rfl) (.of_eq ?_)
    rw [change, setChild, hplace]
    rfl
  · refine .raised (by rw [stage, hplace]; rfl) (hedits.unseen.trans (swept_sweep s').unseen) ?_
    rw [change, setChild, hplace]
    rfl

/-- **Before its update a change touches neither the terminal nor displays**, and one that raises none does
so not at all. -/
theorem staged {c : Change} (hc : c.Valid s) : Staged s c := by
  cases c with
  | setSpan n span => exact staged_setSpan s n span
  | push n child => exact staged_push s n child
  | remove n child => exact staged_remove s n child
  | clear n => exact staged_clear s n
  | setColumns n tracks | setRows n tracks => exact staged_setTracks s n _ rfl rfl rfl
  | setChild n child column row => exact staged_setChild h n hc column row
  | install n new items grid => exact staged_install s n new items grid
  | letGo n =>
    have hless : Unseen s { s with held := s.held.erase n } := ⟨rfl, rfl⟩
    exact .quiet rfl (hless.trans (swept_sweep _).unseen)
  -- What is created, counted or held raises no update.
  | _ => exact .quiet rfl ⟨rfl, rfl⟩

end

end

/-! ### Deeds with their story -/

def tellChange (s : Scene) (c : Change) : Tale :=
  match s.stage c with
  | none => (s.change c, [])
  | some (staged, n) =>
    let told := staged.tellRaise n
    (if c.releases then told.1.sweep else told.1, told.2)

def tellDeed (s : Scene) : Deed → Tale
  | .change c => s.tellChange c
  | .notify n => s.tellRaise n
  | .refresh i => s.tellRefresh i
  | .runNext q => (s.tellRunNext q).1
  | .runPending q => s.tellRunPending q
  | .late i => tellRequest (tellRaiseWithin s.depth) i s
  | .feed feed span =>
    match s.fedBy? feed with
    | some n => s.tellChange (.setSpan n span)
    | none => (s, [])
  | .render renderer n region =>
    let told := (s.tellNodeBox renderer n).render region s
    (told.1.2, told.2)
  -- What is done to a display itself and what adds to a scene raises no update and paints nothing.
  | .probe p => (s.deed (.probe p), [])
  | .queue => (s.deed .queue, [])
  | .screen renderer queue hideCursor => (s.deed (.screen renderer queue hideCursor), [])
  | .display i child => (s.deed (.display i child), [])
  | .dispose i => (s.deed (.dispose i), [])
  | .unwatch n id => (s.deed (.unwatch n id), [])
  | .bind n => (s.deed (.bind n), [])

def tellDeeds (s : Scene) (ds : List Deed) : Tale := tellEach (fun d s => s.tellDeed d) ds s

/-- What is told of moves is told of the deeds that they come down to. -/
def tellMoves (s : Scene) (ms : List Move) : Tale := s.tellDeeds (s.run ms)

section
variable {s : Scene} (h : s.Tied)
include h

theorem fst_tellChange {c : Change} (hc : c.Valid s) : (s.tellChange c).1 = s.change c := by
  unfold tellChange
  cases staged h hc with
  | quiet hnone unseen => rw [hnone]
  | raised hsome unseen made =>
    rw [hsome, made]
    simp only [fst_tellRaise]

theorem fst_tellDeed {d : Deed} (hd : d.Possible s) : (s.tellDeed d).1 = s.deed d := by
  cases d with
  | change c => exact fst_tellChange h hd
  | notify n => exact fst_tellRaise s n
  | refresh i => exact fst_tellRefresh s i
  | runNext q => exact congrArg Prod.fst (fst_tellRunNext s q)
  | runPending q => exact fst_tellRunPending s q
  | late i => exact fst_tellRequest (fst_tellRaiseWithin s.depth) i s
  | feed feed span =>
    show _ = (s.feed feed span).1
    rw [feed_eq, tellDeed]
    cases s.fedBy? feed with
    | none => rfl
    | some n => exact fst_tellChange h (c := .setSpan n span) trivial
  | render renderer n region =>
    show (((s.tellNodeBox renderer n).map untold).render region s).2 = _
    rw [map_tellNodeBox]
    rfl
  | _ => rfl

theorem fst_tellDeeds {ds : List Deed} (hds : s.Allows ds) : (s.tellDeeds ds).1 = s.deeds ds := by
  induction ds generalizing s with
  | nil => rfl
  | cons d rest ih =>
    obtain ⟨hd, hrest⟩ := hds
    show ((s.tellDeed d).1.tellDeeds rest).1 = _
    rw [fst_tellDeed h hd]
    exact ih (h.deed hd) hrest

theorem fst_tellMoves {ms : List Move} (hms : s.Allows (s.run ms)) : (s.tellMoves ms).1 = s.moves ms := by
  rw [moves_eq_deeds]
  exact fst_tellDeeds h hms

end

end Scene

end TextPane
