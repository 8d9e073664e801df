import TextPane.Proofs.Scene.Listeners
import TextPane.Proofs.Scene.Orderly
import TextPane.Proofs.Scene.Telling

/-! A display that was disposed of.

It stays as it is for good: whatever updates, queued repaints and demands still come, none of them starts a
paint, and it takes no other child (`retired_deeds`). The cursor is shown again by whoever disposes of a
display that is there yet, once for each display; nothing else that may be done tries to
(`triesAll_deeds`, `count_restorations`). -/
namespace TextPane

/-- A display that is there and was not disposed of. -/
def Scene.isLive (s : Scene) (i : DisplayId) : Bool := (s.displays[i]?).any (!·.repaint.disposed)

def Scene.isDisposed (s : Scene) (i : DisplayId) : Bool := (s.displays[i]?).any (·.repaint.disposed)

/-- The display for which a deed restores the cursor. -/
def Deed.restores? (s : Scene) : Deed → Option DisplayId
  | .dispose i => if s.isLive i then some i else none
  | _ => none

namespace Scene

/-- The displays for which deeds restore the cursor, in order. -/
def restorations (s : Scene) : List Deed → List DisplayId
  | [] => []
  | d :: rest => (d.restores? s).toList ++ (s.deed d).restorations rest

/-- A deed that restores the cursor tries to show it, once and nothing besides; any other deed tries
anything but that. -/
def Tries (s : Scene) (d : Deed) : Prop :=
  match d.restores? s with
  | some _ => (s.deed d).terminal = s.terminal.tryAll [.showCursor]
  | none => s.terminal.Hides (s.deed d).terminal

def TriesAll : Scene → List Deed → Prop
  | _, [] => True
  | s, d :: rest => s.Tries d ∧ TriesAll (s.deed d) rest

/-- The display is this one, but for requests. -/
def Retired (i : DisplayId) (d : Display) (s : Scene) : Prop :=
  ∃ requested, s.displays[i]? = some { d with repaint := { d.repaint with requested } }

/-- The display neither starts a paint nor finishes one. -/
def Story.Rests (i : DisplayId) (story : Story) : Prop := ∀ m ∈ story.of i, m.isPaint = false

/-- What is told of a piece of work: nothing tries to show the cursor, and a display that was disposed of
stays as it is and paints nothing. -/
structure Passes (i : DisplayId) (s : Scene) (story : Story) (s' : Scene) : Prop where
  hides : s.terminal.Hides s'.terminal
  retired : ∀ d : Display, d.repaint.disposed = true → Retired i d s →
    Retired i d s' ∧ Story.Rests i story

section
variable {i j : DisplayId} {d : Display} {s s' s'' : Scene} {story story' : Story}

theorem Story.rests_nil (i : DisplayId) : Story.Rests i [] := fun _ hm => (List.not_mem_nil hm).elim

theorem Story.Rests.append (h : Story.Rests i story) (h' : Story.Rests i story') :
    Story.Rests i (story ++ story') := by
  intro m hm
  rw [Story.of_append] at hm
  exact (List.mem_append.mp hm).elim (h m) (h' m)

/-- Paints of another display are not its own. -/
theorem Story.rests_other (hj : j ≠ i) (m : Moment) : Story.Rests i [(j, m)] := by
  intro m' hm'
  rw [Story.of_cons_ne hj] at hm'
  exact (List.not_mem_nil hm').elim

theorem Story.rests_asked {m : Moment} (hm : m.isPaint = false) (j : DisplayId) :
    Story.Rests i [(j, m)] := by
  intro m' hm'
  by_cases hj : j = i
  · subst hj
    rw [Story.of_cons_self] at hm'
    exact List.mem_singleton.mp hm' ▸ hm
  · exact Story.rests_other hj m m' hm'

namespace Retired

/-- What was disposed of starts no paint, whatever is asked. -/
theorem start? (h : Retired i d s) (hd : d.repaint.disposed = true) {d' : Display}
    (hd' : s.displays[i]? = some d') : d'.repaint.start? = none := by
  obtain ⟨requested, hsame⟩ := h
  obtain rfl := Option.some.inj (hd'.symm.trans hsame)
  simp [Repaint.start?, hd]

theorem request? (h : Retired i d s) (hd : d.repaint.disposed = true) {d' : Display}
    (hd' : s.displays[i]? = some d') : d'.repaint.request? = none := by
  obtain ⟨requested, hsame⟩ := h
  obtain rfl := Option.some.inj (hd'.symm.trans hsame)
  simp [Repaint.request?, hd]

theorem congr (h : Retired i d s) (hsame : s'.displays[i]? = s.displays[i]?) : Retired i d s' := by
  obtain ⟨requested, hd⟩ := h
  exact ⟨requested, hsame.trans hd⟩

theorem modify_other (h : Retired i d s) (hj : j ≠ i) (f : Display → Display) :
    Retired i d (s.modifyDisplay j f) := h.congr (by rw [getElem?_modifyDisplay, if_neg hj])

theorem demand (h : Retired i d s) :
    Retired i d (s.modifyDisplay j fun d => { d with repaint := d.repaint.demand }) := by
  by_cases hj : j = i
  · subst hj
    obtain ⟨requested, hd⟩ := h
    exact ⟨true, by rw [getElem?_modifyDisplay, if_pos rfl, hd]; rfl⟩
  · exact h.modify_other hj _

end Retired

namespace Passes

theorem of_same (hterminal : s.terminal.Hides s'.terminal)
    (hdisplay : s'.displays[i]? = s.displays[i]?) (hstory : Story.Rests i story) : Passes i s story s' :=
  ⟨hterminal, fun _ _ hretired => ⟨hretired.congr hdisplay, hstory⟩⟩

theorem of_unseen (h : Unseen s s') : Passes i s [] s' :=
  .of_same (h.terminal ▸ .refl _) (by rw [h.displays]) (Story.rests_nil i)

theorem refl (s : Scene) : Passes i s [] s := .of_unseen (.refl s)

theorem trans (h : Passes i s story s') (h' : Passes i s' story' s'') :
    Passes i s (story ++ story') s'' := by
  refine ⟨h.hides.trans h'.hides, fun d hd hretired => ?_⟩
  obtain ⟨hretired', hrests⟩ := h.retired d hd hretired
  obtain ⟨hretired'', hrests'⟩ := h'.retired d hd hretired'
  exact ⟨hretired'', hrests.append hrests'⟩

theorem modify_other (hj : j ≠ i) (s : Scene) (f : Display → Display) (m : Moment) :
    Passes i s [(j, m)] (s.modifyDisplay j f) :=
  .of_same (.refl _) (by rw [getElem?_modifyDisplay, if_neg hj]) (Story.rests_other hj m)

end Passes

/-! ### Rendering -/

/-- Work that passes by a display that was disposed of. -/
def passes (i : DisplayId) : Work Telling := telling (R := Passes i) .refl .trans

theorem passes_stroke {α : Type} {work : TerminalM α} (h : Renderer.Stroke work) :
    (passes i).does (quietly (onTerminal work)) :=
  fun s => .of_same (h.hides s.terminal) rfl (Story.rests_nil i)

theorem passes_measureProbe (n : NodeId) (limit : Size) :
    (passes i).does (quietly (measureProbe n limit)) := by
  intro s
  unfold quietly measureProbe
  cases s.probe? n with
  | none => exact .refl s
  | some p => exact .of_unseen ⟨rfl, rfl⟩

section Tell
variable {tell : NodeId → Scene → Tale} (htell : ∀ n s, Passes i s (tell n s).2 (tell n s).1)
include htell

theorem passes_probeUpdates (n : NodeId) (p : Probe) (s : Scene) :
    Passes i s (tellProbeUpdates tell n p s).2 (tellProbeUpdates tell n p s).1 := by
  unfold tellProbeUpdates
  cases p.renders with
  | zero => exact .refl s
  | succ renders =>
    have hset : Passes i s [] (s.setBody n (.probe { p with renders })) := .of_unseen ⟨rfl, rfl⟩
    exact hset.trans (tellEach_along (R := Passes i) .refl .trans htell _ _)

theorem passes_renderProbe (n : NodeId) (region : Region) :
    (passes i).does (tellRenderProbe tell n region) := by
  intro s
  unfold tellRenderProbe
  cases s.probe? n with
  | none => exact .refl s
  | some p =>
    have hlog : Passes i s [] { s with probed := s.probed.push (.render p.name region) } :=
      .of_unseen ⟨rfl, rfl⟩
    exact hlog.trans (passes_probeUpdates htell n p _)

theorem passes_treeBox (r : Renderer) (v : View SceneLeaf) : (passes i).Renders (tellTreeBox tell r v) :=
  renders_tellTreeBox passes_stroke passes_measureProbe (passes_renderProbe htell) r v

theorem passes_paint (r : Renderer) (child : Option NodeId) : (passes i).does (tellPaint tell r child) :=
  does_tellPaint passes_stroke passes_measureProbe (passes_renderProbe htell) (fun s => .refl s) r child

/-! ### Repainting -/

/-- **A display that was disposed of starts no paint**, and others paint without touching it. -/
theorem passes_drainRounds (j : DisplayId) (rounds : Nat) (s : Scene) :
    Passes i s (tellDrainRounds tell j rounds s).2 (tellDrainRounds tell j rounds s).1 := by
  by_cases hj : j = i
  · subst hj
    refine ⟨?_, fun d hd hretired => ?_⟩
    · apply tellDrainRounds_along (R := fun s _ s' => s.terminal.Hides s'.terminal)
      · exact fun s => .refl _
      · exact .trans
      · exact fun s repaint => .refl _
      · exact fun r child s => (passes_paint htell r child s).hides
      · exact fun s => .refl _
    · cases rounds with
      | zero => exact ⟨hretired, Story.rests_nil j⟩
      | succ rounds =>
        unfold tellDrainRounds
        cases hthere : s.displays[j]? with
        | none => exact ⟨hretired, Story.rests_nil j⟩
        | some d' =>
          simp only [hretired.start? hd hthere]
          exact ⟨hretired, Story.rests_nil j⟩
  · apply tellDrainRounds_along (R := Passes i) .refl .trans
    · exact fun s repaint => .modify_other hj s _ .start
    · exact passes_paint htell
    · exact fun s => .modify_other hj s _ .finish

theorem passes_request (j : DisplayId) (s : Scene) :
    Passes i s (tellRequest tell j s).2 (tellRequest tell j s).1 := by
  have hasked : Story.Rests i [(j, .update)] := Story.rests_asked rfl j
  unfold tellRequest
  cases hthere : s.displays[j]? with
  | none => exact .refl s
  | some d' =>
    cases hrequest : d'.repaint.request? with
    | none =>
      simp only [hrequest]
      exact .of_same (.refl _) rfl hasked
    | some repaint =>
      simp only [hrequest]
      have hset : Passes i s [(j, .update)] (s.setRepaint j repaint) := by
        refine ⟨.refl _, fun d hd hretired => ⟨?_, hasked⟩⟩
        by_cases hj : j = i
        · subst hj
          rw [hretired.request? hd hthere] at hrequest
          cases hrequest
        · exact hretired.modify_other hj _
      cases d'.queue with
      | some q =>
        have hqueue : Passes i (s.setRepaint j repaint) []
            ((s.setRepaint j repaint).modifyQueue q (· ++ [j])) := .of_unseen ⟨rfl, rfl⟩
        exact hset.trans hqueue
      | none => exact hset.trans (passes_drainRounds htell j _ _)

theorem passes_deliver (l : Listener) (s : Scene) :
    Passes i s (tellDeliver tell l s).2 (tellDeliver tell l s).1 := by
  cases l with
  | forward n => exact htell n s
  | watch counter => exact .of_unseen ⟨rfl, rfl⟩
  | display j => exact passes_request htell j s

end Tell

/-! ### Updates, demands and queues -/

theorem passes_raiseWithin (depth : Nat) (n : NodeId) (s : Scene) :
    Passes i s (tellRaiseWithin depth n s).2 (tellRaiseWithin depth n s).1 := by
  induction depth generalizing n s with
  | zero => exact .refl s
  | succ depth ih => exact tellEach_along (R := Passes i) .refl .trans (passes_deliver ih) _ s

theorem passes_drain (s : Scene) (j : DisplayId) : Passes i s (s.tellDrain j).2 (s.tellDrain j).1 :=
  passes_drainRounds (passes_raiseWithin _) j _ s

theorem passes_refresh (s : Scene) (j : DisplayId) :
    Passes i s (s.tellRefresh j).2 (s.tellRefresh j).1 := by
  have hdemand : Passes i s [(j, .demand)]
      (s.modifyDisplay j fun d => { d with repaint := d.repaint.demand }) :=
    ⟨.refl _, fun _ _ hretired => ⟨hretired.demand, Story.rests_asked rfl j⟩⟩
  exact hdemand.trans (passes_drain _ j)

theorem passes_runNext (s : Scene) (q : QueueId) :
    Passes i s (s.tellRunNext q).1.2 (s.tellRunNext q).1.1 := by
  unfold tellRunNext
  cases (s.queues[q]?).getD [] with
  | nil => exact .refl s
  | cons j rest =>
    have htaken : Passes i s [] (s.modifyQueue q fun _ => rest) := .of_unseen ⟨rfl, rfl⟩
    exact htaken.trans (passes_drain _ j)

theorem passes_runRounds (q : QueueId) (rounds : Nat) (s : Scene) :
    Passes i s (tellRunRounds q rounds s).2 (tellRunRounds q rounds s).1 := by
  induction rounds generalizing s with
  | zero => exact .refl s
  | succ rounds ih =>
    have hnext : Passes i s (s.tellRunNext q).1.2 (s.tellRunNext q).1.1 := passes_runNext s q
    unfold tellRunRounds
    generalize s.tellRunNext q = next at hnext
    obtain ⟨t, ran⟩ := next
    cases ran with
    | false => exact hnext
    | true => exact hnext.trans (ih t.1)

/-! ### Deeds -/

theorem passes_change (h : s.Tied) {c : Change} (hc : c.Valid s) :
    Passes i s (s.tellChange c).2 (s.tellChange c).1 := by
  unfold tellChange
  cases staged h hc with
  | quiet hnone unseen =>
    rw [hnone]
    exact .of_unseen unseen
  | @raised s₁ n hsome unseen made =>
    rw [hsome]
    have hmade : Passes i s [] s₁ := .of_unseen unseen
    have hraised : Passes i s (s₁.tellRaise n).2 (s₁.tellRaise n).1 :=
      hmade.trans (passes_raiseWithin _ n s₁)
    cases c.releases with
    | false => exact hraised
    | true =>
      have hswept : Passes i (s₁.tellRaise n).1 [] (s₁.tellRaise n).1.sweep :=
        .of_unseen (swept_sweep _).unseen
      have hboth := hraised.trans hswept
      rwa [List.append_nil] at hboth

theorem unseen_attach (s : Scene) (j : DisplayId) (child : Option NodeId) :
    Unseen s (s.attach j child).1 := by
  cases child <;> exact ⟨rfl, rfl⟩

theorem unseen_leaveAll (s : Scene) (slots : List Slot) : Unseen s (s.leaveAll slots).sweep :=
  (edits_leaveAll s slots).unseen.trans (swept_sweep _).unseen

/-- A display that was disposed of takes no other child. -/
theorem passes_setDisplayChild (s : Scene) (j : DisplayId) (child : Option NodeId) :
    Passes i s [] (s.setDisplayChild j child) := by
  rcases setDisplayChild_cases s j child with ⟨_, heq⟩ | ⟨d', hd', hlive, heq⟩
  · rw [heq]
    exact .refl s
  · rw [heq]
    have hattached : Passes i s [] (s.attach j child).1 := .of_unseen (unseen_attach s j child)
    let shown := (s.attach j child).1.modifyDisplay j fun display =>
      { display with child := (s.attach j child).2 }
    have hshown : Passes i (s.attach j child).1 [] shown := by
      refine ⟨.refl _, fun d hd hretired => ⟨?_, Story.rests_nil i⟩⟩
      by_cases hj : j = i
      · subst hj
        obtain ⟨requested, hsame⟩ := hretired
        rw [(unseen_attach s j child).displays, hd'] at hsame
        rw [Option.some.inj hsame] at hlive
        exact absurd (hd.symm.trans hlive) nofun
      · exact hretired.modify_other hj _
    exact (hattached.trans hshown).trans (.of_unseen (unseen_leaveAll shown d'.child.toList))

theorem passes_createDisplay (s : Scene) (renderer : Renderer) (queue : Option QueueId)
    (hideCursor : Bool) : Passes i s [] (s.createDisplay renderer queue hideCursor).1 := by
  have hhidden : Passes i s [] (if hideCursor then s.attempt .hideCursor else s) := by
    cases hideCursor with
    | false => exact .refl s
    | true => exact .of_same (.of_call (by simp) _) rfl (Story.rests_nil i)
  refine hhidden.trans ⟨.refl _, fun d hd hretired => ⟨?_, Story.rests_nil i⟩⟩
  obtain ⟨requested, hthere⟩ := hretired
  have hlt := (Array.getElem?_eq_some_iff.mp hthere).1
  exact ⟨requested, (Array.getElem?_push_lt hlt).trans
    (congrArg some (Array.getElem?_eq_some_iff.mp hthere).2)⟩

/-- Disposing of a display that is there yet tries to show the cursor once and touches no other display. -/
theorem dispose_live (hd : s.displays[j]? = some d) (hlive : d.repaint.disposed = false) :
    (s.dispose j).terminal = s.terminal.tryAll [.showCursor] ∧
      ∀ i, (s.dispose j).displays[i]? =
        if j = i then some { d with child := none, repaint := d.repaint.dispose } else s.displays[i]? := by
  rcases dispose_cases s j with ⟨hnone, _⟩ | ⟨d', hd', _, heq⟩
  · exact absurd ((hnone d hd).symm.trans hlive) nofun
  · obtain rfl := Option.some.inj (hd.symm.trans hd')
    rw [heq]
    have hleft := unseen_leaveAll (s.modifyDisplay j fun display =>
      { display with child := none, repaint := display.repaint.dispose }) d.child.toList
    refine ⟨congrArg (fun t => (Terminal.call .showCursor t).2) hleft.terminal, fun i => ?_⟩
    show (sweep _).displays[i]? = _
    rw [hleft.displays, getElem?_modifyDisplay]
    split
    · next hi =>
      rw [← hi, hd]
      rfl
    · rfl

theorem isLive_iff : s.isLive i = true ↔ ∃ d, s.displays[i]? = some d ∧ d.repaint.disposed = false := by
  simp [isLive, Option.any_eq_true]

/-- **A deed that restores no cursor passes by** a display that was disposed of. -/
theorem passes_deed (h : s.Tied) {deed : Deed} (hdeed : deed.Possible s)
    (hnone : deed.restores? s = none) : Passes i s (s.tellDeed deed).2 (s.tellDeed deed).1 := by
  cases deed with
  | change c => exact passes_change h hdeed
  | probe p => exact .of_unseen ⟨rfl, rfl⟩
  | notify n => exact passes_raiseWithin _ n s
  | queue => exact .of_unseen ⟨rfl, rfl⟩
  | screen renderer queue hideCursor => exact passes_createDisplay s renderer queue hideCursor
  | display j child => exact passes_setDisplayChild s j child
  | refresh j => exact passes_refresh s j
  | runNext q => exact passes_runNext s q
  | runPending q => exact passes_runRounds q _ s
  | render renderer n region => exact passes_treeBox (passes_raiseWithin _) renderer (s.tree n) region s
  | dispose j =>
    show Passes i s [] (s.dispose j)
    rcases dispose_cases s j with ⟨_, heq⟩ | ⟨d, hd, hlive, _⟩
    · rw [heq]
      exact .refl s
    · rw [Deed.restores?, if_pos (isLive_iff.mpr ⟨d, hd, hlive⟩)] at hnone
      cases hnone
  | unwatch n id => exact .of_unseen ⟨rfl, rfl⟩
  | bind n =>
    refine .of_unseen ?_
    show Unseen s (s.bindFeed n).1
    unfold bindFeed
    dsimp only
    split <;> exact ⟨rfl, rfl⟩
  | feed feed span =>
    simp only [tellDeed]
    cases s.fedBy? feed with
    | none => exact .refl s
    | some n => exact passes_change h (c := .setSpan n span) trivial
  | late j => exact passes_request (passes_raiseWithin _) j s

/-- The one deed that restores a cursor is to dispose of the display. -/
theorem restores?_eq_some {deed : Deed} (h : deed.restores? s = some j) :
    deed = .dispose j ∧ ∃ d, s.displays[j]? = some d ∧ d.repaint.disposed = false := by
  unfold Deed.restores? at h
  split at h
  · next j' =>
    split at h
    · next hlive =>
      cases h
      exact ⟨rfl, isLive_iff.mp hlive⟩
    · cases h
  · cases h

theorem tries_deed (h : s.Tied) {deed : Deed} (hdeed : deed.Possible s) : s.Tries deed := by
  unfold Tries
  cases hrestores : deed.restores? s with
  | none =>
    have hpasses := passes_deed (i := 0) h hdeed hrestores
    rw [fst_tellDeed h hdeed] at hpasses
    exact hpasses.hides
  | some j =>
    obtain ⟨rfl, d, hd, hlive⟩ := restores?_eq_some hrestores
    exact (dispose_live hd hlive).1

/-- **A deed leaves a display that was disposed of as it is.** -/
theorem retired_deed (h : s.Tied) {deed : Deed} (hdeed : deed.Possible s) (hd : d.repaint.disposed = true)
    (hretired : Retired i d s) :
    Retired i d (s.deed deed) ∧ Story.Rests i (s.tellDeed deed).2 := by
  cases hrestores : deed.restores? s with
  | none =>
    have hpasses := (passes_deed h hdeed hrestores).retired d hd hretired
    rwa [fst_tellDeed h hdeed] at hpasses
  | some j =>
    obtain ⟨rfl, d', hd', hlive⟩ := restores?_eq_some hrestores
    have hj : j ≠ i := by
      rintro rfl
      obtain ⟨requested, hsame⟩ := hretired
      rw [Option.some.inj (hd'.symm.trans hsame)] at hlive
      exact absurd (hd.symm.trans hlive) nofun
    refine ⟨hretired.congr ?_, Story.rests_nil i⟩
    show (s.dispose j).displays[i]? = _
    rw [(dispose_live hd' hlive).2, if_neg hj]

theorem retired_deeds (ds : List Deed) (h : s.Tied) (hds : s.Allows ds)
    (hd : d.repaint.disposed = true) (hretired : Retired i d s) :
    Retired i d (s.deeds ds) ∧ Story.Rests i (s.tellDeeds ds).2 := by
  induction ds generalizing s with
  | nil => exact ⟨hretired, Story.rests_nil i⟩
  | cons deed rest ih =>
    obtain ⟨hdeed, hrest⟩ := hds
    obtain ⟨hretired', hrests⟩ := retired_deed h hdeed hd hretired
    obtain ⟨hretired'', hrests'⟩ := ih (h.deed hdeed) hrest hretired'
    refine ⟨hretired'', hrests.append ?_⟩
    rw [fst_tellDeed h hdeed]
    exact hrests'

/-! ### Who was disposed of -/

theorem isDisposed_of_displays (h : s'.displays = s.displays) (i : DisplayId) :
    s'.isDisposed i = s.isDisposed i := by rw [isDisposed, isDisposed, h]

theorem isDisposed_still (h : Still s s') (i : DisplayId) : s'.isDisposed i = s.isDisposed i := by
  unfold isDisposed
  cases hd : s.displays[i]? with
  | none =>
    have hsize : s'.displays.size ≤ i := h.displays ▸ Array.getElem?_eq_none_iff.mp hd
    rw [Array.getElem?_eq_none hsize]
  | some d =>
    obtain ⟨repaint, hsame, hd'⟩ := h.display i d hd
    rw [hd']
    exact hsame

theorem Changes.isDisposed {raised : Option NodeId} (h : Changes s raised s') (i : DisplayId) :
    s'.isDisposed i = s.isDisposed i := by
  cases h with
  | quiet edits _ swept => exact isDisposed_of_displays (swept.displays.trans edits.displays) i
  | @raised n s₁ s₂ edits _ swept =>
    exact (isDisposed_still (still_raise s₂ n) i).trans
      (isDisposed_of_displays (swept.displays.trans edits.displays) i)
  | @released n s₁ edits _ _ =>
    exact (isDisposed_of_displays (swept_sweep _).displays i).trans
      ((isDisposed_still (still_raise s₁ n) i).trans (isDisposed_of_displays edits.displays i))

theorem isDisposed_change (h : s.Tied) {c : Change} (hc : c.Valid s) (i : DisplayId) :
    (s.change c).isDisposed i = s.isDisposed i := (change_spec h.linked h.fit c hc).isDisposed i

theorem isDisposed_setDisplayChild (s : Scene) (j : DisplayId) (child : Option NodeId) (i : DisplayId) :
    (s.setDisplayChild j child).isDisposed i = s.isDisposed i := by
  rcases setDisplayChild_cases s j child with ⟨_, heq⟩ | ⟨d, _, _, heq⟩
  · rw [heq]
  · rw [heq, isDisposed_of_displays (unseen_leaveAll _ _).displays,
      ← isDisposed_of_displays (unseen_attach s j child).displays, isDisposed, getElem?_modifyDisplay]
    split
    · rw [Option.any_map]
      rfl
    · rfl

theorem isDisposed_createDisplay (s : Scene) (renderer : Renderer) (queue : Option QueueId)
    (hideCursor : Bool) (i : DisplayId) :
    (s.createDisplay renderer queue hideCursor).1.isDisposed i = s.isDisposed i := by
  rw [← isDisposed_still (still_hidden s hideCursor) i]
  unfold createDisplay isDisposed
  generalize (if hideCursor then s.attempt .hideCursor else s) = hidden
  rw [Array.getElem?_push]
  split
  · next hi => rw [hi, Array.getElem?_eq_none (Nat.le_refl _)]; rfl
  · rfl

theorem isDisposed_dispose (s : Scene) (j i : DisplayId) :
    (s.dispose j).isDisposed i =
      (s.isDisposed i || decide ((Deed.dispose j).restores? s = some i)) := by
  rcases dispose_cases s j with ⟨hdisposed, heq⟩ | ⟨d, hd, hlive, _⟩
  · have hnone : (Deed.dispose j).restores? s = none := by
      refine if_neg fun hlive => ?_
      obtain ⟨d, hd, hd'⟩ := isLive_iff.mp hlive
      exact absurd ((hdisposed d hd).symm.trans hd') nofun
    rw [heq, hnone]
    exact (Bool.or_false _).symm
  · rw [Deed.restores?, if_pos (isLive_iff.mpr ⟨d, hd, hlive⟩), isDisposed, (dispose_live hd hlive).2]
    by_cases hj : j = i
    · subst hj
      simp [Repaint.dispose]
    · simp [hj, isDisposed]

/-- **A display has been disposed of once its cursor was restored**, and is so by nothing else. -/
theorem isDisposed_deed (h : s.Tied) {deed : Deed} (hdeed : deed.Possible s) (i : DisplayId) :
    (s.deed deed).isDisposed i = (s.isDisposed i || decide (deed.restores? s = some i)) := by
  have hother : ∀ d : Deed, d.restores? s = none → (s.deed d).isDisposed i = s.isDisposed i →
      (s.deed d).isDisposed i = (s.isDisposed i || decide (d.restores? s = some i)) := by
    intro d hnone hsame
    rw [hsame, hnone]
    exact (Bool.or_false _).symm
  cases deed with
  | change c => exact hother _ rfl (isDisposed_change h hdeed i)
  | probe p => exact hother _ rfl rfl
  | notify n => exact hother _ rfl (isDisposed_still (still_raise s n) i)
  | queue => exact hother _ rfl rfl
  | screen renderer queue hideCursor =>
    exact hother _ rfl (isDisposed_createDisplay s renderer queue hideCursor i)
  | display j child => exact hother _ rfl (isDisposed_setDisplayChild s j child i)
  | refresh j => exact hother _ rfl (isDisposed_still (still_refresh s j) i)
  | runNext q => exact hother _ rfl (isDisposed_still (still_runNext s q) i)
  | runPending q => exact hother _ rfl (isDisposed_still (still_runPending s q) i)
  | render renderer n region => exact hother _ rfl (isDisposed_still (still_nodeBox s renderer n region) i)
  | dispose j => exact isDisposed_dispose s j i
  | unwatch n id => exact hother _ rfl rfl
  | bind n =>
    refine hother _ rfl ?_
    show (s.bindFeed n).1.isDisposed i = _
    unfold bindFeed
    dsimp only
    split <;> rfl
  | feed feed span =>
    refine hother _ rfl ?_
    show (s.feed feed span).1.isDisposed i = _
    rw [feed_eq]
    cases s.fedBy? feed with
    | none => rfl
    | some n => exact isDisposed_change h (c := .setSpan n span) trivial i
  | late j => exact hother _ rfl (isDisposed_still (still_requestRepaint (still_raiseWithin _) j s) i)

/-- **Each display has its cursor restored once**, if it is disposed of, and else not at all. -/
theorem count_restorations (ds : List Deed) (h : s.Tied) (hds : s.Allows ds) (i : DisplayId) :
    (s.restorations ds).count i + (s.isDisposed i).toNat = ((s.deeds ds).isDisposed i).toNat := by
  induction ds generalizing s with
  | nil => exact Nat.zero_add _
  | cons deed rest ih =>
    obtain ⟨hdeed, hrest⟩ := hds
    have hlater := ih (h.deed hdeed) hrest
    have hlive : deed.restores? s = some i → s.isDisposed i = false := by
      intro hrestores
      obtain ⟨_, d, hd, hd'⟩ := restores?_eq_some hrestores
      rw [isDisposed, hd]
      exact hd'
    rw [isDisposed_deed h hdeed] at hlater
    show ((deed.restores? s).toList ++ _).count i + _ = (((s.deed deed).deeds rest).isDisposed i).toNat
    rw [List.count_append, ← hlater]
    cases hrestores : deed.restores? s with
    | none => simp
    | some j =>
      by_cases hj : j = i
      · subst hj
        rw [hlive hrestores]
        simp [Nat.add_comm]
      · simp [hj]

theorem triesAll_deeds (ds : List Deed) (h : s.Tied) (hds : s.Allows ds) : s.TriesAll ds := by
  induction ds generalizing s with
  | nil => trivial
  | cons deed rest ih => exact ⟨tries_deed h hds.1, ih (h.deed hds.1) hds.2⟩

/-- Whoever disposes of a display leaves it disposed of, childless and with as many paints as it had. -/
theorem disposed_of_dispose (h : s.Tied) (hd : s.displays[i]? = some d) :
    ∃ d', d'.repaint.disposed = true ∧ d'.repaint.count = d.repaint.count ∧ d'.child = none ∧
      (s.dispose i).displays[i]? = some d' := by
  rcases dispose_cases s i with ⟨hdisposed, heq⟩ | ⟨d', hd', hlive, _⟩
  · rw [heq]
    exact ⟨d, hdisposed d hd, rfl, h.rests i d hd (hdisposed d hd), hd⟩
  · refine ⟨{ d' with child := none, repaint := d'.repaint.dispose }, rfl, ?_, rfl, ?_⟩
    · rw [Option.some.inj (hd.symm.trans hd')]
      rfl
    · rw [(dispose_live hd' hlive).2, if_pos rfl]

end

/-- **What was disposed of is done with.** After a display was disposed of, whatever else is done, it
starts no paint, the paints it finished stay as many as they were, it shows nothing and listens to nothing.
Of all that is done before and after there is one deed that restores its cursor, and nothing tries to show a
cursor but those that restore one, each once. -/
theorem dispose_retires (t : Terminal) (ms ms' : List Move) (i : DisplayId)
    (hms : (bare t).Allows ((bare t).run (ms ++ .deed (.dispose i) :: ms')))
    (hi : i < ((bare t).moves ms).displays.size) :
    let s := (bare t).moves ms
    let told := (s.dispose i).tellMoves ms'
    let deeds := (bare t).run (ms ++ .deed (.dispose i) :: ms')
    told.1 = (bare t).moves (ms ++ .deed (.dispose i) :: ms') ∧ Story.Rests i told.2 ∧
      (∃ d d', s.displays[i]? = some d ∧ told.1.displays[i]? = some d' ∧
        d'.repaint.disposed = true ∧ d'.repaint.count = d.repaint.count ∧ d'.child = none) ∧
      (∀ n, told.1.listening (.display i) n = 0) ∧ ((bare t).restorations deeds).count i = 1 ∧
      (bare t).TriesAll deeds := by
  intro s told deeds
  have htries : (bare t).TriesAll deeds := triesAll_deeds _ (tied_bare t) hms
  have hcounted := count_restorations deeds (tied_bare t) hms i
  have hbefore : (bare t).Allows ((bare t).run ms) := by
    rw [run_append] at hms
    exact (allows_append.mp hms).1
  have hafter : (s.dispose i).Allows ((s.dispose i).run ms') := by
    rw [run_append, allows_append, ← moves_eq_deeds] at hms
    exact hms.2.2
  have htied : s.Tied := tied_moves hbefore
  have hdisposed : (s.dispose i).Tied := htied.dispose i
  have htold : told.1 = (s.dispose i).moves ms' := fst_tellMoves hdisposed hafter
  have hrun : told.1 = (bare t).moves (ms ++ .deed (.dispose i) :: ms') := by
    rw [moves_append, htold]
    rfl
  have hd : s.displays[i]? = some s.displays[i] := Array.getElem?_eq_getElem hi
  obtain ⟨d, hgone, hcount, hchild, hthere⟩ := disposed_of_dispose htied hd
  obtain ⟨⟨requested, hlater⟩, hrests⟩ := retired_deeds _ hdisposed hafter hgone ⟨_, hthere⟩
  rw [← moves_eq_deeds, ← htold] at hlater
  refine ⟨hrun, hrests, ⟨_, _, hd, hlater, hgone, hcount, hchild⟩, fun n => ?_, ?_, htries⟩
  · have hlinked : told.1.Linked nothing := by
      rw [htold, moves_eq_deeds]
      exact (hdisposed.deeds _ hafter).linked
    rw [listening_eq hlinked rfl, places, hlater]
    simp [hchild]
  · rw [← moves_eq_deeds, ← hrun, isDisposed, isDisposed, hlater] at hcounted
    simpa [hgone, bare] using hcounted

/-- A display repaints once from its queue, and one more repaint waits there. -/
def shownMoves : List Move :=
  [.deed .queue, .deed (.screen { mode := .ansi } (some 0) true),
    .deed (.change (.content (.ofText "a"))), .deed (.display 0 (some 0)),
    .deed (.change (.setSpan 0 (.ofText "b"))), .deed (.runPending 0),
    .deed (.change (.setSpan 0 (.ofText "c")))]

/-- The repaint that waits, demands, updates, a child and disposal come when it is too late. -/
def lateMoves : List Move :=
  [.deed (.late 0), .deed (.change (.setSpan 0 (.ofText "d"))), .deed (.runPending 0),
    .deed (.refresh 0), .deed (.display 0 (some 0)), .deed (.notify 0), .deed (.dispose 0)]

/-- The display keeps the one paint that it had, though a repaint and an update are still to come. -/
theorem dispose_retires_late :
    let s := (bare { size := ⟨4, 2⟩ }).moves shownMoves
    let told := (s.dispose 0).tellMoves lateMoves
    let deeds := (bare { size := ⟨4, 2⟩ }).run (shownMoves ++ .deed (.dispose 0) :: lateMoves)
    0 < s.displays.size ∧ s.pending 0 = 1 ∧ told.2 = [(0, .update), (0, .demand)] ∧
      Story.Rests 0 told.2 ∧ (∃ d, told.1.displays[0]? = some d ∧ d.repaint.count = 1 ∧ d.child = none) ∧
      told.1.listening (.display 0) 0 = 0 ∧
      ((bare { size := ⟨4, 2⟩ }).restorations deeds).count 0 = 1 ∧
      (bare { size := ⟨4, 2⟩ }).TriesAll deeds := by
  intro s told deeds
  have hi : 0 < s.displays.size := by decide +kernel
  obtain ⟨_, hrests, ⟨d, d', hd, hd', _, hcount, hchild⟩, hlistening, honce, htries⟩ :=
    dispose_retires { size := ⟨4, 2⟩ } shownMoves lateMoves 0 (by decide +kernel) hi
  have hpainted : (s.displays[0]?).map (·.repaint.count) = some 1 := by decide +kernel
  rw [hd] at hpainted
  exact ⟨hi, by decide +kernel, by decide +kernel, hrests,
    ⟨d', hd', hcount.trans (Option.some.inj hpainted), hchild⟩, hlistening 0, honce, htries⟩

end Scene

end TextPane
