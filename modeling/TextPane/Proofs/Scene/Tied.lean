import TextPane.Proofs.Scene.Acts
import TextPane.Proofs.Scene.Still

/-! What ties views, displays and their subscriptions together.

In a scene that is tied together every place that holds a view has the subscription it needs and there
is no other, bodies fit, and a display that was disposed of shows nothing. Updates and sweeps keep a
scene so, whatever they set off, and so does everything that is done to views and displays
(`Tied.change`, `Tied.setDisplayChild`, `Tied.dispose`). Nothing is asked of the views that are taken up
but that they are there. -/
namespace TextPane.Scene

/-- A display that was disposed of shows nothing. -/
def Rests (s : Scene) : Prop :=
  ∀ (i : DisplayId) (d : Display), s.displays[i]? = some d → d.repaint.disposed = true → d.child = none

/-- Subscriptions are those of the places, bodies fit, and what was disposed of shows nothing. -/
structure Tied (s : Scene) : Prop where
  linked : s.Linked nothing
  fit : s.Fit
  rests : s.Rests

section
variable {s s' : Scene}

/-! ### Updates and sweeps -/

theorem Fit.congr (h : s.Fit) (hnodes : s'.nodes = s.nodes) : s'.Fit := fun n => by
  rw [body_of_nodes hnodes, hnodes]
  exact h n

theorem Rests.congr (h : s.Rests) (hdisplays : s'.displays = s.displays) : s'.Rests := by
  rw [Rests, hdisplays]
  exact h

theorem Tied.still (h : s.Tied) (hstill : Still s s') : s'.Tied := by
  refine ⟨hstill.linked h.linked, fun n => ?_, fun i d' hd' hdisposed => ?_⟩
  · rcases hstill.body n with heq | ⟨p, p', hp, hp'⟩
    · rw [heq, hstill.size]
      exact h.fit n
    · rw [hp']
      trivial
  · have hi : i < s.displays.size := by
      rw [← hstill.displays]
      exact (Array.getElem?_eq_some_iff.mp hd').1
    obtain ⟨repaint, hsame, hd⟩ := hstill.display i _ (Array.getElem?_eq_getElem hi)
    obtain rfl := Option.some.inj (hd.symm.trans hd')
    exact h.rests i s.displays[i] (Array.getElem?_eq_getElem hi) (hsame ▸ hdisposed)

theorem Tied.swept (h : s.Tied) (hswept : Swept s s') : s'.Tied := by
  refine ⟨hswept.linked nothing h.linked, fun n => ?_, h.rests.congr hswept.displays⟩
  rcases hswept.body n with heq | hgone
  · rw [heq, hswept.size]
    exact h.fit n
  · rw [hgone]
    trivial

/-! ### Changes of nodes -/

theorem Tied.edited (h : s.Tied) {only : Option NodeId} (hedits : Edits only s s')
    (hlinked : s'.Linked nothing) : s'.Tied :=
  ⟨hlinked, hedits.fit_all h.fit, h.rests.congr hedits.displays⟩

theorem Tied.changes (h : s.Tied) {raised : Option NodeId} (hchanges : Changes s raised s') :
    s'.Tied := by
  cases hchanges with
  | quiet edits linked swept => exact (h.edited edits linked).swept swept
  | @raised n s₁ s₂ edits linked swept => exact ((h.edited edits linked).swept swept).still (still_raise s₂ n)
  | @released n s₁ edits linked fewer =>
    exact ((h.edited edits linked).still (still_raise s₁ n)).swept (swept_sweep _)

theorem Tied.change (h : s.Tied) {c : Change} (hc : c.Valid s) : (s.change c).Tied :=
  h.changes (change_spec h.linked h.fit c hc)

/-! ### Probes and displays -/

theorem Tied.createProbe (h : s.Tied) (p : Probe) : (s.create (.probe p)).1.Tied := by
  have hlinked : (s.create (.probe p)).1.Linked nothing := (h.linked.addNode rfl).congr rfl fun _ => rfl
  have hfit : (s.addNode (.probe p)).1.Fit := fun n => by
    rw [body_addNode, size_addNode]
    split
    · trivial
    · exact (h.fit n).mono (Nat.le_succ _)
  exact ⟨hlinked, hfit.congr rfl, h.rests.congr rfl⟩

/-- The scene in which a display is added, with its cursor hidden if it is to be. -/
theorem still_hidden (s : Scene) (hideCursor : Bool) :
    Still s (if hideCursor then s.attempt .hideCursor else s) := by
  split
  · exact still_attempt s _
  · exact .refl s

/-- A display that is added shows nothing. -/
theorem Tied.createDisplay (h : s.Tied) (renderer : Renderer) (queue : Option QueueId)
    (hideCursor : Bool) : (s.createDisplay renderer queue hideCursor).1.Tied := by
  have htied := h.still (still_hidden s hideCursor)
  unfold Scene.createDisplay
  generalize (if hideCursor then s.attempt .hideCursor else s) = hidden at htied
  refine ⟨htied.linked.congr rfl fun i => ?_, htied.fit.congr rfl, fun i d hd hdisposed => ?_⟩
  · have hempty : ((hidden.displays.push { renderer, queue })[i]?).bind (·.child) =
        (hidden.displays[i]?).bind (·.child) := by
      rw [Array.getElem?_push]
      split
      · next hi => rw [hi, Array.getElem?_eq_none (Nat.le_refl _)]; rfl
      · rfl
    exact congrArg Option.toList hempty
  · rw [Array.getElem?_push] at hd
    split at hd
    · rw [← Option.some.inj hd]
    · exact htied.rests i d hd hdisposed

section Showing
variable {i : DisplayId} {display : Display} {f : Display → Display}

theorem getElem?_modifyDisplay (s : Scene) (i : DisplayId) (f : Display → Display) (j : DisplayId) :
    (s.modifyDisplay i f).displays[j]? =
      if i = j then (s.displays[j]?).map f else s.displays[j]? := by
  rw [modifyDisplay, Array.getElem?_modify]

theorem Rests.modifyDisplay (h : s.Rests) (hdisplay : s.displays[i]? = some display)
    (hf : (f display).repaint.disposed = true → (f display).child = none) :
    (s.modifyDisplay i f).Rests := by
  intro j d hd hdisposed
  rw [getElem?_modifyDisplay] at hd
  split at hd
  · next hij =>
    subst hij
    rw [hdisplay] at hd
    obtain rfl := Option.some.inj hd
    exact hf hdisposed
  · exact h j d hd hdisposed

/-- A display changes and leaves the child it had. -/
theorem Tied.reshow (h : s.Tied) (f : Display → Display) {child : Option NodeId}
    (hlt : ∀ k ∈ child.toList, k < s.nodes.size) (hdisplay : s.displays[i]? = some display)
    (hchild : (f display).child = (s.attach i child).2)
    (hrests : (f display).repaint.disposed = true → (f display).child = none) :
    (((s.attach i child).1.modifyDisplay i f).leaveAll display.child.toList).sweep.Tied := by
  obtain ⟨_, hedits, hlinked⟩ := attach_spec h.linked i fun n hn => hlt n (Option.mem_toList.mpr hn)
  generalize s.attach i child = attached at hedits hlinked hchild
  obtain ⟨s₁, slot⟩ := attached
  have hdisplay₁ : s₁.displays[i]? = some display := by rwa [hedits.displays]
  let shown := s₁.modifyDisplay i f
  have hleft := edits_leaveAll shown display.child.toList
  have hmodified : shown.Rests := (h.rests.congr hedits.displays).modifyDisplay hdisplay₁ hrests
  have htied : (shown.leaveAll display.child.toList).Tied :=
    ⟨Linked.leaveAll_last rfl (hlinked.showSlot f hdisplay₁ hchild),
      hleft.fit_all ((hedits.fit_all h.fit).congr rfl), hmodified.congr hleft.displays⟩
  exact htied.swept (swept_sweep _)

end Showing

/-- A display that is not there or was disposed of is left alone. -/
theorem setDisplayChild_cases (s : Scene) (i : DisplayId) (child : Option NodeId) :
    ((∀ d, s.displays[i]? = some d → d.repaint.disposed = true) ∧ s.setDisplayChild i child = s) ∨
      ∃ d, s.displays[i]? = some d ∧ d.repaint.disposed = false ∧
        s.setDisplayChild i child = (((s.attach i child).1.modifyDisplay i fun display =>
          { display with child := (s.attach i child).2 }).leaveAll d.child.toList).sweep := by
  unfold setDisplayChild
  cases hdisplay : s.displays[i]? with
  | none => exact .inl ⟨fun _ hd => (Option.some_ne_none _ hd.symm).elim, rfl⟩
  | some d =>
    cases hlive : d.repaint.disposed with
    | true =>
      refine .inl ⟨fun d' hd' => Option.some.inj hd' ▸ hlive, ?_⟩
      simp only [hlive, if_true]
    | false =>
      simp only [hlive, Bool.false_eq_true, if_false, detach_eq]
      exact .inr ⟨d, rfl, hlive, rfl⟩

theorem dispose_cases (s : Scene) (i : DisplayId) :
    ((∀ d, s.displays[i]? = some d → d.repaint.disposed = true) ∧ s.dispose i = s) ∨
      ∃ d, s.displays[i]? = some d ∧ d.repaint.disposed = false ∧
        s.dispose i = (((s.modifyDisplay i fun display =>
          { display with child := none, repaint := display.repaint.dispose }).leaveAll
            d.child.toList).sweep.attempt .showCursor) := by
  unfold dispose
  cases hdisplay : s.displays[i]? with
  | none => exact .inl ⟨fun _ hd => (Option.some_ne_none _ hd.symm).elim, rfl⟩
  | some d =>
    cases hlive : d.repaint.disposed with
    | true =>
      refine .inl ⟨fun d' hd' => Option.some.inj hd' ▸ hlive, ?_⟩
      simp only [hlive, if_true]
    | false =>
      simp only [hlive, Bool.false_eq_true, if_false, detach_eq]
      exact .inr ⟨d, rfl, hlive, rfl⟩

theorem Tied.setDisplayChild (h : s.Tied) (i : DisplayId) {child : Option NodeId}
    (hlt : ∀ k ∈ child.toList, k < s.nodes.size) : (s.setDisplayChild i child).Tied := by
  rcases setDisplayChild_cases s i child with ⟨_, heq⟩ | ⟨d, hd, hlive, heq⟩
  · rwa [heq]
  · rw [heq]
    refine h.reshow (fun display => { display with child := (s.attach i child).2 }) hlt hd rfl
      fun hdisposed => ?_
    rw [hlive] at hdisposed
    cases hdisposed

theorem Tied.dispose (h : s.Tied) (i : DisplayId) : (s.dispose i).Tied := by
  rcases dispose_cases s i with ⟨_, heq⟩ | ⟨d, hd, _, heq⟩
  · rwa [heq]
  · rw [heq]
    have hnone : ∀ k ∈ (none : Option NodeId).toList, k < s.nodes.size := fun _ hk => by cases hk
    have hshown := h.reshow
      (fun display => { display with child := none, repaint := display.repaint.dispose }) hnone hd rfl
      fun _ => rfl
    exact hshown.still (still_attempt _ .showCursor)

end

/-! ### The beginning -/

/-- A scene in which there is nothing yet. -/
def bare (t : Terminal) : Scene := { terminal := t }

theorem body_bare (t : Terminal) (n : NodeId) : (bare t).body n = .gone :=
  body_of_size_le (Nat.zero_le n)

theorem tied_bare (t : Terminal) : (bare t).Tied := by
  have hnotifier : ∀ n, ((bare t).notifier n).listeners = [] := fun n => by
    rw [notifier, node_of_size_le (Nat.zero_le n)]
  have hplaces : ∀ l, (bare t).places l = [] := by
    intro l
    cases l with
    | forward n =>
      rw [places, body_bare]
      rfl
    | display i => rfl
    | watch k => rfl
  refine ⟨⟨fun n x hx => ?_, fun n => ?_, fun l => ?_, fun l _ slot => ?_⟩, fun n => ?_, fun i d hd => ?_⟩
  · rw [hnotifier] at hx
    cases hx
  · rw [hnotifier]
    exact List.nodup_nil
  · rw [hplaces]
    exact List.nodup_nil
  · rw [hnotifier, hplaces]
    exact iff_of_false List.not_mem_nil List.not_mem_nil
  · rw [body_bare]
    trivial
  · cases hd

end TextPane.Scene
