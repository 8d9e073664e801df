import TextPane.Proofs.Scene.Tree
import TextPane.Scene.Display

/-! Letting nodes go changes nothing that is shown.

What a sweep releases is held by nothing, so it stands neither in a display nor in a node that does.
The nodes that a shown one contains are left as they are (`swept_sweep`), and the subscriptions that end
are those of the places that are given up. -/
namespace TextPane.Scene

/-- A display shows the node. -/
def Shows (s : Scene) (c : NodeId) : Prop :=
  ∃ (i : DisplayId) (display : Display) (slot : Slot),
    s.displays[i]? = some display ∧ display.child = some slot ∧ slot.node = c

/-- Some nodes are gone, but none that a shown one contains. -/
structure Swept (s s' : Scene) : Prop where
  terminal : s'.terminal = s.terminal
  displays : s'.displays = s.displays
  queues : s'.queues = s.queues
  held : s'.held = s.held
  size : s'.nodes.size = s.nodes.size
  linked : ∀ hand, s.Linked hand → s'.Linked hand
  body : ∀ m, s'.body m = s.body m ∨ s'.body m = .gone
  kept : ∀ c, s.Shows c → ∀ m, s.Contains c m → s'.body m = s.body m
  heard : ∀ m, ∀ x ∈ (s'.notifier m).listeners, x ∈ (s.notifier m).listeners

namespace Swept
variable {s s' s'' : Scene}

theorem refl (s : Scene) : Swept s s :=
  ⟨rfl, rfl, rfl, rfl, rfl, fun _ h => h, fun _ => .inl rfl, fun _ _ _ _ => rfl, fun _ _ hx => hx⟩

theorem shows (h : Swept s s') {c : NodeId} (hc : s.Shows c) : s'.Shows c := by
  rw [Shows, h.displays]
  exact hc

theorem trans (h : Swept s s') (h' : Swept s' s'') : Swept s s'' where
  terminal := h'.terminal.trans h.terminal
  displays := h'.displays.trans h.displays
  queues := h'.queues.trans h.queues
  held := h'.held.trans h.held
  size := h'.size.trans h.size
  linked hand hlinked := h'.linked hand (h.linked hand hlinked)
  body m := by
    rcases h'.body m with heq | hgone
    · rw [heq]
      exact h.body m
    · exact .inr hgone
  kept c hc m hm := by
    have hm' : s'.Contains c m := (contains_congr (h.kept c hc)).mpr hm
    rw [h'.kept c (h.shows hc) m hm', h.kept c hc m hm]
  heard m x hx := h.heard m x (h'.heard m x hx)

theorem sound (h : Swept s s') (hs : s.Sound) : s'.Sound := fun n => by
  rcases h.body n with heq | hgone
  · rw [heq, h.size]
    exact hs n
  · rw [hgone]
    trivial

end Swept

/-! ### Who is held -/

theorem setAll_getElem? (ns : List NodeId) (marks : Array Bool) {n : NodeId} (hn : n < marks.size) :
    (ns.foldl (fun marks n => marks.set! n true) marks)[n]? = some true ↔
      n ∈ ns ∨ marks[n]? = some true := by
  induction ns generalizing marks with
  | nil => simp
  | cons m rest ih =>
    rw [List.foldl_cons, ih _ (by simpa using hn), Array.set!_eq_setIfInBounds,
      Array.getElem?_setIfInBounds, List.mem_cons]
    by_cases hm : m = n
    · simp [hm, hn]
    · simp [hm, Ne.symm hm]

theorem isAlive_iff {s : Scene} {n : NodeId} : s.isAlive n = true ↔ s.body n ≠ .gone := by
  unfold isAlive
  cases s.body n <;> simp

/-- A sweep releases what lives and is held by nothing. -/
theorem mem_orphans {s : Scene} {n : NodeId} : n ∈ s.orphans ↔ s.body n ≠ .gone ∧ n ∉ s.owned := by
  rw [orphans, List.mem_filter, List.mem_range, Bool.and_eq_true, isAlive_iff]
  by_cases hn : n < s.nodes.size
  · have hsize : n < (Array.replicate s.nodes.size false).size := by rwa [Array.size_replicate]
    have hmark : s.marks[n]? = some true ↔ n ∈ s.owned := by
      rw [marks, setAll_getElem? _ _ hsize]
      simp [hn]
    have hfree : (!(s.marks[n]?).getD false) = true ↔ n ∉ s.owned := by
      rw [← hmark]
      rcases s.marks[n]? with _ | _ | _ <;> simp
    rw [hfree]
    exact and_iff_right hn
  · have hgone : s.body n = .gone := body_of_size_le (Nat.not_lt.mp hn)
    simp [hn, hgone]

theorem mem_keeps {b : Body} {slot : Slot} (h : slot ∈ b.slots) : slot.node ∈ b.keeps := by
  cases b with
  | table t =>
    rw [List.mem_singleton.mp h]
    exact List.mem_cons_self ..
  | stack orientation slots => exact List.mem_map_of_mem h
  | grid g => exact List.mem_map_of_mem h
  | _ => cases h

theorem mem_owned_of_keeps {s : Scene} {n m : NodeId} (h : m ∈ (s.body n).keeps) : m ∈ s.owned := by
  by_cases hn : n < s.nodes.size
  · have hnode : s.nodes[n] ∈ s.nodes.toList := Array.getElem_mem_toList hn
    have hbody : s.body n = (s.nodes[n]).body := by simp [body, node, hn]
    rw [hbody] at h
    exact List.mem_append_right _ (List.mem_flatMap.mpr ⟨_, hnode, h⟩)
  · rw [body_of_size_le (Nat.not_lt.mp hn)] at h
    cases h

/-- What a shown node contains is held. -/
theorem mem_owned_of_contains {s : Scene} {c m : NodeId} (hc : s.Shows c) (hm : s.Contains c m) :
    m ∈ s.owned := by
  cases hm with
  | refl =>
    obtain ⟨i, display, slot, hdisplay, hchild, rfl⟩ := hc
    have hmem : display ∈ s.displays.toList := by
      rw [← Array.getElem?_toList] at hdisplay
      exact List.mem_of_getElem? hdisplay
    refine List.mem_append_left _ (List.mem_append_right _ (List.mem_map.mpr ⟨slot, ?_, rfl⟩))
    exact List.mem_filterMap.mpr ⟨display, hmem, hchild⟩
  | tail _ hholds =>
    obtain ⟨slot, hslot, rfl⟩ := hholds
    exact mem_owned_of_keeps (mem_keeps hslot)

/-! ### Releasing -/

theorem body_leaveAll (s : Scene) (slots : List Slot) (m : NodeId) :
    (s.leaveAll slots).body m = s.body m := by
  induction slots generalizing s with
  | nil => rfl
  | cons slot rest ih => exact (ih _).trans (body_leave s slot m)

@[simp] theorem size_leaveAll (s : Scene) (slots : List Slot) :
    (s.leaveAll slots).nodes.size = s.nodes.size := by
  induction slots generalizing s with
  | nil => rfl
  | cons slot rest ih => exact (ih _).trans (size_leave s slot)

@[simp] theorem held_leaveAll (s : Scene) (slots : List Slot) :
    (s.leaveAll slots).held = s.held := by
  induction slots generalizing s with
  | nil => rfl
  | cons slot rest ih => exact ih (s.leave slot)

/-- A node that is released gives up its places and their subscriptions. -/
theorem heard_leaveAll (s : Scene) (slots : List Slot) (m : NodeId) {x : Nat × Listener}
    (hx : x ∈ ((s.leaveAll slots).notifier m).listeners) : x ∈ (s.notifier m).listeners := by
  induction slots generalizing s with
  | nil => exact hx
  | cons slot rest ih => exact ((Wired.mem_leave s slot m x).mp (ih _ hx)).1

theorem Linked.release {s : Scene} {hand : Listener → List Slot} (h : s.Linked hand) (n : NodeId) :
    (s.release n).Linked hand := by
  have hleft : (s.leaveAll (s.body n).slots).Wired
      (Function.update (fun l => hand l ++ s.places l) (.forward n) (hand (.forward n))) :=
    Wired.leaveAll h rfl List.perm_append_comm
  apply (hleft.congr (notifier_setBody _ n .gone)).perm
  intro l
  by_cases hl : l = .forward n
  · subst hl
    have hnone : (s.release n).places (.forward n) = [] := by
      rw [places, Scene.release, body_setBody]
      split
      · rfl
      · next hn =>
        have hsize : s.nodes.size ≤ n := by simpa using hn
        rw [body_leaveAll, body_of_size_le hsize]
        rfl
    rw [Function.update_self, hnone, List.append_nil]
  · have hplaces : (s.release n).places l = s.places l := by
      cases l with
      | forward m =>
        have hne : ¬(n = m ∧ m < (s.leaveAll (s.body n).slots).nodes.size) := fun h =>
          hl (congrArg Listener.forward h.1.symm)
        rw [places, places, Scene.release, body_setBody, if_neg hne, body_leaveAll]
      | display i =>
        rw [places, places]
        exact congrArg (fun displays : Array Display => (displays[i]?.bind (·.child)).toList)
          (edits_leaveAll s _).displays
      | watch k => rfl
    rw [Function.update_of_ne hl, hplaces]

theorem body_release (s : Scene) (n m : NodeId) :
    (s.release n).body m = if n = m ∧ m < s.nodes.size then .gone else s.body m := by
  rw [release, body_setBody, size_leaveAll, body_leaveAll]

theorem swept_release {s : Scene} {n : NodeId} (hn : ∀ c, s.Shows c → ¬s.Contains c n) :
    Swept s (s.release n) where
  terminal := (edits_leaveAll s _).terminal
  displays := (edits_leaveAll s _).displays
  queues := (edits_leaveAll s _).queues
  held := held_leaveAll s _
  size := (size_setBody ..).trans (size_leaveAll ..)
  linked _ h := h.release n
  body m := by
    rw [body_release]
    split
    · exact .inr rfl
    · exact .inl rfl
  kept c hc m hm := by
    rw [body_release, if_neg]
    rintro ⟨rfl, _⟩
    exact hn c hc hm
  heard m x hx := by
    rw [release, notifier_setBody] at hx
    exact heard_leaveAll s _ m hx

/-- Nodes are released one after the other. -/
theorem swept_releases {s : Scene} (ns : List NodeId)
    (hns : ∀ n ∈ ns, ∀ c, s.Shows c → ¬s.Contains c n) : Swept s (ns.foldl release s) := by
  induction ns generalizing s with
  | nil => exact .refl s
  | cons n rest ih =>
    have hn := swept_release (hns n (List.mem_cons_self ..))
    refine hn.trans (ih fun m hm c hc hcontains => ?_)
    have hc' : s.Shows c := by
      rw [Shows, ← hn.displays]
      exact hc
    have hbefore : s.Contains c m := (contains_congr (hn.kept c hc')).mp hcontains
    exact hns m (List.mem_cons_of_mem n hm) c hc' hbefore

theorem swept_orphans (s : Scene) : Swept s (s.orphans.foldl release s) :=
  swept_releases s.orphans fun _ hn _ hc hcontains =>
    (mem_orphans.mp hn).2 (mem_owned_of_contains hc hcontains)

/-- A sweep leaves everything that is shown as it is. -/
theorem swept_sweep (s : Scene) : Swept s s.sweep := by
  unfold sweep
  generalize s.nodes.size = rounds
  induction rounds generalizing s with
  | zero => exact .refl s
  | succ rounds ih =>
    unfold sweepRounds
    split
    · exact .refl s
    · exact (swept_orphans s).trans (ih _)

theorem body_releases {ns : List NodeId} {n : NodeId} (hn : n ∉ ns) (s : Scene) :
    (ns.foldl release s).body n = s.body n := by
  induction ns generalizing s with
  | nil => rfl
  | cons m rest ih =>
    rw [List.mem_cons, not_or] at hn
    rw [List.foldl_cons, ih hn.2, body_release, if_neg fun h => hn.1 h.1.symm]

/-- A sweep leaves nodes as they are that are held from outside or by one of their own. -/
theorem body_sweep_of_keeps {s : Scene} {P : NodeId → Prop}
    (h : ∀ m, P m → m ∈ s.held ∨ ∃ k, P k ∧ m ∈ (s.body k).keeps) {n : NodeId} (hn : P n) :
    s.sweep.body n = s.body n := by
  unfold sweep
  generalize s.nodes.size = rounds
  induction rounds generalizing s with
  | zero => rfl
  | succ rounds ih =>
    unfold sweepRounds
    split
    · rfl
    · have hkept : ∀ m, P m → (s.orphans.foldl release s).body m = s.body m := fun m hm => by
        refine body_releases (fun horphan => (mem_orphans.mp horphan).2 ?_) s
        rcases h m hm with hheld | ⟨k, _, hkeeps⟩
        · exact List.mem_append_left _ (List.mem_append_left _ hheld)
        · exact mem_owned_of_keeps hkeeps
      refine (ih fun m hm => ?_).trans (hkept n hn)
      rw [(swept_orphans s).held]
      refine (h m hm).imp_right ?_
      rintro ⟨k, hk, hkeeps⟩
      exact ⟨k, hk, (hkept k hk).symm ▸ hkeeps⟩

/-- A sweep leaves a node as it is that is held from outside. -/
theorem body_sweep {s : Scene} {n : NodeId} (h : n ∈ s.held) : s.sweep.body n = s.body n :=
  body_sweep_of_keeps (P := (· = n)) (fun _ hm => .inl (hm ▸ h)) rfl

/-- And so it leaves all that such a node contains. -/
theorem body_sweep_of_contains {s : Scene} {c n : NodeId} (hc : c ∈ s.held) (hn : s.Contains c n) :
    s.sweep.body n = s.body n := by
  refine body_sweep_of_keeps (P := s.Contains c) (fun m hm => ?_) hn
  rcases hm.cases_tail with rfl | ⟨k, hk, slot, hslot, rfl⟩
  · exact .inl hc
  · exact .inr ⟨k, hk, mem_keeps hslot⟩

end TextPane.Scene
