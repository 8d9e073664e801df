import TextPane.Proofs.Scene.Acts
import TextPane.Proofs.Scene.Owners

/-! What views take up.

A change takes up the nodes that it is given and new ones (`Takes`). The grid that a table takes is new, or
it was held for the table and by nothing else, so it belongs to the table alone from then on
(`Arranged.closed_of_takes`). -/
namespace TextPane

/-- The nodes that a change is given to hold. -/
def Change.given : Change → List NodeId
  | .push _ child | .setChild _ child _ _ => [child]
  | .install _ new .. => new.map (·.header)
  | .hold n => [n]
  | _ => []

/-- The grid that a change gives to a table. -/
def Change.grid? : Change → Option NodeId
  | .install _ _ _ built => some built
  | _ => none

/-- A cell that is filled adds nothing else to a grid. -/
theorem Grid.mem_contents_place {α : Type} {g filled : Grid α} {a : α} {column row : Nat}
    (h : g.place a column row = .ok filled) : ∀ b ∈ filled.contents, b = a ∨ b ∈ g.contents := by
  unfold place at h
  cases hindex : g.index? column row with
  | none =>
    rw [hindex] at h
    cases h
  | some i =>
    rw [hindex] at h
    obtain rfl := Except.ok.inj h
    intro b hb
    obtain ⟨cell, hcell, hcontent⟩ := List.mem_filterMap.mp hb
    obtain rfl : cell = some b := hcontent
    rcases List.mem_or_eq_of_mem_set hcell with hold | hnew
    · exact .inr (List.mem_filterMap.mpr ⟨some b, hold, rfl⟩)
    · exact .inl (Option.some.inj hnew)

namespace Scene

/-! ### Bodies and cells -/

section
variable {taken made : NodeId → Prop}

/-- A node that was added may get its body at the end. -/
theorem Follows.build {s s' : Scene} {b₀ b : Body} (h : Follows taken made (s.addNode b₀).1 s')
    (hlasting : ∀ k ∈ b.lasting, taken k) (htable : ∀ t, b = .table t → made t.grid.node) :
    Follows taken made s (s'.setBody s.nodes.size b) where
  size := by
    have hsize := h.size
    rw [size_addNode] at hsize
    rw [size_setBody]
    exact Nat.le_of_succ_le hsize
  held k hk := by
    rw [size_setBody]
    exact h.held k hk
  shows := h.shows
  lasting m k hk := by
    rw [body_setBody] at hk
    split at hk
    · exact .inr (hlasting k hk)
    · next hm =>
      rcases h.lasting m k hk with hold | htaken
      · rw [body_addNode] at hold
        split at hold
        · next heq =>
          have hsize := h.size
          rw [size_addNode] at hsize
          exact (hm ⟨heq.symm, heq ▸ hsize⟩).elim
        · exact .inl hold
      · exact .inr htaken
  table m t ht := by
    rw [body_setBody] at ht
    split at ht
    · exact .inr (htable t ht)
    · next hm =>
      rcases h.table m t ht with ⟨t₀, hold, hgrid⟩ | hmade
      · rw [body_addNode] at hold
        split at hold
        · next heq =>
          have hsize := h.size
          rw [size_addNode] at hsize
          exact (hm ⟨heq.symm, heq ▸ hsize⟩).elim
        · exact .inl ⟨t₀, hold, hgrid⟩
      · exact .inr hmade
  gone m hm hgone := by
    have hne : s.nodes.size ≠ m := Nat.ne_of_gt hm
    rw [body_setBody, if_neg fun heq => hne heq.1]
    refine h.gone m (by rw [size_addNode]; exact Nat.lt_succ_of_lt hm) ?_
    rw [body_addNode, if_neg hne.symm]
    exact hgone

end

section
variable {taken : NodeId → Prop} {s s' : Scene}

theorem place_follows {n child column row : Nat} (hchild : taken child)
    (h : s.place n child column row = .ok s') : Follows taken nobody s s' := by
  unfold place at h
  cases hbody : s.body n with
  | grid g =>
    rw [hbody] at h
    cases hfilled : g.place (s.enter n child).2 column row with
    | error e =>
      simp only [hfilled] at h
      cases h
    | ok filled =>
      simp only [hfilled] at h
      have hsame : (s.enter n child).1.body n = .grid g := (body_subscribe ..).trans hbody
      have hset : Follows taken nobody (s.enter n child).1
          ((s.enter n child).1.setBody n (.grid filled)) := by
        refine .setBody (by simp [hsame]) (fun k hk => ?_) fun _ heq => by cases heq
        obtain ⟨slot, hslot, rfl⟩ := List.mem_map.mp hk
        rcases Grid.mem_contents_place hfilled slot hslot with rfl | hold
        · exact .inr hchild
        · rw [hsame]
          exact .inl (List.mem_map_of_mem hold)
      have hentered := (Follows.subscribe s child (.forward n)).trans hset
      cases hold : g.cell? column row with
      | none =>
        simp only [hold] at h
        exact Except.ok.inj h ▸ hentered
      | some old =>
        simp only [hold] at h
        exact Except.ok.inj h ▸ hentered.trans (.leave _ old)
  | _ =>
    rw [hbody] at h
    exact Except.ok.inj h ▸ .refl s

end

/-! ### What one step takes up -/

/-- The step takes up nodes of `ns` and new ones, and at most one table gets a grid, which is new or was
held by nothing, and is taken up by nothing else. -/
def Takes (ns : List NodeId) (s s' : Scene) : Prop :=
  ∃ made : NodeId → Prop, Follows (fun k => k ∈ ns ∨ s.nodes.size ≤ k ∧ ¬made k) made s s' ∧
    (∀ k, made k → s.nodes.size ≤ k ∨ k ∉ s.owned ∧ k ∉ ns) ∧
    ∀ n n' t t', s'.body n = .table t → s'.body n' = .table t' → made t.grid.node →
      made t'.grid.node → n = n'

section
variable {ns : List NodeId} {s s₁ s' : Scene}

/-- A step in which no table gets a grid. -/
theorem Takes.of_follows (h : Follows (fun k => k ∈ ns ∨ s.nodes.size ≤ k) nobody s s') :
    Takes ns s s' := by
  refine ⟨nobody, h.mono (fun k hk => ?_) (fun _ h => h), fun _ h => h.elim, ?_⟩
  · exact hk.imp_right fun hsize => ⟨hsize, fun h => h⟩
  · intro _ _ _ _ _ _ h
    exact h.elim

theorem Takes.refl (s : Scene) : Takes ns s s := .of_follows (.refl s)

/-- After a step nothing else is taken up. -/
theorem Takes.follow (h : Takes ns s s₁) (h' : Follows nobody nobody s₁ s') : Takes ns s s' := by
  obtain ⟨made, hfollows, hnew, hsingle⟩ := h
  refine ⟨made, hfollows.trans (h'.mono (fun _ h => h.elim) (fun _ h => h.elim)), hnew, ?_⟩
  have htable : ∀ n t, s'.body n = .table t → ∃ t₁, s₁.body n = .table t₁ ∧ t.grid = t₁.grid :=
    fun n t ht => (h'.table n t ht).resolve_right fun h => h
  intro n n' t t' ht ht' hmade hmade'
  obtain ⟨t₁, ht₁, hgrid⟩ := htable n t ht
  obtain ⟨t₁', ht₁', hgrid'⟩ := htable n' t' ht'
  exact hsingle n n' t₁ t₁' ht₁ ht₁' (hgrid ▸ hmade) (hgrid' ▸ hmade')

theorem owned_of_backs {g : NodeId} (h : s.Backs g) : g ∈ s.owned := by
  obtain ⟨n, t, ht, rfl⟩ := h
  refine mem_owned.mpr (.inr (.inr ⟨n, ?_⟩))
  rw [ht]
  exact List.mem_cons_self ..

/-- A table gets a grid that was made for it. -/
theorem Takes.of_table (h : s.Linked nothing) {taken : NodeId → Prop}
    (hbefore : Follows taken nobody s s₁) {n g : NodeId} {t : Table}
    (hg : s.nodes.size ≤ g ∨ g ∉ s.owned ∧ g ∉ ns)
    (hset : Follows (fun k => k ∈ ns ∨ s.nodes.size ≤ k ∧ k ≠ g) (· = g) s (s₁.setBody n (.table t))) :
    Takes ns s (s₁.setBody n (.table t)) := by
  refine ⟨(· = g), hset, fun k hk => hk ▸ hg, ?_⟩
  have honly : ∀ m t', (s₁.setBody n (.table t)).body m = .table t' → t'.grid.node = g → m = n := by
    intro m t' ht' hnew
    rw [body_setBody] at ht'
    split at ht'
    · next hm => exact hm.1.symm
    · -- The grids of other tables were there before.
      obtain ⟨t₀, ht₀, hsame⟩ := (hbefore.table m t' ht').resolve_right fun h => h
      rw [hsame] at hnew
      have hbacks : s.Backs g := ⟨m, t₀, ht₀, hnew⟩
      rcases hg with hsize | ⟨hfree, _⟩
      · have hold : t₀.grid.node < s.nodes.size := by
          refine h.node_lt (n := m) ?_
          rw [ht₀]
          exact List.mem_singleton_self _
        exact (Nat.not_lt.mpr hsize (hnew ▸ hold)).elim
      · exact (hfree (owned_of_backs hbacks)).elim
  intro m m' t₁ t₂ ht₁ ht₂ hnew hnew'
  rw [honly m t₁ ht₁ hnew, honly m' t₂ ht₂ hnew']

theorem takes_create (s : Scene) {b : Body} (hlasting : b.lasting = []) (htable : ∀ t, b ≠ .table t) :
    Takes ns s (s.create b).1 := by
  apply Takes.of_follows
  have hadd : Follows (fun k => k ∈ ns ∨ s.nodes.size ≤ k) nobody s (s.addNode b).1 :=
    .addNode s hlasting htable
  refine { hadd with held := fun k hk => ?_ }
  rcases List.mem_cons.mp hk with rfl | hold
  · refine .inr ⟨.inr (Nat.le_refl _), ?_⟩
    show s.nodes.size < (s.addNode b).1.nodes.size
    rw [size_addNode]
    exact Nat.lt_succ_self _
  · exact .inl hold

theorem takes_createTable (h : s.Linked nothing) (gutter : Nat) :
    Takes ns s (s.createTable gutter).1 := by
  let s₁ := (s.addNode (.grid { gutter })).1
  let s₂ := (s₁.create .gone).1
  let s₃ := (s₂.enter s₁.nodes.size s.nodes.size).1
  let taken := fun k => k ∈ ns ∨ s.nodes.size ≤ k ∧ k ≠ s.nodes.size
  have hsize : s₁.nodes.size = s.nodes.size + 1 := size_addNode s _
  have hgrid : Follows taken nobody s s₁ := .addNode s rfl fun _ heq => by cases heq
  have hhold : Follows taken nobody (s₁.addNode .gone).1 s₂ := by
    refine { Follows.refl _ with held := fun k hk => ?_ }
    rcases List.mem_cons.mp hk with rfl | hold
    · refine .inr ⟨.inr ⟨?_, ?_⟩, ?_⟩
      · show s.nodes.size ≤ s₁.nodes.size
        omega
      · show s₁.nodes.size ≠ s.nodes.size
        omega
      · have hadded := size_addNode s₁ .gone
        show s₁.nodes.size < (s₁.addNode .gone).1.nodes.size
        omega
    · exact .inl hold
  have hentered : Follows taken nobody (s₁.addNode .gone).1 s₃ := hhold.trans (.subscribe ..)
  have hbefore : Follows taken nobody s s₃ :=
    hgrid.trans ((Follows.addNode s₁ rfl fun _ heq => by cases heq).trans hentered)
  have hbuilt : Follows taken (· = s.nodes.size) s₁ ((s.createTable gutter).1) := by
    refine (hentered.mono (fun _ h => h) fun _ h => h.elim).build (fun k hk => by cases hk) ?_
    intro t ht
    obtain rfl := Body.table.inj ht
    rfl
  exact .of_table h hbefore (.inl (Nat.le_refl _))
    ((hgrid.mono (fun _ h => h) fun _ h => h.elim).trans hbuilt)

/-- A table takes a grid that nothing else holds. -/
theorem takes_install (h : s.Linked nothing) {n grid : NodeId} {t : Table} (hbody : s.body n = .table t)
    (hfree : grid ∉ s.owned) {new : List TableColumn} (hother : grid ∉ new.map (·.header))
    (items : List (List String)) :
    Takes (new.map (·.header)) s ((((s.takeGrid n t new items grid).leave t.grid).sweep).raise n) := by
  let ns := new.map (·.header)
  let taken := fun k => k ∈ ns ∨ s.nodes.size ≤ k ∧ k ≠ grid
  have hentered : Follows taken nobody s (s.enter n grid).1 := .subscribe ..
  have hsame : (s.enter n grid).1.body n = .table t := (body_subscribe ..).trans hbody
  let table : Table := { t with columns := t.columns ++ new, items, grid := (s.enter n grid).2 }
  have hset : Follows taken (· = grid) (s.enter n grid).1 (s.takeGrid n t new items grid) := by
    refine .setBody (by simp [hsame]) (fun k hk => ?_) fun t' ht' => ?_
    · obtain ⟨c, hc, rfl⟩ := List.mem_map.mp hk
      rcases List.mem_append.mp hc with hc | hc
      · rw [hsame]
        exact .inl (List.mem_map_of_mem hc)
      · exact .inr (.inl (List.mem_map_of_mem hc))
    · obtain rfl := Body.table.inj ht'
      exact .inr rfl
  have htake : Takes ns s (s.takeGrid n t new items grid) :=
    .of_table h (t := table) hentered (.inr ⟨hfree, hother⟩)
      ((hentered.mono (fun _ h => h) fun _ h => h.elim).trans hset)
  exact htake.follow (((Follows.leave _ t.grid).sweep).raise n)

/-! ### What changes take up -/

variable {taken : NodeId → Prop}

theorem setSpan_follows (n : NodeId) (span : Span) : Follows taken nobody s (s.setSpan n span) := by
  unfold setSpan
  cases hbody : s.body n with
  | content old feed =>
    have hset : Follows taken nobody s (s.setBody n (.content span feed)) :=
      .setBody (by simp [hbody]) (fun _ hk => by cases hk) fun _ heq => by cases heq
    exact hset.raise n
  | _ => exact .refl s

theorem push_follows (n : NodeId) {child : NodeId} (hchild : taken child) :
    Follows taken nobody s (s.push n child) := by
  unfold push
  cases hbody : s.body n with
  | stack orientation slots =>
    have hsame : (s.enter n child).1.body n = .stack orientation slots :=
      (body_subscribe ..).trans hbody
    have hset : Follows taken nobody (s.enter n child).1 ((s.enter n child).1.setBody n
        (.stack orientation (slots ++ [(s.enter n child).2]))) := by
      refine .setBody (by simp [hsame]) (fun k hk => ?_) fun _ heq => by cases heq
      obtain ⟨slot, hslot, rfl⟩ := List.mem_map.mp hk
      rw [hsame]
      rcases List.mem_append.mp hslot with hold | hnew
      · exact .inl (List.mem_map_of_mem hold)
      · rw [List.mem_singleton.mp hnew]
        exact .inr hchild
    exact ((Follows.subscribe s child _).trans hset).raise n
  | _ => exact .refl s

/-- A stack gives up places. -/
theorem giveUp_follows {n : NodeId} {orientation : Option Orientation} {slots rest : List Slot}
    (hbody : s.body n = .stack orientation slots) (hrest : ∀ slot ∈ rest, slot ∈ slots)
    (gone : List Slot) :
    Follows taken nobody s
      (((s.setBody n (.stack orientation rest)).leaveAll gone).raise n).sweep := by
  have hset : Follows taken nobody s (s.setBody n (.stack orientation rest)) := by
    refine .setBody (by simp [hbody]) (fun k hk => ?_) fun _ heq => by cases heq
    obtain ⟨slot, hslot, rfl⟩ := List.mem_map.mp hk
    rw [hbody]
    exact .inl (List.mem_map_of_mem (hrest slot hslot))
  exact ((hset.trans (.leaveAll _ gone)).raise n).sweep

theorem remove_follows (n child : NodeId) : Follows taken nobody s (s.remove n child).1 := by
  unfold remove
  cases hbody : s.body n with
  | stack orientation slots =>
    cases hfind : slots.find? (·.node == child) with
    | none =>
      simp only [hfind]
      exact .refl s
    | some slot =>
      simp only [hfind]
      exact giveUp_follows hbody (fun other hother => List.mem_of_mem_eraseP hother) [slot]
  | _ => exact .refl s

theorem clear_follows (n : NodeId) : Follows taken nobody s (s.clear n) := by
  unfold clear
  cases hbody : s.body n with
  | stack orientation slots =>
    cases slots with
    | nil => exact .refl s
    | cons slot rest => exact giveUp_follows hbody (fun _ h => by cases h) _
  | _ => exact .refl s

/-- Tracks are replaced where a grid holds nothing yet. -/
theorem setTracks_follows (n : NodeId) (new : Grid Slot → Grid Slot) :
    Follows taken nobody s (s.accept (s.setTracks n new)) := by
  unfold setTracks
  cases hbody : s.body n with
  | grid g =>
    cases hopen : g.locked with
    | true =>
      simp only [Grid.setTracks, hopen, if_true]
      exact .refl s
    | false =>
      simp only [Grid.setTracks, hopen, Bool.false_eq_true, if_false]
      have hset : Follows taken nobody s (s.setBody n (.grid (new g).blank)) := by
        refine .setBody (by simp [hbody]) (fun k hk => ?_) fun _ heq => by cases heq
        obtain ⟨slot, hslot, rfl⟩ := List.mem_map.mp hk
        rw [show (Body.grid (new g).blank).slots = [] from (new g).contents_blank] at hslot
        cases hslot
      exact hset.raise n
  | _ => exact .refl s

theorem setChild_follows (n : NodeId) {child : NodeId} (hchild : taken child) (column row : Nat) :
    Follows taken nobody s (s.accept (s.setChild n child column row)) := by
  unfold setChild
  cases hplace : s.place n child column row with
  | error e => exact .refl s
  | ok s' => exact ((place_follows hchild hplace).sweep).raise n

/-- A change takes up what it is given, and new nodes, and the grid of a table if that is free. -/
theorem change_takes (h : s.Linked nothing) (c : Change) (hc : c.grid? = none)
    (hgiven : ∀ k ∈ c.given, k < s.nodes.size) : Takes c.given s (s.change c) := by
  cases c with
  | content span => exact takes_create s rfl fun _ heq => by cases heq
  | stack orientation => exact takes_create s rfl fun _ heq => by cases heq
  | grid gutter => exact takes_create s rfl fun _ heq => by cases heq
  | table gutter => exact takes_createTable h gutter
  | setSpan n span => exact .of_follows (setSpan_follows n span)
  | push n child => exact .of_follows (push_follows n (.inl (List.mem_singleton_self _)))
  | remove n child => exact .of_follows (remove_follows n child)
  | clear n => exact .of_follows (clear_follows n)
  | setColumns n tracks | setRows n tracks => exact .of_follows (setTracks_follows n _)
  | setChild n child column row =>
    exact .of_follows (setChild_follows n (.inl (List.mem_singleton_self _)) column row)
  | install n new items grid => cases hc
  | watch n =>
    have hcount : Follows nobody nobody s { s with hits := s.hits.push 0 } :=
      .of_same rfl rfl rfl fun _ => rfl
    exact (Takes.refl s).follow (hcount.trans (.subscribe ..))
  | hold n =>
    apply Takes.of_follows
    refine { Follows.refl s with held := fun k hk => ?_ }
    rcases List.mem_cons.mp hk with rfl | hold
    · have hmem : k ∈ (Change.hold k).given := List.mem_singleton_self k
      exact .inr ⟨.inl hmem, hgiven k hmem⟩
    · exact .inl hold
  | letGo n =>
    have hless : Follows nobody nobody s { s with held := s.held.erase n } :=
      { Follows.refl s with held := fun k hk => .inl (List.mem_of_mem_erase hk) }
    exact (Takes.refl s).follow hless.sweep

end

end Scene

end TextPane
