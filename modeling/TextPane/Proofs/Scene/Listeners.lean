import TextPane.Proofs.Scene.Moves
import TextPane.Proofs.Scene.Taking

/-! Who listens to whom.

Whatever is done to views and displays, a container listens to a view once for every place that the view
has in it, and to nothing else; what nothing holds any more listens to nobody (`moves_listen`). For a
table that means its cells: the grids that it had before are gone with all that they listened to, as long
as nobody took such a grid up. -/
namespace TextPane

/-- One hold from outside keeps a node, and nothing else does. -/
def Scene.Sole (s : Scene) (g : NodeId) : Prop := g ∈ s.held ∧ s.owned.count g = 1

namespace Deed

/-- The nodes that a deed is given to hold. -/
def given : Deed → List NodeId
  | .change c => c.given
  | .display _ child => child.toList
  | _ => []

/-- The grid that a deed gives to a table. -/
def grid? : Deed → Option NodeId
  | .change c => c.grid?
  | _ => none

/-- What a deed is given is there, and is not the grid of a table. What it gives to a table for a grid is
held by nothing but the call that had it built. -/
structure Valid (s : Scene) (d : Deed) : Prop where
  possible : d.Possible s
  lt_size : ∀ k ∈ d.given, k < s.nodes.size
  not_backs : ∀ k ∈ d.given, ¬s.Backs k
  sole : ∀ g ∈ d.grid?, s.Sole g ∧ g ∉ d.given

end Deed

namespace Scene

/-- Every deed is valid when it is done. -/
def Permits : Scene → List Deed → Prop
  | _, [] => True
  | s, d :: rest => d.Valid s ∧ Permits (s.deed d) rest

theorem permits_append {s : Scene} {ds es : List Deed} :
    s.Permits (ds ++ es) ↔ s.Permits ds ∧ (s.deeds ds).Permits es := by
  induction ds generalizing s with
  | nil => exact ⟨fun h => ⟨trivial, h⟩, And.right⟩
  | cons d rest ih =>
    simp only [List.cons_append, Permits, ih, and_assoc]
    rfl

/-! ### Scenes in order -/

/-- The grid of a table belongs to that table alone. -/
structure Closed (s : Scene) : Prop where
  held : ∀ g, s.Backs g → g ∉ s.held
  shows : ∀ g, s.Backs g → ¬s.Shows g
  lasting : ∀ g, s.Backs g → ∀ n, g ∉ (s.body n).lasting
  single : ∀ n n' t t', s.body n = .table t → s.body n' = .table t' →
    t.grid.node = t'.grid.node → n = n'

/-- What holds between any two deeds, and in the middle of one as well. -/
structure Arranged (s : Scene) : Prop where
  linked : s.Linked nothing
  fit : s.Fit
  closed : s.Closed
  held : ∀ k ∈ s.held, k < s.nodes.size
  rests : s.Rests

/-- Between any two deeds what lives is held, too. -/
structure InOrder (s : Scene) : Prop extends Arranged s where
  tidy : s.Tidy

/-- Between two scenes tables have kept their grids, or the grids are gone; and what was gone still is. -/
structure Onward (s s' : Scene) : Prop where
  size : s.nodes.size ≤ s'.nodes.size
  gone : ∀ n < s.nodes.size, s.body n = .gone → s'.body n = .gone
  table : ∀ n t, s.body n = .table t →
    (∃ t', s'.body n = .table t' ∧ t'.grid = t.grid) ∨ s'.body t.grid.node = .gone

section
variable {ns : List NodeId} {s s' s'' : Scene}

theorem Arranged.tied (h : s.Arranged) : s.Tied := ⟨h.linked, h.fit, h.rests⟩

/-- What is held is a node of the scene. -/
theorem Arranged.lt_of_owned (h : s.Arranged) {k : NodeId} (hk : k ∈ s.owned) : k < s.nodes.size := by
  rcases mem_owned.mp hk with hheld | ⟨i, d, slot, hd, hslot, rfl⟩ | ⟨n, hn⟩
  · exact h.held k hheld
  · refine Wired.node_lt h.linked (l := .display i) rfl ?_
    rw [nothing, List.nil_append, places, hd, Option.bind_some, hslot]
    exact List.mem_singleton_self _
  · have hslots : ∀ slot ∈ (s.body n).slots, slot.node < s.nodes.size := fun slot hslot =>
      h.linked.node_lt hslot
    have hfits := h.fit n
    cases hbody : s.body n with
    | table t =>
      rw [hbody] at hn hfits hslots
      rcases List.mem_cons.mp hn with rfl | hn
      · exact hslots _ (List.mem_singleton_self _)
      · obtain ⟨c, hc, rfl⟩ := List.mem_map.mp hn
        exact hfits c hc
    | stack orientation slots =>
      rw [hbody] at hn hslots
      obtain ⟨slot, hslot, rfl⟩ := List.mem_map.mp hn
      exact hslots slot hslot
    | grid g =>
      rw [hbody] at hn hslots
      obtain ⟨slot, hslot, rfl⟩ := List.mem_map.mp hn
      exact hslots slot hslot
    | _ =>
      rw [hbody] at hn
      cases hn

theorem owned_of_lasting {n k : NodeId} (h : k ∈ (s.body n).lasting) : k ∈ s.owned :=
  mem_owned.mpr (.inr (.inr ⟨n, Body.mem_keeps_of_lasting h⟩))

/-- **The grids of tables stay closed to others** when a step takes none of them up. -/
theorem Arranged.closed_of_takes (h : s.Arranged) (htakes : Takes ns s s')
    (hlt : ∀ k ∈ ns, k < s.nodes.size) (hfree : ∀ k ∈ ns, ¬s.Backs k) : s'.Closed := by
  obtain ⟨made, hfollows, hnew, hsingle⟩ := htakes
  have hunowned : ∀ k, made k → k ∉ s.owned := fun k hk howned =>
    (hnew k hk).elim (fun hsize => Nat.not_lt.mpr hsize (h.lt_of_owned howned)) fun hfree => hfree.1 howned
  have hungiven : ∀ k, made k → k ∉ ns := fun k hk hgiven =>
    (hnew k hk).elim (fun hsize => Nat.not_lt.mpr hsize (hlt k hgiven)) fun hfree => hfree.2 hgiven
  -- A grid of a table is one from before, or nothing had it; in neither case was it taken up.
  have horigin : ∀ g, s'.Backs g → (s.Backs g ∨ g ∉ s.owned) ∧
      ¬(g ∈ ns ∨ s.nodes.size ≤ g ∧ ¬made g) := by
    rintro g ⟨n, t', ht', rfl⟩
    rcases hfollows.table n t' ht' with ⟨t, ht, hgrid⟩ | hmade
    · have hbacks : s.Backs t'.grid.node := ⟨n, t, ht, by rw [hgrid]⟩
      refine ⟨.inl hbacks, ?_⟩
      rintro (hgiven | ⟨hsize, _⟩)
      · exact hfree _ hgiven hbacks
      · exact Nat.not_lt.mpr hsize (h.lt_of_owned (owned_of_backs hbacks))
    · refine ⟨.inr (hunowned _ hmade), ?_⟩
      rintro (hgiven | ⟨_, hmade'⟩)
      · exact hungiven _ hmade hgiven
      · exact hmade' hmade
  refine ⟨fun g hg hheld => ?_, fun g hg hshows => ?_, fun g hg n hlasting => ?_, ?_⟩
  · obtain ⟨horigin, htaken⟩ := horigin g hg
    have hheld := (hfollows.held g hheld).resolve_right fun hk => htaken hk.1
    exact horigin.elim (fun hbacks => h.closed.held g hbacks hheld) fun hfree =>
      hfree (mem_owned.mpr (.inl hheld))
  · obtain ⟨horigin, htaken⟩ := horigin g hg
    have hshows := (hfollows.shows g hshows).resolve_right htaken
    exact horigin.elim (fun hbacks => h.closed.shows g hbacks hshows) fun hfree =>
      hfree (mem_owned.mpr (.inr (.inl hshows)))
  · obtain ⟨horigin, htaken⟩ := horigin g hg
    have hlasting := (hfollows.lasting n g hlasting).resolve_right htaken
    exact horigin.elim (fun hbacks => h.closed.lasting g hbacks n hlasting) fun hfree =>
      hfree (owned_of_lasting hlasting)
  · intro n n' t t' ht ht' hsame
    rcases hfollows.table n t ht with ⟨u, hu, hgrid⟩ | hmade
    · rcases hfollows.table n' t' ht' with ⟨u', hu', hgrid'⟩ | hmade'
      · exact h.closed.single n n' u u' hu hu' (by rw [← hgrid, ← hgrid', hsame])
      · have hbacks : s.Backs t'.grid.node := ⟨n, u, hu, by rw [← hgrid, hsame]⟩
        exact (hunowned _ hmade' (owned_of_backs hbacks)).elim
    · exact hsingle n n' t t' ht ht' hmade (hsame ▸ hmade)

/-- Where a step leaves nothing over, a grid that a table no longer has is gone. -/
theorem Arranged.onward_of_takes (h : s.Arranged) (htakes : Takes ns s s') (htidy : s'.Tidy)
    (hfree : ∀ k ∈ ns, ¬s.Backs k) : Onward s s' := by
  obtain ⟨made, hfollows, hnew, _⟩ := htakes
  refine ⟨hfollows.size, hfollows.gone, fun n t ht => ?_⟩
  have hbacks : s.Backs t.grid.node := ⟨n, t, ht, rfl⟩
  have hlt := h.lt_of_owned (owned_of_backs hbacks)
  have htaken : ¬(t.grid.node ∈ ns ∨ s.nodes.size ≤ t.grid.node ∧ ¬made t.grid.node) := by
    rintro (hgiven | ⟨hsize, _⟩)
    · exact hfree _ hgiven hbacks
    · exact Nat.not_lt.mpr hsize hlt
  by_cases hgone : s'.body t.grid.node = .gone
  · exact .inr hgone
  -- The grid lives, so something holds it, and that can only be the table.
  rcases mem_owned.mp (htidy _ hgone) with hheld | hshows | ⟨m, hm⟩
  · have hheld := (hfollows.held _ hheld).resolve_right fun hk => htaken hk.1
    exact (h.closed.held _ hbacks hheld).elim
  · have hshows := (hfollows.shows _ hshows).resolve_right htaken
    exact (h.closed.shows _ hbacks hshows).elim
  · rcases Body.lasting_or_grid hm with hlasting | ⟨t', ht', hnode⟩
    · have hlasting := (hfollows.lasting m _ hlasting).resolve_right htaken
      exact (h.closed.lasting _ hbacks m hlasting).elim
    · rcases hfollows.table m t' ht' with ⟨u, hu, hgrid⟩ | hmade
      · obtain rfl : m = n := h.closed.single m n u t hu ht (by rw [← hgrid, hnode])
        obtain rfl : u = t := Body.table.inj (hu.symm.trans ht)
        exact .inl ⟨t', ht', hgrid⟩
      · rw [hnode] at hmade
        exact ((hnew _ hmade).elim (fun hsize => Nat.not_lt.mpr hsize hlt) fun hunowned =>
          hunowned.1 (owned_of_backs hbacks)).elim

theorem Arranged.step (h : s.Arranged) (htied : s'.Tied) (htidy : s'.Tidy) (htakes : Takes ns s s')
    (hlt : ∀ k ∈ ns, k < s.nodes.size) (hfree : ∀ k ∈ ns, ¬s.Backs k) : s'.InOrder ∧ Onward s s' := by
  have honward := h.onward_of_takes htakes htidy hfree
  have hclosed := h.closed_of_takes htakes hlt hfree
  obtain ⟨_, hfollows, _⟩ := htakes
  refine ⟨⟨⟨htied.linked, htied.fit, hclosed, fun k hk => ?_, htied.rests⟩, htidy⟩, honward⟩
  rcases hfollows.held k hk with hold | ⟨_, hsize⟩
  · exact Nat.lt_of_lt_of_le (h.held k hold) hfollows.size
  · exact hsize

theorem Onward.trans (h : Onward s s') (hs : s.InOrder) (h' : Onward s' s'') : Onward s s'' where
  size := Nat.le_trans h.size h'.size
  gone n hn hgone := h'.gone n (Nat.lt_of_lt_of_le hn h.size) (h.gone n hn hgone)
  table n t ht := by
    rcases h.table n t ht with ⟨t', ht', hgrid⟩ | hgone
    · rw [← hgrid]
      exact h'.table n t' ht'
    · have hlt := hs.lt_of_owned (owned_of_backs ⟨n, t, ht, rfl⟩)
      exact .inr (h'.gone _ (Nat.lt_of_lt_of_le hlt h.size) hgone)

/-! ### Updates and sweeps -/

/-- An update leaves a scene in order. -/
theorem InOrder.still (h : s.InOrder) (hstill : Still s s') : s'.InOrder ∧ Onward s s' := by
  have hnone : ∀ P : NodeId → Prop, ∀ k ∈ ([] : List NodeId), P k := fun _ _ hk => by cases hk
  exact h.step (h.tied.still hstill) (h.tidy.still hstill) ((Takes.refl s).follow (.still hstill)) (hnone _)
    (hnone _)

/-! ### Changes of nodes -/

theorem body_createTable (s : Scene) (gutter : Nat) : ∃ slot : Slot, slot.node = s.nodes.size ∧
    ∀ m, (s.createTable gutter).1.body m =
      if m = s.nodes.size + 1 then .table { gutter, grid := slot }
      else if m = s.nodes.size then .grid { gutter } else s.body m := by
  let s₁ := (s.addNode (.grid { gutter })).1
  let s₂ := (s₁.create .gone).1
  have hsize₁ : s₁.nodes.size = s.nodes.size + 1 := size_addNode s _
  have hsize₂ : s₂.nodes.size = s.nodes.size + 2 := by
    have hadded := size_addNode s₁ .gone
    rw [hsize₁] at hadded
    exact hadded
  refine ⟨(s₂.enter s₁.nodes.size s.nodes.size).2, rfl, fun m => ?_⟩
  have htable : (s.createTable gutter).1 = (s₂.enter s₁.nodes.size s.nodes.size).1.setBody s₁.nodes.size
      (.table { gutter, grid := (s₂.enter s₁.nodes.size s.nodes.size).2 }) := rfl
  have hentered : ∀ n, (s₂.enter s₁.nodes.size s.nodes.size).1.body n = s₂.body n :=
    fun n => body_subscribe ..
  have hsize : (s₂.enter s₁.nodes.size s.nodes.size).1.nodes.size = s₂.nodes.size := size_subscribe ..
  have hcreated : s₂.body m = if m = s₁.nodes.size then .gone else s₁.body m := body_addNode s₁ .gone m
  have hadded : s₁.body m = if m = s.nodes.size then .grid { gutter } else s.body m :=
    body_addNode s _ m
  rw [htable, body_setBody, hentered, hsize, hsize₂, hcreated, hadded, hsize₁]
  by_cases hm : m = s.nodes.size + 1
  · subst hm
    rw [if_pos ⟨rfl, Nat.lt_succ_self _⟩, if_pos rfl]
  · rw [if_neg fun h => hm h.1.symm, if_neg hm, if_neg hm]

theorem Tidy.createTable (h : s.Tidy) (gutter : Nat) : (s.createTable gutter).1.Tidy := by
  obtain ⟨slot, hslot, hbody⟩ := body_createTable s gutter
  have hheld : (s.createTable gutter).1.held = (s.nodes.size + 1) :: s.held := by
    rw [← size_addNode s (.grid { gutter })]
    rfl
  have hold : ∀ m, s.body m ≠ .gone → (s.createTable gutter).1.body m = s.body m := by
    intro m halive
    have hm : m < s.nodes.size := by
      by_contra hm
      exact halive (body_of_size_le (Nat.not_lt.mp hm))
    rw [hbody, if_neg (Nat.ne_of_lt (Nat.lt_succ_of_lt hm)), if_neg (Nat.ne_of_lt hm)]
  refine h.grow (fun n hn => ?_) (fun _ hn => hn) (fun m k hk => ?_) fun n hn => ?_
  · rw [hheld]
    exact List.mem_cons_of_mem _ hn
  · rw [hold m]
    · exact hk
    · intro hgone
      rw [hgone] at hk
      cases hk
  · rw [hbody] at hn
    split at hn
    · next heq =>
      refine .inr (mem_owned.mpr (.inl ?_))
      rw [hheld, heq]
      exact List.mem_cons_self ..
    · split at hn
      · -- The table keeps its grid.
        next heq =>
        refine .inr (mem_owned.mpr (.inr (.inr ⟨s.nodes.size + 1, ?_⟩)))
        rw [hbody, if_pos rfl, heq, ← hslot]
        exact List.mem_cons_self ..
      · exact .inl hn

theorem tidy_setSpan (h : s.Tidy) (n : NodeId) (span : Span) : (s.setSpan n span).Tidy := by
  unfold setSpan
  cases hbody : s.body n with
  | content old feed =>
    have hset : (s.setBody n (.content span feed)).Tidy :=
      h.setBody (by simp [hbody]) fun k hk => by
        rw [hbody] at hk
        cases hk
    exact hset.still (still_raise _ n)
  | _ => exact h

theorem tidy_push (h : s.Tidy) (n child : NodeId) : (s.push n child).Tidy := by
  unfold push
  cases hbody : s.body n with
  | stack orientation slots =>
    have hentered : (s.enter n child).1.Tidy := h.subscribe child (.forward n)
    have hsame : (s.enter n child).1.body n = .stack orientation slots :=
      (body_subscribe ..).trans hbody
    have hset : ((s.enter n child).1.setBody n
        (.stack orientation (slots ++ [(s.enter n child).2]))).Tidy := by
      refine hentered.setBody (by simp [hsame]) fun k hk => ?_
      rw [hsame] at hk
      obtain ⟨slot, hslot, rfl⟩ := List.mem_map.mp hk
      exact List.mem_map_of_mem (List.mem_append_left _ hslot)
    exact hset.still (still_raise _ n)
  | _ => exact h

theorem tidy_remove (h : s.Tidy) (n child : NodeId) : (s.remove n child).1.Tidy := by
  unfold remove
  split
  · split
    · exact h
    · dsimp only
      exact tidy_sweep _
  · exact h

theorem tidy_clear (h : s.Tidy) (n : NodeId) : (s.clear n).Tidy := by
  unfold clear
  split
  · exact tidy_sweep _
  · exact h

/-- A grid whose tracks are replaced holds nothing. -/
theorem tidy_setTracks (h : s.Tidy) (hs : s.Fit) (n : NodeId) (new : Grid Slot → Grid Slot) :
    (s.accept (s.setTracks n new)).Tidy := by
  unfold setTracks
  cases hbody : s.body n with
  | grid g =>
    cases hopen : g.locked with
    | true =>
      simp only [Grid.setTracks, hopen, if_true]
      exact h
    | false =>
      simp only [Grid.setTracks, hopen, Bool.false_eq_true, if_false]
      have hshaped : g.Shaped := by
        have hfits := hs n
        rwa [hbody] at hfits
      have hset : (s.setBody n (.grid (new g).blank)).Tidy := by
        refine h.setBody (by simp [hbody]) fun k hk => ?_
        rw [hbody] at hk
        obtain ⟨slot, hslot, rfl⟩ := List.mem_map.mp hk
        rw [show (Body.grid g).slots = [] from hshaped.open_empty hopen] at hslot
        cases hslot
      exact hset.still (still_raise _ n)
  | _ => exact h

theorem tidy_setChild (h : s.Tidy) (n child : NodeId) (column row : Nat) :
    (s.accept (s.setChild n child column row)).Tidy := by
  unfold setChild
  cases s.place n child column row with
  | error e => exact h
  | ok s₁ => exact (tidy_sweep s₁).still (still_raise _ n)

theorem tidy_install (s : Scene) (n : NodeId) (new : List TableColumn) (items : List (List String))
    (grid : NodeId) : (s.install n new items grid).Tidy := by
  unfold install
  dsimp only
  split
  · exact (tidy_sweep _).still (still_raise _ n)
  · exact tidy_sweep _

/-- A change leaves nothing over. -/
theorem tidy_change (h : s.Tidy) (hs : s.Fit) (c : Change) : (s.change c).Tidy := by
  cases c with
  | content span => exact h.create _
  | stack orientation => exact h.create _
  | grid gutter => exact h.create _
  | table gutter => exact h.createTable gutter
  | setSpan n span => exact tidy_setSpan h n span
  | push n child => exact tidy_push h n child
  | remove n child => exact tidy_remove h n child
  | clear n => exact tidy_clear h n
  | setColumns n tracks | setRows n tracks => exact tidy_setTracks h hs n _
  | setChild n child column row => exact tidy_setChild h n child column row
  | install n new items grid => exact tidy_install s n new items grid
  | watch n =>
    have hcounted : ({ s with hits := s.hits.push 0 } : Scene).Tidy := h
    exact hcounted.subscribe n _
  | hold n =>
    exact h.grow (fun _ hk => List.mem_cons_of_mem _ hk) (fun _ hk => hk) (fun _ _ hk => hk)
      fun _ hn => .inl hn
  | letGo n => exact tidy_sweep _

/-- Where less is held from outside, nothing is amiss but that something may live that nothing holds. -/
theorem Arranged.unhold (h : s.Arranged) {held : List NodeId} (hheld : ∀ k ∈ held, k ∈ s.held) :
    ({ s with held } : Scene).Arranged where
  linked := h.linked.congr rfl fun _ => rfl
  fit := h.fit.congr rfl
  closed := ⟨fun g hg hk => h.closed.held g hg (hheld g hk), h.closed.shows, h.closed.lasting,
    h.closed.single⟩
  held k hk := h.held k (hheld k hk)
  rests := h.rests.congr rfl

/-- What only one hold keeps is kept by nothing once that hold has ended. -/
theorem Sole.not_mem_owned {g : NodeId} (h : s.Sole g) (others : List NodeId) :
    g ∉ ({ s with held := (g :: others).foldl List.erase s.held } : Scene).owned := by
  obtain ⟨hheld, hcount⟩ := h
  have hpos : 0 < s.held.count g := List.count_pos_iff.mpr hheld
  simp only [owned, List.count_append] at hcount
  have herased : ((g :: others).foldl List.erase s.held).count g ≤ s.held.count g - 1 := by
    rw [← List.diff_eq_foldl, List.count_diff, List.count_cons_self]
    omega
  rw [← List.count_eq_zero]
  simp only [owned, List.count_append]
  omega

/-- A table takes a grid that was held for it only. -/
theorem InOrder.install (h : s.InOrder) {n grid : NodeId} {new : List TableColumn}
    {items : List (List String)} (hvalid : (Deed.change (.install n new items grid)).Valid s) :
    (s.install n new items grid).InOrder ∧ Onward s (s.install n new items grid) := by
  let held := (grid :: new.map TableColumn.header).foldl List.erase s.held
  have hfree : ({ s with held } : Scene).Arranged :=
    h.unhold fun k hk => by
      have hrest : k ∈ s.held.diff (grid :: new.map TableColumn.header) := by
        rw [List.diff_eq_foldl]
        exact hk
      exact (List.diff_sublist ..).subset hrest
  obtain ⟨hsole, hother⟩ := hvalid.sole grid rfl
  have htied : (s.install n new items grid).Tied :=
    h.tied.change (c := .install n new items grid) hvalid.possible
  have htidy : (s.install n new items grid).Tidy := tidy_install s n new items grid
  have hstep : ∃ ns, Takes ns { s with held } (s.install n new items grid) ∧
      ∀ k ∈ ns, k ∈ new.map (·.header) := by
    unfold Scene.install
    dsimp only
    split
    · next t hbody =>
      exact ⟨_, takes_install hfree.linked hbody (hsole.not_mem_owned _) hother items, fun _ hk => hk⟩
    · exact ⟨[], (Takes.refl _).follow (Follows.refl _).sweep, fun _ hk => by cases hk⟩
  obtain ⟨ns, htakes, hns⟩ := hstep
  obtain ⟨horder, honward⟩ := hfree.step htied htidy htakes (fun k hk => hvalid.lt_size k (hns k hk))
    fun k hk => hvalid.not_backs k (hns k hk)
  exact ⟨horder, honward.size, honward.gone, honward.table⟩

/-- A change leaves a scene in order. -/
theorem InOrder.change (h : s.InOrder) {c : Change} (hvalid : (Deed.change c).Valid s) :
    (s.change c).InOrder ∧ Onward s (s.change c) := by
  cases hgrid : c.grid? with
  | none =>
    exact h.step (h.tied.change hvalid.possible) (tidy_change h.tidy h.fit c)
      (change_takes h.linked c hgrid hvalid.lt_size) hvalid.lt_size hvalid.not_backs
  | some g =>
    cases c with
    | install n new items grid => exact h.install hvalid
    | _ => cases hgrid

/-! ### Probes and displays -/

theorem InOrder.createProbe (h : s.InOrder) (p : Probe) :
    (s.create (.probe p)).1.InOrder ∧ Onward s (s.create (.probe p)).1 := by
  have hnone : ∀ P : NodeId → Prop, ∀ k ∈ ([] : List NodeId), P k := fun _ _ hk => by cases hk
  exact h.step (h.tied.createProbe p) (h.tidy.create _)
    (takes_create s rfl fun _ heq => by cases heq) (hnone _) (hnone _)

/-- A display that is added shows nothing. -/
theorem InOrder.createDisplay (h : s.InOrder) (renderer : Renderer) (queue : Option QueueId)
    (hideCursor : Bool) :
    (s.createDisplay renderer queue hideCursor).1.InOrder ∧
      Onward s (s.createDisplay renderer queue hideCursor).1 := by
  let hidden := if hideCursor then s.attempt .hideCursor else s
  have hstill : Still s hidden := still_hidden s hideCursor
  obtain ⟨horder, _⟩ := h.still hstill
  let opened : Scene := { hidden with displays := hidden.displays.push { renderer, queue } }
  have hdisplay : ∀ (i : DisplayId) d, opened.displays[i]? = some d →
      hidden.displays[i]? = some d ∨ d.child = none := by
    intro i d hd
    simp only [opened, Array.getElem?_push] at hd
    split at hd
    · rw [← Option.some.inj hd]
      exact .inr rfl
    · exact .inl hd
  have hshows : ∀ k, opened.Shows k → hidden.Shows k := by
    rintro k ⟨i, d, slot, hd, hslot, rfl⟩
    rcases hdisplay i d hd with hold | hnone
    · exact ⟨i, d, slot, hold, hslot, rfl⟩
    · rw [hnone] at hslot
      cases hslot
  have hkept : ∀ (i : DisplayId) d, hidden.displays[i]? = some d → opened.displays[i]? = some d := by
    intro i d hd
    have hi : i < hidden.displays.size := (Array.getElem?_eq_some_iff.mp hd).1
    simp only [opened, Array.getElem?_push, if_neg (Nat.ne_of_lt hi), hd]
  have htidy : opened.Tidy := by
    refine horder.tidy.grow (fun _ hk => hk) ?_ (fun _ _ hk => hk) fun _ hn => .inl hn
    rintro k ⟨i, d, slot, hd, hslot, rfl⟩
    exact ⟨i, d, slot, hkept i d hd, hslot, rfl⟩
  have hfollows : Follows nobody nobody hidden opened :=
    { Follows.refl hidden with shows := fun k hk => .inl (hshows k hk) }
  have htakes : Takes [] s opened :=
    ((Takes.refl s).follow (.still hstill)).follow hfollows
  have hnone : ∀ P : NodeId → Prop, ∀ k ∈ ([] : List NodeId), P k := fun _ _ hk => by cases hk
  exact h.step (h.tied.createDisplay renderer queue hideCursor) htidy htakes (hnone _) (hnone _)

section Showing
variable {i : DisplayId} {display : Display} {f : Display → Display}

theorem Follows.modifyDisplay {taken made : NodeId → Prop} (hdisplay : s.displays[i]? = some display)
    (hchild : ∀ slot ∈ (f display).child, taken slot.node) :
    Follows taken made s (s.modifyDisplay i f) :=
  { Follows.refl s with
    shows := by
      rintro k ⟨j, d, slot, hd, hslot, rfl⟩
      rw [getElem?_modifyDisplay] at hd
      split at hd
      · next hij =>
        subst hij
        rw [hdisplay] at hd
        obtain rfl := Option.some.inj hd
        exact .inr (hchild slot hslot)
      · exact .inl ⟨j, d, slot, hd, hslot, rfl⟩ }

/-- A display changes and leaves the child it had. -/
theorem InOrder.reshow (h : s.InOrder) (f : Display → Display) {child : Option NodeId}
    (hlt : ∀ k ∈ child.toList, k < s.nodes.size) (hfree : ∀ k ∈ child.toList, ¬s.Backs k)
    (hdisplay : s.displays[i]? = some display) (hchild : (f display).child = (s.attach i child).2)
    (hrests : (f display).repaint.disposed = true → (f display).child = none) :
    let s' := (((s.attach i child).1.modifyDisplay i f).leaveAll display.child.toList).sweep
    s'.InOrder ∧ Onward s s' := by
  intro s'
  have htied : s'.Tied := h.tied.reshow f hlt hdisplay hchild hrests
  obtain ⟨hslot, hedits, _⟩ := attach_spec h.linked i (fun n hn => hlt n (Option.mem_toList.mpr hn))
  have hattach : Follows (fun k => k ∈ child.toList ∨ s.nodes.size ≤ k) nobody s
      (s.attach i child).1 := by
    cases child with
    | none => exact .refl s
    | some n => exact .subscribe s n _
  let shown := (s.attach i child).1.modifyDisplay i f
  have hdisplay₁ : (s.attach i child).1.displays[i]? = some display := by rwa [hedits.displays]
  have hfollows := hattach.trans (Follows.modifyDisplay hdisplay₁ fun slot hnew => by
    rw [hchild] at hnew
    have hnode : slot.node ∈ child := hslot ▸ Option.mem_map_of_mem _ hnew
    exact .inl (Option.mem_toList.mpr hnode))
  have htakes : Takes child.toList s s' :=
    (Takes.of_follows hfollows).follow ((Follows.leaveAll shown _).sweep)
  exact h.step htied (tidy_sweep _) htakes hlt hfree

end Showing

theorem InOrder.setDisplayChild (h : s.InOrder) (i : DisplayId) {child : Option NodeId}
    (hlt : ∀ k ∈ child.toList, k < s.nodes.size) (hfree : ∀ k ∈ child.toList, ¬s.Backs k) :
    (s.setDisplayChild i child).InOrder ∧ Onward s (s.setDisplayChild i child) := by
  rcases setDisplayChild_cases s i child with ⟨_, heq⟩ | ⟨d, hd, hlive, heq⟩
  · rw [heq]
    exact h.still (.refl s)
  · rw [heq]
    refine h.reshow (fun display => { display with child := (s.attach i child).2 }) hlt hfree hd rfl
      fun hdisposed => ?_
    rw [hlive] at hdisposed
    cases hdisposed

theorem InOrder.dispose (h : s.InOrder) (i : DisplayId) :
    (s.dispose i).InOrder ∧ Onward s (s.dispose i) := by
  rcases dispose_cases s i with ⟨_, heq⟩ | ⟨d, hd, _, heq⟩
  · rw [heq]
    exact h.still (.refl s)
  · rw [heq]
    have hnone : ∀ P : NodeId → Prop, ∀ k ∈ (none : Option NodeId).toList, P k :=
      fun _ _ hk => by cases hk
    obtain ⟨horder, honward⟩ := h.reshow
      (fun display => { display with child := none, repaint := display.repaint.dispose }) (hnone _)
      (hnone _) hd rfl fun _ => rfl
    obtain ⟨horder', honward'⟩ := horder.still (still_attempt _ .showCursor)
    exact ⟨horder', honward.trans h honward'⟩

/-! ### Feeds and counters -/

theorem InOrder.setSpan (h : s.InOrder) (n : NodeId) (span : Span) :
    (s.setSpan n span).InOrder ∧ Onward s (s.setSpan n span) := by
  have hnone : ∀ P : NodeId → Prop, ∀ k ∈ ([] : List NodeId), P k := fun _ _ hk => by cases hk
  exact h.step (h.tied.change (c := .setSpan n span) trivial) (tidy_setSpan h.tidy n span)
    (Takes.of_follows (setSpan_follows n span)) (hnone _) (hnone _)

/-- A node that is bound to a feed holds what it held. -/
theorem InOrder.bindFeed (h : s.InOrder) (n : NodeId) :
    (s.bindFeed n).1.InOrder ∧ Onward s (s.bindFeed n).1 := by
  let counted : Scene := { s with feeds := s.feeds + 1 }
  have hnone : ∀ P : NodeId → Prop, ∀ k ∈ ([] : List NodeId), P k := fun _ _ hk => by cases hk
  have hcounted : counted.Tidy := h.tidy
  have hsame : Follows (fun k => k ∈ [] ∨ s.nodes.size ≤ k) nobody s counted :=
    { Follows.refl s with }
  have hbound : (s.bindFeed n).1.Tidy ∧ Takes [] s (s.bindFeed n).1 := by
    cases hbody : counted.body n with
    | content span feed =>
      have hset : (counted.setBody n (.content span (some s.feeds))).Tidy :=
        hcounted.setBody (by simp [hbody]) fun k hk => by
          rw [hbody] at hk
          cases hk
      have hfollows : Follows (fun k => k ∈ [] ∨ s.nodes.size ≤ k) nobody counted
          (counted.setBody n (.content span (some s.feeds))) :=
        .setBody (by simp [hbody]) (fun _ hk => by cases hk) fun _ heq => by cases heq
      simp only [Scene.bindFeed, counted, hbody]
      exact ⟨hset, .of_follows (hsame.trans hfollows)⟩
    | _ =>
      simp only [Scene.bindFeed, counted, hbody]
      exact ⟨hcounted, .of_follows hsame⟩
  exact h.step (h.tied.bindFeed n) hbound.1 hbound.2 (hnone _) (hnone _)

/-- A counter that is taken off was in no place. -/
theorem InOrder.unwatch (h : s.InOrder) {n : NodeId} {id : Nat}
    (hid : (Deed.unwatch n id).Possible s) :
    (s.unsubscribe n id).1.InOrder ∧ Onward s (s.unsubscribe n id).1 := by
  let slot : Slot := ⟨n, id⟩
  have hnone : ∀ P : NodeId → Prop, ∀ k ∈ ([] : List NodeId), P k := fun _ _ hk => by cases hk
  have htidy : (s.leave slot).Tidy :=
    h.tidy.grow (fun _ hk => hk) (fun _ hk => hk) (fun m _ hk => (body_leave s slot m).symm ▸ hk)
      fun m hm => .inl (body_leave s slot m ▸ hm)
  exact h.step (h.tied.unwatch hid) htidy (Takes.of_follows (.leave s slot)) (hnone _) (hnone _)

/-! ### Deeds in turn -/

/-- **A deed leaves a scene in order.** -/
theorem InOrder.deed (h : s.InOrder) {d : Deed} (hd : d.Valid s) :
    (s.deed d).InOrder ∧ Onward s (s.deed d) := by
  cases d with
  | change c => exact h.change hd
  | probe p => exact h.createProbe p
  | notify n => exact h.still (still_raise s n)
  | queue => exact h.still (still_createQueue s)
  | screen renderer queue hideCursor => exact h.createDisplay renderer queue hideCursor
  | display i child => exact h.setDisplayChild i hd.lt_size hd.not_backs
  | refresh i => exact h.still (still_refresh s i)
  | dispose i => exact h.dispose i
  | runNext q => exact h.still (still_runNext s q)
  | runPending q => exact h.still (still_runPending s q)
  | render renderer n region => exact h.still (still_nodeBox s renderer n region)
  | unwatch n id => exact h.unwatch hd.possible
  | bind n => exact h.bindFeed n
  | feed feed span =>
    show (s.feed feed span).1.InOrder ∧ Onward s (s.feed feed span).1
    rw [feed_eq]
    cases s.fedBy? feed with
    | none => exact h.still (.refl s)
    | some n => exact h.setSpan n span
  | late i => exact h.still (still_requestRepaint (still_raiseWithin _) i s)

theorem InOrder.deeds (ds : List Deed) (h : s.InOrder) (hds : s.Permits ds) :
    (s.deeds ds).InOrder ∧ Onward s (s.deeds ds) := by
  induction ds generalizing s with
  | nil => exact h.still (.refl s)
  | cons d rest ih =>
    obtain ⟨hd, hrest⟩ := hds
    obtain ⟨horder, honward⟩ := h.deed hd
    obtain ⟨horder', honward'⟩ := ih horder hrest
    exact ⟨horder', honward.trans h honward'⟩

theorem InOrder.moves (ms : List Move) (h : s.InOrder) (hms : s.Permits (s.run ms)) :
    (s.moves ms).InOrder ∧ Onward s (s.moves ms) := by
  rw [moves_eq_deeds]
  exact h.deeds _ hms

theorem inOrder_bare (t : Terminal) : (bare t).InOrder := by
  have hbacks : ∀ g, ¬(bare t).Backs g := by
    rintro g ⟨n, table, htable, _⟩
    rw [body_bare] at htable
    cases htable
  obtain ⟨hlinked, hfit, hrests⟩ := tied_bare t
  refine ⟨⟨hlinked, hfit,
    ⟨fun g hg => ?_, fun g hg => ?_, fun g hg => ?_, fun n n' u u' hu => ?_⟩, fun k hk => ?_, hrests⟩,
    fun n hn => ?_⟩
  · exact (hbacks g hg).elim
  · exact (hbacks g hg).elim
  · exact (hbacks g hg).elim
  · rw [body_bare] at hu
    cases hu
  · cases hk
  · exact (hn (body_bare t n)).elim

/-! ### Counting listeners -/

/-- How often a listener listens to a node. -/
def listening (s : Scene) (l : Listener) (m : NodeId) : Nat :=
  (s.notifier m).listeners.countP fun x => x.2 == l

/-- Where subscriptions are those of the places, a listener listens to a node once for each of its places
that holds the node. -/
theorem listening_eq (h : s.Linked nothing) {l : Listener} (hl : l.isPlace) (m : NodeId) :
    s.listening l m = (s.places l).countP (·.node == m) := by
  let subscriptions := ((s.notifier m).listeners.filter fun x => x.2 == l).map Prod.fst
  have hnodup : (subscriptions.map (Slot.mk m)).Nodup := by
    have hids : subscriptions.Nodup := (h.ids m).sublist (List.filter_sublist.map Prod.fst)
    exact hids.map fun a b hab => (Slot.mk.inj hab).2
  have hplaces : ((s.places l).filter (·.node == m)).Nodup := (h.nodup l).filter _
  have hmem : ∀ slot, slot ∈ subscriptions.map (Slot.mk m) ↔ slot ∈ (s.places l).filter (·.node == m) := by
    intro slot
    have hlistens := h.listens l hl slot
    rw [List.mem_filter, beq_iff_eq]
    constructor
    · intro hslot
      obtain ⟨id, hid, rfl⟩ := List.mem_map.mp hslot
      obtain ⟨⟨id', l'⟩, hfiltered, rfl⟩ := List.mem_map.mp hid
      obtain ⟨hlistening, hl'⟩ := List.mem_filter.mp hfiltered
      obtain rfl : l' = l := beq_iff_eq.mp hl'
      exact ⟨hlistens.mp hlistening, rfl⟩
    · rintro ⟨hslot, rfl⟩
      refine List.mem_map.mpr ⟨slot.subscription, List.mem_map.mpr ⟨(slot.subscription, l), ?_, rfl⟩, rfl⟩
      exact List.mem_filter.mpr ⟨hlistens.mpr hslot, beq_self_eq_true l⟩
  have hlength := ((List.perm_ext_iff_of_nodup hnodup hplaces).mpr hmem).length_eq
  rw [List.length_map, List.length_map, ← List.countP_eq_length_filter,
    ← List.countP_eq_length_filter] at hlength
  exact hlength

end

/-- The node that a display shows. -/
def shown (s : Scene) (i : DisplayId) : Option NodeId :=
  ((s.displays[i]?).bind (·.child)).map (·.node)

/-- The node of the grid of a table. -/
def grid? (s : Scene) (n : NodeId) : Option NodeId :=
  match s.body n with
  | .table t => some t.grid.node
  | _ => none

theorem grid?_eq_some {s : Scene} {n g : NodeId} :
    s.grid? n = some g ↔ ∃ t, s.body n = .table t ∧ t.grid.node = g := by
  unfold grid?
  cases s.body n with
  | table t => simp
  | _ => simp

theorem InOrder.listening_forward {s : Scene} (h : s.InOrder) (n m : NodeId) :
    s.listening (.forward n) m = (s.slots n).countP (·.node == m) := listening_eq h.linked rfl m

theorem InOrder.listening_display {s : Scene} (h : s.InOrder) (i : DisplayId) (m : NodeId) :
    s.listening (.display i) m = if s.shown i = some m then 1 else 0 := by
  rw [listening_eq h.linked rfl m, places, shown]
  cases (s.displays[i]?).bind (·.child) with
  | none => rfl
  | some slot => simp [List.countP_cons]

/-- What is gone listens to nothing. -/
theorem InOrder.listening_gone {s : Scene} (h : s.InOrder) {n : NodeId} (hgone : s.body n = .gone)
    (m : NodeId) : s.listening (.forward n) m = 0 := by
  rw [h.listening_forward, slots, hgone]
  rfl

/-- **A container listens to a node once for each place that the node has in it.** After any moves, as
long as the grid of a table is held by that table alone: a node listens to another one as often as it
holds that one, and a display to the one it shows; what nothing holds and what was disposed of listens
to nothing; and neither does a grid that a table once had and no longer has. -/
theorem moves_listen (t : Terminal) (ms : List Move) (hms : (bare t).Permits ((bare t).run ms)) :
    let s := (bare t).moves ms
    (∀ n m, s.listening (.forward n) m = (s.slots n).countP (·.node == m)) ∧
      (∀ i m, s.listening (.display i) m = if s.shown i = some m then 1 else 0) ∧
      (∀ n, n ∉ s.owned → ∀ m, s.listening (.forward n) m = 0) ∧
      (∀ (i : DisplayId) (d : Display), s.displays[i]? = some d → d.repaint.disposed = true →
        ∀ m, s.listening (.display i) m = 0) ∧
      ∀ before after, ms = before ++ after → ∀ n g, ((bare t).moves before).grid? n = some g →
        s.grid? n ≠ some g → ∀ m, s.listening (.forward g) m = 0 := by
  intro s
  have h : s.InOrder := ((inOrder_bare t).moves ms hms).1
  refine ⟨h.listening_forward, h.listening_display, fun n hfree m => ?_, fun i d hd hdisposed m => ?_, ?_⟩
  · have hgone : s.body n = .gone := by
      by_contra halive
      exact hfree (h.tidy n halive)
    exact h.listening_gone hgone m
  · have hshown : s.shown i = none := by
      rw [shown, hd, Option.bind_some, h.rests i d hd hdisposed]
      rfl
    rw [h.listening_display, hshown, if_neg (by simp)]
  · rintro before after rfl n g hgrid hother m
    obtain ⟨table, htable, rfl⟩ := grid?_eq_some.mp hgrid
    rw [run_append, permits_append, ← moves_eq_deeds] at hms
    obtain ⟨hbefore, hafter⟩ := hms
    obtain ⟨hstart, _⟩ := (inOrder_bare t).moves before hbefore
    obtain ⟨_, honward⟩ := hstart.moves after hafter
    rw [← moves_append] at honward
    rcases honward.table n table htable with ⟨table', htable', hsame⟩ | hgone
    · exact (hother (grid?_eq_some.mpr ⟨table', htable', by rw [hsame]⟩)).elim
    · exact h.listening_gone hgone m

theorem backs_iff {s : Scene} {g : NodeId} : s.Backs g ↔ ∃ n < s.nodes.size, s.grid? n = some g := by
  constructor
  · rintro ⟨n, t, ht, rfl⟩
    exact ⟨n, lt_size_of_body ht (by simp), grid?_eq_some.mpr ⟨t, ht, rfl⟩⟩
  · rintro ⟨n, _, hn⟩
    obtain ⟨t, ht, hg⟩ := grid?_eq_some.mp hn
    exact ⟨n, t, ht, hg⟩

instance (s : Scene) (g : NodeId) : Decidable (s.Backs g) := decidable_of_iff _ backs_iff.symm

instance (s : Scene) (g : NodeId) : Decidable (s.Sole g) :=
  inferInstanceAs (Decidable (g ∈ s.held ∧ s.owned.count g = 1))

theorem valid_iff {s : Scene} {d : Deed} :
    d.Valid s ↔ d.Possible s ∧ (∀ k ∈ d.given, k < s.nodes.size ∧ ¬s.Backs k) ∧
      ∀ g ∈ d.grid?, s.Sole g ∧ g ∉ d.given :=
  ⟨fun h => ⟨h.possible, fun k hk => ⟨h.lt_size k hk, h.not_backs k hk⟩, h.sole⟩,
    fun h => ⟨h.1, fun k hk => (h.2.1 k hk).1, fun k hk => (h.2.1 k hk).2, h.2.2⟩⟩

instance (s : Scene) (d : Deed) : Decidable (d.Valid s) := decidable_of_iff _ valid_iff.symm

instance decidablePermits (s : Scene) (ds : List Deed) : Decidable (s.Permits ds) :=
  match ds with
  | [] => .isTrue trivial
  | d :: rest =>
    let _ := decidablePermits (s.deed d) rest
    inferInstanceAs (Decidable (d.Valid s ∧ (s.deed d).Permits rest))

/-- A table with a header gets items, is shown by a display, and the display is disposed of. -/
def tableMoves : List Move :=
  [.deed (.change (.content (.ofText "a"))), .deed (.change (.table 1)),
    .table .fields 2 (.addColumn { header := 0, factory := 0 }),
    .table .fields 2 (.setItems [["b"], ["c"]]), .deed (.screen { mode := .ansi } none true),
    .deed (.display 0 (some 2)), .deed (.dispose 0)]

/-- The header of the table is listened to by the third grid that the table has had, and by no other;
the grid is listened to by the table, and the table by nothing. -/
theorem moves_listen_table :
    let s := (bare { size := ⟨4, 2⟩ }).moves tableMoves
    s.grid? 2 = some 4 ∧ s.listening (.forward 4) 0 = 1 ∧ s.listening (.forward 2) 4 = 1 ∧
      s.listening (.forward 1) 0 = 0 ∧ s.listening (.forward 3) 0 = 0 ∧
      s.listening (.display 0) 2 = 0 := by
  intro s
  obtain ⟨hforward, hdisplay, hfree, hdisposed, htables⟩ :=
    moves_listen { size := ⟨4, 2⟩ } tableMoves (by decide +kernel)
  refine ⟨by decide +kernel, ?_, ?_, hfree 1 (by decide +kernel) 0, ?_, ?_⟩
  · rw [hforward]
    decide +kernel
  · rw [hforward]
    decide +kernel
  · have hsplit : tableMoves = tableMoves.take 3 ++ tableMoves.drop 3 :=
      (List.take_append_drop 3 tableMoves).symm
    exact htables _ _ hsplit 2 3 (by decide +kernel) (by decide +kernel) 0
  · rw [hdisplay]
    decide +kernel

end Scene

end TextPane
