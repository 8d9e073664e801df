import Mathlib.Data.Finset.Card
import TextPane.Proofs.Scene.Still

/-! Who holds what.

A node lives as long as something holds it: nothing that lives is left over once a sweep is through
(`tidy_sweep`), and a change that takes nothing away leaves nothing over either. The grid of a table is
made for the table, which lets it go when it makes another: as long as nobody else takes such a grid up,
it belongs to its table alone (`Closed`), whatever else is taken up (`Follows`). -/
namespace TextPane

/-- The nodes that a node keeps alive, but for the grid of a table. -/
def Body.lasting : Body → List NodeId
  | .table t => t.columns.map (·.header)
  | b => b.slots.map (·.node)

theorem Body.mem_keeps_of_lasting {b : Body} {k : NodeId} (h : k ∈ b.lasting) : k ∈ b.keeps := by
  cases b with
  | table t => exact List.mem_cons_of_mem _ h
  | _ => exact h

/-- What a node keeps alive lasts, or is the grid of a table. -/
theorem Body.lasting_or_grid {b : Body} {k : NodeId} (h : k ∈ b.keeps) :
    k ∈ b.lasting ∨ ∃ t, b = .table t ∧ t.grid.node = k := by
  cases b with
  | table t =>
    rcases List.mem_cons.mp h with rfl | h
    · exact .inr ⟨t, rfl, rfl⟩
    · exact .inl h
  | _ => exact .inl h

namespace Scene

/-! ### What lives is held -/

/-- Something holds all that lives. -/
def Tidy (s : Scene) : Prop := ∀ n, s.body n ≠ .gone → n ∈ s.owned

theorem mem_owned {s : Scene} {n : NodeId} :
    n ∈ s.owned ↔ n ∈ s.held ∨ s.Shows n ∨ ∃ m, n ∈ (s.body m).keeps := by
  constructor
  · intro h
    rcases List.mem_append.mp h with h | hkept
    · rcases List.mem_append.mp h with hheld | hshown
      · exact .inl hheld
      · obtain ⟨slot, hslot, rfl⟩ := List.mem_map.mp hshown
        obtain ⟨display, hdisplay, hchild⟩ := List.mem_filterMap.mp hslot
        obtain ⟨i, hi⟩ := List.mem_iff_getElem?.mp hdisplay
        rw [Array.getElem?_toList] at hi
        exact .inr (.inl ⟨i, display, slot, hi, hchild, rfl⟩)
    · obtain ⟨node, hnode, hn⟩ := List.mem_flatMap.mp hkept
      obtain ⟨m, hm⟩ := List.mem_iff_getElem?.mp hnode
      rw [Array.getElem?_toList] at hm
      refine .inr (.inr ⟨m, ?_⟩)
      rw [body, Scene.node, hm]
      exact hn
  · rintro (hheld | hshown | ⟨m, hm⟩)
    · exact List.mem_append_left _ (List.mem_append_left _ hheld)
    · exact mem_owned_of_contains hshown .refl
    · exact mem_owned_of_keeps hm

/-- The nodes that live. -/
def living (s : Scene) : Finset NodeId := (Finset.range s.nodes.size).filter fun n => s.isAlive n

theorem mem_living {s : Scene} {n : NodeId} : n ∈ s.living ↔ s.body n ≠ .gone := by
  rw [living, Finset.mem_filter, Finset.mem_range, isAlive_iff, and_iff_right_iff_imp]
  intro halive
  by_contra hn
  exact halive (body_of_size_le (Nat.not_lt.mp hn))

/-- What was released is gone, and what was gone stays so. -/
theorem gone_releases (ns : List NodeId) {s : Scene} {m : NodeId} (h : m ∈ ns ∨ s.body m = .gone) :
    (ns.foldl release s).body m = .gone := by
  induction ns generalizing s with
  | nil => exact h.resolve_left List.not_mem_nil
  | cons n rest ih =>
    apply ih
    rw [body_release]
    rcases h with h | hgone
    · rcases List.mem_cons.mp h with rfl | h
      · right
        split
        · rfl
        · next hm => exact body_of_size_le (Nat.not_lt.mp fun hlt => hm ⟨rfl, hlt⟩)
      · exact .inl h
    · right
      split
      · rfl
      · exact hgone

/-- A round of a sweep that finds something to release leaves fewer nodes alive. -/
theorem living_releases {s : Scene} (h : s.orphans ≠ []) :
    (s.orphans.foldl release s).living ⊂ s.living := by
  obtain ⟨n, hn⟩ := List.exists_mem_of_ne_nil _ h
  rw [Finset.ssubset_iff_of_subset]
  · refine ⟨n, mem_living.mpr (mem_orphans.mp hn).1, ?_⟩
    rw [mem_living, not_not]
    exact gone_releases _ (.inl hn)
  · intro m hm
    rw [mem_living] at hm ⊢
    exact fun hgone => hm (gone_releases _ (.inr hgone))

theorem orphans_sweepRounds (rounds : Nat) {s : Scene} (h : s.living.card ≤ rounds) :
    (sweepRounds rounds s).orphans = [] := by
  induction rounds generalizing s with
  | zero =>
    have hnone : s.living = ∅ := Finset.card_eq_zero.mp (Nat.le_zero.mp h)
    refine List.eq_nil_iff_forall_not_mem.mpr fun n hn => ?_
    have hliving : n ∈ s.living := mem_living.mpr (mem_orphans.mp hn).1
    rw [hnone] at hliving
    exact Finset.notMem_empty n hliving
  | succ rounds ih =>
    unfold sweepRounds
    split
    · next hnone => exact hnone
    · next orphans hsome =>
      apply ih
      have hless := Finset.card_lt_card (living_releases hsome)
      omega

/-- **A sweep leaves nothing over** that lives and is held by nothing. -/
theorem tidy_sweep (s : Scene) : s.sweep.Tidy := by
  intro n halive
  by_contra hfree
  have hcard : s.living.card ≤ s.nodes.size :=
    (Finset.card_filter_le _ _).trans (Nat.le_of_eq (Finset.card_range _))
  have hnone : s.sweep.orphans = [] := orphans_sweepRounds _ hcard
  have horphan : n ∈ s.sweep.orphans := mem_orphans.mpr ⟨halive, hfree⟩
  rw [hnone] at horphan
  cases horphan

/-- Where nothing is taken away and all that is new is held, nothing is left over. -/
theorem Tidy.grow {s s' : Scene} (h : s.Tidy) (hheld : ∀ n ∈ s.held, n ∈ s'.held)
    (hshows : ∀ n, s.Shows n → s'.Shows n)
    (hkeeps : ∀ m, ∀ n ∈ (s.body m).keeps, n ∈ (s'.body m).keeps)
    (hnew : ∀ n, s'.body n ≠ .gone → s.body n ≠ .gone ∨ n ∈ s'.owned) : s'.Tidy := by
  intro n halive
  rcases hnew n halive with hold | howned
  · rcases mem_owned.mp (h n hold) with hn | hn | ⟨m, hm⟩
    · exact mem_owned.mpr (.inl (hheld n hn))
    · exact mem_owned.mpr (.inr (.inl (hshows n hn)))
    · exact mem_owned.mpr (.inr (.inr ⟨m, hkeeps m n hm⟩))
  · exact howned

section
variable {s s' : Scene}

/-- A body takes places and gives up none. -/
theorem Tidy.setBody (h : s.Tidy) {n : NodeId} {b : Body} (halive : s.body n ≠ .gone)
    (hkeeps : ∀ k ∈ (s.body n).keeps, k ∈ b.keeps) : (s.setBody n b).Tidy := by
  refine h.grow (fun _ hk => hk) (fun _ hk => hk) (fun m k hk => ?_) fun m hm => ?_
  · rw [body_setBody]
    split
    · next heq => exact hkeeps k (heq.1 ▸ hk)
    · exact hk
  · rw [body_setBody] at hm
    split at hm
    · next heq => exact .inl (heq.1 ▸ halive)
    · exact .inl hm

theorem Tidy.subscribe (h : s.Tidy) (n : NodeId) (l : Listener) : (s.subscribe n l).1.Tidy :=
  h.grow (fun _ hk => hk) (fun _ hk => hk) (fun m _ hk => (body_subscribe s n l m).symm ▸ hk)
    fun m hm => .inl (body_subscribe s n l m ▸ hm)

/-- A node that is created is held. -/
theorem Tidy.create (h : s.Tidy) (b : Body) : (s.create b).1.Tidy := by
  have hbody (m : NodeId) : (s.create b).1.body m = if m = s.nodes.size then b else s.body m :=
    body_addNode s b m
  refine h.grow (fun _ hk => List.mem_cons_of_mem _ hk) (fun _ hk => hk) (fun m k hk => ?_)
    fun m hm => ?_
  · rw [hbody]
    split
    · next heq =>
      rw [heq, body_of_size_le (Nat.le_refl _)] at hk
      cases hk
    · exact hk
  · rw [hbody] at hm
    split at hm
    · next heq => exact .inr (mem_owned.mpr (.inl (heq ▸ List.mem_cons_self ..)))
    · exact .inl hm

theorem Still.shows (h : Still s s') {k : NodeId} : s'.Shows k ↔ s.Shows k := by
  constructor
  · rintro ⟨i, d', slot, hd', hslot, rfl⟩
    have hi : i < s.displays.size := by
      rw [← h.displays]
      exact (Array.getElem?_eq_some_iff.mp hd').1
    obtain ⟨repaint, _, hsame⟩ := h.display i _ (Array.getElem?_eq_getElem hi)
    rw [hd'] at hsame
    refine ⟨i, _, slot, Array.getElem?_eq_getElem hi, ?_, rfl⟩
    rw [← hslot, Option.some.inj hsame]
  · rintro ⟨i, d, slot, hd, hslot, rfl⟩
    obtain ⟨repaint, _, hd'⟩ := h.display i d hd
    exact ⟨i, _, slot, hd', hslot, rfl⟩

theorem Still.gone (h : Still s s') {n : NodeId} : s'.body n = .gone ↔ s.body n = .gone := by
  rcases h.body n with heq | ⟨p, p', hp, hp'⟩
  · rw [heq]
  · simp [hp, hp']

/-- An update leaves nothing over. -/
theorem Tidy.still (h : s.Tidy) (hstill : Still s s') : s'.Tidy :=
  h.grow (fun _ hk => hstill.held.symm ▸ hk) (fun _ hk => hstill.shows.mpr hk)
    (fun m _ hk => (hstill.keeps m).symm ▸ hk) fun _ hn => .inl (mt hstill.gone.mpr hn)

end

/-! ### What is taken up -/

/-- The node is the grid of a table. -/
def Backs (s : Scene) (g : NodeId) : Prop := ∃ n t, s.body n = .table t ∧ t.grid.node = g

/-- What of a scene is held comes from what was held before, or was `taken` up; the grids of tables are
those from before, or `made`; and what is gone stays so. -/
structure Follows (taken made : NodeId → Prop) (s s' : Scene) : Prop where
  size : s.nodes.size ≤ s'.nodes.size
  held : ∀ k ∈ s'.held, k ∈ s.held ∨ taken k ∧ k < s'.nodes.size
  shows : ∀ k, s'.Shows k → s.Shows k ∨ taken k
  lasting : ∀ n, ∀ k ∈ (s'.body n).lasting, k ∈ (s.body n).lasting ∨ taken k
  table : ∀ n t', s'.body n = .table t' →
    (∃ t, s.body n = .table t ∧ t'.grid = t.grid) ∨ made t'.grid.node
  gone : ∀ n < s.nodes.size, s.body n = .gone → s'.body n = .gone

/-- No node. -/
def nobody : NodeId → Prop := fun _ => False

namespace Follows
variable {taken made : NodeId → Prop} {s s' s'' : Scene}

theorem refl (s : Scene) : Follows taken made s s where
  size := Nat.le_refl _
  held _ hk := .inl hk
  shows _ hk := .inl hk
  lasting _ _ hk := .inl hk
  table _ t ht := .inl ⟨t, ht, rfl⟩
  gone _ _ h := h

theorem trans (h : Follows taken made s s') (h' : Follows taken made s' s'') :
    Follows taken made s s'' where
  size := Nat.le_trans h.size h'.size
  held k hk := by
    rcases h'.held k hk with hk | hk
    · rcases h.held k hk with hk | ⟨htaken, hlt⟩
      · exact .inl hk
      · exact .inr ⟨htaken, Nat.lt_of_lt_of_le hlt h'.size⟩
    · exact .inr hk
  shows k hk := (h'.shows k hk).elim (h.shows k) .inr
  lasting n k hk := (h'.lasting n k hk).elim (h.lasting n k) .inr
  table n t'' ht'' := by
    rcases h'.table n t'' ht'' with ⟨t', ht', hgrid'⟩ | hmade
    · rw [hgrid']
      rcases h.table n t' ht' with ⟨t, ht, hgrid⟩ | hmade
      · exact .inl ⟨t, ht, hgrid⟩
      · exact .inr hmade
    · exact .inr hmade
  gone n hn hgone := h'.gone n (Nat.lt_of_lt_of_le hn h.size) (h.gone n hn hgone)

theorem mono {taken' made' : NodeId → Prop} (h : Follows taken made s s')
    (htaken : ∀ k, taken k → taken' k) (hmade : ∀ k, made k → made' k) :
    Follows taken' made' s s' where
  size := h.size
  held k hk := (h.held k hk).imp_right fun hk => ⟨htaken k hk.1, hk.2⟩
  shows k hk := (h.shows k hk).imp_right (htaken k)
  lasting n k hk := (h.lasting n k hk).imp_right (htaken k)
  table n t ht := (h.table n t ht).imp_right (hmade _)
  gone := h.gone

/-- Bodies and displays are the same. -/
theorem of_same (hsize : s'.nodes.size = s.nodes.size) (hheld : s'.held = s.held)
    (hdisplays : s'.displays = s.displays) (hbody : ∀ n, s'.body n = s.body n) :
    Follows taken made s s' where
  size := Nat.le_of_eq hsize.symm
  held k hk := .inl (hheld ▸ hk)
  shows k hk := by
    rw [Shows, hdisplays] at hk
    exact .inl hk
  lasting n k hk := .inl (hbody n ▸ hk)
  table n t ht := .inl ⟨t, hbody n ▸ ht, rfl⟩
  gone n _ h := (hbody n).trans h

theorem subscribe (s : Scene) (n : NodeId) (l : Listener) :
    Follows taken made s (s.subscribe n l).1 :=
  of_same (size_subscribe s n l) rfl rfl (body_subscribe s n l)

theorem leave (s : Scene) (slot : Slot) : Follows taken made s (s.leave slot) :=
  of_same (size_leave s slot) rfl rfl (body_leave s slot)

theorem leaveAll (s : Scene) (slots : List Slot) : Follows taken made s (s.leaveAll slots) :=
  of_same (size_leaveAll s slots) (held_leaveAll s slots) (edits_leaveAll s slots).displays
    (body_leaveAll s slots)

/-- A node that is added holds nothing. -/
theorem addNode (s : Scene) {b : Body} (hlasting : b.lasting = []) (htable : ∀ t, b ≠ .table t) :
    Follows taken made s (s.addNode b).1 where
  size := Nat.le_of_lt (by rw [size_addNode]; exact Nat.lt_succ_self _)
  held _ hk := .inl hk
  shows _ hk := .inl hk
  lasting n k hk := by
    rw [body_addNode] at hk
    split at hk
    · rw [hlasting] at hk
      cases hk
    · exact .inl hk
  table n t ht := by
    rw [body_addNode] at ht
    split at ht
    · exact (htable t ht).elim
    · exact .inl ⟨t, ht, rfl⟩
  gone n hn hgone := by
    rw [body_addNode, if_neg (Nat.ne_of_lt hn)]
    exact hgone

/-- A node that lives gets another body. -/
theorem setBody {n : NodeId} {b : Body} (halive : s.body n ≠ .gone)
    (hlasting : ∀ k ∈ b.lasting, k ∈ (s.body n).lasting ∨ taken k)
    (htable : ∀ t', b = .table t' → (∃ t, s.body n = .table t ∧ t'.grid = t.grid) ∨ made t'.grid.node) :
    Follows taken made s (s.setBody n b) where
  size := Nat.le_of_eq (size_setBody s n b).symm
  held _ hk := .inl hk
  shows _ hk := .inl hk
  lasting m k hk := by
    rw [body_setBody] at hk
    split at hk
    · next h => exact h.1 ▸ hlasting k hk
    · exact .inl hk
  table m t ht := by
    rw [body_setBody] at ht
    split at ht
    · next h => exact h.1 ▸ htable t ht
    · exact .inl ⟨t, ht, rfl⟩
  gone m _ hgone := by
    rw [body_setBody, if_neg]
    · exact hgone
    · rintro ⟨rfl, _⟩
      exact halive hgone

theorem still (h : Still s s') : Follows taken made s s' where
  size := Nat.le_of_eq h.size.symm
  held k hk := .inl (h.held ▸ hk)
  shows k hk := .inl (h.shows.mp hk)
  lasting n k hk := by
    rcases h.body n with heq | ⟨p, p', _, hp'⟩
    · exact .inl (heq ▸ hk)
    · rw [hp'] at hk
      cases hk
  table n t ht := by
    rcases h.body n with heq | ⟨p, p', _, hp'⟩
    · exact .inl ⟨t, heq ▸ ht, rfl⟩
    · rw [hp'] at ht
      cases ht
  gone n _ hgone := h.gone.mpr hgone

theorem swept (h : Swept s s') : Follows taken made s s' where
  size := Nat.le_of_eq h.size.symm
  held k hk := .inl (h.held ▸ hk)
  shows k hk := by
    rw [Shows, h.displays] at hk
    exact .inl hk
  lasting n k hk := by
    rcases h.body n with heq | hgone
    · exact .inl (heq ▸ hk)
    · rw [hgone] at hk
      cases hk
  table n t ht := by
    rcases h.body n with heq | hgone
    · exact .inl ⟨t, heq ▸ ht, rfl⟩
    · rw [hgone] at ht
      cases ht
  gone n _ hgone := by
    rcases h.body n with heq | hgone'
    · exact heq.trans hgone
    · exact hgone'

/-- What is gone or the same, with its sweep and update. -/
theorem sweep (h : Follows taken made s s') : Follows taken made s s'.sweep :=
  h.trans (swept (swept_sweep s'))

theorem raise (h : Follows taken made s s') (n : NodeId) : Follows taken made s (s'.raise n) :=
  h.trans (still (still_raise s' n))

end Follows

end Scene

end TextPane
