import Mathlib.Data.List.Nodup
import TextPane.View.Notifier

/-! What becomes of a list of listeners.

However subscribing and unsubscribing follow each other, what comes of a notifier is told by what was added
and what was removed (`Notifier.Became`): the listeners there were and those added, in this order, without
those removed. The numbers given are the next ones, so they increase along the list and none is given twice
(`Numbered.became`), and none is removed twice, as what was removed is not there and does not come back
(`Became.trans`). -/
namespace TextPane.Notifier
variable {α : Type}

/-- The numbers of the listeners increase, up to the next one to be given. -/
structure Numbered (s : Notifier α) : Prop where
  increasing : s.listeners.Pairwise (·.1 < ·.1)
  below : ∀ l ∈ s.listeners, l.1 < s.next

/-- What a notifier became when listeners joined it and listeners left it. -/
structure Became (s : Notifier α) (joined : List (Nat × α)) (left : List Nat) (s' : Notifier α) : Prop where
  /-- The numbers of those that joined, from the next one on. -/
  numbers : joined.map (·.1) = List.range' s.next joined.length
  next : s'.next = s.next + joined.length
  listeners : s'.listeners = (s.listeners ++ joined).filter (·.1 ∉ left)
  /-- Who left was there. -/
  known : left ⊆ (s.listeners ++ joined).map (·.1)
  once : left.Nodup

theorem numbered_empty : Numbered ({} : Notifier α) := ⟨.nil, fun _ h => absurd h List.not_mem_nil⟩

/-! ### One change -/

section
variable {s s' s'' : Notifier α} {joined joined' : List (Nat × α)} {left left' : List Nat}

/-- Where nobody left, all stay. -/
theorem filter_none_left (listeners : List (Nat × α)) : listeners.filter (·.1 ∉ []) = listeners :=
  List.filter_eq_self.mpr fun _ _ => decide_eq_true List.not_mem_nil

theorem became_same (s : Notifier α) : Became s [] [] s :=
  ⟨rfl, rfl, by rw [filter_none_left, List.append_nil], List.nil_subset _, .nil⟩

theorem became_subscribe (s : Notifier α) (l : α) : Became s [(s.next, l)] [] (s.subscribe l).1 :=
  ⟨rfl, rfl, (filter_none_left _).symm, List.nil_subset _, .nil⟩

/-- The listener was there when unsubscribing says so. -/
theorem became_unsubscribe {id : Nat} (h : (s.unsubscribe id).2 = true) :
    Became s [] [id] (s.unsubscribe id).1 := by
  obtain ⟨l, hl, hid⟩ := List.any_eq_true.mp h
  refine ⟨rfl, rfl, ?_, ?_, List.nodup_singleton id⟩
  · rw [List.append_nil]
    exact List.filter_congr fun l _ => by simp [bne, Bool.beq_eq_decide_eq]
  · rw [List.append_nil]
    exact fun _ hmem => List.mem_singleton.mp hmem ▸ List.mem_map.mpr ⟨l, hl, beq_iff_eq.mp hid⟩

/-- Unsubscribing a number that is not there changes nothing. -/
theorem unsubscribe_unknown {id : Nat} (h : (s.unsubscribe id).2 = false) : (s.unsubscribe id).1 = s := by
  have hother : ∀ l ∈ s.listeners, (l.1 != id) = true := by
    intro l hl
    simpa using List.any_eq_false.mp h l hl
  show { s with listeners := s.listeners.filter (·.1 != id) } = s
  rw [List.filter_eq_self.mpr hother]

/-- Unsubscribing takes one listener away when it says so, and none otherwise. -/
theorem Numbered.count_unsubscribe (h : s.Numbered) (id : Nat) :
    (s.unsubscribe id).1.count + (s.unsubscribe id).2.toNat = s.count := by
  obtain ⟨next, listeners⟩ := s
  obtain ⟨hincreasing, -⟩ := h
  show (listeners.filter (·.1 != id)).length + (listeners.any (·.1 == id)).toNat = listeners.length
  induction listeners with
  | nil => rfl
  | cons l rest ih =>
    obtain ⟨hfirst, hrest⟩ := List.pairwise_cons.mp hincreasing
    by_cases hid : l.1 = id
    · have hkept : rest.filter (·.1 != id) = rest :=
        List.filter_eq_self.mpr fun l' hl' => bne_iff_ne.mpr (hid ▸ Nat.ne_of_gt (hfirst l' hl'))
      simp [hid, hkept]
    · have hothers := ih hrest
      simp only [List.filter_cons, List.any_cons, bne_iff_ne, ne_eq, hid, not_false_eq_true, if_true,
        List.length_cons, beq_eq_false_iff_ne.mpr hid, Bool.false_or]
      omega

/-! ### Changes in turn -/

/-- The numbers of those that joined are new. -/
theorem Became.new (h : Became s joined left s') : ∀ l ∈ joined, s.next ≤ l.1 ∧ l.1 < s'.next := by
  intro l hl
  have hnumber : l.1 ∈ List.range' s.next joined.length := h.numbers ▸ List.mem_map.mpr ⟨l, hl, rfl⟩
  obtain ⟨hfirst, hlast⟩ := List.mem_range'_1.mp hnumber
  exact ⟨hfirst, h.next ▸ hlast⟩

/-- Numbers still increase, whoever joined and left. -/
theorem Numbered.became (hs : s.Numbered) (h : Became s joined left s') : s'.Numbered := by
  have hnew : joined.Pairwise (·.1 < ·.1) := by
    have hrange := List.pairwise_lt_range' (s := s.next) (n := joined.length)
    rw [← h.numbers] at hrange
    exact List.pairwise_map.mp hrange
  have hall : (s.listeners ++ joined).Pairwise (·.1 < ·.1) :=
    List.pairwise_append.mpr ⟨hs.increasing, hnew, fun l hl l' hl' =>
      Nat.lt_of_lt_of_le (hs.below l hl) (h.new l' hl').1⟩
  refine ⟨h.listeners ▸ hall.filter _, fun l hl => ?_⟩
  rw [h.listeners] at hl
  rcases List.mem_append.mp (List.mem_filter.mp hl).1 with hl | hl
  · exact Nat.lt_of_lt_of_le (hs.below l hl) (h.next ▸ Nat.le_add_right ..)
  · exact (h.new l hl).2

/-- Changes in turn are changes: who left before is not there to leave again, and the numbers of those that
join later are others. -/
theorem Became.trans (hs : s.Numbered) (h : Became s joined left s') (h' : Became s' joined' left' s'') :
    Became s (joined ++ joined') (left ++ left') s'' := by
  have hbelow : ∀ id ∈ left, id < s'.next := by
    intro id hid
    obtain ⟨l, hl, rfl⟩ := List.mem_map.mp (h.known hid)
    rcases List.mem_append.mp hl with hl | hl
    · exact Nat.lt_of_lt_of_le (hs.below l hl) (h.next ▸ Nat.le_add_right ..)
    · exact (h.new l hl).2
  have hlater : ∀ l ∈ joined', l.1 ∉ left := fun l hl hleft =>
    Nat.not_lt.mpr (h'.new l hl).1 (hbelow l.1 hleft)
  have hknown : ∀ id ∈ left', id ∈ (s.listeners ++ (joined ++ joined')).map (·.1) ∧ id ∉ left := by
    intro id hid
    obtain ⟨l, hl, rfl⟩ := List.mem_map.mp (h'.known hid)
    rw [h.listeners] at hl
    rcases List.mem_append.mp hl with hl | hl
    · obtain ⟨hl, hstays⟩ := List.mem_filter.mp hl
      rw [← List.append_assoc]
      exact ⟨List.mem_map.mpr ⟨l, List.mem_append_left _ hl, rfl⟩, of_decide_eq_true hstays⟩
    · rw [← List.append_assoc]
      exact ⟨List.mem_map.mpr ⟨l, List.mem_append_right _ hl, rfl⟩, hlater l hl⟩
  refine ⟨?_, ?_, ?_, ?_, ?_⟩
  · rw [List.map_append, h.numbers, h'.numbers, h.next, List.length_append, List.range'_append_1]
  · rw [h'.next, h.next, List.length_append, Nat.add_assoc]
  · have hkept : joined'.filter (·.1 ∉ left) = joined' :=
      List.filter_eq_self.mpr fun l hl => decide_eq_true (hlater l hl)
    calc s''.listeners
      _ = (s'.listeners ++ joined').filter (·.1 ∉ left') := h'.listeners
      _ = ((s.listeners ++ joined ++ joined').filter (·.1 ∉ left)).filter (·.1 ∉ left') := by
        rw [h.listeners, List.filter_append (s.listeners ++ joined), hkept]
      _ = (s.listeners ++ (joined ++ joined')).filter (·.1 ∉ left ++ left') := by
        rw [List.filter_filter, List.append_assoc]
        exact List.filter_congr fun l _ => by simp [Bool.and_comm]
  · refine List.append_subset.mpr ⟨fun id hid => ?_, fun id hid => (hknown id hid).1⟩
    rw [← List.append_assoc, List.map_append]
    exact List.mem_append_left _ (h.known hid)
  · exact List.nodup_append'.mpr ⟨h.once, h'.once, fun id hid hid' => (hknown id hid').2 hid⟩

end

end TextPane.Notifier
