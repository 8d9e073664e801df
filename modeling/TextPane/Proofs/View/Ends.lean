import Mathlib.Tactic.Choose
import TextPane.View.Grid

/-! What sizing tracks ends with.

Work ends with values of a property when the proof of it can be had along with the value (`Ends`), whatever
else the work does. What comes after it may then take the property for granted (`Ends.congr`), and what work
done in turn ends with follows from its parts (`Ends.bind`).

So whatever the contents of tracks do when they are asked what they need, and whatever they answer, the
tracks take no more than there is (`Track.ends_solve`), and the columns and rows of a grid fit
(`Grid.ends_layout`). -/
namespace TextPane

/-- Work ends with a value of this property. -/
def Ends {m : Type → Type} [Monad m] {α : Type} (P : α → Prop) (x : m α) : Prop :=
  ∃ proved : m { a // P a }, Subtype.val <$> proved = x

section
variable {m : Type → Type} [Monad m] {α β : Type} {P P' : α → Prop} {Q : β → Prop} {x y : m α}

theorem Ends.ite {c : Prop} [Decidable c] (hx : c → Ends P x) (hy : ¬c → Ends P y) :
    Ends P (if c then x else y) := by
  split
  · next h => exact hx h
  · next h => exact hy h

variable [LawfulMonad m]

theorem ends_pure {a : α} (h : P a) : Ends P (pure a : m α) := ⟨pure ⟨a, h⟩, map_pure ..⟩

theorem ends_any (x : m α) : Ends (fun _ => True) x :=
  ⟨(fun a => ⟨a, trivial⟩) <$> x, by rw [← comp_map]; exact id_map x⟩

theorem Ends.bind {f : α → m β} (h : Ends P x) (hf : ∀ a, P a → Ends Q (f a)) : Ends Q (x >>= f) := by
  obtain ⟨proved, rfl⟩ := h
  choose next hnext using hf
  refine ⟨proved >>= fun a => next a.1 a.2, ?_⟩
  rw [map_bind, bind_map_left]
  exact bind_congr fun a => hnext a.1 a.2

theorem Ends.mono (h : Ends P x) (hP : ∀ a, P a → P' a) : Ends P' x := by
  obtain ⟨proved, rfl⟩ := h
  refine ⟨(fun a => ⟨a.1, hP a.1 a.2⟩) <$> proved, ?_⟩
  rw [← comp_map]
  rfl

theorem Ends.lift (h : Ends P x) : Ends P (OptionT.lift x) := by
  obtain ⟨proved, rfl⟩ := h
  refine ⟨OptionT.lift proved, ?_⟩
  rw [← bind_pure_comp, ← bind_pure_comp, OptionT.lift_bind]
  simp only [OptionT.lift_pure]

/-- What is done with values of the property is all that counts. -/
theorem Ends.congr {f g : α → m β} (h : Ends P x) (hfg : ∀ a, P a → f a = g a) : x >>= f = x >>= g := by
  obtain ⟨proved, rfl⟩ := h
  rw [bind_map_left, bind_map_left]
  exact bind_congr fun a => hfg a.1 a.2

end

section
variable {α σ : Type} {P : α → Prop}

/-- Whatever the state was. -/
theorem Ends.fst {x : StateM σ α} (h : Ends P x) (s : σ) : P (x s).1 := by
  obtain ⟨proved, rfl⟩ := h
  exact (proved s).1.2

theorem Ends.run {x : Id α} (h : Ends P x) : P (Id.run x) := by
  obtain ⟨proved, rfl⟩ := h
  exact (Id.run proved).2

end

/-! ### Sizes of tracks -/

namespace Lane

/-- What lanes have together. -/
def extent (lanes : List Lane) : Nat := (lanes.map (·.size)).sum

@[simp] theorem extent_cons (l : Lane) (rest : List Lane) : extent (l :: rest) = l.size + extent rest :=
  rfl

theorem extent_ofTracks (gutter index : Nat) (tracks : List Track) :
    extent (ofTracks gutter index tracks) = 0 := by
  fun_induction ofTracks gutter index tracks with
  | case1 => rfl
  | case2 => rfl
  | case3 index t rest _ ih => rw [extent_cons, ih]

theorem map_track_ofTracks (gutter index : Nat) (tracks : List Track) :
    (ofTracks gutter index tracks).map (·.track) = tracks := by
  fun_induction ofTracks gutter index tracks with
  | case1 => rfl
  | case2 => rfl
  | case3 index t rest _ ih => simp [ih]

/-- What a tier may make of lanes: their tracks stay, and what the lanes get is not left. -/
structure Dealt (room : Nat) (lanes : List Lane) (dealt : List Lane × Nat) : Prop where
  tracks : dealt.1.map (·.track) = lanes.map (·.track)
  left : dealt.2 ≤ room
  extent : extent dealt.1 + dealt.2 ≤ extent lanes + room

section Dealt
variable {room size : Nat} {l : Lane} {rest : List Lane} {dealt : List Lane × Nat}

theorem dealt_nil (room : Nat) : Dealt room [] ([], room) := ⟨rfl, Nat.le_refl _, Nat.le_refl _⟩

theorem Dealt.sized (hsize : size ≤ room) (h : Dealt (room - size) rest dealt) :
    Dealt room (l :: rest) ({ l with size } :: dealt.1, dealt.2) := by
  obtain ⟨htracks, hleft, hextent⟩ := h
  refine ⟨by simp [htracks], Nat.le_trans hleft (Nat.sub_le ..), ?_⟩
  simp only [extent_cons]
  omega

theorem Dealt.passed (h : Dealt room rest dealt) : Dealt room (l :: rest) (l :: dealt.1, dealt.2) := by
  obtain ⟨htracks, hleft, hextent⟩ := h
  refine ⟨by simp [htracks], hleft, ?_⟩
  simp only [extent_cons]
  omega

end Dealt

theorem dealt_sizeFixed (room : Nat) (lanes : List Lane) : Dealt room lanes (sizeFixed room lanes) := by
  induction lanes generalizing room with
  | nil => exact dealt_nil room
  | cons l rest ih =>
    unfold sizeFixed
    split
    · exact (ih _).sized (Nat.min_le_right ..)
    · exact (ih room).passed

theorem totalWeight_cons (l : Lane) (rest : List Lane) :
    totalWeight (l :: rest) = l.weight + totalWeight rest := rfl

theorem totalWeight_eq_zero {lanes : List Lane} (h : lanes.any isStar = false) :
    totalWeight lanes = 0 := by
  induction lanes with
  | nil => rfl
  | cons l rest ih =>
    obtain ⟨hl, hrest⟩ := Bool.or_eq_false_iff.mp h
    rw [totalWeight_cons, ih hrest, weight, if_neg (by simp [hl])]

/-- What the stars so far were handed leaves the stars to come their shares, counted by weight. It still
does when a star has had its share, for shares are rounded down. -/
theorem share_leaves {pool total handed : Nat} (htotal : 0 < total) {l : Lane} {rest : List Lane}
    (hstar : l.isStar) (hpool : handed * total + pool * totalWeight (l :: rest) ≤ pool * total) :
    (handed + share pool total handed l rest) * total + pool * totalWeight rest ≤ pool * total := by
  have hweight : l.weight = l.track.value := if_pos hstar
  rw [totalWeight_cons, hweight, Nat.mul_add] at hpool
  have hbounded : handed * total ≤ pool * total := by omega
  by_cases hlater : rest.any isStar
  · have hshare : share pool total handed l rest = pool * l.track.value / total := if_pos hlater
    have hround : share pool total handed l rest * total ≤ pool * l.track.value :=
      hshare ▸ Nat.div_mul_le_self ..
    rw [Nat.add_mul]
    omega
  · have hshare : share pool total handed l rest = pool - handed := if_neg hlater
    have hhanded : handed ≤ pool := Nat.le_of_mul_le_mul_right hbounded htotal
    rw [totalWeight_eq_zero (by simpa using hlater), hshare, Nat.add_sub_cancel' hhanded]
    omega

/-- The stars are handed no more than the pool. -/
theorem handed_le {pool total handed : Nat} (htotal : 0 < total) {lanes : List Lane}
    (hpool : handed * total + pool * totalWeight lanes ≤ pool * total) : handed ≤ pool :=
  Nat.le_of_mul_le_mul_right (show handed * total ≤ pool * total by omega) htotal

section Need
variable {m : Type → Type} [Monad m] [LawfulMonad m] (need : Nat → Nat → m Nat)

/-- Tracks sized to their content get no more than there is room. -/
theorem ends_sizeContent (room : Nat) (lanes : List Lane) :
    Ends (Dealt room lanes) (sizeContent need room lanes) := by
  induction lanes generalizing room with
  | nil => exact ends_pure (dealt_nil room)
  | cons l rest ih =>
    unfold sizeContent
    split
    · refine (ends_any (need l.index (room - l.pad))).bind fun wanted _ => ?_
      exact (ih _).bind fun dealt hdealt => ends_pure (hdealt.sized (Nat.min_le_right ..))
    · exact (ih room).bind fun dealt hdealt => ends_pure hdealt.passed

/-- Stars get no more than what is left of the pool. -/
theorem ends_sizeStars (pass : Pass) {pool total : Nat} (htotal : 0 < total) (handed : Nat)
    (lanes : List Lane) (hpool : handed * total + pool * totalWeight lanes ≤ pool * total) :
    Ends (fun sized => sized.map (·.track) = lanes.map (·.track) ∧
        extent sized ≤ extent lanes + (pool - handed))
      (sizeStars need pass pool total handed lanes) := by
  induction lanes generalizing handed with
  | nil => exact ends_pure ⟨rfl, Nat.zero_le _⟩
  | cons l rest ih =>
    unfold sizeStars
    by_cases hstar : l.isStar
    · let part := share pool total handed l rest
      have hnext := share_leaves htotal hstar hpool
      have hsum : handed + part ≤ pool := handed_le htotal hnext
      have hsized (size : Nat) (hsize : size ≤ part) :
          Ends (fun sized => sized.map (·.track) = (l :: rest).map (·.track) ∧
              extent sized ≤ extent (l :: rest) + (pool - handed))
            (do return { l with size } :: (← sizeStars need pass pool total (handed + part) rest)) := by
        refine (ih (handed + part) hnext).bind fun sized hrest => ends_pure ⟨?_, ?_⟩
        · simp [hrest.1]
        · have hextent := hrest.2
          simp only [extent_cons]
          omega
      rw [if_pos hstar]
      cases pass with
      | render =>
        refine (ends_pure (P := (· ≤ part)) (Nat.le_refl part)).bind hsized
      | measure =>
        refine (ends_any (need l.index (part - l.pad))).bind fun wanted _ => ?_
        exact (ends_pure (P := (· ≤ part)) (Nat.min_le_left ..)).bind hsized
    · have hweight : l.weight = 0 := if_neg hstar
      rw [totalWeight_cons, hweight, Nat.zero_add] at hpool
      rw [if_neg hstar]
      refine (ih handed hpool).bind fun sized hrest => ends_pure ⟨?_, ?_⟩
      · simp [hrest.1]
      · have hextent := hrest.2
        simp only [extent_cons]
        omega

end Need

end Lane

section Solve
variable {m : Type → Type} [Monad m] [LawfulMonad m]

/-- Tracks are as many as were asked for and take no more than is available. -/
theorem Track.ends_solve (need : Nat → Nat → m Nat) (tracks : List Track) (available gutter : Nat)
    (pass : Pass) :
    Ends (fun sizes => sizes.length = tracks.length ∧ sizes.sum ≤ available)
      (solve need tracks available gutter pass) := by
  have hfixed := Lane.dealt_sizeFixed available (Lane.ofTracks gutter 0 tracks)
  have hnothing := Lane.extent_ofTracks gutter 0 tracks
  refine (Lane.ends_sizeContent need _ _).bind fun dealt hdealt => ?_
  obtain ⟨lanes, pool⟩ := dealt
  have htracks : lanes.map (·.track) = tracks :=
    hdealt.tracks.trans (hfixed.tracks.trans (Lane.map_track_ofTracks gutter 0 tracks))
  have hextent : Lane.extent lanes + pool ≤ available := by
    have hfirst := hfixed.extent
    have hsecond := hdealt.extent
    simp only at hsecond
    omega
  have hsizes (sized : List Lane) (hsame : sized.map (·.track) = lanes.map (·.track))
      (hsized : Lane.extent sized ≤ available) :
      (sized.map (·.size)).length = tracks.length ∧ (sized.map (·.size)).sum ≤ available := by
    refine ⟨?_, hsized⟩
    rw [← htracks, ← hsame, List.length_map, List.length_map]
  refine Ends.ite (fun htotal => ?_) fun _ => ?_
  · refine (Lane.ends_sizeStars need pass htotal 0 lanes (by omega)).bind fun sized hstars => ?_
    have hle := hstars.2
    exact ends_pure (hsizes sized hstars.1 (by omega))
  · rw [pure_bind]
    exact ends_pure (hsizes lanes rfl (by omega))

/-- A layout has the columns and rows of a grid, and they take no more than is available. -/
structure GridLayout.Fits {α : Type} (g : Grid α) (available : Size) (l : GridLayout) : Prop where
  columns : l.columns.length = g.columnCount
  rows : l.rows.length = g.rowCount
  width : l.columns.sum ≤ available.width
  height : l.rows.sum ≤ available.height

theorem Grid.length_effective (tracks : List Track) : (effective tracks).length = max tracks.length 1 := by
  cases tracks with
  | nil => rfl
  | cons t rest =>
    show rest.length + 1 = max (rest.length + 1) 1
    omega

theorem Grid.ends_layout (g : Grid (Box m)) (available : Size) (pass : Pass) :
    Ends (GridLayout.Fits g available) (g.layout available pass) := by
  refine (Track.ends_solve _ _ _ _ _).bind fun columns hcolumns => ?_
  refine (Track.ends_solve _ _ _ _ _).bind fun rows hrows => ends_pure ?_
  rw [length_effective] at hcolumns hrows
  exact ⟨hcolumns.1, hrows.1, hcolumns.2, hrows.2⟩

end Solve

end TextPane
