import TextPane.Proofs.View.Areas

/-! Tracks sized again in the room that they took.

Tracks are measured, and then sized for rendering in as much room as they measured. The tiers before the
stars get what they got before: a track takes what it wants or all that is left, and in the first case
there is still enough for it, in the second nothing was left behind it (`Lane.sizeTier_again`). So the
stars find exactly what they measured together. But they deal it out by weight, whatever their content
needs, and a star has the size that it measured only where this is its share (`Track.resize`). -/
namespace TextPane

namespace Track

/-- The sizes of tracks whose contents need so much each, or as much as they are offered where that is
less. -/
def sizes (need : Nat → Nat) (tracks : List Track) (available gutter : Nat) (pass : Pass) : List Nat :=
  Id.run (solve (fun i offered => pure (min (need i) offered)) tracks available gutter pass)

/-- What the stars have together. -/
def starTotal (tracks : List Track) (sizes : List Nat) : Nat :=
  (List.zipWith (fun t size => if t.mode = .star then size else 0) tracks sizes).sum

/-- The weight of all stars. -/
def weights (tracks : List Track) : Nat :=
  (tracks.map fun t => if t.mode = .star then t.value else 0).sum

/-- Every star but the last has its part of the pool by weight, rounded down. -/
def Shared (pool total : Nat) : List Track → List Nat → Prop
  | t :: tracks, size :: sizes =>
    (t.mode = .star → (∃ u ∈ tracks, u.mode = .star) → size = pool * t.value / total) ∧
      Shared pool total tracks sizes
  | _, _ => True

end Track

namespace Lane

/-! ### Lanes of one mode -/

/-- The lanes of a mode have not been sized. -/
def Unsized (mode : SizeMode) (lanes : List Lane) : Prop := ∀ l ∈ lanes, l.track.mode = mode → l.size = 0

/-- What the stars have together. -/
def starExtent (lanes : List Lane) : Nat := (lanes.map fun l => if l.isStar then l.size else 0).sum

theorem isStar_iff {l : Lane} : l.isStar = true ↔ l.track.mode = .star := beq_iff_eq

theorem Unsized.tail {mode : SizeMode} {l : Lane} {rest : List Lane} (h : Unsized mode (l :: rest)) :
    Unsized mode rest := fun k hk => h k (List.mem_cons_of_mem l hk)

theorem unsized_ofTracks (mode : SizeMode) (gutter index : Nat) (tracks : List Track) :
    Unsized mode (ofTracks gutter index tracks) := by
  intro l hl _
  fun_induction ofTracks gutter index tracks with
  | case1 => cases hl
  | case2 => rw [List.mem_singleton.mp hl]
  | case3 index t rest _ ih =>
    rcases List.mem_cons.mp hl with rfl | hl
    · rfl
    · exact ih hl

/-! ### The tiers before the stars -/

/-- Deals out room to the tracks of a mode. A track gets what it wants of the room that is left, or all
of it. -/
def sizeTier (mode : SizeMode) (want : Lane → Nat → Nat) (room : Nat) : List Lane → List Lane × Nat
  | [] => ([], room)
  | l :: rest =>
    if l.track.mode = mode then
      let size := min (want l room) room
      let dealt := sizeTier mode want (room - size) rest
      ({ l with size } :: dealt.1, dealt.2)
    else
      let dealt := sizeTier mode want room rest
      (l :: dealt.1, dealt.2)

/-- A fixed track wants its length, whatever room there is. -/
def wantsLength (l : Lane) (_ : Nat) : Nat := addCells l.track.value l.pad

/-- A track sized to its content wants what this needs in the room there is. -/
def wantsContent (need : Nat → Nat → Nat) (l : Lane) (room : Nat) : Nat :=
  addCells (need l.index (room - l.pad)) l.pad

theorem sizeFixed_eq (room : Nat) (lanes : List Lane) :
    sizeFixed room lanes = sizeTier .fixed wantsLength room lanes := by
  induction lanes generalizing room with
  | nil => rfl
  | cons l rest ih => simp only [sizeFixed, sizeTier, wantsLength, ih]

theorem sizeContent_eq (need : Nat → Nat → Id Nat) (room : Nat) (lanes : List Lane) :
    sizeContent need room lanes =
      sizeTier .content (wantsContent need) room lanes := by
  induction lanes generalizing room with
  | nil => rfl
  | cons l rest ih =>
    simp only [sizeContent, sizeTier, ih]
    split <;> rfl

/-- A track that is offered less than before, but still what it got, gets the same. -/
def Steady (want : Lane → Nat → Nat) : Prop := ∀ l room room',
  min (want l room) room ≤ room' → room' ≤ room → min (want l room') room' = min (want l room) room

theorem steady_wantsLength : Steady wantsLength := by
  intro l room room' hsize hroom
  simp only [wantsLength] at hsize ⊢
  omega

/-- Content that needs so much, or as much as it is offered where that is less, is steady. -/
theorem steady_wantsContent (need : Nat → Nat) :
    Steady (wantsContent fun i offered => min (need i) offered) := by
  intro l room room' hsize hroom
  simp only [wantsContent, addCells] at hsize ⊢
  omega

section Tier
variable (mode : SizeMode) (want : Lane → Nat → Nat) (room : Nat) (lanes : List Lane)

theorem map_track_sizeTier :
    (sizeTier mode want room lanes).1.map (·.track) = lanes.map (·.track) := by
  induction lanes generalizing room with
  | nil => rfl
  | cons l rest ih =>
    unfold sizeTier
    split <;> simp [ih]

/-- Tracks of other modes are left as they are. -/
theorem mem_of_mem_sizeTier {l : Lane} (hl : l ∈ (sizeTier mode want room lanes).1)
    (hmode : l.track.mode ≠ mode) : l ∈ lanes := by
  induction lanes generalizing room with
  | nil => exact hl
  | cons k rest ih =>
    unfold sizeTier at hl
    split at hl
    · next hsized =>
      rcases List.mem_cons.mp hl with rfl | hl
      · exact absurd hsized hmode
      · exact List.mem_cons_of_mem k (ih _ hl)
    · rcases List.mem_cons.mp hl with rfl | hl
      · exact List.mem_cons_self ..
      · exact List.mem_cons_of_mem k (ih _ hl)

theorem Unsized.sizeTier {other : SizeMode} (h : Unsized other lanes) (hother : other ≠ mode) :
    Unsized other (sizeTier mode want room lanes).1 := fun l hl hmode =>
  h l (mem_of_mem_sizeTier mode want room lanes hl (hmode ▸ hother)) hmode

theorem left_sizeTier_le : (sizeTier mode want room lanes).2 ≤ room := by
  induction lanes generalizing room with
  | nil => exact Nat.le_refl _
  | cons l rest ih =>
    unfold sizeTier
    split
    · exact Nat.le_trans (ih _) (Nat.sub_le ..)
    · exact ih _

/-- What a tier does not get is left. -/
theorem extent_sizeTier (h : Unsized mode lanes) :
    extent (sizeTier mode want room lanes).1 + (sizeTier mode want room lanes).2 =
      extent lanes + room := by
  induction lanes generalizing room with
  | nil => rfl
  | cons l rest ih =>
    unfold sizeTier
    split
    · next hsized =>
      have hzero : l.size = 0 := h l (List.mem_cons_self ..) hsized
      have hrest := ih (room - min (want l room) room) h.tail
      have hsize : min (want l room) room ≤ room := Nat.min_le_right ..
      simp only [extent_cons]
      omega
    · have hrest := ih room h.tail
      simp only [extent_cons]
      omega

/-- A tier is dealt the same again if no more is to be left than before. -/
theorem sizeTier_again (hsteady : Steady want) {left : Nat}
    (hleft : left ≤ (sizeTier mode want room lanes).2) :
    sizeTier mode want (room - (sizeTier mode want room lanes).2 + left) lanes =
      ((sizeTier mode want room lanes).1, left) := by
  induction lanes generalizing room with
  | nil =>
    show ([], room - room + left) = ([], left)
    rw [Nat.sub_self, Nat.zero_add]
  | cons l rest ih =>
    by_cases hsized : l.track.mode = mode
    · simp only [sizeTier, hsized, if_true] at hleft ⊢
      have hsize : min (want l room) room ≤ room := Nat.min_le_right ..
      generalize hwanted : min (want l room) room = size at hleft hsize ⊢
      have hle := left_sizeTier_le mode want (room - size) rest
      have hagain := ih (room - size) hleft
      generalize sizeTier mode want (room - size) rest = dealt at hleft hle hagain ⊢
      have hsame := hsteady l room (room - dealt.2 + left) (by omega) (by omega)
      have hrest : room - dealt.2 + left - size = room - size - dealt.2 + left := by omega
      rw [hsame, hwanted, hrest, hagain]
    · simp only [sizeTier, hsized, if_false] at hleft ⊢
      rw [ih room hleft]

end Tier

/-! ### Stars -/

/-- The size of a star that has this part of the pool. -/
def starSize (need : Nat → Nat → Nat) (pass : Pass) (part : Nat) (l : Lane) : Nat :=
  match pass with
  | .render => part
  | .measure => min part (addCells (need l.index (part - l.pad)) l.pad)

/-- Deals out the pool to the stars. -/
def dealStars (need : Nat → Nat → Nat) (pass : Pass) (pool total handed : Nat) : List Lane → List Lane
  | [] => []
  | l :: rest =>
    if l.isStar then
      let part := share pool total handed l rest
      { l with size := starSize need pass part l } ::
        dealStars need pass pool total (handed + part) rest
    else l :: dealStars need pass pool total handed rest

theorem sizeStars_eq (need : Nat → Nat → Id Nat) (pass : Pass) (pool total handed : Nat)
    (lanes : List Lane) :
    sizeStars need pass pool total handed lanes = dealStars need pass pool total handed lanes := by
  induction lanes generalizing handed with
  | nil => rfl
  | cons l rest ih =>
    simp only [sizeStars, dealStars, ih]
    cases pass <;> split <;> rfl

section Stars
variable (need : Nat → Nat → Nat) (pass : Pass) (pool total handed : Nat) {l : Lane}
  {rest lanes : List Lane}

theorem dealStars_star (h : l.isStar = true) :
    dealStars need pass pool total handed (l :: rest) =
      { l with size := starSize need pass (share pool total handed l rest) l } ::
        dealStars need pass pool total (handed + share pool total handed l rest) rest := if_pos h

theorem dealStars_other (h : l.isStar = false) :
    dealStars need pass pool total handed (l :: rest) =
      l :: dealStars need pass pool total handed rest := if_neg (by simp [h])

theorem map_track_dealStars :
    (dealStars need pass pool total handed lanes).map (·.track) = lanes.map (·.track) := by
  induction lanes generalizing handed with
  | nil => rfl
  | cons l rest ih =>
    cases hstar : l.isStar
    · rw [dealStars_other _ _ _ _ _ hstar, List.map_cons, List.map_cons, ih]
    · rw [dealStars_star _ _ _ _ _ hstar, List.map_cons, List.map_cons, ih]

/-- Other tracks than stars are left as they are. -/
theorem getElem?_dealStars {i : Nat} (hl : lanes[i]? = some l) (hother : l.isStar = false) :
    (dealStars need pass pool total handed lanes)[i]? = some l := by
  induction lanes generalizing handed i with
  | nil => exact hl
  | cons k rest ih =>
    cases i with
    | zero =>
      obtain rfl : k = l := Option.some.inj hl
      rw [dealStars_other _ _ _ _ _ hother]
      rfl
    | succ i =>
      cases hstar : k.isStar
      · rw [dealStars_other _ _ _ _ _ hstar]
        exact ih handed hl
      · rw [dealStars_star _ _ _ _ _ hstar]
        exact ih _ hl

theorem starExtent_star (h : l.isStar = true) :
    starExtent (l :: rest) = l.size + starExtent rest := by
  simp [starExtent, h]

theorem starExtent_other (h : l.isStar = false) : starExtent (l :: rest) = starExtent rest := by
  simp [starExtent, h]

theorem starExtent_of_none (h : lanes.any isStar = false) : starExtent lanes = 0 := by
  induction lanes with
  | nil => rfl
  | cons l rest ih =>
    obtain ⟨hl, hrest⟩ := Bool.or_eq_false_iff.mp h
    rw [starExtent_other hl, ih hrest]

theorem any_isStar_dealStars :
    (dealStars need pass pool total handed lanes).any isStar = lanes.any isStar := by
  have htracks : (dealStars need pass pool total handed lanes).map (·.track) = lanes.map (·.track) :=
    map_track_dealStars ..
  have hany := congrArg (List.any · fun t : Track => t.mode == .star) htracks
  rw [List.any_map, List.any_map] at hany
  exact hany

/-- Sizing the stars adds what they have to what the other tracks have. -/
theorem extent_dealStars (h : Unsized .star lanes) :
    extent (dealStars need pass pool total handed lanes) =
      extent lanes + starExtent (dealStars need pass pool total handed lanes) := by
  induction lanes generalizing handed with
  | nil => rfl
  | cons l rest ih =>
    cases hstar : l.isStar
    · rw [dealStars_other _ _ _ _ _ hstar, extent_cons, ih _ h.tail, starExtent_other hstar,
        extent_cons, Nat.add_assoc]
    · have hzero : l.size = 0 := h l (List.mem_cons_self ..) (isStar_iff.mp hstar)
      rw [dealStars_star _ _ _ _ _ hstar, extent_cons, ih _ h.tail, starExtent_star (by exact hstar),
        extent_cons, hzero]
      omega

variable {pool total handed}

/-- Stars have no more than the pool together. -/
theorem starExtent_dealStars_le (htotal : 0 < total) (h : Unsized .star lanes)
    (hweights : totalWeight lanes = total) :
    starExtent (dealStars need pass pool total 0 lanes) ≤ pool := by
  have hleaves : 0 * total + pool * totalWeight lanes ≤ pool * total := by rw [hweights]; omega
  have hends := ends_sizeStars (m := Id) need pass htotal 0 lanes hleaves
  rw [sizeStars_eq] at hends
  have hle : extent (dealStars need pass pool total 0 lanes) ≤ extent lanes + (pool - 0) := hends.run.2
  rw [extent_dealStars need pass pool total 0 h] at hle
  omega

/-- For rendering the stars share out what is left of the pool. -/
theorem starExtent_render (htotal : 0 < total) (hsome : lanes.any isStar = true)
    (hpool : handed * total + pool * totalWeight lanes ≤ pool * total) :
    starExtent (dealStars need .render pool total handed lanes) = pool - handed := by
  induction lanes generalizing handed with
  | nil => cases hsome
  | cons l rest ih =>
    cases hstar : l.isStar
    · have hrest : rest.any isStar = true := by simpa [hstar] using hsome
      have hweight : l.weight = 0 := if_neg (by simp [hstar])
      rw [totalWeight_cons, hweight, Nat.zero_add] at hpool
      rw [dealStars_other _ _ _ _ _ hstar, starExtent_other hstar, ih hrest hpool]
    · have hpart := share_leaves htotal hstar hpool
      have hsum := handed_le htotal hpart
      rw [dealStars_star _ _ _ _ _ hstar, starExtent_star (by exact hstar)]
      show share pool total handed l rest + _ = _
      cases hlater : rest.any isStar
      · have hnone : starExtent (dealStars need .render pool total
            (handed + share pool total handed l rest) rest) = 0 :=
          starExtent_of_none ((any_isStar_dealStars ..).trans hlater)
        rw [hnone, share, if_neg (by simp [hlater])]
        omega
      · rw [ih hlater hpart]
        omega

end Stars

/-! ### The same again -/

section Again
variable {need : Nat → Nat → Nat} {pass : Pass} {pool total handed : Nat} {lanes : List Lane}

theorem any_isStar_iff : lanes.any isStar = true ↔ ∃ t ∈ lanes.map (·.track), t.mode = .star := by
  rw [List.any_eq_true]
  constructor
  · intro ⟨l, hl, hstar⟩
    exact ⟨l.track, List.mem_map_of_mem hl, isStar_iff.mp hstar⟩
  · intro ⟨t, ht, hstar⟩
    obtain ⟨l, hl, rfl⟩ := List.mem_map.mp ht
    exact ⟨l, hl, isStar_iff.mpr hstar⟩

theorem starTotal_eq (lanes : List Lane) :
    Track.starTotal (lanes.map (·.track)) (lanes.map (·.size)) = starExtent lanes := by
  simp only [Track.starTotal, starExtent, List.zipWith_map, List.zipWith_self, isStar_iff]

theorem weights_eq (lanes : List Lane) : Track.weights (lanes.map (·.track)) = totalWeight lanes := by
  simp only [Track.weights, totalWeight, List.map_map]
  congr 1
  refine List.map_congr_left fun l _ => ?_
  simp only [Function.comp_apply, weight, isStar_iff]

/-- Stars that share out what they had together have the same again just where each had its share of
it. -/
theorem dealStars_again (again : Nat)
    (hpool : again + starExtent (dealStars need pass pool total handed lanes) = left) :
    (dealStars need .render left total again lanes).map (·.size) =
        (dealStars need pass pool total handed lanes).map (·.size) ↔
      Track.Shared left total (lanes.map (·.track))
        ((dealStars need pass pool total handed lanes).map (·.size)) := by
  induction lanes generalizing again handed with
  | nil => exact ⟨fun _ => trivial, fun _ => rfl⟩
  | cons l rest ih =>
    cases hstar : l.isStar
    · have hmode : l.track.mode ≠ .star := fun h => by simp [isStar, h] at hstar
      rw [dealStars_other _ _ _ _ _ hstar] at hpool ⊢
      rw [starExtent_other hstar] at hpool
      rw [dealStars_other _ _ _ _ _ hstar]
      simp [Track.Shared, hmode, ih again hpool]
    · rw [dealStars_star _ _ _ _ _ hstar] at hpool ⊢
      rw [starExtent_star (by exact hstar)] at hpool
      rw [dealStars_star _ _ _ _ _ hstar]
      let part := share left total again l rest
      let size := starSize need pass (share pool total handed l rest) l
      let others := dealStars need pass pool total (handed + share pool total handed l rest) rest
      change again + (size + starExtent others) = left at hpool
      show part :: (dealStars need .render left total (again + part) rest).map (·.size) =
          size :: others.map (·.size) ↔
        (l.track.mode = .star → (∃ u ∈ rest.map (·.track), u.mode = .star) →
            size = left * l.track.value / total) ∧
          Track.Shared left total (rest.map (·.track)) (others.map (·.size))
      have hrest (hpart : part = size) :
          (dealStars need .render left total (again + part) rest).map (·.size) =
              others.map (·.size) ↔
            Track.Shared left total (rest.map (·.track)) (others.map (·.size)) :=
        ih (again + part) (show again + part + starExtent others = left by omega)
      rw [List.cons.injEq, ← any_isStar_iff]
      cases hlater : rest.any isStar
      · -- The last star takes the rest, and that is what it had.
        have hnone : starExtent others = 0 :=
          starExtent_of_none ((any_isStar_dealStars need pass pool total _).trans hlater)
        have hpart : part = size := by
          simp only [part, share, hlater, Bool.false_eq_true, if_false]
          omega
        simpa [hpart] using hrest hpart
      · have hpart : part = left * l.track.value / total := if_pos hlater
        rw [← hpart]
        constructor
        · exact fun ⟨hsize, hothers⟩ => ⟨fun _ _ => hsize.symm, (hrest hsize).mp hothers⟩
        · intro ⟨hsize, hshared⟩
          have hsame := (hsize (isStar_iff.mp hstar) rfl).symm
          exact ⟨hsame, (hrest hsame).mpr hshared⟩

/-- Without weight every share is nothing, as is what stars have that were not sized. -/
theorem shared_of_unsized {pool : Nat} (h : Unsized .star lanes) :
    Track.Shared pool 0 (lanes.map (·.track)) (lanes.map (·.size)) := by
  induction lanes with
  | nil => trivial
  | cons l rest ih =>
    refine ⟨fun hmode _ => ?_, ih h.tail⟩
    rw [Nat.div_zero]
    exact h l (List.mem_cons_self ..) hmode

theorem starExtent_of_unsized (h : Unsized .star lanes) : starExtent lanes = 0 := by
  induction lanes with
  | nil => rfl
  | cons l rest ih =>
    cases hstar : l.isStar
    · rw [starExtent_other hstar, ih h.tail]
    · rw [starExtent_star hstar, ih h.tail, h l (List.mem_cons_self ..) (isStar_iff.mp hstar)]

end Again

/-! ### All tiers -/

section BeforeStars
variable (need : Nat → Nat) (tracks : List Track) (available gutter : Nat)

/-- The lanes after the fixed tracks are sized, and the room these leave. -/
def afterFixed : List Lane × Nat := sizeTier .fixed wantsLength available (ofTracks gutter 0 tracks)

/-- The lanes before the stars are sized, and the pool for these. -/
def beforeStars : List Lane × Nat :=
  sizeTier .content (wantsContent fun i offered => min (need i) offered)
    (afterFixed tracks available gutter).2 (afterFixed tracks available gutter).1

theorem map_track_beforeStars :
    (beforeStars need tracks available gutter).1.map (·.track) = tracks := by
  rw [beforeStars, map_track_sizeTier, afterFixed, map_track_sizeTier, map_track_ofTracks]

theorem unsized_afterFixed {mode : SizeMode} (h : mode ≠ .fixed) :
    Unsized mode (afterFixed tracks available gutter).1 :=
  (unsized_ofTracks mode gutter 0 tracks).sizeTier _ _ _ _ h

theorem unsized_beforeStars : Unsized .star (beforeStars need tracks available gutter).1 :=
  (unsized_afterFixed tracks available gutter (by simp)).sizeTier _ _ _ _ (by simp)

theorem extent_afterFixed :
    extent (afterFixed tracks available gutter).1 + (afterFixed tracks available gutter).2 =
      available := by
  rw [afterFixed, extent_sizeTier _ _ _ _ (unsized_ofTracks .fixed gutter 0 tracks), extent_ofTracks,
    Nat.zero_add]

theorem extent_beforeStars :
    extent (beforeStars need tracks available gutter).1 + (beforeStars need tracks available gutter).2 =
      available := by
  rw [beforeStars, extent_sizeTier _ _ _ _ (unsized_afterFixed _ _ _ (by simp)), extent_afterFixed]

/-- Where the pool for the stars is to be no more than it was, the tracks before them have the same. -/
theorem beforeStars_again {pool : Nat} (hpool : pool ≤ (beforeStars need tracks available gutter).2) :
    beforeStars need tracks (extent (beforeStars need tracks available gutter).1 + pool) gutter =
      ((beforeStars need tracks available gutter).1, pool) := by
  let fixed := afterFixed tracks available gutter
  let content := beforeStars need tracks available gutter
  have hextent : extent content.1 + content.2 = available := extent_beforeStars ..
  have hfixed : extent fixed.1 + fixed.2 = available := extent_afterFixed ..
  have hcontent : content.2 ≤ fixed.2 := left_sizeTier_le ..
  have hleft : fixed.2 - content.2 + pool ≤ fixed.2 := by
    have hle : pool ≤ content.2 := hpool
    omega
  have hroom : extent content.1 + pool = available - fixed.2 + (fixed.2 - content.2 + pool) := by
    omega
  have hagain : afterFixed tracks (extent content.1 + pool) gutter =
      (fixed.1, fixed.2 - content.2 + pool) := by
    rw [hroom]
    exact sizeTier_again _ _ _ _ steady_wantsLength hleft
  show beforeStars need tracks (extent content.1 + pool) gutter = (content.1, pool)
  rw [beforeStars, hagain]
  exact sizeTier_again _ _ _ _ (steady_wantsContent need) hpool

end BeforeStars

end Lane

namespace Track
variable (need : Nat → Nat) (tracks : List Track) (available gutter : Nat)

/-- The lanes with the stars sized from the pool. Without weight they get nothing of it. -/
def sized (pass : Pass) (pool : Nat) (lanes : List Lane) : List Lane :=
  if 0 < weights tracks then
    Lane.dealStars (fun i offered => min (need i) offered) pass pool (weights tracks) 0 lanes
  else lanes

theorem sizes_eq (pass : Pass) :
    sizes need tracks available gutter pass =
      (sized need tracks pass (Lane.beforeStars need tracks available gutter).2
        (Lane.beforeStars need tracks available gutter).1).map (·.size) := by
  let offer (i offered : Nat) : Id Nat := pure (min (need i) offered)
  let fixed := Lane.sizeFixed available (Lane.ofTracks gutter 0 tracks)
  let content := Id.run (Lane.sizeContent offer fixed.2 fixed.1)
  have hbefore : content = Lane.beforeStars need tracks available gutter := by
    show Id.run (Lane.sizeContent offer (Lane.sizeFixed _ _).2 (Lane.sizeFixed _ _).1) = _
    rw [Lane.sizeFixed_eq, Lane.sizeContent_eq]
    rfl
  have hweights : Lane.totalWeight content.1 = weights tracks := by
    rw [hbefore, ← Lane.weights_eq, Lane.map_track_beforeStars]
  rw [← hbefore, sized, ← hweights]
  show Id.run (if 0 < Lane.totalWeight content.1 then _ else _) = _
  split
  · exact congrArg (List.map (·.size)) (Lane.sizeStars_eq offer pass _ _ _ _)
  · rfl

section Sized
variable {tracks} (pass : Pass) (pool : Nat) {lanes : List Lane}

theorem map_track_sized : (sized need tracks pass pool lanes).map (·.track) = lanes.map (·.track) := by
  unfold sized
  split
  · exact Lane.map_track_dealStars ..
  · rfl

theorem getElem?_sized {i : Nat} {l : Lane} (hl : lanes[i]? = some l) (hother : l.isStar = false) :
    (sized need tracks pass pool lanes)[i]? = some l := by
  unfold sized
  split
  · exact Lane.getElem?_dealStars _ _ _ _ _ hl hother
  · exact hl

theorem extent_sized (h : Lane.Unsized .star lanes) :
    Lane.extent (sized need tracks pass pool lanes) =
      Lane.extent lanes + Lane.starExtent (sized need tracks pass pool lanes) := by
  unfold sized
  split
  · exact Lane.extent_dealStars _ _ _ _ _ h
  · rw [Lane.starExtent_of_unsized h, Nat.add_zero]

variable (htracks : lanes.map (·.track) = tracks)
include htracks

theorem starExtent_sized_le (h : Lane.Unsized .star lanes) :
    Lane.starExtent (sized need tracks pass pool lanes) ≤ pool := by
  have hweights : Lane.totalWeight lanes = weights tracks := by rw [← Lane.weights_eq, htracks]
  unfold sized
  split
  · next hsome => exact Lane.starExtent_dealStars_le _ _ hsome h hweights
  · rw [Lane.starExtent_of_unsized h]
    exact Nat.zero_le _

/-- For rendering the stars share out what they measured. -/
theorem starExtent_sized_render :
    Lane.starExtent (sized need tracks .render
        (Lane.starExtent (sized need tracks pass pool lanes)) lanes) =
      Lane.starExtent (sized need tracks pass pool lanes) := by
  have hweights : Lane.totalWeight lanes = weights tracks := by rw [← Lane.weights_eq, htracks]
  by_cases hsome : 0 < weights tracks
  · have hstars : lanes.any Lane.isStar = true := by
      refine Bool.not_eq_false _ ▸ fun hnone => ?_
      rw [← hweights, Lane.totalWeight_eq_zero hnone] at hsome
      exact Nat.lt_irrefl 0 hsome
    generalize Lane.starExtent (sized need tracks pass pool lanes) = measured
    rw [sized, if_pos hsome]
    exact Lane.starExtent_render _ hsome hstars (by rw [hweights]; omega)
  · rw [sized, sized, if_neg hsome, if_neg hsome]

/-- Each track has what it measured just where the stars measured their shares. -/
theorem sized_again (h : Lane.Unsized .star lanes) :
    (sized need tracks .render (Lane.starExtent (sized need tracks pass pool lanes)) lanes).map
          (·.size) =
        (sized need tracks pass pool lanes).map (·.size) ↔
      Shared (Lane.starExtent (sized need tracks pass pool lanes)) (weights tracks) tracks
        ((sized need tracks pass pool lanes).map (·.size)) := by
  by_cases hsome : 0 < weights tracks
  · rw [sized, sized, if_pos hsome, if_pos hsome, Lane.dealStars_again 0 (Nat.zero_add _), htracks]
  · have hshared (part : Nat) : Shared part (weights tracks) tracks (lanes.map (·.size)) := by
      rw [Nat.eq_zero_of_not_pos hsome, ← htracks]
      exact Lane.shared_of_unsized h
    rw [sized, sized, if_neg hsome, if_neg hsome]
    exact ⟨fun _ => hshared _, fun _ => rfl⟩

end Sized

/-- The sizes that tracks measure. -/
def measured : List Nat := sizes need tracks available gutter .measure

/-- The sizes of tracks that are rendered in as much room as they measured. -/
def resized : List Nat := sizes need tracks (measured need tracks available gutter).sum gutter .render

/-- Tracks are sized for rendering in as much room as they measured. All but stars have what they
measured. So the stars have it together, and all tracks have it just where every star but the last
measured its share, by weight and rounded down, of what the stars measured. -/
theorem resize :
    (∀ (i : Nat) (t : Track), tracks[i]? = some t → t.mode ≠ .star →
      ∃ size, (measured need tracks available gutter)[i]? = some size ∧
        (resized need tracks available gutter)[i]? = some size) ∧
    (resized need tracks available gutter).sum = (measured need tracks available gutter).sum ∧
    (resized need tracks available gutter = measured need tracks available gutter ↔
      Shared (starTotal tracks (measured need tracks available gutter)) (weights tracks) tracks
        (measured need tracks available gutter)) := by
  let before := Lane.beforeStars need tracks available gutter
  let lanes := sized need tracks .measure before.2 before.1
  let pool := Lane.starExtent lanes
  have htracks : before.1.map (·.track) = tracks := Lane.map_track_beforeStars ..
  have hunsized : Lane.Unsized .star before.1 := Lane.unsized_beforeStars need tracks available gutter
  have hmeasured : measured need tracks available gutter = lanes.map (·.size) := sizes_eq ..
  have hsum : (measured need tracks available gutter).sum = Lane.extent before.1 + pool := by
    rw [hmeasured]
    exact extent_sized need .measure _ hunsized
  have hagain : resized need tracks available gutter =
      (sized need tracks .render pool before.1).map (·.size) := by
    rw [resized, sizes_eq, hsum, Lane.beforeStars_again]
    exact starExtent_sized_le need .measure _ htracks hunsized
  have htotal : starTotal tracks (measured need tracks available gutter) = pool := by
    rw [hmeasured, ← htracks, ← map_track_sized need .measure before.2]
    exact Lane.starTotal_eq lanes
  refine ⟨fun i t ht hmode => ?_, ?_, ?_⟩
  · obtain ⟨l, hl, rfl⟩ : ∃ l, before.1[i]? = some l ∧ l.track = t := by
      rw [← htracks, List.getElem?_map] at ht
      exact Option.map_eq_some_iff.mp ht
    have hother : l.isStar = false := Bool.eq_false_iff.mpr fun hstar => hmode (Lane.isStar_iff.mp hstar)
    refine ⟨l.size, ?_, ?_⟩
    · rw [hmeasured, List.getElem?_map, getElem?_sized need .measure _ hl hother]
      rfl
    · rw [hagain, List.getElem?_map, getElem?_sized need .render _ hl hother]
      rfl
  · rw [hagain, hsum]
    exact (extent_sized need .render _ hunsized).trans
      (congrArg (_ + ·) (starExtent_sized_render need .measure _ htracks))
  · rw [htotal, hagain, hmeasured]
    exact sized_again need .measure _ htracks hunsized

/-- Two stars of one weight, of which only the first has content, are measured 3 and 0 wide, and share
these 3 cells as 1 and 2. -/
theorem resize_unequal_stars :
    ¬∀ (need : Nat → Nat) (tracks : List Track) (available gutter : Nat), weights tracks < 2 ^ (32 : Nat) →
      resized need tracks available gutter = measured need tracks available gutter := by
  intro h
  have hsame := h (fun i => if i = 0 then 3 else 0) [star 1, star 1] 10 0 (by decide)
  exact absurd hsame (by decide)

end Track

end TextPane
