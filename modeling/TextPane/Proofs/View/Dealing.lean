import TextPane.Proofs.View.Resizing

/-! How room is dealt out, track by track.

Tracks are served one after the other: the fixed ones, then those sized to their content, each kind in
order. What is left for a track is the room less all that those before it demand, whether they got it or
not, for where one of them did not, nothing is left (`Lane.left_sizeTier`). The pool is what all of them
leave. The stars have portions of it by weight, rounded down, and the last one has what the others leave of
it, a little more than its portion at most. `Track.sizes_closed` puts these into one formula. -/
namespace TextPane

namespace Lane

/-- What a track demands before the stars are dealt anything. Stars demand nothing. -/
def demand (need : Nat → Nat) (l : Lane) : Nat :=
  match l.track.mode with
  | .fixed => l.track.value + l.pad
  | .content => need l.index + l.pad
  | .star => 0

/-- What tracks demand together. -/
def demands (need : Nat → Nat) (lanes : List Lane) : Nat := (lanes.map (demand need)).sum

/-- The tracks of a mode, in order. -/
def ofMode (mode : SizeMode) (lanes : List Lane) : List Lane := lanes.filter (·.track.mode = mode)

/-- The part of the pool that is in proportion to the weight, rounded down. -/
def portion (pool total : Nat) (l : Lane) : Nat := pool * l.track.value / total

/-- The portions of stars together. -/
def portions (pool total : Nat) (stars : List Lane) : Nat := (stars.map (portion pool total)).sum

/-! ### Tracks of a mode -/

section OfMode
variable {mode other : SizeMode} {l : Lane} {before after earlier later lanes : List Lane}

theorem ofMode_cons_self (h : l.track.mode = mode) : ofMode mode (l :: after) = l :: ofMode mode after :=
  List.filter_cons_of_pos (by simpa using h)

theorem ofMode_cons_other (h : l.track.mode ≠ mode) : ofMode mode (l :: after) = ofMode mode after :=
  List.filter_cons_of_neg (by simpa using h)

theorem mode_of_mem_ofMode (h : l ∈ ofMode mode lanes) : l.track.mode = mode := by
  simpa using (List.mem_filter.mp h).2

/-- A track of a mode stands among all tracks as it stands among those of the mode. -/
theorem split_of_ofMode (h : ofMode mode lanes = earlier ++ l :: later) :
    ∃ before after, lanes = before ++ l :: after ∧ l.track.mode = mode ∧
      ofMode mode before = earlier ∧ ofMode mode after = later := by
  obtain ⟨first, rest, rfl, hfirst, hrest⟩ := List.filter_eq_append_iff.mp h
  obtain ⟨others, after, rfl, hothers, hmode, hafter⟩ := List.filter_eq_cons_iff.mp hrest
  refine ⟨first ++ others, after, by simp, by simpa using hmode, ?_, hafter⟩
  have hnone : others.filter (·.track.mode = mode) = [] := List.filter_eq_nil_iff.mpr hothers
  rw [ofMode, List.filter_append, hfirst, hnone, List.append_nil]

theorem any_isStar_of_ofMode (h : ofMode .star lanes ≠ []) : lanes.any isStar = true := by
  obtain ⟨l, hl⟩ := List.exists_mem_of_ne_nil _ h
  obtain ⟨hmem, hstar⟩ := List.mem_filter.mp hl
  exact List.any_eq_true.mpr ⟨l, hmem, isStar_iff.mpr (by simpa using hstar)⟩

theorem any_isStar_of_ofMode_nil (h : ofMode .star lanes = []) : lanes.any isStar = false := by
  refine List.any_eq_false.mpr fun l hl hstar => ?_
  have hmem : l ∈ ofMode .star lanes := List.mem_filter.mpr ⟨hl, by simpa using isStar_iff.mp hstar⟩
  rw [h] at hmem
  exact List.not_mem_nil hmem

/-- The stars have the weight of all tracks. -/
theorem totalWeight_ofMode (lanes : List Lane) : totalWeight (ofMode .star lanes) = totalWeight lanes := by
  induction lanes with
  | nil => rfl
  | cons l rest ih =>
    by_cases hstar : l.track.mode = .star
    · rw [ofMode_cons_self hstar, totalWeight_cons, totalWeight_cons, ih]
    · have hweight : l.weight = 0 := if_neg (by simpa [isStar_iff] using hstar)
      rw [ofMode_cons_other hstar, totalWeight_cons, hweight, ih, Nat.zero_add]

/-- The tracks are numbered by their places, and the last one pays for no gap. -/
theorem getElem?_ofTracks (gutter index : Nat) (tracks : List Track) (i : Nat) :
    (ofTracks gutter index tracks)[i]? = tracks[i]?.map fun t =>
      { index := index + i, track := t, pad := if i + 1 < tracks.length then gutter else 0 } := by
  fun_induction ofTracks gutter index tracks generalizing i with
  | case1 => rfl
  | case2 index t =>
    cases i with
    | zero => rfl
    | succ i => rfl
  | case3 index t rest hrest ih =>
    cases i with
    | zero =>
      have hlength : 0 < rest.length := List.length_pos_iff.mpr hrest
      simp [hlength]
    | succ i =>
      simp only [List.getElem?_cons_succ, ih, List.length_cons, Nat.add_lt_add_iff_right]
      congr 1
      funext t
      rw [Nat.add_assoc, Nat.add_comm 1 i]

theorem index_of_split {gutter : Nat} {tracks : List Track}
    (h : ofTracks gutter 0 tracks = before ++ l :: after) : l.index = before.length := by
  have hplace := getElem?_ofTracks gutter 0 tracks before.length
  rw [h, List.getElem?_append_right (Nat.le_refl _), Nat.sub_self, List.getElem?_cons_zero] at hplace
  obtain ⟨t, _, rfl⟩ := Option.map_eq_some_iff.mp hplace.symm
  exact Nat.zero_add _

end OfMode

/-! ### The tiers before the stars -/

/-- The tracks of a mode get what they demand, or the room that is left. -/
def Asks (need : Nat → Nat) (mode : SizeMode) (want : Lane → Nat → Nat) : Prop :=
  ∀ l room, l.track.mode = mode → room ≤ cellLimit → min (want l room) room = min (demand need l) room

theorem asks_wantsLength (need : Nat → Nat) : Asks need .fixed wantsLength := by
  intro l room hmode hroom
  simp only [wantsLength, demand, hmode, addCells]
  omega

theorem asks_wantsContent (need : Nat → Nat) :
    Asks need .content (wantsContent fun i offered => min (need i) offered) := by
  intro l room hmode hroom
  simp only [wantsContent, demand, hmode, addCells]
  omega

section Tier
variable {need : Nat → Nat} {mode : SizeMode} {want : Lane → Nat → Nat} {room : Nat} {l : Lane}
  {before after : List Lane}

theorem sizeTier_append (mode : SizeMode) (want : Lane → Nat → Nat) (room : Nat) (before after : List Lane) :
    sizeTier mode want room (before ++ after) =
      ((sizeTier mode want room before).1 ++
          (sizeTier mode want (sizeTier mode want room before).2 after).1,
        (sizeTier mode want (sizeTier mode want room before).2 after).2) := by
  induction before generalizing room with
  | nil => rfl
  | cons k rest ih =>
    simp only [List.cons_append, sizeTier]
    split <;> simp only [ih, List.cons_append]

theorem length_sizeTier (mode : SizeMode) (want : Lane → Nat → Nat) (room : Nat) (lanes : List Lane) :
    (sizeTier mode want room lanes).1.length = lanes.length := by
  simpa using congrArg List.length (map_track_sizeTier mode want room lanes)

/-- Tracks of other modes pass through a tier. -/
theorem ofMode_sizeTier {other : SizeMode} (hother : other ≠ mode) (lanes : List Lane) :
    ofMode other (sizeTier mode want room lanes).1 = ofMode other lanes := by
  induction lanes generalizing room with
  | nil => rfl
  | cons k rest ih =>
    unfold sizeTier
    split
    · next hmode =>
      have hk : k.track.mode ≠ other := hmode ▸ hother.symm
      rw [ofMode_cons_other hk, ofMode_cons_other (by exact hk), ih]
    · by_cases hk : k.track.mode = other
      · rw [ofMode_cons_self hk, ofMode_cons_self hk, ih]
      · rw [ofMode_cons_other hk, ofMode_cons_other hk, ih]

/-- A track of another mode passes through a tier in its place. -/
theorem sizeTier_passes (mode : SizeMode) (want : Lane → Nat → Nat) (room : Nat) (before after : List Lane)
    (hl : l.track.mode ≠ mode) :
    ∃ before' after', (sizeTier mode want room (before ++ l :: after)).1 = before' ++ l :: after' ∧
      before'.length = before.length ∧
      ∀ other ≠ mode, ofMode other before' = ofMode other before ∧
        ofMode other after' = ofMode other after := by
  refine ⟨(sizeTier mode want room before).1,
    (sizeTier mode want (sizeTier mode want room before).2 after).1, ?_, length_sizeTier ..,
    fun other hother => ⟨ofMode_sizeTier hother before, ofMode_sizeTier hother after⟩⟩
  simp only [sizeTier_append, sizeTier, hl, if_false]

theorem getElem?_sizeTier {lanes : List Lane} {i : Nat} (hl : lanes[i]? = some l)
    (hmode : l.track.mode ≠ mode) : (sizeTier mode want room lanes).1[i]? = some l := by
  obtain ⟨hi, rfl⟩ := List.getElem?_eq_some_iff.mp hl
  obtain ⟨before', after', hpassed, hlength, -⟩ :=
    sizeTier_passes mode want room (lanes.take i) (lanes.drop (i + 1)) hmode
  have hplace : before'.length = i := by rw [hlength, List.length_take]; omega
  rw [List.getElem_cons_drop, List.take_append_drop] at hpassed
  rw [hpassed, List.getElem?_append_right (Nat.le_of_eq hplace), hplace, Nat.sub_self,
    List.getElem?_cons_zero]

section Asks
variable (hasks : Asks need mode want) (hroom : room ≤ cellLimit)
include hasks hroom

/-- A tier leaves the room less all that its tracks demand. -/
theorem left_sizeTier (lanes : List Lane) :
    (sizeTier mode want room lanes).2 = room - demands need (ofMode mode lanes) := by
  induction lanes generalizing room with
  | nil => rfl
  | cons k rest ih =>
    unfold sizeTier
    split
    · next hmode =>
      have hsize := hasks k room hmode hroom
      have hless : room - min (want k room) room ≤ cellLimit := by omega
      have hrest := ih hless
      have hdemands : demands need (ofMode mode (k :: rest)) =
          demand need k + demands need (ofMode mode rest) := by
        rw [ofMode_cons_self hmode]
        rfl
      rw [hdemands]
      show (sizeTier mode want (room - min (want k room) room) rest).2 = _
      omega
    · next hmode => rw [ofMode_cons_other hmode, ← ih hroom]

/-- A track of the mode gets what it demands of the room that those before it leave. -/
theorem sizeTier_serves (before after : List Lane) (hl : l.track.mode = mode) :
    (sizeTier mode want room (before ++ l :: after)).1[before.length]? =
      some { l with size := min (demand need l) (room - demands need (ofMode mode before)) } := by
  have hleft := left_sizeTier hasks hroom before
  have hsize := hasks l (room - demands need (ofMode mode before)) hl (by omega)
  rw [sizeTier_append, hleft,
    List.getElem?_append_right (Nat.le_of_eq (length_sizeTier mode want room before)), length_sizeTier,
    Nat.sub_self]
  simp only [sizeTier, hl, if_true, List.getElem?_cons_zero, hsize]

end Asks

end Tier

/-! ### Stars -/

section Stars
variable (pool total : Nat)

/-- The portions of stars fall short of their proportion by less than a cell each. -/
theorem portions_le {stars : List Lane} (hstars : ∀ l ∈ stars, l.track.mode = .star) :
    portions pool total stars * total ≤ pool * totalWeight stars := by
  induction stars with
  | nil => simp [portions]
  | cons l rest ih =>
    have hweight : l.weight = l.track.value := if_pos (isStar_iff.mpr (hstars l (List.mem_cons_self ..)))
    have hrest := ih fun k hk => hstars k (List.mem_cons_of_mem l hk)
    have hround : portion pool total l * total ≤ pool * l.track.value := Nat.div_mul_le_self ..
    have hportions : portions pool total (l :: rest) = portion pool total l + portions pool total rest := rfl
    rw [hportions, totalWeight_cons, hweight, Nat.add_mul, Nat.mul_add]
    omega

theorem lt_portions (htotal : 0 < total) {stars : List Lane} (hsome : stars ≠ [])
    (hstars : ∀ l ∈ stars, l.track.mode = .star) :
    pool * totalWeight stars < portions pool total stars * total + stars.length * total := by
  induction stars with
  | nil => exact absurd rfl hsome
  | cons l rest ih =>
    have hweight : l.weight = l.track.value := if_pos (isStar_iff.mpr (hstars l (List.mem_cons_self ..)))
    have hround : pool * l.track.value < portion pool total l * total + total := by
      have hlt := Nat.lt_div_mul_add (a := pool * l.track.value) htotal
      exact hlt
    have hportions : portions pool total (l :: rest) = portion pool total l + portions pool total rest := rfl
    rw [hportions, totalWeight_cons, hweight, Nat.add_mul, Nat.mul_add, List.length_cons, Nat.add_mul,
      Nat.one_mul]
    by_cases hnone : rest = []
    · subst hnone
      simp only [portions, totalWeight, List.map_nil, List.sum_nil, List.length_nil]
      omega
    · have hrest := ih hnone fun k hk => hstars k (List.mem_cons_of_mem l hk)
      omega

/-- A star has its share of the pool: all that comes before it among the stars has had its portion. -/
theorem dealStars_serves (need : Nat → Nat → Nat) (pass : Pass) (pool total handed : Nat) {l : Lane}
    (hl : l.isStar = true) (before after : List Lane) :
    (dealStars need pass pool total handed (before ++ l :: after))[before.length]? =
      let part := share pool total (handed + portions pool total (ofMode .star before)) l after
      some { l with size := starSize need pass part l } := by
  induction before generalizing handed with
  | nil =>
    rw [List.nil_append, dealStars_star _ _ _ _ _ hl]
    rfl
  | cons k rest ih =>
    rw [List.cons_append, List.length_cons]
    cases hstar : k.isStar
    · have hmode : k.track.mode ≠ .star := fun h => by simp [isStar, h] at hstar
      rw [dealStars_other _ _ _ _ _ hstar, List.getElem?_cons_succ, ih, ofMode_cons_other hmode]
    · have hlater : (rest ++ l :: after).any isStar = true := by simp [hl]
      have hshare : share pool total handed k (rest ++ l :: after) = portion pool total k := if_pos hlater
      have hportions : portions pool total (ofMode .star (k :: rest)) =
          portion pool total k + portions pool total (ofMode .star rest) := by
        rw [ofMode_cons_self (isStar_iff.mp hstar)]
        rfl
      rw [dealStars_star _ _ _ _ _ hstar, List.getElem?_cons_succ, ih, hshare, hportions, Nat.add_assoc]

end Stars

end Lane

/-! ### All tracks -/

namespace Track
open Lane (demand demands ofMode portion portions ofTracks beforeStars afterFixed)

variable (need : Nat → Nat) (tracks : List Track) (available gutter : Nat)

/-- The tracks before the stars, in the order in which they are served. -/
def firsts : List Lane :=
  ofMode .fixed (ofTracks gutter 0 tracks) ++ ofMode .content (ofTracks gutter 0 tracks)

def stars : List Lane := ofMode .star (ofTracks gutter 0 tracks)

/-- What the others leave for the stars. -/
def pool : Nat := available - demands need (firsts tracks gutter)

/-- What the last star has when the others have their portions. -/
def restOf (others : List Lane) : Nat :=
  pool need tracks available gutter - portions (pool need tracks available gutter) (weights tracks) others

/-- The part of the pool of a star that stands between others. -/
def partOf (earlier : List Lane) (l : Lane) (later : List Lane) : Nat :=
  if later = [] then restOf need tracks available gutter earlier
  else portion (pool need tracks available gutter) (weights tracks) l

/-- Every track is one of the first or a star. -/
theorem exists_lane {i : Nat} {t : Track} (ht : tracks[i]? = some t) :
    ∃ l, (l ∈ firsts tracks gutter ∨ l ∈ stars tracks gutter) ∧ l.index = i ∧ l.track = t ∧
      l.pad = if i + 1 < tracks.length then gutter else 0 := by
  have hlane := Lane.getElem?_ofTracks gutter 0 tracks i
  rw [ht, Option.map_some, Nat.zero_add] at hlane
  have hmem := List.mem_of_getElem? hlane
  refine ⟨{ index := i, track := t, pad := _ }, ?_, rfl, rfl, rfl⟩
  cases hmode : t.mode with
  | fixed => exact .inl (List.mem_append_left _ (List.mem_filter.mpr ⟨hmem, by simpa using hmode⟩))
  | content => exact .inl (List.mem_append_right _ (List.mem_filter.mpr ⟨hmem, by simpa using hmode⟩))
  | star => exact .inr (List.mem_filter.mpr ⟨hmem, by simpa using hmode⟩)

theorem left_afterFixed {available : Nat} (havailable : available ≤ cellLimit) :
    (afterFixed tracks available gutter).2 =
      available - demands need (ofMode .fixed (ofTracks gutter 0 tracks)) :=
  Lane.left_sizeTier (Lane.asks_wantsLength need) havailable _

theorem totalWeight_stars : Lane.totalWeight (stars tracks gutter) = weights tracks := by
  rw [stars, Lane.totalWeight_ofMode, ← Lane.weights_eq, Lane.map_track_ofTracks]

section Served
variable {need tracks available gutter} {earlier later : List Lane} {l : Lane}

theorem demands_append (a b : List Lane) : demands need (a ++ b) = demands need a + demands need b := by
  simp [demands]

variable (havailable : available ≤ cellLimit)
include havailable

theorem left_beforeStars :
    (beforeStars need tracks available gutter).2 = pool need tracks available gutter := by
  have hfixed := left_afterFixed need tracks gutter havailable
  have hcontent := Lane.left_sizeTier (Lane.asks_wantsContent need)
    (show (afterFixed tracks available gutter).2 ≤ cellLimit by omega) (afterFixed tracks available gutter).1
  rw [afterFixed, Lane.ofMode_sizeTier (by decide)] at hcontent
  rw [pool, firsts, demands_append, beforeStars, afterFixed, hcontent, ← afterFixed, hfixed, Nat.sub_sub]

/-- A fixed track gets what it demands of the room that the fixed tracks before it leave. -/
theorem beforeStars_fixed (hsplit : ofMode .fixed (ofTracks gutter 0 tracks) = earlier ++ l :: later) :
    (beforeStars need tracks available gutter).1[l.index]? =
      some { l with size := min (demand need l) (available - demands need earlier) } := by
  obtain ⟨before, after, hlanes, hmode, rfl, rfl⟩ := Lane.split_of_ofMode hsplit
  have hindex := Lane.index_of_split hlanes
  have hsized := Lane.sizeTier_serves (Lane.asks_wantsLength need) havailable before after hmode
  rw [← hlanes, ← hindex] at hsized
  exact Lane.getElem?_sizeTier hsized (by simp [hmode])

/-- A track sized to its content gets what it demands of the room that the fixed tracks leave, and those
sized to their content before it. -/
theorem beforeStars_content (hsplit : ofMode .content (ofTracks gutter 0 tracks) = earlier ++ l :: later) :
    let left := available - demands need (ofMode .fixed (ofTracks gutter 0 tracks) ++ earlier)
    (beforeStars need tracks available gutter).1[l.index]? =
      some { l with size := min (demand need l) left } := by
  obtain ⟨before, after, hlanes, hmode, rfl, rfl⟩ := Lane.split_of_ofMode hsplit
  have hindex := Lane.index_of_split hlanes
  have hfixed := left_afterFixed need tracks gutter havailable
  obtain ⟨before', after', hpassed, hlength, hsame⟩ :=
    Lane.sizeTier_passes (l := l) .fixed Lane.wantsLength available before after (by simp [hmode])
  have hleft : (afterFixed tracks available gutter).2 ≤ cellLimit := by omega
  have hsized := Lane.sizeTier_serves (Lane.asks_wantsContent need) hleft before' after' hmode
  rw [← hlanes] at hpassed
  rw [← hpassed, (hsame .content (by decide)).1, hfixed, Nat.sub_sub, ← demands_append, hlength,
    ← hindex] at hsized
  rw [beforeStars, hfixed]
  exact hsized

/-- A track before the stars gets what it demands of the room that those served before it leave. -/
theorem beforeStars_serves (need : Nat → Nat) (hsplit : firsts tracks gutter = earlier ++ l :: later) :
    (beforeStars need tracks available gutter).1[l.index]? =
      some { l with size := min (demand need l) (available - demands need earlier) } := by
  rcases List.append_eq_append_iff.mp hsplit with ⟨among, rfl, hcontent⟩ | ⟨among, hfixed, hrest⟩
  · exact beforeStars_content havailable hcontent
  · cases among with
    | nil =>
      rw [List.append_nil] at hfixed
      rw [← hfixed]
      have hfirst : ofMode .content (ofTracks gutter 0 tracks) = [] ++ l :: later := hrest.symm
      simpa using beforeStars_content havailable hfirst
    | cons k among =>
      obtain ⟨rfl, -⟩ := List.cons.inj hrest
      exact beforeStars_fixed havailable hfixed

end Served

section Stars
variable {need tracks available gutter} {earlier later : List Lane} {l : Lane}

/-- The stars are not served yet. -/
theorem beforeStars_star (need : Nat → Nat) (available : Nat) {before after : List Lane}
    (hlanes : ofTracks gutter 0 tracks = before ++ l :: after)
    (hstar : l.track.mode = .star) :
    ∃ before' after', (beforeStars need tracks available gutter).1 = before' ++ l :: after' ∧
      before'.length = before.length ∧ ofMode .star before' = ofMode .star before ∧
      ofMode .star after' = ofMode .star after := by
  obtain ⟨before₁, after₁, hfixed, hlength₁, hsame₁⟩ :=
    Lane.sizeTier_passes (l := l) .fixed Lane.wantsLength available before after (by simp [hstar])
  obtain ⟨before₂, after₂, hcontent, hlength₂, hsame₂⟩ :=
    Lane.sizeTier_passes (l := l) .content (Lane.wantsContent fun i offered => min (need i) offered)
      (afterFixed tracks available gutter).2 before₁ after₁ (by simp [hstar])
  have hstars₁ := hsame₁ .star (by decide)
  have hstars₂ := hsame₂ .star (by decide)
  refine ⟨before₂, after₂, ?_, hlength₂.trans hlength₁, hstars₂.1.trans hstars₁.1,
    hstars₂.2.trans hstars₁.2⟩
  rw [← hcontent, ← hfixed, ← hlanes]
  rfl

/-- A star has its portion of the pool, and the last one has what the others leave. -/
theorem sizes_star (need : Nat → Nat) (havailable : available ≤ cellLimit) (hsome : 0 < weights tracks)
    (hsplit : stars tracks gutter = earlier ++ l :: later) (pass : Pass) :
    (sizes need tracks available gutter pass)[l.index]? =
      some (Lane.starSize (fun i offered => min (need i) offered) pass
        (partOf need tracks available gutter earlier l later) l) := by
  obtain ⟨before, after, hlanes, hstar, hearlier, hlater⟩ := Lane.split_of_ofMode hsplit
  obtain ⟨before', after', hbefore, hlength, hsame, hsame'⟩ :=
    beforeStars_star need available hlanes hstar
  let pool := pool need tracks available gutter
  have hpart : Lane.share pool (weights tracks) (0 + portions pool (weights tracks) (ofMode .star before')) l
      after' = partOf need tracks available gutter earlier l later := by
    rw [hsame, hearlier, Nat.zero_add, Lane.share, partOf]
    by_cases hnone : later = []
    · rw [Lane.any_isStar_of_ofMode_nil (hsame'.trans (hlater.trans hnone)), if_pos hnone]
      rfl
    · rw [Lane.any_isStar_of_ofMode (by rwa [hsame', hlater]), if_neg hnone]
      rfl
  have hserved := Lane.dealStars_serves (fun i offered => min (need i) offered) pass pool (weights tracks) 0
    (Lane.isStar_iff.mpr hstar) before' after'
  rw [hpart, hlength, ← Lane.index_of_split hlanes] at hserved
  rw [sizes_eq, left_beforeStars havailable, hbefore, sized, if_pos hsome, List.getElem?_map, hserved]
  rfl

/-- When measuring, a star has no more of its part than its content and the gap behind it need. -/
theorem starSize_measure {part : Nat} (hpart : part ≤ cellLimit) :
    Lane.starSize (fun i offered => min (need i) offered) .measure part l =
      min part (need l.index + l.pad) := by
  simp only [Lane.starSize, addCells]
  omega

/-- Without weight the stars get nothing. -/
theorem sizes_weightless (hnone : weights tracks = 0) (hl : l ∈ stars tracks gutter) (pass : Pass) :
    (sizes need tracks available gutter pass)[l.index]? = some 0 := by
  obtain ⟨earlier, later, hsplit⟩ := List.append_of_mem hl
  obtain ⟨before, after, hlanes, hstar, -, -⟩ := Lane.split_of_ofMode hsplit
  obtain ⟨before', after', hbefore, hlength, -, -⟩ :=
    beforeStars_star need available hlanes hstar
  have hunsized : l.size = 0 :=
    Lane.unsized_ofTracks .star gutter 0 tracks l (hlanes ▸ List.mem_append_right _ (List.mem_cons_self ..))
      hstar
  rw [sizes_eq, sized, if_neg (by omega), hbefore, List.getElem?_map, Lane.index_of_split hlanes, ← hlength,
    List.getElem?_append_right (Nat.le_refl _), Nat.sub_self, List.getElem?_cons_zero, ← hunsized]
  rfl

/-- For rendering all the room is dealt out if there is a star of some weight. -/
theorem sum_sizes_render (hsome : 0 < weights tracks) :
    (sizes need tracks available gutter .render).sum = available := by
  let before := beforeStars need tracks available gutter
  have hweights : Lane.totalWeight before.1 = weights tracks := by
    rw [← Lane.weights_eq, Lane.map_track_beforeStars]
  have hstars : before.1.any Lane.isStar = true := by
    refine Bool.not_eq_false _ ▸ fun hnone => ?_
    rw [← hweights, Lane.totalWeight_eq_zero hnone] at hsome
    exact Nat.lt_irrefl 0 hsome
  have hextent : Lane.extent (sized need tracks .render before.2 before.1) = _ :=
    extent_sized need .render before.2 (Lane.unsized_beforeStars need tracks available gutter)
  have hdealt : Lane.starExtent (sized need tracks .render before.2 before.1) = before.2 := by
    rw [sized, if_pos hsome]
    exact Lane.starExtent_render _ hsome hstars (by rw [hweights]; omega)
  rw [sizes_eq]
  show Lane.extent (sized need tracks .render before.2 before.1) = available
  rw [hextent, hdealt]
  exact Lane.extent_beforeStars ..

end Stars

/-- A star has a part of the pool for rendering. When measuring it has no more of it than its content and
the gap behind it need. -/
def HasPart (l : Lane) (part : Nat) : Prop :=
  (sizes need tracks available gutter .render)[l.index]? = some part ∧
    (sizes need tracks available gutter .measure)[l.index]? = some (min part (need l.index + l.pad))

/-- Sizes of tracks as a formula, for contents that need so much each, or as much as they are offered where
that is less. -/
structure InClosedForm : Prop where
  length : ∀ pass, (sizes need tracks available gutter pass).length = tracks.length
  /-- Every track pays for the gap behind it, and the last one for none. -/
  lanes : ∀ (i : Nat) (t : Track), tracks[i]? = some t →
    ∃ l, (l ∈ firsts tracks gutter ∨ l ∈ stars tracks gutter) ∧ l.index = i ∧ l.track = t ∧
      l.pad = if i + 1 < tracks.length then gutter else 0
  /-- A track before the stars has what it demands of the room less the earlier demands. -/
  firsts : ∀ pass earlier l later, firsts tracks gutter = earlier ++ l :: later →
    (sizes need tracks available gutter pass)[l.index]? =
      some (min (demand need l) (available - demands need earlier))
  /-- Every star has its portion of the pool, but the last one has the rest. That is at least what it has by
  weight, and exceeds it by less than a cell for each of the others. -/
  stars : 0 < weights tracks → ∃ others last, stars tracks gutter = others ++ [last] ∧
    (∀ l ∈ others, HasPart need tracks available gutter l
      (portion (pool need tracks available gutter) (weights tracks) l)) ∧
    HasPart need tracks available gutter last (restOf need tracks available gutter others) ∧
    pool need tracks available gutter * last.track.value ≤
      restOf need tracks available gutter others * weights tracks ∧
    (others ≠ [] → restOf need tracks available gutter others * weights tracks <
      pool need tracks available gutter * last.track.value + others.length * weights tracks)
  sum : 0 < weights tracks → (sizes need tracks available gutter .render).sum = available
  weightless : weights tracks = 0 → ∀ pass, ∀ l ∈ Track.stars tracks gutter,
    (sizes need tracks available gutter pass)[l.index]? = some 0

section Parts
variable {need tracks available gutter} {others : List Lane} {last : Lane}

theorem length_sizes (pass : Pass) : (sizes need tracks available gutter pass).length = tracks.length := by
  rw [sizes_eq, List.length_map]
  let before := beforeStars need tracks available gutter
  have htracks : (sized need tracks pass before.2 before.1).map (·.track) = before.1.map (·.track) :=
    map_track_sized ..
  rw [Lane.map_track_beforeStars] at htracks
  simpa using congrArg List.length htracks

/-- The last star has at least what it has by weight, and less than a cell more for each of the others. -/
theorem restOf_bounds (need : Nat → Nat) (available : Nat) (hsome : 0 < weights tracks)
    (hsplit : Track.stars tracks gutter = others ++ [last]) :
    pool need tracks available gutter * last.track.value ≤
        restOf need tracks available gutter others * weights tracks ∧
      (others ≠ [] → restOf need tracks available gutter others * weights tracks <
        pool need tracks available gutter * last.track.value + others.length * weights tracks) := by
  have hmodes : ∀ l ∈ others, l.track.mode = .star := fun l hl =>
    Lane.mode_of_mem_ofMode (hsplit ▸ List.mem_append_left _ hl)
  have hlast : last.track.mode = .star :=
    Lane.mode_of_mem_ofMode (hsplit ▸ List.mem_append_right _ (List.mem_singleton_self last))
  have hweight : last.weight = last.track.value := if_pos (Lane.isStar_iff.mpr hlast)
  have htotal : Lane.totalWeight others + last.track.value = weights tracks := by
    rw [← totalWeight_stars tracks gutter, hsplit]
    simp [Lane.totalWeight, hweight]
  have hle := Lane.portions_le (pool need tracks available gutter) (weights tracks) hmodes
  have hlt (hothers : others ≠ []) :=
    Lane.lt_portions (pool need tracks available gutter) (weights tracks) hsome hothers hmodes
  have hwhole : pool need tracks available gutter * weights tracks =
      pool need tracks available gutter * Lane.totalWeight others +
        pool need tracks available gutter * last.track.value := by
    rw [← htotal, Nat.mul_add]
  rw [restOf, Nat.sub_mul]
  exact ⟨by omega, fun hothers => by have hless := hlt hothers; omega⟩

theorem portion_le {l : Lane} (hl : l ∈ Track.stars tracks gutter) (pool : Nat) :
    portion pool (weights tracks) l ≤ pool := by
  have hweight : l.weight = l.track.value := if_pos (Lane.isStar_iff.mpr (Lane.mode_of_mem_ofMode hl))
  have htotal : l.track.value ≤ weights tracks := by
    obtain ⟨earlier, later, hsplit⟩ := List.append_of_mem hl
    rw [← totalWeight_stars tracks gutter, hsplit, ← hweight]
    simp only [Lane.totalWeight, List.map_append, List.map_cons, List.sum_append, List.sum_cons]
    omega
  refine Nat.div_le_of_le_mul ?_
  rw [Nat.mul_comm (weights tracks)]
  exact Nat.mul_le_mul_left pool htotal

theorem not_isStar_of_mem_firsts {l : Lane} (hl : l ∈ Track.firsts tracks gutter) : l.isStar = false := by
  refine Bool.eq_false_iff.mpr fun hstar => ?_
  have hmode := Lane.isStar_iff.mp hstar
  rcases List.mem_append.mp hl with hl | hl
  · exact SizeMode.noConfusion (hmode.symm.trans (Lane.mode_of_mem_ofMode hl))
  · exact SizeMode.noConfusion (hmode.symm.trans (Lane.mode_of_mem_ofMode hl))

theorem hasPart {part : Nat} (havailable : available ≤ cellLimit)
    (hpart : part ≤ pool need tracks available gutter) {l : Lane}
    (h : ∀ pass, (sizes need tracks available gutter pass)[l.index]? =
      some (Lane.starSize (fun i offered => min (need i) offered) pass part l)) :
    HasPart need tracks available gutter l part := by
  have hpool : pool need tracks available gutter ≤ available := Nat.sub_le ..
  exact ⟨h .render, (h .measure).trans (congrArg some (starSize_measure (by omega)))⟩

end Parts

variable {available}

/-- **Sizes of tracks in closed form.** -/
theorem sizes_closed (havailable : available ≤ cellLimit) : InClosedForm need tracks available gutter where
  length := length_sizes
  lanes _ _ := exists_lane tracks gutter
  firsts pass earlier l later hsplit := by
    have hserved := beforeStars_serves havailable need hsplit
    have hother : l.isStar = false :=
      not_isStar_of_mem_firsts (hsplit ▸ List.mem_append_right _ (List.mem_cons_self ..))
    rw [sizes_eq, List.getElem?_map, getElem?_sized need pass _ hserved hother]
    rfl
  stars hsome := by
    obtain hnone | ⟨others, last, hsplit⟩ := List.eq_nil_or_concat (Track.stars tracks gutter)
    · have hweightless := totalWeight_stars tracks gutter
      rw [hnone] at hweightless
      exact absurd hweightless.symm (Nat.ne_of_gt hsome)
    · rw [List.concat_eq_append] at hsplit
      obtain ⟨hleast, hmost⟩ := restOf_bounds need available hsome hsplit
      refine ⟨others, last, hsplit, fun l hl => ?_, ?_, hleast, hmost⟩
      · obtain ⟨earlier, later, rfl⟩ := List.append_of_mem hl
        rw [List.append_assoc, List.cons_append] at hsplit
        refine hasPart havailable (portion_le (hsplit ▸ List.mem_append_right _ (List.mem_cons_self ..)) _)
          fun pass => ?_
        have hsized := sizes_star need havailable hsome hsplit pass
        rwa [partOf, if_neg (by simp)] at hsized
      · refine hasPart havailable (Nat.sub_le ..) fun pass => ?_
        have hsized := sizes_star need havailable hsome hsplit pass
        rwa [partOf, if_pos rfl] at hsized
  sum := sum_sizes_render
  weightless hnone pass l hl := sizes_weightless hnone hl pass

/-- A fixed track and one sized to its content leave 13 of 24 cells to three stars. The last of these has a
third of them and two thirds of a cell. -/
theorem sizes_closed_thirds :
    24 ≤ cellLimit ∧
      sizes (3 * ·) [star 1, fixed 3, auto, star 3, star 2] 24 1 .render = [2, 4, 7, 6, 5] ∧
      sizes (3 * ·) [star 1, fixed 3, auto, star 3, star 2] 24 1 .measure = [1, 4, 7, 6, 5] ∧
      InClosedForm (3 * ·) [star 1, fixed 3, auto, star 3, star 2] 24 1 :=
  ⟨by decide, by decide, by decide, sizes_closed _ _ _ (by decide)⟩

end Track

end TextPane
