import TextPane.Proofs.View.Resizing

/-! Sizing tracks on machine words.

Extents are words of 16 bits, and the stars are dealt out on words of 32. The sizing written here does
every operation on such words and fails where the result is none (`Track.solveWords`); the sums that stop
at the limit stay as they are.

A content is any function that may keep a state: it may answer more than it is offered, and may answer
differently each time. Whatever it answers, no operation fails, the tracks get the sizes that
`Track.solve` gives them, no more than there is, and no content is offered more than there is
(`Track.solve_on_words`). Each tier is compared with its counterpart by one induction on the lanes
(`Matches`); what carries it is that the room that is left only shrinks, and for the stars that what they
were handed leaves the others their shares (`Lane.share_leaves`). -/
namespace TextPane

/-! ### Words -/

namespace Word

/-- The number, if it is a word of so many bits. -/
def fit (bits n : Nat) : Option Nat := if n < 2 ^ bits then some n else none

def add (bits a b : Nat) : Option Nat := fit bits (a + b)

def mul (bits a b : Nat) : Option Nat := fit bits (a * b)

def sub (a b : Nat) : Option Nat := if b ≤ a then some (a - b) else none

theorem fit_eq {bits n : Nat} (h : n < 2 ^ bits) : fit bits n = some n := if_pos h

theorem add_eq {bits a b : Nat} (h : a + b < 2 ^ bits) : add bits a b = some (a + b) := if_pos h

theorem mul_eq {bits a b : Nat} (h : a * b < 2 ^ bits) : mul bits a b = some (a * b) := if_pos h

theorem sub_eq {a b : Nat} (h : b ≤ a) : sub a b = some (a - b) := if_pos h

end Word

/-- Work on words, which may fail, with contents that keep a state. -/
abbrev OnWords (τ : Type) := OptionT (StateM τ)

/-- The result of an operation on words. -/
def OnWords.word {τ α : Type} (x : Option α) : OnWords τ α := OptionT.mk (pure x)

/-! ### Questions to contents -/

/-- A question to the content of a track: the track and what it is offered. -/
structure Question where
  track : Nat
  offered : Nat
deriving DecidableEq, Repr

/-- The content, with the questions noted that it is asked. -/
def noting {σ : Type} (content : Nat → Nat → StateM σ Nat) (track offered : Nat) :
    StateM (σ × List Question) Nat := fun (s, asked) =>
  let (answer, s') := content track offered s
  (answer, s', asked ++ [⟨track, offered⟩])

section Matches
variable {σ α β : Type} {bound : Nat} {ends : α → Prop} {later : β → Prop}

/-- Work goes alike on words, with the questions noted, and plainly: on words it does not fail, all leave
the contents in one state and end with one value, which has the property. The questions, the same on words
and not, offer at most the bound. -/
def Matches (bound : Nat) (ends : α → Prop) (words : OnWords (σ × List Question) α)
    (noted : StateM (σ × List Question) α) (plain : StateM σ α) : Prop :=
  ∀ s asked, ∃ more, words (s, asked) = (some (plain s).1, (plain s).2, asked ++ more) ∧
    noted (s, asked) = ((plain s).1, (plain s).2, asked ++ more) ∧
    (∀ q ∈ more, q.offered ≤ bound) ∧ ends (plain s).1

theorem matches_pure {a : α} (h : ends a) : Matches (σ := σ) bound ends (pure a) (pure a) (pure a) :=
  fun s asked => ⟨[], by rw [List.append_nil]; rfl, by rw [List.append_nil]; rfl, by simp, h⟩

theorem matches_ask (content : Nat → Nat → StateM σ Nat) {track offered : Nat} (h : offered ≤ bound) :
    Matches bound (fun _ => True) (OptionT.lift (noting content track offered))
      (noting content track offered) (content track offered) :=
  fun _ _ => ⟨[⟨track, offered⟩], rfl, rfl, by simpa using h, trivial⟩

variable {words : OnWords (σ × List Question) α} {noted : StateM (σ × List Question) α}
  {plain : StateM σ α} {nextWords : α → OnWords (σ × List Question) β}
  {nextNoted : α → StateM (σ × List Question) β} {nextPlain : α → StateM σ β}

theorem Matches.bind (h : Matches bound ends words noted plain)
    (hnext : ∀ a, ends a → Matches bound later (nextWords a) (nextNoted a) (nextPlain a)) :
    Matches bound later (words >>= nextWords) (noted >>= nextNoted) (plain >>= nextPlain) := by
  intro s asked
  obtain ⟨first, hwords, hnoted, hoffers, hends⟩ := h s asked
  obtain ⟨second, hwords', hnoted', hoffers', hlater⟩ := hnext _ hends (plain s).2 (asked ++ first)
  rw [List.append_assoc] at hwords' hnoted'
  refine ⟨first ++ second, ?_, ?_, fun q hq => ?_, hlater⟩
  · refine Eq.trans ?_ hwords'
    show (match (words (s, asked)).1 with
      | some a => nextWords a
      | none => (pure none : StateM (σ × List Question) (Option β))) (words (s, asked)).2 = _
    rw [hwords]
  · refine Eq.trans ?_ hnoted'
    show nextNoted (noted (s, asked)).1 (noted (s, asked)).2 = _
    rw [hnoted]
  · rcases List.mem_append.mp hq with hq | hq
    · exact hoffers q hq
    · exact hoffers' q hq

/-- An operation on words that gives a word is no different from its result. -/
theorem Matches.word {x : Option α} {a : α} (hx : x = some a) {noted : StateM (σ × List Question) β}
    {plain : StateM σ β} (h : Matches bound later (nextWords a) noted plain) :
    Matches bound later (OnWords.word x >>= nextWords) noted plain := hx ▸ h

theorem Matches.mono {bound' : Nat} {ends' : α → Prop} (h : Matches bound ends words noted plain)
    (hbound : bound ≤ bound') (hends : ∀ a, ends a → ends' a) :
    Matches bound' ends' words noted plain := fun s asked => by
  obtain ⟨more, hwords, hnoted, hoffers, ha⟩ := h s asked
  exact ⟨more, hwords, hnoted, fun q hq => Nat.le_trans (hoffers q hq) hbound, hends _ ha⟩

end Matches

/-! ### The tiers on words -/

namespace Lane

/-- `sizeFixed` on words. -/
def sizeFixedWords (room : Nat) : List Lane → Option (List Lane × Nat)
  | [] => some ([], room)
  | l :: rest => do
    if l.track.mode = .fixed then
      let size := min (addCells l.track.value l.pad) room
      let (sized, left) ← sizeFixedWords (← Word.sub room size) rest
      return ({ l with size } :: sized, left)
    else
      let (sized, left) ← sizeFixedWords room rest
      return (l :: sized, left)

theorem sizeFixedWords_eq (room : Nat) (lanes : List Lane) :
    sizeFixedWords room lanes = some (sizeFixed room lanes) := by
  induction lanes generalizing room with
  | nil => rfl
  | cons l rest ih =>
    have hsub := Word.sub_eq (Nat.min_le_right (addCells l.track.value l.pad) room)
    unfold sizeFixedWords sizeFixed
    split
    · simp [hsub, ih]
    · simp [ih]

/-- The sum of the weights of stars, from what the stars before them weigh on. -/
def totalWeightWords (sum : Nat) : List Lane → Option Nat
  | [] => some sum
  | l :: rest => do
    if l.isStar then
      totalWeightWords (← Word.add 32 sum l.track.value) rest
    else
      totalWeightWords sum rest

theorem totalWeightWords_eq {sum : Nat} {lanes : List Lane} (h : sum + totalWeight lanes < 2 ^ (32 : Nat)) :
    totalWeightWords sum lanes = some (sum + totalWeight lanes) := by
  induction lanes generalizing sum with
  | nil => rfl
  | cons l rest ih =>
    rw [totalWeight_cons] at h ⊢
    by_cases hstar : l.isStar
    · have hweight : l.weight = l.track.value := if_pos hstar
      rw [hweight, ← Nat.add_assoc] at h ⊢
      have hadd := Word.add_eq (Nat.lt_of_le_of_lt (Nat.le_add_right ..) h)
      simp [totalWeightWords, hstar, hadd, ih h]
    · have hweight : l.weight = 0 := if_neg hstar
      rw [hweight, Nat.zero_add] at h ⊢
      simp [totalWeightWords, hstar, ih h]

/-- The share of a star is found on words. -/
theorem share_words {pool total handed : Nat} (hpool : pool < 2 ^ (16 : Nat)) (hhanded : handed ≤ pool)
    {l : Lane} (hvalue : l.track.value < 2 ^ (16 : Nat)) (rest : List Lane) :
    (if rest.any isStar then (Word.mul 32 pool l.track.value).map (· / total)
      else Word.sub pool handed) = some (share pool total handed l rest) := by
  have hproduct : pool * l.track.value < 2 ^ (16 : Nat) * 2 ^ (16 : Nat) :=
    Nat.mul_lt_mul_of_lt_of_lt hpool hvalue
  unfold share
  split
  · rw [Word.mul_eq (show pool * l.track.value < 2 ^ (32 : Nat) from hproduct)]
    rfl
  · exact Word.sub_eq hhanded

section Contents
variable {τ : Type} (content : Nat → Nat → StateM τ Nat)

/-- `sizeContent` on words. -/
def sizeContentWords (room : Nat) : List Lane → OnWords τ (List Lane × Nat)
  | [] => pure ([], room)
  | l :: rest => do
    if l.track.mode = .content then
      let wanted ← OptionT.lift <| content l.index (room - l.pad)
      let size := min (addCells wanted l.pad) room
      let left ← OnWords.word (Word.sub room size)
      let (sized, left) ← sizeContentWords left rest
      return ({ l with size } :: sized, left)
    else
      let (sized, left) ← sizeContentWords room rest
      return (l :: sized, left)

/-- `sizeStars` on words. A share is a word of 32 bits and is cut to one of 16. -/
def sizeStarsWords (pass : Pass) (pool total handed : Nat) : List Lane → OnWords τ (List Lane)
  | [] => pure []
  | l :: rest => do
    if l.isStar then
      let part ← OnWords.word (if rest.any isStar then
          (Word.mul 32 pool l.track.value).map (· / total)
        else Word.sub pool handed)
      let handed ← OnWords.word (Word.add 32 handed part)
      let part ← OnWords.word (Word.fit 16 part)
      let size ← match pass with
        | .render => pure part
        | .measure => do
          let wanted ← OptionT.lift <| content l.index (part - l.pad)
          pure (min part (addCells wanted l.pad))
      return { l with size } :: (← sizeStarsWords pass pool total handed rest)
    else
      return l :: (← sizeStarsWords pass pool total handed rest)

end Contents

section Matches
variable {σ : Type} (content : Nat → Nat → StateM σ Nat)

theorem matches_sizeContent (room : Nat) (lanes : List Lane) :
    Matches room (Dealt room lanes) (sizeContentWords (noting content) room lanes)
      (sizeContent (noting content) room lanes) (sizeContent content room lanes) := by
  induction lanes generalizing room with
  | nil => exact matches_pure (dealt_nil room)
  | cons l rest ih =>
    unfold sizeContentWords sizeContent
    split
    · refine (matches_ask content (Nat.sub_le ..)).bind fun wanted _ => ?_
      have hsize : min (addCells wanted l.pad) room ≤ room := Nat.min_le_right ..
      refine .word (Word.sub_eq hsize) ?_
      refine ((ih _).mono (Nat.sub_le ..) fun _ h => h).bind fun dealt hdealt => ?_
      exact matches_pure (hdealt.sized hsize)
    · exact (ih room).bind fun dealt hdealt => matches_pure hdealt.passed

theorem matches_sizeStars (pass : Pass) {pool total : Nat} (hpool : pool < 2 ^ (16 : Nat))
    (htotal : 0 < total) (handed : Nat) (lanes : List Lane)
    (hvalues : ∀ l ∈ lanes, l.track.value < 2 ^ (16 : Nat))
    (hleaves : handed * total + pool * totalWeight lanes ≤ pool * total) :
    Matches pool
      (fun sized => sized.map (·.track) = lanes.map (·.track) ∧
        extent sized ≤ extent lanes + (pool - handed))
      (sizeStarsWords (noting content) pass pool total handed lanes)
      (sizeStars (noting content) pass pool total handed lanes)
      (sizeStars content pass pool total handed lanes) := by
  induction lanes generalizing handed with
  | nil => exact matches_pure ⟨rfl, Nat.zero_le _⟩
  | cons l rest ih =>
    have hrest : ∀ k ∈ rest, k.track.value < 2 ^ (16 : Nat) := fun k hk =>
      hvalues k (List.mem_cons_of_mem l hk)
    unfold sizeStarsWords sizeStars
    by_cases hstar : l.isStar
    · let part := share pool total handed l rest
      have hnext : (handed + part) * total + pool * totalWeight rest ≤ pool * total :=
        share_leaves htotal hstar hleaves
      have hsum : handed + part ≤ pool := handed_le htotal hnext
      have hpart : part ≤ pool := by omega
      have hword : handed + part < 2 ^ (32 : Nat) := by omega
      rw [if_pos hstar, if_pos hstar, if_pos hstar]
      refine .word (share_words hpool (handed_le htotal hleaves) (hvalues l (List.mem_cons_self ..)) rest) ?_
      refine .word (Word.add_eq hword) (.word (Word.fit_eq (Nat.lt_of_le_of_lt hpart hpool)) ?_)
      have hsized (size : Nat) (hsize : size ≤ part) : Matches pool
          (fun sized => sized.map (·.track) = (l :: rest).map (·.track) ∧
            extent sized ≤ extent (l :: rest) + (pool - handed))
          (do return { l with size } ::
            (← sizeStarsWords (noting content) pass pool total (handed + part) rest))
          (do return { l with size } ::
            (← sizeStars (noting content) pass pool total (handed + part) rest))
          (do return { l with size } :: (← sizeStars content pass pool total (handed + part) rest)) := by
        refine (ih (handed + part) hrest hnext).bind fun sized hrun => ?_
        obtain ⟨htracks, hextent⟩ := hrun
        refine matches_pure ⟨by simp [htracks], ?_⟩
        simp only [extent_cons]
        omega
      cases pass with
      | render => exact hsized part (Nat.le_refl _)
      | measure =>
        refine (matches_ask content (Nat.le_trans (Nat.sub_le ..) hpart)).bind fun wanted _ => ?_
        exact hsized _ (Nat.min_le_left ..)
    · have hweight : l.weight = 0 := if_neg hstar
      rw [totalWeight_cons, hweight, Nat.zero_add] at hleaves
      rw [if_neg hstar, if_neg hstar, if_neg hstar]
      refine (ih handed hrest hleaves).bind fun sized hrun => ?_
      obtain ⟨htracks, hextent⟩ := hrun
      refine matches_pure ⟨by simp [htracks], ?_⟩
      simp only [extent_cons]
      omega

end Matches

end Lane

/-! ### All tiers on words -/

namespace Track

/-- `solve` on words. -/
def solveWords {τ : Type} (content : Nat → Nat → StateM τ Nat) (tracks : List Track)
    (available gutter : Nat) (pass : Pass) : OnWords τ (List Nat) := do
  let (lanes, room) ← OnWords.word (Lane.sizeFixedWords available (Lane.ofTracks gutter 0 tracks))
  let (lanes, pool) ← Lane.sizeContentWords content room lanes
  let total ← OnWords.word (Lane.totalWeightWords 0 lanes)
  let lanes ← if 0 < total then Lane.sizeStarsWords content pass pool total 0 lanes else pure lanes
  return lanes.map (·.size)

variable {σ : Type} (content : Nat → Nat → StateM σ Nat)

theorem matches_solve (tracks : List Track) (available gutter : Nat) (pass : Pass)
    (havailable : available < 2 ^ (16 : Nat)) (hvalues : ∀ t ∈ tracks, t.value < 2 ^ (16 : Nat))
    (hweights : weights tracks < 2 ^ (32 : Nat)) :
    Matches available (fun sizes => sizes.length = tracks.length ∧ sizes.sum ≤ available)
      (solveWords (noting content) tracks available gutter pass)
      (solve (noting content) tracks available gutter pass)
      (solve content tracks available gutter pass) := by
  let start := Lane.ofTracks gutter 0 tracks
  have hstart : start.map (·.track) = tracks := Lane.map_track_ofTracks gutter 0 tracks
  have hfixed := Lane.dealt_sizeFixed available start
  have hnothing : Lane.extent start = 0 := Lane.extent_ofTracks gutter 0 tracks
  refine .word (Lane.sizeFixedWords_eq available start) ?_
  refine ((Lane.matches_sizeContent content _ _).mono hfixed.left fun _ h => h).bind
    fun dealt hdealt => ?_
  obtain ⟨lanes, pool⟩ := dealt
  have htracks : lanes.map (·.track) = tracks := hdealt.tracks.trans (hfixed.tracks.trans hstart)
  have hlength : lanes.length = tracks.length := by rw [← htracks, List.length_map]
  have hpool : pool ≤ available := Nat.le_trans hdealt.left hfixed.left
  have hextent : Lane.extent lanes + pool ≤ available := by
    have hfirst := hfixed.extent
    have hsecond := hdealt.extent
    simp only at hsecond
    omega
  have hlanes : ∀ l ∈ lanes, l.track.value < 2 ^ (16 : Nat) := fun l hl =>
    hvalues l.track (htracks ▸ List.mem_map.mpr ⟨l, hl, rfl⟩)
  have htotal : Lane.totalWeight lanes = weights tracks := by rw [← Lane.weights_eq, htracks]
  refine .word (a := Lane.totalWeight lanes) ?_ ?_
  · rw [Lane.totalWeightWords_eq (by omega), Nat.zero_add]
  · dsimp only
    split
    · next hsome =>
      refine ((Lane.matches_sizeStars content pass (by omega) hsome 0 lanes hlanes (by omega)).mono hpool
        fun _ h => h).bind fun sized hrun => ?_
      obtain ⟨hsame, hsized⟩ := hrun
      refine matches_pure ⟨?_, ?_⟩
      · rw [List.length_map, ← hlength]
        simpa using congrArg List.length hsame
      · show Lane.extent sized ≤ available
        omega
    · refine matches_pure ⟨by rw [List.length_map, hlength], ?_⟩
      show Lane.extent lanes ≤ available
      omega

/-- However the contents answer, no operation on words fails, tracks are as many as were asked for and take
no more than is available, and no content is offered more than that. -/
theorem solve_on_words (tracks : List Track) (available gutter : Nat) (pass : Pass)
    (havailable : available < 2 ^ (16 : Nat)) (hvalues : ∀ t ∈ tracks, t.value < 2 ^ (16 : Nat))
    (hweights : weights tracks < 2 ^ (32 : Nat)) (s : σ) :
    ∃ sizes s' asked,
      (solve content tracks available gutter pass).run s = (sizes, s') ∧
      (solve (noting content) tracks available gutter pass).run (s, []) = (sizes, s', asked) ∧
      (solveWords (noting content) tracks available gutter pass).run.run (s, []) =
        (some sizes, s', asked) ∧
      sizes.length = tracks.length ∧ sizes.sum ≤ available ∧ ∀ q ∈ asked, q.offered ≤ available := by
  obtain ⟨asked, hwords, hnoted, hoffers, hlength, hsum⟩ :=
    matches_solve content tracks available gutter pass havailable hvalues hweights s []
  exact ⟨_, _, asked, rfl, hnoted, hwords, hlength, hsum, hoffers⟩

/-- A content that answers whatever it is offered with what it was offered before, all together. -/
def growing (_ offered : Nat) : StateM Nat Nat := fun before => (before, before + offered)

/-- Two stars of the greatest weight, and contents that want more than there is. -/
theorem solve_on_words_growing :
    weights [star 65535, auto, fixed 1000, star 65535, star 1] < 2 ^ (32 : Nat) ∧
      ∃ sizes offered asked,
        (solve growing [star 65535, auto, fixed 1000, star 65535, star 1] 65535 2 .measure).run 1 =
          (sizes, offered) ∧
        (solve (noting growing) [star 65535, auto, fixed 1000, star 65535, star 1] 65535 2
          .measure).run (1, []) = (sizes, offered, asked) ∧
        (solveWords (noting growing) [star 65535, auto, fixed 1000, star 65535, star 1] 65535 2
          .measure).run.run (1, []) = (some sizes, offered, asked) ∧
        sizes.length = 5 ∧ sizes.sum ≤ 65535 ∧ ∀ q ∈ asked, q.offered ≤ 65535 :=
  ⟨by decide, solve_on_words growing [star 65535, auto, fixed 1000, star 65535, star 1] 65535 2
    .measure (by decide) (by decide) (by decide) 1⟩

end Track

end TextPane
