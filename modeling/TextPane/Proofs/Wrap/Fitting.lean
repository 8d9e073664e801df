import TextPane.Proofs.Render.Cells

/-! What fits in a room.

The width of a text is that of its clusters, also where the text is ASCII and the short way is taken
(`charsWidth_eq`). The leading clusters that fit in a room are those that fit in a smaller one, as long
as it holds them (`fitClusters_of_le`); and where more is to come, they leave less room than the next
cluster takes (`le_fitClusters`). -/
namespace TextPane.Text

/-! ### The short way -/

theorem breakClass_ascii {c : Char} (h : isAscii c = true) :
    breakClass c = .carriageReturn ∧ c = '\r' ∨ breakClass c = .lineFeed ∧ c = '\n' ∨
      breakClass c = .control ∨ breakClass c = .other := by
  have hlow : c.toNat < 0x80 := of_decide_eq_true h
  rw [breakClass, if_pos hlow, asciiBreakClass]
  split
  · next hc => exact .inl ⟨rfl, hc⟩
  split
  · next hc => exact .inr (.inl ⟨rfl, hc⟩)
  split
  · exact .inr (.inr (.inl rfl))
  · exact .inr (.inr (.inr rfl))

/-- An ASCII character joins no other but a line feed a return. -/
theorem joins_ascii {c d : Char} (hc : isAscii c = true) (hd : isAscii d = true)
    (h : (Tail.start c).joins (breakClass d) = true) : c = '\r' ∧ d = '\n' := by
  rcases breakClass_ascii hc with ⟨hc, rfl⟩ | ⟨hc, -⟩ | hc | hc <;>
    rcases breakClass_ascii hd with ⟨hd, -⟩ | ⟨hd, rfl⟩ | hd | hd <;>
    simp [Tail.start, Tail.joins, hc, hd] at h ⊢

/-- A line feed ends its cluster. -/
theorem clustersFrom_lineFeed (cs : List Char) : (clustersFrom (Tail.start '\n') cs).1 = [] := by
  cases cs with
  | nil => rfl
  | cons c rest => rfl

theorem clusterWidth_ascii {c : Char} (h : isAscii c = true) : clusterWidth [c] = asciiWidth [c] := by
  have hlow : c.toNat < 0x80 := of_decide_eq_true h
  cases hcontrol : isControl c
  · have hprintable : isPrintable c = true := by
      simp only [isControl, Bool.or_eq_false_iff, Bool.and_eq_false_iff, decide_eq_false_iff_not]
        at hcontrol
      simp only [isPrintable, Bool.and_eq_true, decide_eq_true_eq]
      omega
    rw [clusterWidth_printable hprintable]
    simp [asciiWidth, hcontrol]
  · simp [clusterWidth, asciiWidth, hcontrol]

theorem clustersFrom_ascii {c : Char} {cs : List Char} (hc : isAscii c = true)
    (hcs : ∀ d ∈ cs, isAscii d = true) :
    clusterWidth (c :: (clustersFrom (Tail.start c) cs).1) +
        ((clustersFrom (Tail.start c) cs).2.map clusterWidth).sum = asciiWidth (c :: cs) := by
  induction cs generalizing c with
  | nil => exact clusterWidth_ascii hc
  | cons d rest ih =>
    have hd := hcs d (List.mem_cons_self ..)
    have hrest := ih hd fun e he => hcs e (List.mem_cons_of_mem d he)
    have hsum : asciiWidth (c :: d :: rest) = asciiWidth [c] + asciiWidth (d :: rest) := by
      rw [asciiWidth, ← List.singleton_append, List.countP_append]
      rfl
    by_cases hjoins : (Tail.start c).joins (breakClass d)
    · obtain ⟨rfl, rfl⟩ := joins_ascii hc hd hjoins
      have hpush : (Tail.start '\r').push '\n' = Tail.start '\n' := by decide
      have hpair : clustersFrom (Tail.start '\r') ('\n' :: rest) =
          (['\n'], (clustersFrom (Tail.start '\n') rest).2) := by
        rw [clustersFrom, if_pos hjoins, hpush]
        exact Prod.ext (congrArg ('\n' :: ·) (clustersFrom_lineFeed rest)) rfl
      rw [clustersFrom_lineFeed] at hrest
      rw [hpair, hsum, ← hrest]
      have hnone : clusterWidth ['\r', '\n'] = asciiWidth ['\r'] + clusterWidth ['\n'] := by decide
      simp only [hnone, Nat.add_assoc]
    · have hends : clustersFrom (Tail.start c) (d :: rest) =
          ([], (d :: (clustersFrom (Tail.start d) rest).1) :: (clustersFrom (Tail.start d) rest).2) := by
        rw [clustersFrom, if_neg hjoins]
      rw [hends, hsum, ← hrest, ← clusterWidth_ascii hc, List.map_cons, List.sum_cons]

/-- The width of a text is the sum of the widths of its clusters. -/
theorem charsWidth_eq (cs : List Char) : charsWidth cs = ((clusters cs).map clusterWidth).sum := by
  unfold charsWidth
  split
  · next hascii =>
    cases cs with
    | nil => rfl
    | cons c rest =>
      have hall := List.all_eq_true.mp hascii
      exact (clustersFrom_ascii (hall c (List.mem_cons_self ..))
        fun d hd => hall d (List.mem_cons_of_mem c hd)).symm
  · rfl

/-! ### Cutting -/

theorem fitClusters_of_le {room room' : Nat} {clusters : List (List Char)} (hle : room' ≤ room)
    (h : (fitClusters room clusters).2 ≤ room') :
    fitClusters room' clusters = fitClusters room clusters := by
  induction clusters generalizing room room' with
  | nil => rfl
  | cons cluster rest ih =>
    unfold fitClusters at h ⊢
    simp only at h ⊢
    by_cases hfits : clusterWidth cluster ≤ room
    · rw [if_pos hfits] at h ⊢
      have hfits' : clusterWidth cluster ≤ room' := by
        simp only at h
        omega
      have hrest := ih (show room' - clusterWidth cluster ≤ room - clusterWidth cluster by omega)
        (show (fitClusters (room - clusterWidth cluster) rest).2 ≤ room' - clusterWidth cluster by
          simp only at h
          omega)
      rw [if_pos hfits', hrest]
    · rw [if_neg hfits, if_neg (by omega)]

/-- No text takes no columns. -/
theorem width_of_fitClusters_nil {room : Nat} {clusters : List (List Char)}
    (h : (fitClusters room clusters).1 = []) : (fitClusters room clusters).2 = 0 := by
  obtain ⟨leading, -, htaken, hused, -⟩ := fitClusters_eq room clusters
  rw [hused]
  rw [htaken, List.flatten_eq_nil_iff] at h
  refine List.sum_eq_zero_iff_forall_eq_nat.mpr fun n hn => ?_
  obtain ⟨cluster, hcluster, rfl⟩ := List.mem_map.mp hn
  rw [h cluster hcluster]
  rfl

/-- Of a text that does not fit, what fits leaves less room than the widest cluster takes. -/
theorem le_fitClusters {room widest : Nat} {clusters : List (List Char)}
    (hroom : room < (clusters.map clusterWidth).sum)
    (hwidest : ∀ cluster ∈ clusters, clusterWidth cluster ≤ widest) :
    room < (fitClusters room clusters).2 + widest := by
  induction clusters generalizing room with
  | nil => exact absurd hroom (Nat.not_lt_zero _)
  | cons cluster rest ih =>
    have hcluster := hwidest cluster (List.mem_cons_self ..)
    rw [List.map_cons, List.sum_cons] at hroom
    unfold fitClusters
    by_cases hfits : clusterWidth cluster ≤ room
    · have hrest := ih (show room - clusterWidth cluster < _ by omega)
        fun c hc => hwidest c (List.mem_cons_of_mem cluster hc)
      simp only [if_pos hfits]
      omega
    · simp only [if_neg hfits]
      omega

end TextPane.Text
