import Mathlib.Data.List.Infix
import TextPane.Proofs.Text.Seams

/-! Cuts between clusters.

Leading clusters of a text are its clusters up to there, and those behind them are the clusters of the rest
(`clusters_flatten_of_suffix`). So the pieces of a text that is cut between clusters are together as wide as
the text, whichever of them are ASCII and measured the short way (`displayWidth_pieces`).

A text is cut to a width after the longest run of leading clusters that fits (`LongestFit`). A cluster without
columns still goes with those before it, but none is taken from behind the first that does not fit
(`truncate_longest`). -/
namespace TextPane.Text

/-! ### Leading and trailing clusters -/

/-- What is put together of whole clusters that a text begins with. -/
def Leads (a cs : List Char) : Prop := ∃ leading, leading <+: clusters cs ∧ a = leading.flatten

instance : DecidableRel Leads := fun a cs =>
  decidable_of_iff (∃ leading ∈ (clusters cs).inits, a = leading.flatten) (by simp only [Leads, List.mem_inits])

theorem Leads.self (cs : List Char) : Leads cs cs := ⟨clusters cs, List.prefix_rfl, (flatten_clusters cs).symm⟩

theorem Leads.isPrefix {a cs : List Char} (h : Leads a cs) : a <+: cs := by
  obtain ⟨leading, hpre, rfl⟩ := h
  exact flatten_prefix hpre

/-- Clusters do not depend on those before them. -/
theorem clustersFrom_drop (t : Tail) (cs : List Char) (n : Nat) :
    clusters ((clustersFrom t cs).2.drop n).flatten = (clustersFrom t cs).2.drop n := by
  induction cs generalizing t n with
  | nil => simp [clustersFrom, clusters]
  | cons c cs ih =>
    by_cases hjoins : t.joins (breakClass c) = true
    · simp only [clustersFrom, if_pos hjoins, ih]
    · cases n with
      | zero =>
        simp only [clustersFrom, if_neg hjoins, List.drop_zero, List.flatten_cons, List.cons_append,
          flatten_clustersFrom, clusters]
      | succ n => simp only [clustersFrom, if_neg hjoins, List.drop_succ_cons, ih]

/-- Trailing clusters are the clusters of the text they make. -/
theorem clusters_flatten_of_suffix {cs : List Char} {trailing : List (List Char)}
    (h : trailing <:+ clusters cs) : clusters trailing.flatten = trailing := by
  cases cs with
  | nil => rw [List.suffix_nil.mp h]; rfl
  | cons c cs =>
    rcases List.suffix_cons_iff.mp h with rfl | h
    · exact congrArg clusters (flatten_clusters (c :: cs))
    · rw [List.suffix_iff_eq_drop.mp h, clustersFrom_drop]

/-! ### Widths of pieces -/

/-- Between two cuts stand whole clusters. -/
theorem clusters_append_of_leads {a b cs : List Char} (ha : Leads a cs) (hab : Leads (a ++ b) cs) :
    clusters (a ++ b) = clusters a ++ clusters b := by
  obtain ⟨leading, hpre, rfl⟩ := ha
  obtain ⟨longer, hpre', heq⟩ := hab
  rcases List.prefix_or_prefix_of_prefix hpre hpre' with ⟨between, rfl⟩ | ⟨between, rfl⟩
  · rw [List.flatten_append, List.append_cancel_left_eq] at heq
    have hlonger : clusters (leading.flatten ++ b) = leading ++ between := by
      rw [heq, ← List.flatten_append, clusters_flatten_of_prefix hpre']
    have hbetween : clusters b = between := by
      rw [heq]
      exact clusters_flatten_of_suffix (hlonger ▸ List.suffix_append leading between)
    rw [hlonger, hbetween, clusters_flatten_of_prefix hpre]
  · -- The second cut is not behind the first, so nothing stands between them.
    rw [List.flatten_append, List.append_assoc, List.append_right_eq_self, List.append_eq_nil_iff] at heq
    simp [heq.2, clusters]

theorem charsWidth_append_of_leads {a b cs : List Char} (ha : Leads a cs) (hab : Leads (a ++ b) cs) :
    charsWidth (a ++ b) = charsWidth a + charsWidth b := by
  rw [charsWidth_eq, charsWidth_eq, charsWidth_eq, clusters_append_of_leads ha hab, List.map_append,
    List.sum_append]

/-- Texts that a text falls into when it is cut between clusters: put together they are the text, and those in
front of any cut are whole clusters. -/
structure IsCut (s : String) (pieces : List String) : Prop where
  joined : String.join pieces = s
  between : ∀ before, before <+: pieces → Leads (String.join before).toList s.toList

instance : DecidableRel IsCut := fun s pieces =>
  decidable_of_iff
    (String.join pieces = s ∧ ∀ before ∈ pieces.inits, Leads (String.join before).toList s.toList)
    ⟨fun h => ⟨h.1, fun before hpre => h.2 before ((List.mem_inits ..).mpr hpre)⟩,
      fun h => ⟨h.joined, fun before hmem => h.between before ((List.mem_inits ..).mp hmem)⟩⟩

theorem charsWidth_append_join {a cs : List Char} {pieces : List String}
    (h : ∀ before, before <+: pieces → Leads (a ++ (String.join before).toList) cs) :
    charsWidth (a ++ (String.join pieces).toList) = charsWidth a + (pieces.map displayWidth).sum := by
  induction pieces generalizing a with
  | nil => simp
  | cons p rest ih =>
    have ha : Leads a cs := by simpa using h [] List.nil_prefix
    have hp : Leads (a ++ p.toList) cs := by simpa using h [p] (List.prefix_append [p] rest)
    have hrest := @ih (a ++ p.toList) fun before hpre => by
      simpa using h (p :: before) (List.cons_prefix_cons.mpr ⟨rfl, hpre⟩)
    calc charsWidth (a ++ (String.join (p :: rest)).toList)
      _ = charsWidth (a ++ p.toList ++ (String.join rest).toList) := by simp
      _ = charsWidth a + charsWidth p.toList + (rest.map displayWidth).sum := by
        rw [hrest, charsWidth_append_of_leads ha hp]
      _ = charsWidth a + ((p :: rest).map displayWidth).sum := by
        rw [List.map_cons, List.sum_cons, ← Nat.add_assoc]
        rfl

/-- **Pieces are together as wide as the text.** For ASCII characters the number of those that are no controls
is the sum of the columns of the clusters, also where return and line feed make one. So wherever a text is cut
between clusters, the widths of the pieces add up, each found the way that it allows. -/
theorem displayWidth_pieces :
    (∀ cs : List Char, (∀ c ∈ cs, isAscii c = true) → asciiWidth cs = clusteredWidth cs) ∧
    ∀ (s : String) (pieces : List String), IsCut s pieces → (pieces.map displayWidth).sum = displayWidth s := by
  refine ⟨fun cs hascii => ?_, fun s pieces hcut => ?_⟩
  · have hshort : charsWidth cs = asciiWidth cs := if_pos (List.all_eq_true.mpr hascii)
    rw [← hshort, charsWidth_eq]
    rfl
  · have hwidth := @charsWidth_append_join [] s.toList pieces hcut.between
    have hnone : charsWidth [] = 0 := rfl
    rw [List.nil_append, hcut.joined, hnone, Nat.zero_add] at hwidth
    exact hwidth.symm

/-- Line ends and other controls among letters; and a text that is cut behind a line end and before a letter
with a mark. -/
theorem displayWidth_pieces_mixed :
    (∀ c ∈ "a\r\n\t\x7fb\r".toList, isAscii c = true) ∧
      asciiWidth "a\r\n\t\x7fb\r".toList = clusteredWidth "a\r\n\t\x7fb\r".toList ∧
      IsCut "\r\nb漢e\u0301" ["\r\n", "b漢", "e\u0301"] ∧
      (["\r\n", "b漢", "e\u0301"].map displayWidth).sum = displayWidth "\r\nb漢e\u0301" := by
  have hall : "a\r\n\t\x7fb\r".toList.all isAscii = true := by decide +kernel
  have hascii := List.all_eq_true.mp hall
  have hcut : IsCut "\r\nb漢e\u0301" ["\r\n", "b漢", "e\u0301"] := by decide +kernel
  exact ⟨hascii, displayWidth_pieces.1 _ hascii, hcut, displayWidth_pieces.2 _ _ hcut⟩

/-! ### The longest cut that fits -/

/-- The longest run of whole leading clusters of a text that fits in a room. -/
structure LongestFit (s : String) (room : Nat) (p : String) : Prop where
  leads : Leads p.toList s.toList
  fits : displayWidth p ≤ room
  longest : ∀ q : String, Leads q.toList s.toList → p.length < q.length → room < displayWidth q

namespace LongestFit
variable {s p p' : String} {room room' : Nat}

/-- In more room at least as much fits. -/
theorem isPrefix (h : LongestFit s room p) (h' : LongestFit s room' p') (hle : room ≤ room') :
    p.toList <+: p'.toList := by
  refine List.prefix_of_prefix_length_le h.leads.isPrefix h'.leads.isPrefix (Nat.le_of_not_lt fun hlong => ?_)
  rw [String.length_toList, String.length_toList] at hlong
  have hwide := h'.longest p h.leads hlong
  have hfits := h.fits
  omega

/-- All of a text fits just where it is no wider than the room. -/
theorem eq_self_iff (h : LongestFit s room p) : p = s ↔ displayWidth s ≤ room := by
  refine ⟨fun hp => hp ▸ h.fits, fun hfits => ?_⟩
  have hlength : s.length ≤ p.length := Nat.le_of_not_lt fun hlong =>
    absurd (h.longest s (.self _) hlong) (Nat.not_lt.mpr hfits)
  rw [← String.length_toList, ← String.length_toList] at hlength
  exact String.toList_inj.mp (h.leads.isPrefix.eq_of_length_le hlength)

end LongestFit

/-- More leading clusters than fit are wider than the room. -/
theorem lt_of_longer {room : Nat} {clusters leading : List (List Char)} (hpre : leading <+: clusters)
    (hlong : (fitClusters room clusters).1.length < leading.flatten.length) :
    room < (leading.map clusterWidth).sum := by
  induction clusters generalizing room leading with
  | nil => simp [List.prefix_nil.mp hpre] at hlong
  | cons cluster rest ih =>
    cases leading with
    | nil => exact absurd hlong (Nat.not_lt_zero _)
    | cons first more =>
      obtain ⟨rfl, hmore⟩ := List.cons_prefix_cons.mp hpre
      rw [List.map_cons, List.sum_cons]
      unfold fitClusters at hlong
      by_cases hfits : clusterWidth first ≤ room
      · simp only [if_pos hfits, List.flatten_cons, List.length_append] at hlong
        have hrest := @ih (room - clusterWidth first) more hmore (by omega)
        omega
      · omega

theorem displayWidth_of_leading {s q : String} {leading : List (List Char)}
    (hpre : leading <+: clusters s.toList) (hq : q.toList = leading.flatten) :
    displayWidth q = (leading.map clusterWidth).sum := by
  rw [displayWidth, hq, charsWidth_eq, clusters_flatten_of_prefix hpre]

theorem truncate_eq (s : String) (room : Nat) :
    LongestFit s room (truncate s room).1 ∧ (truncate s room).2 = displayWidth (truncate s room).1 := by
  obtain ⟨leading, hpre, htaken, hused, hle⟩ := fitClusters_eq room (clusters s.toList)
  have htext : (truncate s room).1.toList = (fitClusters room (clusters s.toList)).1 := String.toList_ofList
  have hwidth := displayWidth_of_leading hpre (htext.trans htaken)
  refine ⟨⟨⟨leading, hpre, htext.trans htaken⟩, ?_, fun q hq hlong => ?_⟩, ?_⟩
  · rw [hwidth, ← hused]
    exact hle
  · obtain ⟨longer, hlonger, hq⟩ := hq
    rw [displayWidth_of_leading hlonger hq]
    refine lt_of_longer hlonger ?_
    rw [← htext, ← hq, String.length_toList, String.length_toList]
    exact hlong
  · rw [hwidth, ← hused]
    rfl

/-- **A text is cut to the longest run of its clusters that fits**, and the width that goes with it is that of
what was taken. The text is left whole just where it is no wider than the room, and in more room at least as
much is taken. -/
theorem truncate_longest (s : String) (max : Nat) :
    LongestFit s max (truncate s max).1 ∧
      (truncate s max).2 = displayWidth (truncate s max).1 ∧ (truncate s max).2 ≤ max ∧
      ((truncate s max).1 = s ↔ displayWidth s ≤ max) ∧
      ∀ max', max ≤ max' → (truncate s max).1.toList <+: (truncate s max').1.toList := by
  obtain ⟨hlongest, hwidth⟩ := truncate_eq s max
  refine ⟨hlongest, hwidth, hwidth ▸ hlongest.fits, hlongest.eq_self_iff, fun max' hle => ?_⟩
  exact hlongest.isPrefix (truncate_eq s max').1 hle

/-- A character without columns is taken before a wide one that does not fit, and what would fit behind that is
not. -/
theorem truncate_longest_wide :
    truncate "a\u200b漢b" 2 = ("a\u200b", 1) ∧ LongestFit "a\u200b漢b" 2 "a\u200b" ∧ 2 ≤ 3 ∧
      "a\u200b".toList <+: (truncate "a\u200b漢b" 3).1.toList := by
  have hcut : truncate "a\u200b漢b" 2 = ("a\u200b", 1) := by decide +kernel
  have hle : 2 ≤ 3 := by decide
  obtain ⟨hlongest, -, -, -, hmore⟩ := truncate_longest "a\u200b漢b" 2
  have hstarts := hmore 3 hle
  rw [hcut] at hlongest hstarts
  exact ⟨hcut, hlongest, hle, hstarts⟩

end TextPane.Text
