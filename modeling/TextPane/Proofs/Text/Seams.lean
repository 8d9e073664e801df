import Mathlib.Tactic.SplitIfs
import TextPane.Proofs.Wrap.Fitting
import TextPane.Wrap.Unit

/-! Seams.

Texts that stand side by side are together as wide as each by itself if no cluster reaches across the seam
between them: whether one does is decided by what stands before the seam and by the first character behind it
(`clusters_append_of`). At a blank the widths add up whatever stands around it
(`charsWidth_append_blanks`), even where a mark sits on the blank, as a blank is no part of any sign: it adds
its own columns to what stands behind it and hides that from what stands before it
(`columnsBefore_blank`).

Some signs take columns back that were counted for the characters behind, but no more than these were
counted for (`columnsAhead_nonneg`). -/
namespace TextPane.Text

/-! ### Columns that are taken back -/

/-- The columns that a character before this opening may take back. -/
def Opening.owed : Opening → Int
  | .khmerLetter | .tifinaghJoined | .joinedFlag | .joinedOddFlags => 1
  | _ => 0

theorem Opening.owed_nonneg (o : Opening) : 0 ≤ o.owed := by
  cases o <;> simp [owed]

theorem Opening.owed_le_one (o : Opening) : o.owed ≤ 1 := by
  cases o <;> simp [owed]

theorem one_le_charColumns_of_isKhmerSubscript {c : Char} (h : isKhmerSubscript c = true) :
    1 ≤ charColumns c := by
  have hall : ∀ n ∈ List.range' 0x1780 0x30,
      isKhmerSubscript (Char.ofNat n) = true → 1 ≤ charColumns (Char.ofNat n) := by
    decide +kernel
  have hrow : c.toNat ∈ List.range' 0x1780 0x30 := by
    simp only [isKhmerSubscript, Bool.or_eq_true, Bool.and_eq_true, decide_eq_true_eq, beq_iff_eq] at h
    simp only [List.mem_range'_1]
    omega
  have hc := hall c.toNat hrow
  rw [Char.ofNat_toNat] at hc
  exact hc h

theorem owed_openingOf_le (c : Char) : (openingOf c).owed ≤ charColumns c := by
  cases hkhmer : isKhmerSubscript c
  · have howed : (openingOf c).owed = 0 := by
      simp only [openingOf, hkhmer, Bool.false_eq_true, if_false, apply_ite Opening.owed]
      simp only [Opening.owed, ite_self]
    omega
  · have hcolumns := one_le_charColumns_of_isKhmerSubscript hkhmer
    have howed := (openingOf c).owed_le_one
    omega

/-- What a ligature takes back was owed, and what its opening owes was counted. -/
theorem owed_of_ligature {a b : Ahead} {c : Char} {own : Int} (h : ligature a c = some (own, b)) :
    b.opening.owed ≤ a.opening.owed + own := by
  cases hopening : a.opening with
  | plain | lineFeed | joinedKeycap => simp [ligature, hopening] at h
  | _ =>
    simp only [ligature, hopening] at h
    split_ifs at h
    all_goals
      cases h
      simp [Opening.owed, Ahead.plain]

theorem owed_select_le (a : Ahead) (style : Style) : (a.select style).opening.owed ≤ a.opening.owed := by
  have hnone := a.opening.owed_nonneg
  cases style
  all_goals
    simp only [Ahead.select]
    split
    · exact Int.le_refl _
    · exact hnone

theorem owed_deselect_le (a : Ahead) (style : Style) :
    (if a.style = some style then a.deselect else a).opening.owed ≤ a.opening.owed := by
  unfold Ahead.deselect
  split
  · split
    · exact Int.le_refl _
    · exact a.opening.owed_nonneg
  · exact Int.le_refl _

theorem owed_wideColumnsBefore (a : Ahead) (c : Char) :
    (wideColumnsBefore a c).2.opening.owed ≤ a.opening.owed + (wideColumnsBefore a c).1 := by
  have hnone := a.opening.owed_nonneg
  have hkept := owed_deselect_le a .text
  unfold wideColumnsBefore
  split
  · simpa using owed_select_le a .emoji
  split
  · simpa using owed_select_le a .text
  split
  · show (0 : Int) ≤ a.opening.owed + 1
    omega
  simp only
  generalize (if a.style = some .text then a.deselect else a) = b at hkept
  split
  · show (if c = '\u200d' then { b with joined := true } else b).opening.owed ≤ a.opening.owed + 0
    split <;> simpa using hkept
  · cases hligature : ligature b c with
    | none =>
      have hopening := owed_openingOf_le c
      show (openingOf c).owed ≤ a.opening.owed + (charColumns c : Int)
      omega
    | some sign =>
      have howed := owed_of_ligature hligature
      show sign.2.opening.owed ≤ a.opening.owed + sign.1
      omega

theorem owed_columnsBefore (a : Ahead) (c : Char) :
    (columnsBefore a c).2.opening.owed ≤ a.opening.owed + (columnsBefore a c).1 := by
  have hnone := a.opening.owed_nonneg
  have hplain (own : Int) (hown : 0 ≤ own) : (0 : Int) ≤ a.opening.owed + own := by omega
  unfold columnsBefore
  split
  · exact hplain _ (by split <;> decide)
  have hkept := owed_deselect_le a .emoji
  simp only
  generalize (if a.style = some .emoji then a.deselect else a) = b at hkept
  split
  · split_ifs
    · exact hplain 1 (by decide)
    · exact hplain 0 (by decide)
    · exact hplain 1 (by decide)
  · exact Int.le_trans (owed_wideColumnsBefore b c) (Int.add_le_add_right hkept _)

/-- What a character in front may take back has been counted. -/
theorem owed_columnsAhead (cs : List Char) : (columnsAhead cs).2.opening.owed ≤ (columnsAhead cs).1 := by
  induction cs with
  | nil => exact Int.le_refl 0
  | cons c cs ih =>
    have hstep := owed_columnsBefore (columnsAhead cs).2 c
    show (columnsBefore (columnsAhead cs).2 c).2.opening.owed ≤
      (columnsAhead cs).1 + (columnsBefore (columnsAhead cs).2 c).1
    omega

/-- No more columns are taken back than were counted. -/
theorem columnsAhead_nonneg (cs : List Char) : 0 ≤ (columnsAhead cs).1 :=
  Int.le_trans (Opening.owed_nonneg _) (owed_columnsAhead cs)

/-! ### Blanks -/

/-- The blanks that are no line ends. -/
def blanks : List Char :=
  ['\t', '\x0b', '\x0c', ' ', '\u0085', '\u00a0', '\u1680', '\u2000', '\u2001', '\u2002', '\u2003', '\u2004',
    '\u2005', '\u2006', '\u2007', '\u2008', '\u2009', '\u200a', '\u2028', '\u2029', '\u202f', '\u205f',
    '\u3000']

theorem mem_blanks {c : Char} (h : WrapUnit.kindOf c = .space) : c ∈ blanks := by
  obtain ⟨hblank, hfeed, hreturn⟩ := WrapUnit.kindOf_eq_space_iff.mp h
  have hall : ∀ n ∈ List.range' 0x9 5 ++ List.range' 0x2000 11 ++
      [0x20, 0x85, 0xA0, 0x1680, 0x2028, 0x2029, 0x202F, 0x205F, 0x3000],
      Char.ofNat n ≠ '\n' → Char.ofNat n ≠ '\r' → Char.ofNat n ∈ blanks := by
    decide +kernel
  have hc := hall c.toNat (by
    simp only [isBlank, Bool.or_eq_true, Bool.and_eq_true, decide_eq_true_eq, beq_iff_eq] at hblank
    simp only [List.mem_append, List.mem_range'_1, List.mem_cons, List.not_mem_nil, or_false]
    omega)
  rw [Char.ofNat_toNat] at hc
  exact hc hfeed hreturn

/-- A character that may be part of a sign with what stands behind it. -/
def makesSigns (c : Char) : Bool :=
  isArabicLam c || isJoiningTransparent c || isTifinaghLetter c || isRegionalIndicator c || isSkinTone c ||
    isEmojiDefault c || isTagLetter c || isTagDigit c || isLigatureTransparent c ||
    Property.modifierBase.holds c || Property.emojiVariant.holds c ||
    [0x5D0, 0x17D2, 0x1A15, 0x1A17, 0x20E3, 0x2D7F, 0xA4F8, 0xA4F9, 0xA4FA, 0xA4FB, 0x10C32, 0x16D63, 0x16D67,
      0x16D68, 0x16D69, 0x1F3F4, 0xE007F].contains c.toNat

theorem ligature_of_not_makesSigns {c : Char} (h : makesSigns c = false) (a : Ahead) : ligature a c = none := by
  simp only [makesSigns, Bool.or_eq_false_iff, List.contains_eq_mem, decide_eq_false_iff_not, List.mem_cons,
    List.not_mem_nil, or_false, not_or, isLigatureTransparent, beq_eq_false_iff_ne] at h
  have hlisu : ¬(0xA4F8 ≤ c.toNat ∧ c.toNat ≤ 0xA4FB) := by omega
  cases hopening : a.opening <;> simp [ligature, hopening, h, hlisu]

/-- What the tables say of the blanks. -/
theorem blanks_all : blanks.all (fun c => !makesSigns c && !Property.conjunctLinker.holds c &&
    openingOf c = .plain && (breakClass c = .control ∨ breakClass c = .other) &&
    (c.toNat ≤ 0xA0 → charColumns c = 1 ∧ c ≠ '\n' ∧ c ≠ '\r')) = true := by
  decide +kernel

section Blank
variable {c : Char} (h : WrapUnit.kindOf c = .space)
include h

/-- A blank is part of no sign, ties no conjunct and is no mark. -/
theorem of_blank : makesSigns c = false ∧ Property.conjunctLinker.holds c = false ∧ openingOf c = .plain ∧
    (breakClass c = .control ∨ breakClass c = .other) ∧
    (c.toNat ≤ 0xA0 → charColumns c = 1 ∧ c ≠ '\n' ∧ c ≠ '\r') := by
  have hall := List.all_eq_true.mp blanks_all c (mem_blanks h)
  simp only [Bool.and_eq_true, Bool.not_eq_true', decide_eq_true_eq, and_assoc] at hall
  exact hall

theorem breakClass_of_blank : breakClass c = .control ∨ breakClass c = .other := (of_blank h).2.2.2.1

/-- A blank adds its own columns and hides what stands behind it. -/
theorem columnsBefore_blank (a : Ahead) : columnsBefore a c = ((charColumns c : Int), Ahead.plain) := by
  obtain ⟨hsigns, -, hopening, -, hlow⟩ := of_blank h
  have hligature := ligature_of_not_makesSigns hsigns
  simp only [makesSigns, Bool.or_eq_false_iff] at hsigns
  obtain ⟨⟨⟨⟨-, htransparent⟩, -⟩, hvariant⟩, -⟩ := hsigns
  have hselector : c ≠ '\ufe0f' ∧ c ≠ '\ufe0e' := by
    constructor <;> rintro rfl <;> exact absurd htransparent (by decide)
  unfold columnsBefore
  simp only [hvariant, Bool.false_eq_true, and_false, if_false]
  split
  · next hle =>
    obtain ⟨hcolumns, hfeed, hreturn⟩ := hlow hle
    simp [hcolumns, hfeed, hreturn]
  · simp [wideColumnsBefore, hselector, hvariant, htransparent, hligature, hopening, Ahead.plain]

end Blank

/-- Columns add up at a blank. -/
theorem columns_append_blank {c : Char} (h : WrapUnit.kindOf c = .space) (a b : List Char) :
    columns (a ++ c :: b) = columns a + charColumns c + columns b := by
  have hblank : columnsAhead (c :: b) = ((columnsAhead b).1 + (charColumns c : Int), Ahead.plain) := by
    show ((columnsAhead b).1 + (columnsBefore (columnsAhead b).2 c).1,
      (columnsBefore (columnsAhead b).2 c).2) = _
    rw [columnsBefore_blank h]
  have hbefore (a : List Char) : columnsAhead (a ++ c :: b) =
      ((columnsAhead b).1 + (charColumns c : Int) + (columnsAhead a).1, (columnsAhead a).2) := by
    induction a with
    | nil => simpa [columnsAhead] using hblank
    | cons d a ih => simp only [List.cons_append, columnsAhead, ih, Int.add_assoc]
  have ha := columnsAhead_nonneg a
  have hb := columnsAhead_nonneg b
  rw [columns, columns, columns, hbefore]
  omega

/-! ### Marks -/

theorem breakClass_of_isControl {c : Char} (h : isControl c = true) :
    breakClass c = .carriageReturn ∨ breakClass c = .lineFeed ∨ breakClass c = .control := by
  have hall : ∀ n ∈ List.range' 0 0x20 ++ List.range' 0x7F 0x21,
      breakClass (Char.ofNat n) = .carriageReturn ∨ breakClass (Char.ofNat n) = .lineFeed ∨
        breakClass (Char.ofNat n) = .control := by
    decide +kernel
  have hc := hall c.toNat (by
    simp only [isControl, Bool.or_eq_true, Bool.and_eq_true, decide_eq_true_eq] at h
    simp only [List.mem_append, List.mem_range'_1]
    omega)
  rwa [Char.ofNat_toNat] at hc

/-- A cluster with a character that is no control takes the columns of its text. -/
theorem clusterWidth_eq_columns {cluster : List Char} {c : Char} (hc : c ∈ cluster)
    (h : breakClass c ≠ .carriageReturn ∧ breakClass c ≠ .lineFeed ∧ breakClass c ≠ .control) :
    clusterWidth cluster = columns cluster := by
  refine if_neg fun hall => ?_
  rcases breakClass_of_isControl (List.all_eq_true.mp hall c hc) with hclass | hclass | hclass
  · exact h.1 hclass
  · exact h.2.1 hclass
  · exact h.2.2 hclass

/-- Behind an ordinary character, a mark joins as if it stood first. -/
theorem clustersFrom_other {c : Char} (cs : List Char)
    (h : (⟨.other, .nothing⟩ : Tail).joins (breakClass c) = true) :
    (⟨.other, .nothing⟩ : Tail).push c = Tail.start c ∧
      clusterWidth (c :: cs) = columns (c :: cs) := by
  have hmark : breakClass c = .extend ∨ breakClass c = .joiner ∨ breakClass c = .spacingMark := by
    cases hclass : breakClass c <;> simp [hclass, Tail.joins] at h ⊢
  constructor
  · rcases hmark with hclass | hclass | hclass <;>
      simp [Tail.push, Tail.start, Tail.pendingAfterMark, hclass]
  · refine clusterWidth_eq_columns (List.mem_cons_self ..) ?_
    rcases hmark with hclass | hclass | hclass <;> simp [hclass]

/-- What stands behind an ordinary character is as wide as by itself, also where it opens with marks. -/
theorem charsWidth_behind_other (cs : List Char) :
    charsWidth cs = columns (clustersFrom ⟨.other, .nothing⟩ cs).1 +
      ((clustersFrom ⟨.other, .nothing⟩ cs).2.map clusterWidth).sum := by
  rw [charsWidth_eq]
  cases cs with
  | nil => rfl
  | cons c cs =>
    by_cases hjoins : (⟨.other, .nothing⟩ : Tail).joins (breakClass c) = true
    · obtain ⟨hpush, hwidth⟩ := clustersFrom_other (clustersFrom (Tail.start c) cs).1 hjoins
      simp only [clusters, clustersFrom, if_pos hjoins, hpush, List.map_cons, List.sum_cons, hwidth]
    · simp only [clusters, clustersFrom, if_neg hjoins, List.map_cons, List.sum_cons]
      exact (Nat.zero_add _).symm

/-! ### Widths at blanks -/

/-- The width of an open cluster and of the text behind it. -/
def widthFrom (t : Tail) (cluster cs : List Char) : Nat :=
  clusterWidth (cluster ++ (clustersFrom t cs).1) + ((clustersFrom t cs).2.map clusterWidth).sum

theorem charsWidth_cons (c : Char) (cs : List Char) :
    charsWidth (c :: cs) = widthFrom (Tail.start c) [c] cs := by
  rw [charsWidth_eq]
  rfl

theorem widthFrom_nil (t : Tail) (cluster : List Char) : widthFrom t cluster [] = clusterWidth cluster := by
  simp [widthFrom, clustersFrom]

theorem widthFrom_cons (t : Tail) (cluster : List Char) (c : Char) (cs : List Char) :
    widthFrom t cluster (c :: cs) =
      if t.joins (breakClass c) then widthFrom (t.push c) (cluster ++ [c]) cs
      else clusterWidth cluster + charsWidth (c :: cs) := by
  split
  · next hjoins => simp [widthFrom, clustersFrom, hjoins]
  · next hjoins => simp [charsWidth_cons, widthFrom, clustersFrom, hjoins]

@[simp] theorem last_start (c : Char) : (Tail.start c).last = breakClass c := by
  unfold Tail.start
  split <;> simp_all

@[simp] theorem last_push (t : Tail) (c : Char) : (t.push c).last = breakClass c := by
  unfold Tail.push
  split <;> simp_all

section Blank
variable {c : Char} (h : WrapUnit.kindOf c = .space)
include h

theorem charsWidth_blank_cons (cs : List Char) : charsWidth (c :: cs) = charsWidth [c] + charsWidth cs := by
  rw [charsWidth_cons, charsWidth_cons c, widthFrom_nil]
  rcases breakClass_of_blank h with hclass | hclass
  · -- Nothing joins a control.
    have hstart : Tail.start c = ⟨.control, .nothing⟩ := by simp [Tail.start, hclass]
    cases cs with
    | nil => rw [widthFrom_nil]; rfl
    | cons d rest => rw [hstart, widthFrom_cons, if_neg (by simp [Tail.joins])]
  · have hstart : Tail.start c = ⟨.other, .nothing⟩ := by simp [Tail.start, hclass]
    have hwidth (marks : List Char) : clusterWidth (c :: marks) = charColumns c + columns marks := by
      rw [clusterWidth_eq_columns (List.mem_cons_self ..) (by simp [hclass])]
      simpa [columns, columnsAhead, Ahead.plain] using columns_append_blank h [] marks
    rw [hstart, widthFrom, List.singleton_append, hwidth, hwidth, charsWidth_behind_other cs]
    show _ = charColumns c + 0 + _
    omega

/-- A blank behind an open cluster adds its own columns, whether it joins the cluster or not. -/
theorem widthFrom_append_blank {t : Tail} {e : Char} (hlast : t.last = breakClass e) (cluster a b : List Char) :
    widthFrom t (cluster ++ [e]) (a ++ c :: b) =
      widthFrom t (cluster ++ [e]) a + charsWidth [c] + charsWidth b := by
  induction a generalizing t cluster e with
  | nil =>
    rw [List.nil_append, widthFrom_nil, widthFrom_cons]
    split
    · next hjoins =>
      -- Only a character that goes in front of others is joined by a blank.
      have hclass : breakClass c = .other ∧ breakClass e = .prepended := by
        rcases breakClass_of_blank h with hclass | hclass
        · cases ht : t.last <;> simp [Tail.joins, hclass, ht] at hjoins
        · rw [← hlast]
          cases ht : t.last <;> simp [Tail.joins, hclass, ht] at hjoins ⊢
      have hpush : t.push c = ⟨.other, .nothing⟩ := by
        cases hpending : t.pending <;>
          simp [Tail.push, Tail.pendingAfterMark, hclass.1, hpending, (of_blank h).2.1]
      have hprepended (marks : List Char) :
          clusterWidth (cluster ++ [e] ++ marks) = columns (cluster ++ [e] ++ marks) :=
        clusterWidth_eq_columns (c := e) (by simp) (by simp [hclass.2])
      have hempty := hprepended []
      have hone : charsWidth [c] = charColumns c := by
        rw [charsWidth_cons, widthFrom_nil,
          clusterWidth_eq_columns (List.mem_cons_self ..) (by simp [hclass.1])]
        simpa [columns, columnsAhead, Ahead.plain] using columns_append_blank h [] []
      rw [List.append_nil] at hempty
      rw [widthFrom, hpush, List.append_assoc, hprepended, List.singleton_append, columns_append_blank h,
        hempty, hone, charsWidth_behind_other b]
      omega
    · rw [charsWidth_blank_cons h, Nat.add_assoc]
  | cons d a ih =>
    rw [List.cons_append, widthFrom_cons, widthFrom_cons]
    split
    · exact ih (last_push t d) (cluster ++ [e])
    · have hrest := ih (last_start d) []
      rw [List.nil_append] at hrest
      rw [charsWidth_cons, charsWidth_cons, hrest]
      omega

theorem charsWidth_append_blank (a b : List Char) :
    charsWidth (a ++ c :: b) = charsWidth a + charsWidth [c] + charsWidth b := by
  cases a with
  | nil => simpa [charsWidth_eq, clusters] using charsWidth_blank_cons h b
  | cons d a =>
    have hrest := widthFrom_append_blank h (last_start d) [] a b
    rw [List.nil_append] at hrest
    rw [List.cons_append, charsWidth_cons, charsWidth_cons, hrest]

end Blank

/-- **Widths add up at blanks**, whatever stands around them. -/
theorem charsWidth_append_blanks {s : List Char} (hs : ∀ c ∈ s, WrapUnit.kindOf c = .space) (hne : s ≠ [])
    (a b : List Char) : charsWidth (a ++ s ++ b) = charsWidth a + charsWidth s + charsWidth b := by
  induction s generalizing a with
  | nil => exact absurd rfl hne
  | cons c rest ih =>
    have hc := hs c (List.mem_cons_self ..)
    have hrest := fun d hd => hs d (List.mem_cons_of_mem c hd)
    rw [List.append_assoc, List.cons_append, charsWidth_append_blank hc, charsWidth_blank_cons hc rest]
    by_cases hnil : rest = []
    · simp [hnil, charsWidth_eq, clusters]
    · have hbehind := ih hrest hnil []
      have hnone : charsWidth [] = 0 := rfl
      rw [List.nil_append, hnone, Nat.zero_add] at hbehind
      rw [hbehind]
      omega

/-! ### Cluster ends -/

/-- Whether a cluster ends before a character does not depend on what stands behind the character. -/
theorem clustersFrom_append_of {t : Tail} {a b : List Char} {d : Char}
    (h : clustersFrom t (a ++ d :: b) =
      ((clustersFrom t a).1, (clustersFrom t a).2 ++ clusters (d :: b))) (b' : List Char) :
    clustersFrom t (a ++ d :: b') = ((clustersFrom t a).1, (clustersFrom t a).2 ++ clusters (d :: b')) := by
  induction a generalizing t with
  | nil =>
    have hends : ¬t.joins (breakClass d) = true := fun hjoins => by
      simp only [List.nil_append, clustersFrom, if_pos hjoins] at h
      exact absurd (congrArg Prod.fst h) (List.cons_ne_nil d _)
    simp only [List.nil_append, clustersFrom, if_neg hends, clusters]
  | cons e a ih =>
    by_cases hjoins : t.joins (breakClass e) = true
    · simp only [List.cons_append, clustersFrom, if_pos hjoins, Prod.mk.injEq, List.cons.injEq, true_and]
        at h ⊢
      exact Prod.ext_iff.mp (ih (Prod.ext h.1 h.2))
    · simp only [List.cons_append, clustersFrom, if_neg hjoins, Prod.mk.injEq, List.cons.injEq, true_and]
        at h ⊢
      exact Prod.ext_iff.mp (ih (Prod.ext h.1 h.2))

/-- Clusters that end where a text begins still end there when more text comes behind it. -/
theorem clusters_append_of {a b : List Char} (hb : b ≠ []) (h : clusters (a ++ b) = clusters a ++ clusters b)
    (c : List Char) : clusters (a ++ (b ++ c)) = clusters a ++ clusters (b ++ c) := by
  obtain ⟨d, rest, rfl⟩ := List.exists_cons_of_ne_nil hb
  cases a with
  | nil => rfl
  | cons e a =>
    simp only [List.cons_append, clusters, List.cons.injEq, true_and] at h
    have hrest := clustersFrom_append_of (Prod.ext h.1 h.2) (rest ++ c)
    simp only [List.cons_append, clusters, hrest]

/-- Leading clusters are the clusters of the text they make. -/
theorem clustersFrom_take (t : Tail) (cs : List Char) (n : Nat) :
    clustersFrom t ((clustersFrom t cs).1 ++ ((clustersFrom t cs).2.take n).flatten) =
      ((clustersFrom t cs).1, (clustersFrom t cs).2.take n) := by
  induction cs generalizing t n with
  | nil => simp [clustersFrom]
  | cons c cs ih =>
    by_cases hjoins : t.joins (breakClass c) = true
    · simp [clustersFrom, hjoins, ih]
    · cases n with
      | zero => simp [clustersFrom, hjoins]
      | succ n => simp [clustersFrom, hjoins, ih]

theorem clusters_flatten_of_prefix {cs : List Char} {leading : List (List Char)} (h : leading <+: clusters cs) :
    clusters leading.flatten = leading := by
  cases cs with
  | nil => rw [List.prefix_nil.mp h]; rfl
  | cons c cs =>
    cases leading with
    | nil => rfl
    | cons cluster rest =>
      have hrest := clustersFrom_take (Tail.start c) cs rest.length
      obtain ⟨rfl, hpre⟩ := List.cons_prefix_cons.mp h
      rw [← List.prefix_iff_eq_take.mp hpre] at hrest
      simp only [List.flatten_cons, List.cons_append, clusters, hrest]

end TextPane.Text
