import Mathlib.Data.List.Basic
import TextPane.Text.Blank

/-! Numbers as they are written.

A number is written in decimal digits, none of which is a blank, a sign or a letter. What is written for a
number below the limit of a machine word is read as that number (`wordOfChars?_digits`). -/
namespace TextPane.Text

section Digit
variable {c : Char}

theorem toNat_of_isDigit (h : c.isDigit = true) : 48 ≤ c.toNat ∧ c.toNat ≤ 57 := by
  simpa [Char.isDigit, UInt32.le_iff_toNat_le] using h

theorem isAlpha_of_isDigit (h : c.isDigit = true) : c.isAlpha = false := by
  obtain ⟨_, hlast⟩ := toNat_of_isDigit h
  have hupper : c.isUpper = false := by
    apply decide_eq_false
    rintro ⟨hlow, _⟩
    have hlow' : 65 ≤ c.toNat := UInt32.le_iff_toNat_le.mp hlow
    omega
  have hlower : c.isLower = false := by
    have hlow : decide (c.val ≥ 'a'.val) = false := by
      apply decide_eq_false
      intro hlow
      have hlow' : 97 ≤ c.toNat := UInt32.le_iff_toNat_le.mp hlow
      omega
    show (decide (c.val ≥ 'a'.val) && decide (c.val ≤ 'z'.val)) = false
    rw [hlow, Bool.false_and]
  show (c.isUpper || c.isLower) = false
  rw [hupper, hlower, Bool.false_or]

theorem isBlank_of_isDigit (h : c.isDigit = true) : isBlank c = false := by
  obtain ⟨hfirst, hlast⟩ := toNat_of_isDigit h
  simp only [isBlank, Bool.or_eq_false_iff, Bool.and_eq_false_iff, decide_eq_false_iff_not,
    beq_eq_false_iff_ne]
  omega

end Digit

theorem isDigit_of_mem_digits {n : Nat} {c : Char} (h : c ∈ (toString n).toList) :
    c.isDigit = true := by
  rw [Nat.toString_eq_ofList_toDigits, String.toList_ofList] at h
  exact Nat.isDigit_of_mem_toDigits (by decide) (by decide) h

theorem digits_ne_nil (n : Nat) : (toString n).toList ≠ [] := by
  rw [Nat.toString_eq_ofList_toDigits, String.toList_ofList]
  exact Nat.toDigits_ne_nil

/-- No number but zero opens with a zero. -/
theorem head_digits {n : Nat} (h : n ≠ 0) : (toString n).toList.head? ≠ some '0' := by
  rw [Nat.toString_eq_ofList_toDigits, String.toList_ofList]
  induction n using Nat.strongRecOn with
  | ind n ih =>
    by_cases hlt : n < 10
    · have hdigit : ∀ m < 10, m ≠ 0 → [m.digitChar].head? ≠ some '0' := by decide
      rw [Nat.toDigits_of_lt_base hlt]
      exact hdigit n hlt h
    · have hle : 10 ≤ n := Nat.not_lt.mp hlt
      rw [Nat.toDigits_of_base_le (by decide) hle, List.head?_append, Option.or_of_isSome]
      · exact ih (n / 10) (by omega) (by omega)
      · exact List.isSome_head?.mpr Nat.toDigits_ne_nil

/-- The digits of a number denote it. -/
theorem digitsValue_digits (n : Nat) : digitsValue (toString n).toList = n := by
  have hread : Nat.ofDigitChars 10 (Nat.toDigits 10 n) 0 = n := Nat.ofDigitChars_ten_toDigits
  simp only [Nat.ofDigitChars_eq_foldl, Nat.mul_comm 10] at hread
  rw [Nat.toString_eq_ofList_toDigits, String.toList_ofList]
  exact hread

/-- Digits that denote a number below the limit of a word are read as that number. -/
theorem wordOfDigits?_eq {cs : List Char} (hne : cs ≠ []) (hdigits : ∀ c ∈ cs, c.isDigit = true)
    (h : digitsValue cs < wordLimit) : wordOfDigits? cs = some (digitsValue cs) := by
  simp [wordOfDigits?, hne, List.all_eq_true.mpr hdigits, h]

/-- A number below the limit of a word is read as it was written. -/
theorem wordOfChars?_digits {n : Nat} (h : n < wordLimit) : wordOfChars? (toString n).toList = some n := by
  have hdigits : ∀ c ∈ (toString n).toList, c.isDigit = true := fun c => isDigit_of_mem_digits
  have hvalue := digitsValue_digits n
  rw [wordOfChars?]
  · rw [wordOfDigits?_eq (digits_ne_nil n) hdigits (hvalue.symm ▸ h), hvalue]
  · rintro ds hds
    have hplus := hdigits '+' (by rw [hds]; exact List.mem_cons_self ..)
    exact absurd hplus (by decide)

/-- Characters without blanks at their ends are trimmed of nothing. -/
theorem trimChars_of_all {cs : List Char} (h : ∀ c ∈ cs, isBlank c = false) : trimChars cs = cs := by
  have hkept {ds : List Char} (hds : ∀ c ∈ ds, isBlank c = false) : ds.dropWhile isBlank = ds := by
    cases ds with
    | nil => rfl
    | cons c rest => rw [List.dropWhile_cons_of_neg (by simp [hds c (List.mem_cons_self ..)])]
  rw [trimChars, trimEndChars, hkept h, hkept fun c hc => h c (List.mem_reverse.mp hc),
    List.reverse_reverse]

/-- A word that was read is below the limit. -/
theorem lt_of_wordOfChars? {cs : List Char} {n : Nat} (h : wordOfChars? cs = some n) : n < wordLimit := by
  have hdigits {ds : List Char} (hds : wordOfDigits? ds = some n) : n < wordLimit := by
    unfold wordOfDigits? at hds
    split at hds
    · cases hds
    · split at hds
      · next hlt =>
        cases hds
        exact hlt
      · cases hds
  unfold wordOfChars? at h
  split at h <;> exact hdigits h

end TextPane.Text
