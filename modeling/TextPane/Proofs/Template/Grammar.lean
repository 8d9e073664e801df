import Mathlib.Data.List.TakeWhile
import TextPane.Proofs.Text.Digits
import TextPane.Template.Spec

/-! The grammar of format specs.

A spec is written `[[fill]align][+][#][0][width][.precision][type]`, and `SpecForm` holds what stands in each
of these places. Read from the left, each place is told apart by its characters: no sign of an align stands
behind the first two characters, and each flag, digit, point or letter is none of those that may follow its
place. Only a zero in front of the width may be read in two ways, and is taken for the flag
(`SpecForm.Leftmost`).

What is written is read as its components (`SpecForm.parse_text`), and whatever can be read is written by
some form (`SpecForm.exists_of_parse`). -/
namespace TextPane

/-- The sign of an align. -/
def Align.sign : Align → Char
  | .left => '<'
  | .right => '>'
  | .center => '^'

/-- The letter of a kind, if it has one. -/
def FormatKind.letter : FormatKind → List Char
  | .display => []
  | .lowerHex => ['x']
  | .upperHex => ['X']
  | .octal => ['o']
  | .binary => ['b']
  | .exponent => ['e']

/-- One digit or more. -/
structure DigitRun where
  digits : List Char
  ne_nil : digits ≠ []
  isDigit : ∀ c ∈ digits, c.isDigit = true

namespace DigitRun

/-- The number that the digits denote. -/
def value (r : DigitRun) : Nat := Text.digitsValue r.digits

/-- The digits of a number. -/
def ofNat (n : Nat) : DigitRun :=
  ⟨(toString n).toList, Text.digits_ne_nil n, fun _ => Text.isDigit_of_mem_digits⟩

theorem value_ofNat (n : Nat) : (ofNat n).value = n := Text.digitsValue_digits n

end DigitRun

/-- What stands in the places of a spec, with numbers as runs of digits or as what these denote. -/
structure SpecForm (ν : Type) where
  /-- An align, with or without a fill in front of it. -/
  opening : Option (Option Char × Align) := none
  plus : Bool := false
  alternate : Bool := false
  zero : Bool := false
  width : Option ν := none
  precision : Option ν := none
  kind : FormatKind := .display

namespace SpecForm

section
variable {ν μ : Type}

def fill? (w : SpecForm ν) : Option Char := w.opening.bind Prod.fst

def align? (w : SpecForm ν) : Option Align := w.opening.map Prod.snd

/-- The form with other numbers in the same places. -/
def map (f : ν → μ) (w : SpecForm ν) : SpecForm μ :=
  { w with width := w.width.map f, precision := w.precision.map f }

end

/-! ### Writing -/

def openingChars : Option (Option Char × Align) → List Char
  | none => []
  | some (fill, align) => fill.toList ++ [align.sign]

def flagChars (flag : Char) (isSet : Bool) : List Char := if isSet then [flag] else []

def widthChars : Option DigitRun → List Char
  | none => []
  | some r => r.digits

def precisionChars : Option DigitRun → List Char
  | none => []
  | some r => '.' :: r.digits

/-- What stands behind the width. -/
def ending (w : SpecForm DigitRun) : List Char := precisionChars w.precision ++ w.kind.letter

/-- What stands behind the flags. -/
def numbers (w : SpecForm DigitRun) : List Char := widthChars w.width ++ w.ending

/-- What stands behind the align. -/
def body (w : SpecForm DigitRun) : List Char :=
  flagChars '+' w.plus ++ (flagChars '#' w.alternate ++ (flagChars '0' w.zero ++ w.numbers))

/-- The text that is written. -/
def text (w : SpecForm DigitRun) : String := String.ofList (openingChars w.opening ++ w.body)

/-- The text that is written for numbers. -/
def print (c : SpecForm Nat) : String := (c.map DigitRun.ofNat).text

/-! ### Meaning -/

/-- The numbers fit in words. -/
def Fits (c : SpecForm Nat) : Prop :=
  (∀ n ∈ c.width, n < Text.wordLimit) ∧ ∀ n ∈ c.precision, n < Text.wordLimit

/-- A zero in front of the width is the flag. -/
def Leftmost (w : SpecForm DigitRun) : Prop := w.zero = false → (widthChars w.width).head? ≠ some '0'

/-- A sign of an align stands in second place. -/
def SignSecond (raw : String) : Prop :=
  ∃ (c : Char) (align : Align) (behind : List Char), raw.toList = c :: align.sign :: behind

/-- The spec with these components, as it is reported for a text. -/
def spec (c : SpecForm Nat) (raw : String) : FormatSpec :=
  { raw
    fill := c.fill?.getD ' '
    align := c.align?
    plus := c.plus
    alternate := c.alternate
    zero := c.zero
    width := c.width
    precision := c.precision
    kind := c.kind }

/-! ### Characters that follow -/

theorem ofChar?_sign (a : Align) : Align.ofChar? a.sign = some a := by cases a <;> rfl

theorem sign_of_ofChar? {c : Char} {a : Align} (h : Align.ofChar? c = some a) : a.sign = c := by
  unfold Align.ofChar? at h
  split at h <;> cases h <;> rfl

theorem ofChars?_letter (k : FormatKind) : FormatKind.ofChars? k.letter = some k := by cases k <;> rfl

theorem letter_of_ofChars? {cs : List Char} {k : FormatKind} (h : FormatKind.ofChars? cs = some k) :
    k.letter = cs := by
  unfold FormatKind.ofChars? at h
  split at h <;> cases h <;> rfl

section Following
variable {P : Char → Prop}

theorem forall_flagChars {flag : Char} (isSet : Bool) (h : P flag) : ∀ c ∈ flagChars flag isSet, P c := by
  intro c hc
  cases isSet
  · cases hc
  · rwa [List.mem_singleton.mp hc]

theorem isDigit_of_mem_widthChars {width : Option DigitRun} {c : Char} (h : c ∈ widthChars width) :
    c.isDigit = true := by
  cases width with
  | none => exact absurd h List.not_mem_nil
  | some r => exact r.isDigit c h

/-- Behind the flags stand digits, a point and letters. -/
theorem forall_numbers (w : SpecForm DigitRun) (hdigit : ∀ c, c.isDigit = true → P c) (hpoint : P '.')
    (hletter : ∀ k : FormatKind, ∀ c ∈ k.letter, P c) : ∀ c ∈ w.numbers, P c := by
  have hwidth : ∀ c ∈ widthChars w.width, P c := fun c hc => hdigit c (isDigit_of_mem_widthChars hc)
  have hprecision : ∀ c ∈ precisionChars w.precision, P c := by
    cases w.precision with
    | none => exact fun c hc => absurd hc List.not_mem_nil
    | some r => exact List.forall_mem_cons.mpr ⟨hpoint, fun c hc => hdigit c (r.isDigit c hc)⟩
  simp only [numbers, ending, List.forall_mem_append]
  exact ⟨hwidth, hprecision, hletter w.kind⟩

/-- The width ends where the point, the letter or the text stands. -/
theorem forall_head_ending (w : SpecForm DigitRun) (hpoint : P '.')
    (hletter : ∀ k : FormatKind, ∀ c ∈ k.letter, P c) : ∀ c ∈ w.ending.head?, P c := by
  rw [ending]
  cases w.precision with
  | none => exact fun c hc => hletter w.kind c (List.mem_of_mem_head? hc)
  | some r =>
    rintro c ⟨⟩
    exact hpoint

end Following

theorem not_sign_of_isDigit {c : Char} (h : c.isDigit = true) : Align.ofChar? c = none := by
  unfold Align.ofChar?
  split
  · exact absurd h (by decide)
  · exact absurd h (by decide)
  · exact absurd h (by decide)
  · rfl

theorem ne_of_isDigit {c d : Char} (h : c.isDigit = true) (hd : d.isDigit = false) : c ≠ d := by
  rintro rfl
  exact absurd h (by rw [hd]; decide)

/-- The letter of a kind is none of those that may stand before it. -/
theorem letter_apart {k : FormatKind} {c : Char} (h : c ∈ k.letter) :
    Align.ofChar? c = none ∧ c.isDigit = false ∧ c ≠ '+' ∧ c ≠ '#' ∧ c ≠ '.' := by
  revert c
  cases k <;> simp [FormatKind.letter, Align.ofChar?]

/-- No sign of an align stands behind the align. -/
theorem not_sign_of_mem_body {w : SpecForm DigitRun} : ∀ c ∈ w.body, Align.ofChar? c = none := by
  have hnumbers : ∀ c ∈ w.numbers, Align.ofChar? c = none :=
    w.forall_numbers (fun _ => not_sign_of_isDigit) rfl fun _ _ hc => (letter_apart hc).1
  simp only [body, List.forall_mem_append]
  exact ⟨forall_flagChars _ rfl, forall_flagChars _ rfl, forall_flagChars _ rfl, hnumbers⟩

theorem head_ne_of_forall {cs : List Char} {flag : Char} (h : ∀ c ∈ cs, c ≠ flag) : cs.head? ≠ some flag :=
  fun hhead => h flag (List.mem_of_mem_head? hhead) rfl

theorem numbers_ne (w : SpecForm DigitRun) {flag : Char} (h : flag = '+' ∨ flag = '#') :
    ∀ c ∈ w.numbers, c ≠ flag := by
  have hdigit : flag.isDigit = false := by rcases h with rfl | rfl <;> rfl
  refine w.forall_numbers (fun _ hc => ne_of_isDigit hc hdigit) ?_ fun _ _ hc => ?_
  · rcases h with rfl | rfl <;> decide
  · obtain ⟨_, _, hplus, halternate, _⟩ := letter_apart hc
    rcases h with rfl | rfl
    · exact hplus
    · exact halternate

/-- A zero that is not the flag does not stand behind the other flags. -/
theorem head_numbers {w : SpecForm DigitRun} (hleft : w.Leftmost) (h : w.zero = false) :
    w.numbers.head? ≠ some '0' := by
  have hending : w.ending.head? ≠ some '0' := fun hhead =>
    w.forall_head_ending (P := (· ≠ '0')) (by decide)
      (fun _ _ hc => (ne_of_isDigit rfl (letter_apart hc).2.1).symm) '0' hhead rfl
  have hwidth := hleft h
  rw [numbers, List.head?_append]
  cases hhead : (widthChars w.width).head? with
  | none => exact hending
  | some c =>
    rw [hhead] at hwidth
    exact hwidth

/-! ### Reading what was written -/

theorem splitAlign_append (opening : Option (Option Char × Align)) {cs : List Char}
    (h : ∀ c ∈ cs, Align.ofChar? c = none) :
    FormatSpec.splitAlign (openingChars opening ++ cs) =
      ((opening.bind Prod.fst).getD ' ', opening.map Prod.snd, cs) := by
  match opening with
  | some (some fill, align) => simp [openingChars, FormatSpec.splitAlign, ofChar?_sign]
  | some (none, align) =>
    cases cs with
    | nil => simp [openingChars, FormatSpec.splitAlign, ofChar?_sign]
    | cons c rest =>
      simp [openingChars, FormatSpec.splitAlign, ofChar?_sign, h c (List.mem_cons_self ..)]
  | none =>
    match cs with
    | [] => rfl
    | [c] => simp [openingChars, FormatSpec.splitAlign, h c (List.mem_cons_self ..)]
    | c :: d :: rest =>
      have hd := h d (List.mem_cons_of_mem c (List.mem_cons_self ..))
      simp [openingChars, FormatSpec.splitAlign, h c (List.mem_cons_self ..), hd]

theorem splitFlag_append {flag : Char} {isSet : Bool} {cs : List Char}
    (h : isSet = false → cs.head? ≠ some flag) :
    FormatSpec.splitFlag flag (flagChars flag isSet ++ cs) = (isSet, cs) := by
  cases isSet with
  | true => exact if_pos rfl
  | false =>
    cases cs with
    | nil => rfl
    | cons c rest => exact if_neg fun hc => h rfl (congrArg some hc)

theorem splitDigits_append {ds cs : List Char} (hds : ∀ c ∈ ds, c.isDigit = true)
    (hcs : ∀ c ∈ cs.head?, c.isDigit = false) : FormatSpec.splitDigits (ds ++ cs) = (ds, cs) := by
  have hnone : cs.takeWhile Char.isDigit = [] ∧ cs.dropWhile Char.isDigit = cs := by
    cases cs with
    | nil => exact ⟨rfl, rfl⟩
    | cons c rest => simp [hcs c rfl]
  rw [FormatSpec.splitDigits, List.takeWhile_append_of_pos hds, List.dropWhile_append_of_pos hds, hnone.1,
    hnone.2, List.append_nil]

theorem splitPrecision_ending {w : SpecForm DigitRun} (h : ∀ r ∈ w.precision, r.value < Text.wordLimit) :
    FormatSpec.splitPrecision w.ending = some (w.precision.map DigitRun.value, w.kind.letter) := by
  have hletter : ∀ c ∈ w.kind.letter.head?, c.isDigit = false ∧ c ≠ '.' := fun c hc => by
    obtain ⟨_, hdigit, _, _, hpoint⟩ := letter_apart (List.mem_of_mem_head? hc)
    exact ⟨hdigit, hpoint⟩
  rw [ending]
  cases hp : w.precision with
  | none =>
    cases hk : w.kind.letter with
    | nil => rfl
    | cons c rest =>
      rw [hk] at hletter
      exact FormatSpec.splitPrecision.eq_2 _ fun _ hc => (hletter c rfl).2 (List.cons.inj hc).1
  | some r =>
    have hread : Text.wordOfDigits? r.digits = some r.value :=
      Text.wordOfDigits?_eq r.ne_nil r.isDigit (h r hp)
    show FormatSpec.splitPrecision ('.' :: (r.digits ++ w.kind.letter)) = _
    rw [FormatSpec.splitPrecision, splitDigits_append r.isDigit fun c hc => (hletter c hc).1]
    simp only [hread, Option.map_some]

theorem wordOfDigits?_widthChars {width : Option DigitRun} (h : ∀ r ∈ width, r.value < Text.wordLimit) :
    Text.wordOfDigits? (widthChars width) = width.map DigitRun.value := by
  cases width with
  | none => rfl
  | some r => exact Text.wordOfDigits?_eq r.ne_nil r.isDigit (h r rfl)

/-- What is written is read as its components. -/
theorem parse_text {w : SpecForm DigitRun} (hleft : w.Leftmost) (hfits : (w.map DigitRun.value).Fits) :
    FormatSpec.parse w.text = .ok ((w.map DigitRun.value).spec w.text) := by
  have hword {run : Option DigitRun} (h : ∀ n ∈ run.map DigitRun.value, n < Text.wordLimit) :
      ∀ r ∈ run, r.value < Text.wordLimit := fun r hr => h r.value (Option.mem_map_of_mem _ hr)
  have hplus : FormatSpec.splitFlag '+' w.body = _ := splitFlag_append fun _ => head_ne_of_forall <| by
    simp only [List.forall_mem_append]
    exact ⟨forall_flagChars _ (by decide), forall_flagChars _ (by decide), w.numbers_ne (.inl rfl)⟩
  have halternate :
      FormatSpec.splitFlag '#' (flagChars '#' w.alternate ++ (flagChars '0' w.zero ++ w.numbers)) = _ :=
    splitFlag_append fun _ => head_ne_of_forall <| by
      simp only [List.forall_mem_append]
      exact ⟨forall_flagChars _ (by decide), w.numbers_ne (.inr rfl)⟩
  have hzero : FormatSpec.splitFlag '0' (flagChars '0' w.zero ++ w.numbers) = _ :=
    splitFlag_append fun h => head_numbers hleft h
  have hdigits : FormatSpec.splitDigits w.numbers = (widthChars w.width, w.ending) := by
    have hend := w.forall_head_ending (P := (·.isDigit = false)) rfl fun _ _ hc => (letter_apart hc).2.1
    exact splitDigits_append (fun _ => isDigit_of_mem_widthChars) hend
  simp only [FormatSpec.parse, text, String.toList_ofList, splitAlign_append w.opening not_sign_of_mem_body,
    hplus, halternate, hzero, hdigits, splitPrecision_ending (hword hfits.2),
    wordOfDigits?_widthChars (hword hfits.1), ofChars?_letter]
  rfl

/-! ### Writing what is read -/

theorem exists_opening (cs : List Char) : ∃ opening rest, openingChars opening ++ rest = cs ∧
    FormatSpec.splitAlign cs = ((opening.bind Prod.fst).getD ' ', opening.map Prod.snd, rest) := by
  match cs with
  | [] => exact ⟨none, [], rfl, rfl⟩
  | [a] =>
    cases ha : Align.ofChar? a with
    | none => exact ⟨none, [a], rfl, by simp [FormatSpec.splitAlign, ha]⟩
    | some align =>
      refine ⟨some (none, align), [], ?_, by simp [FormatSpec.splitAlign, ha]⟩
      simp [openingChars, sign_of_ofChar? ha]
  | a :: b :: rest =>
    cases hb : Align.ofChar? b with
    | some align =>
      refine ⟨some (some a, align), rest, ?_, by simp [FormatSpec.splitAlign, hb]⟩
      simp [openingChars, sign_of_ofChar? hb]
    | none =>
      cases ha : Align.ofChar? a with
      | none => exact ⟨none, a :: b :: rest, rfl, by simp [FormatSpec.splitAlign, ha, hb]⟩
      | some align =>
        refine ⟨some (none, align), b :: rest, ?_, by simp [FormatSpec.splitAlign, ha, hb]⟩
        simp [openingChars, sign_of_ofChar? ha]

theorem exists_flag (flag : Char) (cs : List Char) : ∃ isSet rest, flagChars flag isSet ++ rest = cs ∧
    (isSet = false → rest.head? ≠ some flag) ∧ FormatSpec.splitFlag flag cs = (isSet, rest) := by
  cases cs with
  | nil => exact ⟨false, [], rfl, fun _ => by simp, rfl⟩
  | cons c rest =>
    by_cases hc : c = flag
    · exact ⟨true, rest, by rw [hc]; rfl, fun h => absurd h (by decide), if_pos hc⟩
    · exact ⟨false, c :: rest, rfl, fun _ h => hc (Option.some.inj h), if_neg hc⟩

/-- Digits are a run, or there are none. -/
theorem exists_widthChars {cs : List Char} (h : ∀ c ∈ cs, c.isDigit = true) :
    ∃ run : Option DigitRun, widthChars run = cs := by
  cases cs with
  | nil => exact ⟨none, rfl⟩
  | cons c rest => exact ⟨some ⟨c :: rest, List.cons_ne_nil c rest, h⟩, rfl⟩

theorem exists_run (cs : List Char) : ∃ (run : Option DigitRun) (rest : List Char),
    widthChars run ++ rest = cs ∧ FormatSpec.splitDigits cs = (widthChars run, rest) := by
  have hall : ∀ c ∈ cs.takeWhile Char.isDigit, c.isDigit = true := fun c => List.mem_takeWhile_imp
  obtain ⟨run, hrun⟩ := exists_widthChars hall
  exact ⟨run, cs.dropWhile Char.isDigit, by rw [hrun, List.takeWhile_append_dropWhile], by rw [hrun]; rfl⟩

/-- What is read as a number is what digits denote, and there are some. -/
theorem value_of_wordOfDigits? {run : Option DigitRun} {n : Nat}
    (h : Text.wordOfDigits? (widthChars run) = some n) : run.map DigitRun.value = some n := by
  cases run with
  | none => cases h
  | some r =>
    unfold Text.wordOfDigits? at h
    split at h
    · cases h
    · split at h
      · exact h
      · cases h

theorem exists_precision {cs rest : List Char} {precision : Option Nat}
    (h : FormatSpec.splitPrecision cs = some (precision, rest)) :
    ∃ run : Option DigitRun, precisionChars run ++ rest = cs ∧ run.map DigitRun.value = precision := by
  unfold FormatSpec.splitPrecision at h
  split at h
  · next cs =>
    obtain ⟨run, behind, hcs, hsplit⟩ := exists_run cs
    rw [hsplit] at h
    obtain ⟨n, hn, heq⟩ := Option.map_eq_some_iff.mp h
    obtain ⟨rfl, rfl⟩ := Prod.mk.inj heq
    have hvalue := value_of_wordOfDigits? hn
    cases run with
    | none => cases hvalue
    | some r => exact ⟨some r, congrArg ('.' :: ·) hcs, hvalue⟩
  · cases h
    exact ⟨none, rfl, rfl⟩

/-- Whatever can be read is written by some form, with the components that are reported if its width fits
in a word. -/
theorem exists_of_parse {raw : String} {spec : FormatSpec} (h : FormatSpec.parse raw = .ok spec) :
    ∃ w : SpecForm DigitRun, w.text = raw ∧ w.Leftmost ∧
      ((w.map DigitRun.value).Fits → spec = (w.map DigitRun.value).spec raw) := by
  obtain ⟨opening, cs₁, hopening, halign⟩ := exists_opening raw.toList
  obtain ⟨plus, cs₂, hplus, -, hplusRead⟩ := exists_flag '+' cs₁
  obtain ⟨alternate, cs₃, halternate, -, halternateRead⟩ := exists_flag '#' cs₂
  obtain ⟨zero, cs₄, hzero, hnoZero, hzeroRead⟩ := exists_flag '0' cs₃
  obtain ⟨width, cs₅, hwidth, hwidthRead⟩ := exists_run cs₄
  simp only [FormatSpec.parse, halign, hplusRead, halternateRead, hzeroRead, hwidthRead] at h
  cases hprecisionRead : FormatSpec.splitPrecision cs₅ with
  | none =>
    rw [hprecisionRead] at h
    cases h
  | some split =>
    obtain ⟨read, cs₆⟩ := split
    obtain ⟨precision, hprecision, hvalue⟩ := exists_precision hprecisionRead
    rw [hprecisionRead] at h
    cases hkind : FormatKind.ofChars? cs₆ with
    | none =>
      simp only [hkind] at h
      cases h
    | some kind =>
      simp only [hkind, Except.ok.injEq] at h
      let w : SpecForm DigitRun := { opening, plus, alternate, zero, width, precision, kind }
      have htext : w.text = raw := by
        rw [← String.ofList_toList (s := raw), ← hopening, ← hplus, ← halternate, ← hzero, ← hwidth,
          ← hprecision, ← letter_of_ofChars? hkind]
        rfl
      refine ⟨w, htext, fun hopen hhead => hnoZero hopen ?_, fun hfits => ?_⟩
      · rw [← hwidth, List.head?_append, show (widthChars width).head? = some '0' from hhead]
        rfl
      · have hread : Text.wordOfDigits? (widthChars width) = width.map DigitRun.value :=
          wordOfDigits?_widthChars fun r hr => hfits.1 r.value (Option.mem_map_of_mem _ hr)
        rw [← h, ← hvalue, hread]
        rfl

/-- Every form has the text of one in which a zero in front of the width is the flag. -/
theorem exists_leftmost (w : SpecForm DigitRun) :
    ∃ w' : SpecForm DigitRun, w'.text = w.text ∧ w'.Leftmost := by
  by_cases hleft : w.Leftmost
  · exact ⟨w, rfl, hleft⟩
  · obtain ⟨hzero, hhead⟩ : w.zero = false ∧ (widthChars w.width).head? = some '0' := by
      simpa [Leftmost] using hleft
    obtain ⟨behind, hwidth⟩ := List.head?_eq_some_iff.mp hhead
    have hdigits : ∀ c ∈ behind, c.isDigit = true := fun c hc =>
      isDigit_of_mem_widthChars (hwidth ▸ List.mem_cons_of_mem '0' hc)
    obtain ⟨run, rfl⟩ := exists_widthChars hdigits
    refine ⟨{ w with zero := true, width := run }, ?_, fun h => nomatch h⟩
    simp only [text, body, numbers, ending, hzero, hwidth]
    rfl

/-! ### The grammar -/

/-- A fill stands in front of a sign in second place, and nowhere else. -/
theorem isSome_fill? (w : SpecForm DigitRun) : w.fill?.isSome = true ↔ SignSecond w.text := by
  rw [SignSecond, text, String.toList_ofList]
  have hbody := not_sign_of_mem_body (w := w)
  rcases hopening : w.opening with _ | ⟨_ | fill, align⟩
  · refine iff_of_false (by simp [fill?, hopening]) ?_
    rintro ⟨c, align, behind, htext⟩
    rw [openingChars, List.nil_append] at htext
    have hnone := hbody align.sign (by rw [htext]; simp)
    rw [ofChar?_sign] at hnone
    cases hnone
  · refine iff_of_false (by simp [fill?, hopening]) ?_
    rintro ⟨c, align', behind, htext⟩
    have hbehind : w.body = align'.sign :: behind := (List.cons.inj htext).2
    have hnone := hbody align'.sign (by rw [hbehind]; simp)
    rw [ofChar?_sign] at hnone
    cases hnone
  · exact iff_of_true (by simp [fill?, hopening]) ⟨fill, align, w.body, rfl⟩

/-- **A spec is read where the grammar writes it, and as it is written.** Of a text whose numbers fit in
words: it is read if and only if some form writes it, and then one that does has the components that are
reported, with a fill exactly where a sign of an align stands in second place, and with no zero in front of
the width but the flag. And components are read as they are printed, with any fill before an align and,
without the zero flag, with any width but zero. -/
theorem parse_grammar :
    (∀ raw : String, (∀ w : SpecForm DigitRun, w.text = raw → (w.map DigitRun.value).Fits) →
      ((∃ spec, FormatSpec.parse raw = .ok spec) ↔ ∃ w : SpecForm DigitRun, w.text = raw) ∧
      ∀ spec, FormatSpec.parse raw = .ok spec → ∃ w : SpecForm DigitRun, w.text = raw ∧
        spec = (w.map DigitRun.value).spec raw ∧ (w.fill?.isSome ↔ SignSecond raw) ∧ w.Leftmost) ∧
    ∀ c : SpecForm Nat, c.Fits → (c.zero = false → c.width ≠ some 0) →
      FormatSpec.parse c.print = .ok (c.spec c.print) := by
  refine ⟨fun raw hfits => ⟨⟨?_, ?_⟩, fun spec hspec => ?_⟩, fun c hfits hwidth => ?_⟩
  · rintro ⟨spec, hspec⟩
    obtain ⟨w, htext, _⟩ := exists_of_parse hspec
    exact ⟨w, htext⟩
  · rintro ⟨w, rfl⟩
    obtain ⟨w', htext, hleft⟩ := w.exists_leftmost
    have hread := parse_text hleft (hfits w' htext)
    rw [htext] at hread
    exact ⟨_, hread⟩
  · obtain ⟨w, rfl, hleft, hreported⟩ := exists_of_parse hspec
    exact ⟨w, rfl, hreported (hfits w rfl), w.isSome_fill?, hleft⟩
  · have hvalue : (c.map DigitRun.ofNat).map DigitRun.value = c := by
      simp [map, Option.map_map, Function.comp_def, DigitRun.value_ofNat]
    have hleft : (c.map DigitRun.ofNat).Leftmost := by
      intro hzero
      cases hc : c.width with
      | none => simp [map, hc, widthChars]
      | some n =>
        have hn : n ≠ 0 := fun hn => hwidth hzero (by rw [hc, hn])
        simp only [map, hc, Option.map_some]
        exact Text.head_digits hn
    have hread := parse_text hleft (by rwa [hvalue])
    rwa [hvalue] at hread

/-! ### Short texts -/

theorem value_lt (r : DigitRun) : r.value < 10 ^ r.digits.length := by
  have hfold : ∀ (cs : List Char) (n : Nat), (∀ c ∈ cs, c.isDigit = true) →
      cs.foldl (fun n c => n * 10 + (c.toNat - '0'.toNat)) n < (n + 1) * 10 ^ cs.length := by
    intro cs
    induction cs with
    | nil => exact fun n _ => by simp
    | cons c rest ih =>
      intro n h
      have hdigit := (Text.toNat_of_isDigit (h c (List.mem_cons_self ..))).2
      have hnext : n * 10 + (c.toNat - 48) + 1 ≤ (n + 1) * 10 := by omega
      calc rest.foldl _ (n * 10 + (c.toNat - 48))
          < (n * 10 + (c.toNat - 48) + 1) * 10 ^ rest.length :=
            ih _ fun d hd => h d (List.mem_cons_of_mem c hd)
        _ ≤ (n + 1) * 10 * 10 ^ rest.length := Nat.mul_le_mul_right _ hnext
        _ = (n + 1) * 10 ^ (c :: rest).length := by rw [List.length_cons, Nat.pow_succ', Nat.mul_assoc]
  have hvalue := hfold r.digits 0 r.isDigit
  rwa [Nat.zero_add, Nat.one_mul] at hvalue

/-- The numbers of a text of nineteen characters fit in words. -/
theorem fits_of_length {w : SpecForm DigitRun} (h : w.text.toList.length ≤ 19) :
    (w.map DigitRun.value).Fits := by
  have hlimit {r : DigitRun} (hr : r.digits.length ≤ 19) : r.value < Text.wordLimit :=
    calc r.value < 10 ^ r.digits.length := value_lt r
      _ ≤ 10 ^ 19 := Nat.pow_le_pow_right (by decide) hr
      _ ≤ Text.wordLimit := by decide
  simp only [text, body, numbers, ending, String.toList_ofList, List.length_append] at h
  refine ⟨fun n hn => ?_, fun n hn => ?_⟩
  · obtain ⟨r, hr, rfl⟩ := Option.map_eq_some_iff.mp hn
    refine hlimit ?_
    rw [hr, widthChars] at h
    omega
  · obtain ⟨r, hr, rfl⟩ := Option.map_eq_some_iff.mp hn
    refine hlimit ?_
    rw [hr, precisionChars, List.length_cons] at h
    omega

/-- A zero fills, a zero is the flag and one more opens the width; and a sign of an align fills. -/
theorem parse_grammar_zeros :
    (∃ w : SpecForm DigitRun, w.text = "0<+#007.030x" ∧ w.fill?.isSome ∧ w.Leftmost ∧
      (w.map DigitRun.value).spec "0<+#007.030x" =
        { raw := "0<+#007.030x", fill := '0', align := some .left, plus := true, alternate := true,
          zero := true, width := some 7, precision := some 30, kind := .lowerHex }) ∧
      (∃ w : SpecForm DigitRun, w.text = "0<+#007.030x") ∧
      print { opening := some (some '<', .right), width := some 5 } = "<>5" ∧
      FormatSpec.parse (print { opening := some (some '<', .right), width := some 5 }) =
        .ok { raw := "<>5", fill := '<', align := some .right, width := some 5 } := by
  have hread : FormatSpec.parse "0<+#007.030x" = .ok
      { raw := "0<+#007.030x", fill := '0', align := some .left, plus := true, alternate := true,
        zero := true, width := some 7, precision := some 30, kind := .lowerHex } := by decide +kernel
  obtain ⟨haccepts, hreports⟩ := parse_grammar.1 "0<+#007.030x" fun w hw =>
    fits_of_length (by rw [hw]; decide +kernel)
  obtain ⟨w, htext, hspec, hfill, hleft⟩ := hreports _ hread
  have hprint : print { opening := some (some '<', .right), width := some 5 } = "<>5" := by decide +kernel
  have hsecond : SignSecond "0<+#007.030x" := ⟨'0', .left, "+#007.030x".toList, by decide +kernel⟩
  refine ⟨⟨w, htext, hfill.mpr hsecond, hleft, hspec.symm⟩, haccepts.mp ⟨_, hread⟩, hprint, ?_⟩
  have hfits : Fits { opening := some (some '<', .right), width := some 5 } := by
    refine ⟨fun n hn => ?_, fun n hn => nomatch hn⟩
    cases hn
    decide
  rw [parse_grammar.2 _ hfits fun _ => by decide, hprint]
  rfl

end SpecForm

end TextPane
