import TextPane.Proofs.Template.Padding

/-! Whole numbers as they are set out.

A whole number is set out as a sign, the mark of its base and digits, with zeros between the mark and the
digits where the spec asks for them, and with fill around it all (`FormatSpec.apply_int`). Each part is told
apart from the others by its characters, so what is set out reads back as the number
(`FormatSpec.apply_int_reads`).

The zeros come up to the width by themselves, so nothing is padded twice: behind zeros there is no gap left
to fill.

The digits are those of the magnitude, but in scientific notation they come with the sign of the number, and
so a negative number has it twice (`FormatSpec.apply_int_neg`). -/
namespace TextPane

/-! ### Reading -/

namespace FormatKind

/-- The digits of a kind, in ascending order. -/
def digits : FormatKind → List Char
  | .display | .exponent => "0123456789".toList
  | .lowerHex => "0123456789abcdef".toList
  | .upperHex => "0123456789ABCDEF".toList
  | .octal => "01234567".toList
  | .binary => "01".toList

/-- The mark of the base of a kind. -/
def mark : FormatKind → List Char
  | .display | .exponent => []
  | .lowerHex | .upperHex => ['0', 'x']
  | .octal => ['0', 'o']
  | .binary => ['0', 'b']

/-- The number that a run of digits denotes. -/
def readDigits (kind : FormatKind) (cs : List Char) : Option Nat :=
  cs.foldlM (fun n c => (kind.digits.idxOf? c).map (n * kind.digits.length + ·)) 0

end FormatKind

namespace FormatSpec

def markChars (spec : FormatSpec) : List Char := if spec.alternate then spec.kind.mark else []

def signChars (spec : FormatSpec) (n : Int) : List Char :=
  if n < 0 then ['-'] else if spec.plus then ['+'] else []

/-- Reads the mark, if there is to be one, and digits. -/
def readMagnitude (spec : FormatSpec) (cs : List Char) : Option Nat :=
  match spec.markChars.isPrefixOf? cs with
  | none | some [] => none
  | some ds => spec.kind.readDigits ds

/-- Reads a sign, if there is one, and what stands behind it. -/
def readSigned (spec : FormatSpec) : List Char → Option Int
  | '-' :: cs => (spec.readMagnitude cs).map fun m => -(m : Int)
  | '+' :: cs => (spec.readMagnitude cs).map fun m => (m : Int)
  | cs => (spec.readMagnitude cs).map fun m => (m : Int)

/-- Reads a whole number with blanks around it. -/
def readInt (spec : FormatSpec) (text : String) : Option Int := spec.readSigned (Text.trimChars text.toList)

end FormatSpec

/-! ### Digits -/

namespace Text

/-- A digit or letter as numbers are made of. -/
def isFigure (c : Char) : Bool := isPrintable c && !isBlank c && c != '-' && c != '+'

theorem utf8ByteSize_printable {cs : List Char} (h : ∀ c ∈ cs, isPrintable c) :
    (String.ofList cs).utf8ByteSize = cs.length := by
  induction cs with
  | nil => rfl
  | cons c rest ih =>
    have hc := toNat_of_isPrintable (h c (List.mem_cons_self ..))
    have hone : c.utf8Size = 1 := Char.utf8Size_eq_one_iff.mpr (UInt32.le_iff_toNat_le.mpr (by
      show c.toNat ≤ 127
      omega))
    have hcons : String.ofList (c :: rest) = String.singleton c ++ String.ofList rest := by
      rw [String.singleton_eq_ofList, ← String.ofList_append]
      rfl
    rw [hcons, String.utf8ByteSize_append, String.utf8ByteSize_singleton, hone,
      ih fun d hd => h d (List.mem_cons_of_mem c hd), List.length_cons, Nat.add_comm]

/-- Blanks around a text without any are trimmed. -/
theorem trimChars_padded {cs : List Char} (h : ∀ c ∈ cs, isBlank c = false) (m n : Nat) :
    trimChars (List.replicate m ' ' ++ cs ++ List.replicate n ' ') = cs := by
  have hblank (k : Nat) : ∀ c ∈ List.replicate k ' ', isBlank c = true := fun c hc => by
    rw [List.eq_of_mem_replicate hc]
    rfl
  have hkept {ds : List Char} (hds : ∀ c ∈ ds, isBlank c = false) (k : Nat) :
      (ds ++ List.replicate k ' ').dropWhile isBlank = if ds = [] then [] else ds ++ List.replicate k ' ' := by
    cases ds with
    | nil => simpa using hblank k
    | cons d rest => simp [hds d (List.mem_cons_self ..)]
  rw [trimChars, List.append_assoc, List.dropWhile_append_of_pos (hblank m), hkept h]
  by_cases hcs : cs = []
  · rw [if_pos hcs, hcs]
    rfl
  · have hreverse : cs.reverse.dropWhile isBlank = cs.reverse := by
      simpa [hcs] using hkept (fun c hc => h c (List.mem_reverse.mp hc)) 0
    rw [if_neg hcs, trimEndChars, List.reverse_append, List.reverse_replicate,
      List.dropWhile_append_of_pos (hblank n), hreverse, List.reverse_reverse]

end Text

namespace FormatKind

/-- A digit as the kind writes it. -/
def digitChar (kind : FormatKind) (d : Nat) : Char :=
  if kind = .upperHex then (Nat.digitChar d).toUpper else Nat.digitChar d

/-- The digits of a number. -/
def digitChars (kind : FormatKind) (n : Nat) : List Char :=
  (Nat.toDigits kind.digits.length n).map fun c => if kind = .upperHex then c.toUpper else c

section
variable (kind : FormatKind)

theorem one_lt_base : 1 < kind.digits.length := by cases kind <;> decide

theorem idxOf?_digitChar : ∀ d < kind.digits.length, kind.digits.idxOf? (kind.digitChar d) = some d := by
  cases kind <;> decide

theorem isFigure_of_mem : ∀ c ∈ kind.digits ++ kind.mark, Text.isFigure c = true :=
  List.all_eq_true.mp (by cases kind <;> decide)

theorem digitChars_of_lt {n : Nat} (h : n < kind.digits.length) : kind.digitChars n = [kind.digitChar n] := by
  rw [digitChars, Nat.toDigits_of_lt_base h]
  rfl

theorem digitChars_of_le {n : Nat} (h : kind.digits.length ≤ n) :
    kind.digitChars n =
      kind.digitChars (n / kind.digits.length) ++ [kind.digitChar (n % kind.digits.length)] := by
  rw [digitChars, Nat.toDigits_of_base_le kind.one_lt_base h, List.map_append]
  rfl

theorem digitChars_of_ne {kind : FormatKind} (h : kind ≠ .upperHex) (n : Nat) :
    kind.digitChars n = Nat.toDigits kind.digits.length n := by
  simp [digitChars, h]

theorem digitChars_ne_nil (n : Nat) : kind.digitChars n ≠ [] := by
  simp [digitChars, Nat.toDigits_ne_nil]

/-- The digits of a number denote it, and all of them are digits of the kind. -/
theorem readDigits_digitChars (n : Nat) :
    kind.readDigits (kind.digitChars n) = some n ∧ ∀ c ∈ kind.digitChars n, c ∈ kind.digits := by
  have hbase := kind.one_lt_base
  have hmem {d : Nat} (hd : d < kind.digits.length) : kind.digitChar d ∈ kind.digits := by
    obtain ⟨hlt, heq, -⟩ := List.idxOf?_eq_some_iff.mp (kind.idxOf?_digitChar d hd)
    exact heq ▸ List.getElem_mem hlt
  induction n using Nat.strongRecOn with
  | ind n ih =>
    rcases Nat.lt_or_ge n kind.digits.length with hlt | hle
    · rw [kind.digitChars_of_lt hlt]
      refine ⟨?_, fun c hc => List.mem_singleton.mp hc ▸ hmem hlt⟩
      simp [readDigits, kind.idxOf?_digitChar n hlt]
    · have hmod := Nat.mod_lt n (Nat.lt_of_succ_lt hbase)
      obtain ⟨hread, hdigits⟩ := ih (n / kind.digits.length) (Nat.div_lt_self (by omega) hbase)
      rw [kind.digitChars_of_le hle]
      refine ⟨?_, fun c hc => ?_⟩
      · rw [readDigits] at hread ⊢
        rw [List.foldlM_append, hread]
        simp [kind.idxOf?_digitChar _ hmod, Nat.div_add_mod']
      · rcases List.mem_append.mp hc with hc | hc
        · exact hdigits c hc
        · exact List.mem_singleton.mp hc ▸ hmem hmod

/-- Zeros in front of digits change nothing. -/
theorem readDigits_zeros (zeros : Nat) (cs : List Char) :
    kind.readDigits (List.replicate zeros '0' ++ cs) = kind.readDigits cs := by
  have hzero : kind.digits.idxOf? '0' = some 0 := by cases kind <;> decide
  induction zeros with
  | zero => rfl
  | succ zeros ih =>
    rw [← ih]
    simp [List.replicate_succ, readDigits, hzero]

end

end FormatKind

/-! ### Sign, mark and digits -/

namespace FormatSpec

/-- A whole number without padding. -/
def bareChars (spec : FormatSpec) (n : Int) : List Char :=
  spec.signChars n ++ spec.markChars ++ spec.kind.digitChars n.natAbs

/-- The zeros that the spec asks for in front of the digits of a whole number. -/
def zeros (spec : FormatSpec) (n : Int) : Nat :=
  if spec.zero then spec.width.getD 0 - (spec.bareChars n).length else 0

/-- A whole number with the zeros in front of its digits. -/
def intChars (spec : FormatSpec) (n : Int) : List Char :=
  spec.signChars n ++ spec.markChars ++ List.replicate (spec.zeros n) '0' ++ spec.kind.digitChars n.natAbs

section
variable (spec : FormatSpec) (n : Int)

theorem isFigure_of_mem_digitChars {c : Char} (hc : c ∈ spec.kind.digitChars n.natAbs) :
    Text.isFigure c = true :=
  spec.kind.isFigure_of_mem c (List.mem_append_left _ ((spec.kind.readDigits_digitChars _).2 c hc))

theorem isFigure_of_mem_markChars {c : Char} (hc : c ∈ spec.markChars) : Text.isFigure c = true := by
  unfold markChars at hc
  split at hc
  · exact spec.kind.isFigure_of_mem c (List.mem_append_right _ hc)
  · cases hc

theorem mem_signChars {c : Char} :
    c ∈ spec.signChars n ↔ c = '-' ∧ n < 0 ∨ c = '+' ∧ 0 ≤ n ∧ spec.plus = true := by
  unfold signChars
  split
  · next hneg =>
    have hpositive : ¬0 ≤ n := Int.not_le.mpr hneg
    simp [hneg, hpositive]
  · next hneg =>
    cases spec.plus with
    | true => simp [hneg, Int.not_lt.mp hneg]
    | false => simp [hneg]

/-- What is set out is the sign and figures. -/
theorem mem_intChars {c : Char} (hc : c ∈ spec.intChars n) :
    c ∈ spec.signChars n ∨ Text.isFigure c = true := by
  simp only [intChars, List.mem_append] at hc
  rcases hc with ((hsign | hmark) | hzero) | hdigit
  · exact .inl hsign
  · exact .inr (spec.isFigure_of_mem_markChars hmark)
  · rw [List.eq_of_mem_replicate hzero]
    exact .inr rfl
  · exact .inr (spec.isFigure_of_mem_digitChars n hdigit)

theorem isPrintable_of_mem_intChars {c : Char} (hc : c ∈ spec.intChars n) :
    Text.isPrintable c ∧ Text.isBlank c = false := by
  rcases spec.mem_intChars n hc with hsign | hfigure
  · rcases (spec.mem_signChars n).mp hsign with ⟨rfl, -⟩ | ⟨rfl, -⟩ <;> decide
  · simp only [Text.isFigure, Bool.and_eq_true, Bool.not_eq_true'] at hfigure
    exact hfigure.1.1

theorem length_intChars :
    (spec.intChars n).length =
      if spec.zero then max (spec.width.getD 0) (spec.bareChars n).length else (spec.bareChars n).length := by
  have hlength : (spec.intChars n).length = spec.zeros n + (spec.bareChars n).length := by
    simp only [intChars, bareChars, List.length_append, List.length_replicate]
    omega
  rw [hlength, zeros]
  split <;> omega

/-- Without a width there are no zeros. -/
theorem intChars_of_width_none (hwidth : spec.width = none) : spec.intChars n = spec.bareChars n := by
  have hzeros : spec.zeros n = 0 := by simp [zeros, hwidth]
  rw [intChars, bareChars, hzeros, List.replicate_zero, List.append_nil]

end

section Magnitude
variable {spec : FormatSpec}

theorem intDigits_eq {kind : FormatKind} (hkind : kind ≠ .exponent) (n : Int) :
    intDigits kind n = (String.ofList (kind.digitChars n.natAbs), String.ofList kind.mark) := by
  cases kind with
  | exponent => exact absurd rfl hkind
  | upperHex => rfl
  | _ =>
    rw [FormatKind.digitChars_of_ne (by decide)]
    rfl

theorem signText_eq (spec : FormatSpec) (n : Int) :
    spec.signText (n < 0) = String.ofList (spec.signChars n) := by
  unfold signText signChars
  by_cases hneg : n < 0
  · simp [hneg]
  · cases spec.plus <;> simp [hneg]

theorem intText_eq (spec : FormatSpec) (hkind : spec.kind ≠ .exponent) (n : Int) :
    spec.intText n = String.ofList (spec.intChars n) := by
  have hmark :
      (if spec.alternate then String.ofList spec.kind.mark else "") = String.ofList spec.markChars := by
    unfold markChars
    split <;> rfl
  have hbare : ∀ c ∈ spec.bareChars n, Text.isPrintable c := fun c hc =>
    ({ spec with width := none }.isPrintable_of_mem_intChars n
      (({ spec with width := none }.intChars_of_width_none n rfl).symm ▸ hc)).1
  have hsize : (String.ofList (spec.signChars n) ++ String.ofList spec.markChars).utf8ByteSize +
      (String.ofList (spec.kind.digitChars n.natAbs)).utf8ByteSize = (spec.bareChars n).length := by
    rw [← String.utf8ByteSize_append, ← String.ofList_append, ← String.ofList_append]
    exact Text.utf8ByteSize_printable hbare
  simp only [intText, zeroFill, intDigits_eq hkind, signText_eq, hmark, hsize]
  rw [← String.ofList_append, ← String.ofList_append, ← String.ofList_append]
  rfl

/-- A whole number is set out as sign, mark, zeros and digits between its fill. -/
theorem apply_int (hkind : spec.kind ≠ .exponent) (hfill : Text.isPrintable spec.fill) (index : Nat)
    (n : Int) :
    ∃ text, spec.apply index (.int n) = .ok text ∧
      spec.Padded (spec.align.getD .right) (String.ofList (spec.intChars n)) text ∧
      text.length = max (spec.width.getD 0) (spec.intChars n).length := by
  have hbody : ∀ c ∈ (String.ofList (spec.intChars n)).toList, Text.isPrintable c := fun c hc =>
    (spec.isPrintable_of_mem_intChars n ((String.toList_ofList (l := spec.intChars n)) ▸ hc)).1
  obtain ⟨hpadded, hprintable⟩ := padded_pad hfill hbody .right
  refine ⟨_, ?_, hpadded, ?_⟩
  · rw [apply, intText_eq spec hkind]
  · rw [← Text.displayWidth_printable hprintable, hpadded.width, String.length_ofList]

/-- Without a width nothing stands around the number. -/
theorem apply_int_of_width_none (hwidth : spec.width = none) (index : Nat) (n : Int) :
    spec.apply index (.int n) = .ok (spec.intText n) := by
  show Except.ok (spec.pad .right (spec.intText n)) = _
  obtain ⟨before, behind, hpadding, htotal, -⟩ :=
    spec.exists_padding .right (Text.displayWidth (spec.intText n))
  rw [hwidth, Option.getD_none, Nat.zero_sub] at htotal
  obtain ⟨rfl, rfl⟩ : before = 0 ∧ behind = 0 := by omega
  simp [pad, hpadding]

end Magnitude

/-! ### Reading back -/

section
variable (spec : FormatSpec)

theorem readMagnitude_digits (zeros n : Nat) :
    spec.readMagnitude (spec.markChars ++ (List.replicate zeros '0' ++ spec.kind.digitChars n)) = some n := by
  have hrest : spec.markChars.isPrefixOf?
      (spec.markChars ++ (List.replicate zeros '0' ++ spec.kind.digitChars n)) =
        some (List.replicate zeros '0' ++ spec.kind.digitChars n) :=
    List.isPrefixOf?_eq_some_iff_append_eq.mpr rfl
  unfold readMagnitude
  rw [hrest]
  split
  · next h => cases h
  · next h =>
    rw [Option.some.injEq, List.append_eq_nil_iff] at h
    exact absurd h.2 (spec.kind.digitChars_ne_nil n)
  · next h =>
    cases h
    rw [FormatKind.readDigits_zeros, (spec.kind.readDigits_digitChars n).1]

/-- Behind a figure there is no sign to read. -/
theorem readSigned_of_isFigure {cs : List Char} (hcs : ∀ c ∈ cs, Text.isFigure c = true) :
    spec.readSigned cs = (spec.readMagnitude cs).map fun m => (m : Int) := by
  unfold readSigned
  split
  · exact absurd (hcs '-' (List.mem_cons_self ..)) (by decide)
  · exact absurd (hcs '+' (List.mem_cons_self ..)) (by decide)
  · rfl

theorem readSigned_intChars (n : Int) : spec.readSigned (spec.intChars n) = some n := by
  have hread := spec.readMagnitude_digits (spec.zeros n) n.natAbs
  have hassoc : spec.intChars n = spec.signChars n ++
      (spec.markChars ++ (List.replicate (spec.zeros n) '0' ++ spec.kind.digitChars n.natAbs)) := by
    simp only [intChars, List.append_assoc]
  by_cases hneg : n < 0
  · have hsign : spec.signChars n = ['-'] := if_pos hneg
    have habs : -((n.natAbs : Nat) : Int) = n := by omega
    rw [hassoc, hsign, List.singleton_append, readSigned, hread]
    exact congrArg some habs
  · have habs : ((n.natAbs : Nat) : Int) = n := by omega
    rw [hassoc]
    cases hplus : spec.plus with
    | true =>
      have hsign : spec.signChars n = ['+'] := by simp [signChars, hneg, hplus]
      rw [hsign, List.singleton_append, readSigned, hread]
      exact congrArg some habs
    | false =>
      have hsign : spec.signChars n = [] := by simp [signChars, hneg, hplus]
      rw [hsign, List.nil_append, readSigned_of_isFigure, hread]
      · exact congrArg some habs
      · intro c hc
        have hmem : c ∈ spec.intChars n := by rwa [hassoc, hsign, List.nil_append]
        rcases spec.mem_intChars n hmem with hnone | hfigure
        · exact absurd (hsign ▸ hnone) (List.not_mem_nil)
        · exact hfigure

end

end FormatSpec

/-- **A whole number is set out as itself.** Under every spec that fills with blanks and names a base, what is
set out reads back as the number, with one sign at most, a minus for negative numbers only and a plus for
others only, where the spec asks for it. It is as long as the width, or as the number without padding where
that is longer. With the zero flag, all that is missing is zeros between the mark and the digits; without it,
all of it is blanks around the number. -/
theorem FormatSpec.apply_int_reads (spec : FormatSpec) (hkind : spec.kind ≠ .exponent)
    (hfill : spec.fill = ' ') (index : Nat) (n : Int) :
    ∃ text bare, spec.apply index (.int n) = .ok text ∧
      { spec with width := none }.apply index (.int n) = .ok bare ∧
      bare.toList = spec.signChars n ++ spec.markChars ++ spec.kind.digitChars n.natAbs ∧
      spec.readInt text = some n ∧
      ('-' ∈ text.toList ↔ n < 0) ∧ ('+' ∈ text.toList ↔ 0 ≤ n ∧ spec.plus = true) ∧
      text.length = max (spec.width.getD 0) bare.length ∧
      (spec.zero = true → text.toList = spec.signChars n ++ spec.markChars ++
        List.replicate (spec.width.getD 0 - bare.length) '0' ++ spec.kind.digitChars n.natAbs) ∧
      (spec.zero = false → spec.Padded (spec.align.getD .right) bare text) := by
  have hblank : Text.isPrintable spec.fill := hfill ▸ by decide
  obtain ⟨text, happly, hpadded, hlength⟩ := apply_int hkind hblank index n
  have hwide : text.length = max (spec.width.getD 0) (spec.bareChars n).length := by
    rw [hlength, length_intChars]
    split <;> omega
  have hbare : { spec with width := none }.apply index (.int n) = .ok (String.ofList (spec.bareChars n)) := by
    have hbody := intText_eq { spec with width := none } hkind n
    rw [apply_int_of_width_none rfl, hbody, intChars_of_width_none _ n rfl]
    rfl
  obtain ⟨before, behind, hbetween, -⟩ := hpadded.divided
  have htext : text.toList =
      List.replicate before ' ' ++ spec.intChars n ++ List.replicate behind ' ' := by
    simp only [hbetween, fills, String.toList_append, String.toList_ofList, hfill]
  have hsigns {c : Char} (hsign : c = '-' ∨ c = '+') : c ∈ text.toList ↔ c ∈ spec.signChars n := by
    have hnone (k : Nat) : c ∉ List.replicate k ' ' := fun hc => by
      rcases hsign with rfl | rfl <;> exact absurd (List.eq_of_mem_replicate hc) (by decide)
    constructor
    · intro hc
      have hmem : c ∈ spec.intChars n := by simpa [htext, hnone] using hc
      refine (spec.mem_intChars n hmem).resolve_right fun hfigure => ?_
      rcases hsign with rfl | rfl <;> exact absurd hfigure (by decide)
    · intro hc
      simp [htext, intChars, hc]
  refine ⟨text, _, happly, hbare, String.toList_ofList, ?_, ?_, ?_, ?_, fun hzero => ?_, fun hzero => ?_⟩
  · rw [readInt, htext, Text.trimChars_padded fun c hc => (spec.isPrintable_of_mem_intChars n hc).2]
    exact spec.readSigned_intChars n
  · rw [hsigns (.inl rfl), mem_signChars]
    simp
  · rw [hsigns (.inr rfl), mem_signChars]
    simp
  · rw [hwide, String.length_ofList]
  · -- Zeros bring the number up to the width, so that no blank is left to stand around it.
    have htotal : before + (spec.intChars n).length + behind = (spec.intChars n).length := by
      have hfull := spec.length_intChars n
      rw [if_pos hzero, ← hwide, ← String.length_toList, htext] at hfull
      simpa [Nat.add_assoc] using hfull.symm
    obtain ⟨rfl, rfl⟩ : before = 0 ∧ behind = 0 := by omega
    rw [htext, intChars, zeros, if_pos hzero, String.length_ofList, List.replicate_zero, List.nil_append,
      List.append_nil]
  · have hzeros : spec.zeros n = 0 := by simp [zeros, hzero]
    have hsame : spec.intChars n = spec.bareChars n := by
      rw [intChars, bareChars, hzeros, List.replicate_zero, List.append_nil]
    exact hsame ▸ hpadded

/-- The least number of 128 bits under a spec that asks for all there is. -/
theorem FormatSpec.apply_int_reads_least :
    let spec : FormatSpec :=
      { raw := "^+#045x", align := some .center, plus := true, alternate := true, zero := true,
        width := some 45, kind := .lowerHex }
    FormatSpec.parse "^+#045x" = .ok spec ∧ spec.kind ≠ .exponent ∧ spec.fill = ' ' ∧
      spec.apply 0 (.int (-2 ^ (127 : Nat))) = .ok "-0x000000000080000000000000000000000000000000" ∧
      ∃ text, spec.apply 0 (.int (-2 ^ (127 : Nat))) = .ok text ∧ spec.readInt text = some (-2 ^ (127 : Nat)) ∧
        '-' ∈ text.toList ∧ '+' ∉ text.toList ∧ text.length = 45 := by
  intro spec
  obtain ⟨text, bare, happly, hbare, -, hread, hminus, hplus, hlength, -⟩ :=
    FormatSpec.apply_int_reads spec (by decide) rfl 0 (-2 ^ (127 : Nat))
  have hruns : FormatSpec.parse "^+#045x" = .ok spec ∧
      spec.apply 0 (.int (-2 ^ (127 : Nat))) =
        .ok "-0x000000000080000000000000000000000000000000" := by decide +kernel
  obtain ⟨hparsed, hshown⟩ := hruns
  refine ⟨hparsed, by decide, rfl, hshown, text, happly, hread, hminus.mpr (by decide),
    fun hc => absurd (hplus.mp hc).1 (by decide), ?_⟩
  rw [hshown] at happly
  cases happly
  decide

/-! ### Signs -/

namespace Decimal

/-- The sign does not change which value of its magnitude a whole number becomes. -/
theorem Binary64.exists_ofNat_eq {n : Nat} (h : n ≠ 0) :
    ∃ mantissa exponent, ∀ negative, Binary64.ofNat negative n = .finite negative mantissa exponent := by
  have hchoose (p : Prop) [Decidable p] (m m' : Nat) (e e' : Int) :
      ∃ mantissa exponent, ∀ negative, (if p then Binary64.finite negative m e else .finite negative m' e') =
        .finite negative mantissa exponent := by
    by_cases hp : p
    · exact ⟨m, e, fun _ => if_pos hp⟩
    · exact ⟨m', e', fun _ => if_neg hp⟩
  unfold Binary64.ofNat
  by_cases hexact : n < 2 ^ (53 : Nat)
  · simp only [if_neg h, if_pos hexact]
    exact ⟨_, _, fun _ => rfl⟩
  · simp only [if_neg h, if_neg hexact]
    exact hchoose _ _ _ _ _

/-- The sign of a whole number in scientific notation. -/
theorem signed_ofInt {n : Int} (h : n < 0) :
    signed .scientific (.ofInt n) = "-" ++ signed .scientific (.ofInt (-n)) := by
  obtain ⟨mantissa, exponent, hvalue⟩ := Binary64.exists_ofNat_eq (Int.natAbs_ne_zero.mpr (Int.ne_of_lt h))
  have hopposite : ¬-n < 0 := by omega
  simp only [Binary64.ofInt, Int.natAbs_neg, hvalue, h, hopposite, decide_true, decide_false]
  rfl

end Decimal

namespace FormatSpec

/-- **The sign of a negative number.** A negative number is the number of the same magnitude behind a minus
sign, and behind two of them in scientific notation, where the digits come with a sign of their own. -/
theorem apply_int_neg (spec : FormatSpec) (hwidth : spec.width = none) (hplus : spec.plus = false)
    (index : Nat) (n : Int) (hneg : n < 0) :
    ∃ text, spec.apply index (.int (-n)) = .ok text ∧
      spec.apply index (.int n) = .ok ((if spec.kind = .exponent then "--" else "-") ++ text) := by
  refine ⟨_, apply_int_of_width_none hwidth index (-n), ?_⟩
  rw [apply_int_of_width_none hwidth]
  have hsign : spec.signText (n < 0) = "-" ∧ spec.signText (-n < 0) = "" := by
    simp [signText, hneg, Int.le_of_lt hneg, hplus]
  have hfill (sign mark digits : String) : spec.zeroFill sign mark digits = sign ++ mark ++ digits := by
    simp [zeroFill, hwidth]
  congr 1
  by_cases hkind : spec.kind = .exponent
  · simp only [intText, intDigits, hkind, hsign, hfill, Decimal.signed_ofInt hneg, if_true]
    cases spec.alternate <;> simp <;> rfl
  · have habs : (-n).natAbs = n.natAbs := Int.natAbs_neg n
    simp only [intText, intDigits_eq hkind, hsign, hfill, habs, if_neg hkind, String.append_assoc,
      String.empty_append]

theorem apply_int_neg_hundreds :
    let spec : FormatSpec := { raw := "e", kind := .exponent }
    spec.width = none ∧ spec.plus = false ∧ (-1500 : Int) < 0 ∧
      ∃ text, spec.apply 0 (.int (-(-1500))) = .ok text ∧ spec.apply 0 (.int (-1500)) = .ok ("--" ++ text) :=
  ⟨rfl, rfl, by decide, apply_int_neg { raw := "e", kind := .exponent } rfl rfl 0 (-1500) (by decide)⟩

/-- In scientific notation, minus one is not one behind one sign. -/
theorem apply_int_signed_twice :
    ¬∀ spec : FormatSpec, spec.width = none → spec.plus = false → ∀ n : Int, -2 ^ (127 : Nat) < n → n < 0 →
      ∃ text, spec.apply 0 (.int (-n)) = .ok text ∧ spec.apply 0 (.int n) = .ok ("-" ++ text) := by
  intro h
  obtain ⟨text, hopposite, hsigned⟩ :=
    h { raw := "e", kind := .exponent } rfl rfl (-1) (by decide) (by decide)
  have hruns : ({ raw := "e", kind := .exponent } : FormatSpec).apply 0 (.int 1) = .ok "1e0" ∧
      ({ raw := "e", kind := .exponent } : FormatSpec).apply 0 (.int (-1)) = .ok "--1e0" := by decide +kernel
  rw [show (-(-1) : Int) = 1 from rfl, hruns.1] at hopposite
  cases hopposite
  rw [hruns.2] at hsigned
  exact absurd hsigned (by decide)

end FormatSpec

end TextPane
