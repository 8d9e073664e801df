import TextPane.Formatter
import TextPane.Proofs.Render.Cells
import TextPane.Proofs.Span.Leaves

/-! Padding.

What is narrower than the width of its spec gets fill on its sides, and the align says on which
(`Align.Divides`). A text is padded as a string and a span by spans that stand beside it, and both follow
one law (`FormatSpec.exists_padding`): the fill makes up what is missing and touches nothing else.

Fill is a printable character, as a character of another width could not make up every width. -/
namespace TextPane

/-- How an align divides fill: `left` puts all of it behind, `right` all of it in front, and `center` as much
in front as behind, but for an odd one behind. -/
def Align.Divides (align : Align) (before behind : Nat) : Prop :=
  match align with
  | .left => before = 0
  | .right => behind = 0
  | .center => before ≤ behind ∧ behind ≤ before + 1

namespace Text

theorem displayWidth_printable {s : String} (h : ∀ c ∈ s.toList, isPrintable c) :
    displayWidth s = s.length := by
  rw [displayWidth, charsWidth_printable h, String.length_toList]

/-- Printable text is in composed form. -/
theorem normalize_printable {s : String} (h : ∀ c ∈ s.toList, isPrintable c) : normalize s = s := by
  have hlow : s.toList.all (fun c => c.toNat < 0x300) = true := by
    refine List.all_eq_true.mpr fun c hc => decide_eq_true ?_
    have := toNat_of_isPrintable (h c hc)
    omega
  rw [normalize, compose, if_pos hlow, String.ofList_toList]

end Text

namespace Span

theorem ofString_printable {s : String} (h : ∀ c ∈ s.toList, Text.isPrintable c) :
    ofString s = .content s s.length := by
  rw [ofString, Text.normalize_printable h, Text.displayWidth_printable h]

theorem ofText_printable {s : String} (h : ∀ c ∈ s.toList, Text.isPrintable c) :
    (ofText s).plain = s ∧ (ofText s).length = s.length := by
  unfold ofText
  split
  · next hempty =>
    rw [String.isEmpty_iff.mp hempty]
    exact ⟨rfl, rfl⟩
  · rw [ofString_printable h]
    exact ⟨rfl, rfl⟩

end Span

namespace FormatSpec

/-- So much fill. -/
def fills (spec : FormatSpec) (n : Nat) : String := String.ofList (List.replicate n spec.fill)

/-- Spans of so much fill. -/
def fillSpans (spec : FormatSpec) (n : Nat) : List Span := if n = 0 then [] else [.content (spec.fills n) n]

/-- A text between the fill that a spec asks for. -/
structure Padded (spec : FormatSpec) (align : Align) (body padded : String) : Prop where
  divided : ∃ before behind, padded = spec.fills before ++ body ++ spec.fills behind ∧
    align.Divides before behind
  width : Text.displayWidth padded = max (spec.width.getD 0) body.length

@[simp] theorem length_fills (spec : FormatSpec) (n : Nat) : (spec.fills n).length = n := by
  simp [fills]

@[simp] theorem fills_zero (spec : FormatSpec) : spec.fills 0 = "" := rfl

/-- The padding is what is missing, divided as the align says. -/
theorem exists_padding (spec : FormatSpec) (defaultAlign : Align) (length : Nat) :
    ∃ before behind, spec.padding defaultAlign length = (spec.fills before, spec.fills behind) ∧
      before + behind = spec.width.getD 0 - length ∧
      (spec.align.getD defaultAlign).Divides before behind := by
  unfold padding
  generalize spec.width.getD 0 - length = gap
  cases spec.align.getD defaultAlign with
  | left => exact ⟨0, gap, rfl, Nat.zero_add gap, rfl⟩
  | right => exact ⟨gap, 0, rfl, rfl, rfl⟩
  | center =>
    refine ⟨gap / 2, gap - gap / 2, rfl, by omega, ?_⟩
    show gap / 2 ≤ gap - gap / 2 ∧ gap - gap / 2 ≤ gap / 2 + 1
    omega

section Printable
variable {spec : FormatSpec}

theorem isPrintable_of_mem_fills (hfill : Text.isPrintable spec.fill) {n : Nat} {c : Char}
    (hc : c ∈ (spec.fills n).toList) : Text.isPrintable c := by
  rw [fills, String.toList_ofList] at hc
  exact List.eq_of_mem_replicate hc ▸ hfill

/-- Printable text is padded with printable text. -/
theorem padded_pad (hfill : Text.isPrintable spec.fill) {body : String}
    (hbody : ∀ c ∈ body.toList, Text.isPrintable c) (defaultAlign : Align) :
    spec.Padded (spec.align.getD defaultAlign) body (spec.pad defaultAlign body) ∧
      ∀ c ∈ (spec.pad defaultAlign body).toList, Text.isPrintable c := by
  obtain ⟨before, behind, hpadding, htotal, hdivides⟩ :=
    spec.exists_padding defaultAlign (Text.displayWidth body)
  have hpad : spec.pad defaultAlign body = spec.fills before ++ body ++ spec.fills behind := by
    rw [pad, hpadding]
  have hprintable : ∀ c ∈ (spec.pad defaultAlign body).toList, Text.isPrintable c := by
    intro c hc
    rw [hpad, String.toList_append, String.toList_append] at hc
    rcases List.mem_append.mp hc with hc | hc
    · rcases List.mem_append.mp hc with hc | hc
      · exact isPrintable_of_mem_fills hfill hc
      · exact hbody c hc
    · exact isPrintable_of_mem_fills hfill hc
  refine ⟨⟨⟨before, behind, hpad, hdivides⟩, ?_⟩, hprintable⟩
  rw [Text.displayWidth_printable hprintable, hpad, String.length_append, String.length_append,
    length_fills, length_fills]
  rw [Text.displayWidth_printable hbody] at htotal
  omega

theorem contentIfAny_fills (hfill : Text.isPrintable spec.fill) (n : Nat) :
    Formatter.contentIfAny (spec.fills n) = spec.fillSpans n := by
  unfold Formatter.contentIfAny fillSpans
  by_cases hn : n = 0
  · subst hn
    rfl
  · have hne : (spec.fills n).isEmpty = false := by
      refine Bool.eq_false_iff.mpr fun hempty => hn ?_
      rw [← spec.length_fills n, String.isEmpty_iff.mp hempty]
      rfl
    rw [if_neg hn, hne, Span.ofString_printable fun c => isPrintable_of_mem_fills hfill, length_fills]
    rfl

end Printable

theorem totalLength_fillSpans (spec : FormatSpec) (n : Nat) : Span.totalLength (spec.fillSpans n) = n := by
  unfold fillSpans
  split
  · next hn => exact hn.symm
  · exact Nat.add_zero n

end FormatSpec

namespace Formatter
variable (f : Formatter) (args : Array Argument)

theorem pieceSpans_append (a b : List Piece) :
    f.pieceSpans args (a ++ b) = (do
      let front ← f.pieceSpans args a
      let back ← f.pieceSpans args b
      return front ++ back) := by
  induction a with
  | nil =>
    show _ = (f.pieceSpans args b >>= fun back => pure back)
    rw [bind_pure]
    rfl
  | cons p rest ih =>
    cases p with
    | literal text => simp only [List.cons_append, pieceSpans, ih, bind_assoc, pure_bind]
    | argument index spec =>
      simp only [List.cons_append, pieceSpans, ih]
      cases args[index]? with
      | none => rfl
      | some arg => simp only [bind_assoc, pure_bind, List.append_assoc]

/-- The spans of an argument stand between those of the pieces before and behind it. -/
theorem formatTemplate_argument {format : String} {before behind : List Piece} {index : Nat}
    {spec : Option FormatSpec} {arg : Argument} {spans : List Span}
    (hpieces : Piece.parseFor args.size format = .ok (before ++ .argument index spec :: behind))
    (harg : args[index]? = some arg) (hspans : f.argumentSpans index spec arg = .ok spans) :
    f.formatTemplate format args = (do
      let front ← f.pieceSpans args before
      let back ← f.pieceSpans args behind
      return Span.ofList (front ++ spans ++ back)) := by
  have hany : (before ++ Piece.argument index spec :: behind).any Piece.isArgument = true := by
    simp [Piece.isArgument]
  have hread : f.pieceSpans args (.argument index spec :: behind) = (do
      let back ← f.pieceSpans args behind
      return spans ++ back) := by
    rw [pieceSpans, harg]
    show (f.argumentSpans index spec arg >>= fun here => _) = _
    rw [hspans]
    rfl
  unfold formatTemplate
  rw [hpieces]
  show (if _ then _ else _) = _
  rw [if_pos hany, pieceSpans_append, hread]
  simp only [bind_assoc, pure_bind, List.append_assoc]

end Formatter

/-- **Padding is exact.** With a printable fill, a printable text is cut to the precision and shown in place
and unchanged, between the fill that brings it to the width. A span in a template stands unchanged between
spans of fill, which together with it are as long as the width, or as the span where that is longer. In both
cases the fill stands behind if the align does not say otherwise. -/
theorem Formatter.pads_exactly (f : Formatter) (spec : FormatSpec) (hfill : Text.isPrintable spec.fill) :
    (∀ (index : Nat) (s : String), spec.kind = .display → (∀ c ∈ s.toList, Text.isPrintable c) →
      ∃ padded, spec.apply index (.text s) = .ok padded ∧
        spec.Padded (spec.align.getD .left)
          (String.ofList (s.toList.take (spec.precision.getD s.length))) padded ∧
        f.argumentSpans index (some spec) (.text s) = .ok [Span.ofText padded] ∧
        (Span.ofText padded).plain = padded ∧ (Span.ofText padded).length = padded.length) ∧
    ∀ (format : String) (args : Array Argument) (before behind : List Piece) (index : Nat) (s : Span),
      Piece.parseFor args.size format = .ok (before ++ .argument index (some spec) :: behind) →
      args[index]? = some (.span s) →
      ∃ m n,
        f.formatTemplate format args = (do
          let front ← f.pieceSpans args before
          let back ← f.pieceSpans args behind
          return Span.ofList (front ++ (spec.fillSpans m ++ [s] ++ spec.fillSpans n) ++ back)) ∧
        Span.totalLength (spec.fillSpans m ++ [s] ++ spec.fillSpans n) =
          max (spec.width.getD 0) s.length ∧
        (spec.align.getD .left).Divides m n := by
  constructor
  · intro index s hkind hs
    let shown := String.ofList (s.toList.take (spec.precision.getD s.length))
    have hshown : ∀ c ∈ shown.toList, Text.isPrintable c := fun c hc =>
      hs c (List.mem_of_mem_take (String.toList_ofList ▸ hc))
    obtain ⟨hpadded, hprintable⟩ := FormatSpec.padded_pad hfill hshown .left
    have happly : spec.apply index (.text s) = .ok (spec.pad .left shown) := by
      have hwhole : s.toList.take s.length = s.toList := by rw [← String.length_toList, List.take_length]
      cases hprecision : spec.precision with
      | some p => simp [FormatSpec.apply, Argument.display, shown, hkind, hprecision]
      | none => simp [FormatSpec.apply, Argument.display, shown, hkind, hprecision, hwhole]
    obtain ⟨hplain, hlength⟩ := Span.ofText_printable hprintable
    refine ⟨_, happly, hpadded, ?_, hplain, hlength⟩
    show (spec.apply index (.text s) >>= fun text => pure [Span.ofText text]) = _
    rw [happly]
    rfl
  · intro format args before behind index s hpieces harg
    obtain ⟨m, n, hpadding, htotal, hdivides⟩ := spec.exists_padding .left s.length
    have hspans : f.argumentSpans index (some spec) (.span s) =
        .ok (spec.fillSpans m ++ [s] ++ spec.fillSpans n) := by
      simp only [argumentSpans, hpadding, FormatSpec.contentIfAny_fills hfill]
    refine ⟨m, n, f.formatTemplate_argument args hpieces harg hspans, ?_, hdivides⟩
    have hone : Span.totalLength [s] = s.length := rfl
    rw [Span.totalLength_append, Span.totalLength_append, FormatSpec.totalLength_fillSpans,
      FormatSpec.totalLength_fillSpans, hone]
    omega

/-- A text is cut to four characters and gets five stars, and a span of two columns gets seven; the odd one
stands behind. -/
theorem Formatter.pads_exactly_stars :
    let spec : FormatSpec :=
      { raw := "*^9.4", fill := '*', align := some .center, width := some 9, precision := some 4 }
    let args : Array Argument := #[.span (Span.ofString "ab")]
    Text.isPrintable spec.fill ∧ spec.kind = .display ∧ (∀ c ∈ "abcdef".toList, Text.isPrintable c) ∧
      spec.apply 0 (.text "abcdef") = .ok "**abcd***" ∧
      (∃ padded, spec.apply 0 (.text "abcdef") = .ok padded ∧ spec.Padded .center "abcd" padded) ∧
      Piece.parseFor args.size "<{:*^9.4}>" =
        .ok ([.literal "<"] ++ .argument 0 (some spec) :: [.literal ">"]) ∧
      args[0]? = some (.span (Span.ofString "ab")) ∧
      ∃ m n, ({} : Formatter).formatTemplate "<{:*^9.4}>" args = .ok (Span.ofList
          ([Span.ofString "<"] ++ (spec.fillSpans m ++ [Span.ofString "ab"] ++ spec.fillSpans n) ++
            [Span.ofString ">"])) ∧
        Span.totalLength (spec.fillSpans m ++ [Span.ofString "ab"] ++ spec.fillSpans n) = 9 ∧
        m ≤ n ∧ n ≤ m + 1 := by
  intro spec args
  have hprintable : ∀ c ∈ "abcdef".toList, Text.isPrintable c := List.all_eq_true.mp (by decide)
  have hruns : spec.apply 0 (.text "abcdef") = .ok "**abcd***" ∧ Piece.parseFor args.size "<{:*^9.4}>" =
      .ok ([.literal "<"] ++ .argument 0 (some spec) :: [.literal ">"]) := by decide +kernel
  obtain ⟨htext, hspan⟩ := Formatter.pads_exactly {} spec (by decide)
  obtain ⟨padded, happly, hpadded, -⟩ := htext 0 "abcdef" rfl hprintable
  obtain ⟨m, n, htemplate, htotal, hdivides⟩ :=
    hspan "<{:*^9.4}>" args _ _ 0 (Span.ofString "ab") hruns.2 rfl
  exact ⟨by decide, rfl, hprintable, hruns.1, ⟨padded, happly, hpadded⟩, hruns.2, rfl, m, n, htemplate,
    htotal, hdivides⟩

end TextPane
