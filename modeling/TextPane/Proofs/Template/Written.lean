import Mathlib.Data.List.Chain
import Mathlib.Data.List.TakeWhile
import TextPane.Template.Piece
import TextPane.Proofs.Text.Digits

/-! Templates as they are written.

A template is written from literal texts and placeholders: the braces of a literal are doubled, and a
placeholder has the number of its argument in front, unless it takes the next one, and its spec behind a
colon. The spec may hold any character but the brace that closes it.

What is read is what was written (`Written.parse_print`): the arguments that have no number get the
numbers from zero on, whatever numbers stand between them, and every text that can be read reads like one
that is written so. The scanner looks one character ahead, for a second brace. That does not mislead it
where a brace of a literal stands beside a placeholder: it comes to the first of two braces first, and
behind the brace that opens a placeholder stands a digit, a colon or the brace that closes it. -/
namespace TextPane

/-- A piece of a template as it is written: literal text, or an argument with its number, if it is to have
one of its own, and the text of its spec. -/
inductive Written where
  | literal (text : String)
  | argument (number : Option Nat) (spec : Option String)
deriving DecidableEq, Repr

namespace Written

def isLiteral : Written → Bool
  | .literal _ => true
  | .argument .. => false

/-- Whether it takes the next of the arguments that are counted. -/
def isCounted : Written → Bool
  | .argument none _ => true
  | _ => false

/-! ### Writing -/

/-- The characters with every brace doubled. -/
def doubled (cs : List Char) : List Char :=
  cs.flatMap fun c => if c = '\x7b' ∨ c = '\x7d' then [c, c] else [c]

/-- What stands in the braces of a placeholder. -/
def inner (number : Option Nat) (spec : Option String) : List Char :=
  number.elim [] (fun n => (toString n).toList) ++ spec.elim [] fun text => ':' :: text.toList

def chars : Written → List Char
  | .literal text => doubled text.toList
  | .argument number spec => '\x7b' :: inner number spec ++ ['\x7d']

/-- The format text that is written for the pieces. -/
def print (ws : List Written) : String := String.ofList (ws.flatMap chars)

/-! ### Meaning -/

/-- The piece that is written, where the next argument that is counted is `next`. -/
def piece (next : Nat) : Written → Piece
  | .literal text => .literal text
  | .argument number spec =>
    .argument (number.getD next) (spec.bind fun text => (FormatSpec.parse text).toOption)

/-- The pieces that are written. Arguments without a number are counted from `next` on. -/
def pieces (next : Nat) (ws : List Written) : List Piece :=
  ws.mapIdx fun i w => w.piece (next + (ws.take i).countP isCounted)

/-- A literal that is not empty, or an argument whose number fits in a word and whose spec can be read and
does not hold the brace that closes the placeholder. -/
def Sound : Written → Prop
  | .literal text => text ≠ ""
  | .argument number spec =>
    (∀ n ∈ number, n < Text.wordLimit) ∧
      ∀ text ∈ spec, (FormatSpec.parse text).isOk ∧ '\x7d' ∉ text.toList

instance : DecidablePred Sound
  | .literal text => inferInstanceAs (Decidable (text ≠ ""))
  | .argument number spec => inferInstanceAs (Decidable
    ((∀ n ∈ number, n < Text.wordLimit) ∧
      ∀ text ∈ spec, (FormatSpec.parse text).isOk ∧ '\x7d' ∉ text.toList))

/-- What can be written: sound pieces, no two literals side by side. -/
structure Proper (ws : List Written) : Prop where
  sound : ∀ w ∈ ws, w.Sound
  apart : ws.IsChain fun v w => ¬(v.isLiteral ∧ w.isLiteral)

theorem pieces_cons (next : Nat) (w : Written) (ws : List Written) :
    pieces next (w :: ws) = w.piece next :: pieces (next + if w.isCounted then 1 else 0) ws := by
  rw [pieces, List.mapIdx_cons]
  refine congrArg (w.piece next :: ·) ?_
  refine List.mapIdx_eq_mapIdx_iff.mpr fun i hi => ?_
  rw [List.take_succ_cons, List.countP_cons, Nat.add_comm (List.countP ..), Nat.add_assoc]

section Proper
variable {w : Written} {ws : List Written}

theorem proper_nil : Proper [] := ⟨fun _ hw => absurd hw List.not_mem_nil, .nil⟩

theorem Proper.tail (h : Proper (w :: ws)) : Proper ws :=
  ⟨fun v hv => h.sound v (List.mem_cons_of_mem w hv), h.apart.of_cons⟩

theorem Proper.cons (h : Proper ws) (hw : w.Sound)
    (hnext : w.isLiteral → ∀ v ∈ ws.head?, v.isLiteral = false) : Proper (w :: ws) := by
  refine ⟨fun v hv => ?_, List.isChain_cons.mpr ⟨fun v hv hboth => ?_, h.apart⟩⟩
  · rcases List.mem_cons.mp hv with rfl | hv
    · exact hw
    · exact h.sound v hv
  · exact absurd hboth.2 (by simp [hnext hboth.1 v hv])

end Proper

/-! ### Reading literals -/

section Literal
variable {next : Nat} {ps : List Piece}

/-- Where text can be read from anywhere, it can be read behind doubled characters. -/
theorem readText_doubled {tail : List Char} (h : ∀ offset, Piece.readText next offset tail = .ok ps)
    (cs : List Char) (offset : Nat) :
    Piece.readText next offset (doubled cs ++ tail) = .ok (cs.foldr Piece.cons ps) := by
  induction cs generalizing offset with
  | nil => exact h offset
  | cons c rest ih =>
    have hread (offset : Nat) :
        (do return Piece.cons c (← Piece.readText next offset (doubled rest ++ tail)) :
          Except TemplateError (List Piece)) = .ok ((c :: rest).foldr Piece.cons ps) := by
      rw [ih]
      rfl
    by_cases hopen : c = '\x7b'
    · subst hopen
      exact hread _
    · by_cases hclose : c = '\x7d'
      · subst hclose
        exact hread _
      · have hdoubled : doubled (c :: rest) ++ tail = c :: (doubled rest ++ tail) := by
          simp [doubled, hopen, hclose]
        rw [hdoubled, Piece.readText]
        · exact hread _
        all_goals simp_all

/-- Characters before an argument are one literal. -/
theorem foldr_cons (h : ∀ p ∈ ps.head?, p.isArgument) (c : Char) (cs : List Char) :
    (c :: cs).foldr Piece.cons ps = .literal (String.ofList (c :: cs)) :: ps := by
  induction cs generalizing c with
  | nil =>
    cases ps with
    | nil => rfl
    | cons p rest =>
      cases p with
      | literal text => exact absurd (h _ rfl) Bool.false_ne_true
      | argument index spec => rfl
  | cons d rest ih => rw [List.foldr_cons, ih, Piece.cons, ← String.ofList_cons]

end Literal

/-! ### Reading placeholders -/

section Placeholder
variable {next : Nat} {number : Option Nat} {spec : Option String}

theorem readPlaceholder_append {text : List Char} (h : '\x7d' ∉ text) (start offset : Nat)
    (inner rest : List Char) :
    ∃ offset', Piece.readPlaceholder next start offset inner (text ++ '\x7d' :: rest) =
      Piece.readPlaceholder next start offset' (inner ++ text) ('\x7d' :: rest) := by
  induction text generalizing offset inner with
  | nil => exact ⟨offset, by rw [List.append_nil]; rfl⟩
  | cons c text ih =>
    obtain ⟨hc, htext⟩ := not_or.mp (List.mem_cons.not.mp h)
    obtain ⟨offset', hread⟩ := ih htext (offset + c.utf8Size) (inner ++ [c])
    refine ⟨offset', ?_⟩
    rw [List.append_assoc] at hread
    rw [← List.singleton_append (l := text), ← hread]
    exact Piece.readPlaceholder.eq_3 _ _ _ _ _ _ fun hclose => hc hclose.symm

theorem splitColon_inner : Piece.splitColon (inner number spec) =
    (number.elim [] fun n => (toString n).toList, spec.map String.toList) := by
  have hdigits : ∀ c ∈ number.elim [] fun n => (toString n).toList, decide (c ≠ ':') = true := by
    cases number with
    | none => simp
    | some n =>
      rintro c hc
      refine decide_eq_true ?_
      rintro rfl
      exact absurd (Text.isDigit_of_mem_digits hc) (by decide)
  cases spec with
  | none =>
    rw [inner, Option.elim_none, List.append_nil, Piece.splitColon, List.dropWhile_eq_nil_iff.mpr hdigits]
    rfl
  | some text =>
    have hdrop : (inner number (some text)).dropWhile (· ≠ ':') = ':' :: text.toList := by
      rw [inner, List.dropWhile_append_of_pos hdigits]
      rfl
    have htake : (inner number (some text)).takeWhile (· ≠ ':') =
        number.elim [] fun n => (toString n).toList := by
      rw [inner, List.takeWhile_append_of_pos hdigits]
      simp
    rw [Piece.splitColon, hdrop, htake]
    rfl

theorem argumentIndex_digits (hfits : ∀ n ∈ number, n < Text.wordLimit) :
    Piece.argumentIndex next (number.elim [] fun n => (toString n).toList) =
      .ok (number.getD next, next + if (argument number spec).isCounted then 1 else 0) := by
  cases number with
  | none => rfl
  | some n =>
    have hblanks : ∀ c ∈ (toString n).toList, Text.isBlank c = false := fun c hc =>
      Text.isBlank_of_isDigit (Text.isDigit_of_mem_digits hc)
    show Piece.argumentIndex next (toString n).toList = .ok (n, next)
    rw [Piece.argumentIndex, if_neg (by simp), Text.trimChars_of_all hblanks,
      Text.wordOfChars?_digits (hfits n rfl)]

theorem argumentSpec_text (hreads : ∀ text ∈ spec, (FormatSpec.parse text).isOk) :
    Piece.argumentSpec (spec.map String.toList) =
      .ok (spec.bind fun text => (FormatSpec.parse text).toOption) := by
  cases spec with
  | none => rfl
  | some text =>
    have hok := hreads text rfl
    show (do return some (← FormatSpec.parse (String.ofList text.toList))) =
      Except.ok (FormatSpec.parse text).toOption
    rw [String.ofList_toList]
    cases hparse : FormatSpec.parse text with
    | error e => simp [hparse, Except.isOk, Except.toBool] at hok
    | ok spec => rfl

theorem not_mem_inner (hspec : ∀ text ∈ spec, '\x7d' ∉ text.toList) :
    '\x7d' ∉ inner number spec := by
  intro hmem
  rcases List.mem_append.mp hmem with hmem | hmem
  · cases number with
    | none => exact absurd hmem List.not_mem_nil
    | some n => exact absurd (Text.isDigit_of_mem_digits hmem) (by decide)
  · cases spec with
    | none => exact absurd hmem List.not_mem_nil
    | some text =>
      rcases List.mem_cons.mp hmem with hmem | hmem
      · exact absurd hmem (by decide)
      · exact hspec text rfl hmem

/-- What stands behind the brace that opens a placeholder is not a second one. -/
theorem inner_ne_brace (tail rest : List Char) : inner number spec ++ '\x7d' :: tail ≠ '\x7b' :: rest := by
  intro hsame
  cases number with
  | none =>
    cases spec with
    | none => exact absurd (List.cons.inj hsame).1 (by decide)
    | some text => exact absurd (List.cons.inj hsame).1 (by decide)
  | some n =>
    obtain ⟨c, digits, hn⟩ := List.exists_cons_of_ne_nil (Text.digits_ne_nil n)
    have hdigit : c.isDigit = true := Text.isDigit_of_mem_digits (hn ▸ List.mem_cons_self ..)
    have hinner : inner (some n) spec = (toString n).toList ++ spec.elim [] fun text => ':' :: text.toList :=
      rfl
    rw [hinner, hn] at hsame
    rw [(List.cons.inj hsame).1] at hdigit
    exact absurd hdigit (by decide)

/-- Where text can be read from anywhere, it can be read behind a placeholder. -/
theorem readText_argument {ps : List Piece} {tail : List Char}
    (hsound : (argument number spec).Sound)
    (h : ∀ offset,
      Piece.readText (next + if (argument number spec).isCounted then 1 else 0) offset tail = .ok ps) :
    Piece.readText next offset (chars (.argument number spec) ++ tail) =
      .ok ((argument number spec).piece next :: ps) := by
  obtain ⟨hfits, hreads⟩ := hsound
  have hopen : chars (.argument number spec) ++ tail =
      '\x7b' :: (inner number spec ++ '\x7d' :: tail) := by simp [chars]
  have hclose : '\x7d' ∉ inner number spec := not_mem_inner fun text htext => (hreads text htext).2
  obtain ⟨offset', hinner⟩ : ∃ offset', Piece.readPlaceholder next offset (offset + 1) [] _ = _ :=
    readPlaceholder_append hclose offset (offset + 1) [] tail
  rw [hopen, Piece.readText.eq_3 _ _ _ (inner_ne_brace tail), hinner, List.nil_append, Piece.readPlaceholder,
    splitColon_inner]
  dsimp only
  rw [argumentIndex_digits hfits, argumentSpec_text fun text htext => (hreads text htext).1]
  show (do return _ :: (← Piece.readText _ (offset' + 1) tail)) = _
  rw [h]
  rfl

end Placeholder

/-! ### Reading what was written -/

theorem readText_chars {ws : List Written} (h : Proper ws) (next offset : Nat) :
    Piece.readText next offset (ws.flatMap chars) = .ok (pieces next ws) := by
  induction ws generalizing next offset with
  | nil => rfl
  | cons w rest ih =>
    rw [List.flatMap_cons, pieces_cons]
    cases w with
    | literal text =>
      have hread (offset : Nat) := ih h.tail next offset
      have htext : text.toList ≠ [] := fun hnil =>
        h.sound _ (List.mem_cons_self ..) (String.toList_eq_nil_iff.mp hnil)
      obtain ⟨c, cs, hcs⟩ := List.exists_cons_of_ne_nil htext
      have hnext : ∀ p ∈ (pieces next rest).head?, p.isArgument := by
        intro p hp
        cases rest with
        | nil => exact absurd hp (by simp [pieces])
        | cons w rest =>
          rw [pieces_cons] at hp
          cases w with
          | literal text' => exact absurd ⟨rfl, rfl⟩ (List.isChain_cons_cons.mp h.apart).1
          | argument number spec =>
            cases hp
            rfl
      rw [chars, readText_doubled hread, hcs, foldr_cons hnext, ← hcs, String.ofList_toList]
      rfl
    | argument number spec =>
      exact readText_argument (h.sound _ (List.mem_cons_self ..)) (ih h.tail _)

/-! ### Writing what is read -/

/-- What is read there, if it can be, is what something proper says that is written. -/
def Explained (next : Nat) (read : Except TemplateError (List Piece)) : Prop :=
  ∀ ps, read = .ok ps → ∃ ws, Proper ws ∧ pieces next ws = ps

theorem explained_bind {α : Type} {next : Nat} {x : Except TemplateError α}
    {f : α → Except TemplateError (List Piece)} (h : ∀ a, x = .ok a → Explained next (f a)) :
    Explained next (x >>= f) := by
  intro ps hps
  cases x with
  | error e => cases hps
  | ok a => exact h a rfl ps hps

theorem explained_cons {next : Nat} {read : Except TemplateError (List Piece)} (h : Explained next read)
    (c : Char) : Explained next (do return Piece.cons c (← read)) := by
  refine explained_bind fun rest hrest ps hps => ?_
  cases hps
  obtain ⟨ws, hws, rfl⟩ := h rest hrest
  have hsingle : String.singleton c ≠ "" := by simp
  cases ws with
  | nil => exact ⟨[.literal (String.singleton c)], proper_nil.cons hsingle (by simp), rfl⟩
  | cons w ws =>
    cases w with
    | literal text =>
      have hjoined : String.singleton c ++ text ≠ "" := by simp
      refine ⟨.literal (String.singleton c ++ text) :: ws, hws.tail.cons hjoined fun _ w hw => ?_, ?_⟩
      · have hapart := (List.isChain_cons.mp hws.apart).1 w hw
        simpa [isLiteral] using hapart
      · rw [pieces_cons, pieces_cons]
        rfl
    | argument number spec =>
      refine ⟨.literal (String.singleton c) :: .argument number spec :: ws,
        hws.cons hsingle fun _ w hw => ?_, ?_⟩
      · cases hw
        rfl
      · rw [pieces_cons _ (.literal _)]
        show _ :: pieces next (.argument number spec :: ws) = _
        rw [pieces_cons]
        rfl

section Placeholder
variable {next : Nat}

/-- The number of an argument is that of the next one that is counted, or one that fits in a word. -/
theorem argumentIndex_ok {name : List Char} {index next' : Nat}
    (h : Piece.argumentIndex next name = .ok (index, next')) :
    ∃ number : Option Nat, (∀ n ∈ number, n < Text.wordLimit) ∧ number.getD next = index ∧
      ∀ spec, (next + if (argument number spec).isCounted then 1 else 0) = next' := by
  unfold Piece.argumentIndex at h
  split at h
  · cases h
    exact ⟨none, by simp, rfl, fun _ => rfl⟩
  · split at h
    · next n hn =>
      cases h
      refine ⟨some index, fun m hm => ?_, rfl, fun _ => rfl⟩
      cases hm
      exact Text.lt_of_wordOfChars? hn
    · cases h

theorem argumentSpec_ok {text : Option (List Char)} {spec : Option FormatSpec}
    (h : Piece.argumentSpec text = .ok spec) (hclose : ∀ cs, text = some cs → '\x7d' ∉ cs) :
    ∃ written : Option String,
      (∀ t ∈ written, (FormatSpec.parse t).isOk ∧ '\x7d' ∉ t.toList) ∧
        (written.bind fun t => (FormatSpec.parse t).toOption) = spec := by
  cases text with
  | none =>
    cases h
    exact ⟨none, by simp, rfl⟩
  | some cs =>
    cases hparse : FormatSpec.parse (String.ofList cs) with
    | error e => simp [Piece.argumentSpec, hparse, bind, Except.bind] at h
    | ok read =>
      have hread : some read = spec := by
        simpa [Piece.argumentSpec, hparse, bind, Except.bind, pure, Except.pure] using h
      refine ⟨some (String.ofList cs), fun t ht => ?_, ?_⟩
      · cases ht
        exact ⟨by rw [hparse]; rfl, by simpa using hclose cs rfl⟩
      · rw [← hread, Option.bind_some, hparse]
        rfl

theorem subset_splitColon {inner name cs : List Char} (h : Piece.splitColon inner = (name, some cs)) :
    cs ⊆ inner := by
  unfold Piece.splitColon at h
  split at h
  · next c spec hdrop =>
    cases h
    have hinner : c :: cs ⊆ inner := hdrop ▸ (List.dropWhile_sublist _).subset
    exact fun d hd => hinner (List.mem_cons_of_mem c hd)
  · cases h

theorem explained_argument {inner rest : List Char} {start offset : Nat} (hclose : '\x7d' ∉ inner)
    (h : ∀ next', Explained next' (Piece.readText next' (offset + 1) rest)) :
    Explained next (Piece.readPlaceholder next start offset inner ('\x7d' :: rest)) := by
  rcases hsplit : Piece.splitColon inner with ⟨name, text⟩
  rw [Piece.readPlaceholder, hsplit]
  refine explained_bind fun taken hindex => ?_
  obtain ⟨index, next'⟩ := taken
  refine explained_bind fun spec hspec => explained_bind fun read hread ps hps => ?_
  obtain ⟨number, hfits, rfl, hnext⟩ := argumentIndex_ok hindex
  obtain ⟨written, hreads, rfl⟩ := argumentSpec_ok hspec fun cs hcs hmem =>
    hclose (subset_splitColon (hcs ▸ hsplit) hmem)
  obtain ⟨ws, hws, rfl⟩ := h next' read hread
  cases hps
  have hsound : (Written.argument number written).Sound := ⟨hfits, hreads⟩
  refine ⟨.argument number written :: ws, hws.cons hsound (fun hliteral => ?_), ?_⟩
  · exact absurd hliteral Bool.false_ne_true
  · rw [pieces_cons, hnext]
    rfl

end Placeholder

/-- What can be read is what something proper says that is written. -/
theorem explained_readText (next offset : Nat) (cs : List Char) :
    Explained next (Piece.readText next offset cs) := by
  refine Piece.readText.induct (fun next offset cs => Explained next (Piece.readText next offset cs))
    (fun next start offset inner cs => '\x7d' ∉ inner →
      Explained next (Piece.readPlaceholder next start offset inner cs))
    ?nil ?openOpen ?openOne ?closeClose ?closeOne ?other ?ends ?closes ?inside next offset cs
  case nil =>
    intro next offset ps hps
    cases hps
    exact ⟨[], proper_nil, rfl⟩
  case openOpen => exact fun next offset rest h => explained_cons h '\x7b'
  case openOne =>
    intro next offset rest hone h
    rw [Piece.readText.eq_3 _ _ _ hone]
    exact h List.not_mem_nil
  case closeClose => exact fun next offset rest h => explained_cons h '\x7d'
  case closeOne =>
    intro next offset rest hone ps hps
    rw [Piece.readText.eq_5 _ _ _ hone] at hps
    cases hps
  case other =>
    intro next offset c rest h1 h2 h3 h4 h
    rw [Piece.readText.eq_6 _ _ _ _ h1 h2 h3 h4]
    exact explained_cons h c
  case ends =>
    intro next start offset inner _ ps hps
    cases hps
  case closes => exact fun next start offset inner rest name spec _ h hclose => explained_argument hclose h
  case inside =>
    intro next start offset inner c rest hc h hclose
    rw [Piece.readPlaceholder.eq_3 _ _ _ _ _ _ hc]
    refine h fun hmem => ?_
    rcases List.mem_append.mp hmem with hmem | hmem
    · exact hclose hmem
    · exact hc (List.mem_singleton.mp hmem).symm

/-- Whatever is written in this way is read as what was written, and whatever can be read is written in
this way by something with the same pieces. -/
theorem parse_print :
    (∀ ws, Proper ws → Piece.parse (print ws) = .ok (pieces 0 ws)) ∧
      ∀ format ps, Piece.parse format = .ok ps → ∃ ws, Proper ws ∧ pieces 0 ws = ps := by
  refine ⟨fun ws h => ?_, fun format => explained_readText 0 0 format.toList⟩
  rw [Piece.parse, print, String.toList_ofList]
  exact readText_chars h 0 0

/-- Braces beside placeholders, and a brace and a colon to fill with. -/
def braces : List Written :=
  [.literal "\x7b", .argument none none, .literal "\x7d", .argument (some 7) (some ":<5"),
    .argument none (some "\x7b>3"), .literal "\x7d\x7b", .argument none none]

theorem proper_braces : Proper braces := ⟨by decide, by simp [braces, isLiteral]⟩

theorem parse_print_braces :
    print braces = "\x7b\x7b\x7b\x7d\x7d\x7d\x7b7::<5\x7d\x7b:\x7b>3\x7d\x7d\x7d\x7b\x7b\x7b\x7d" ∧
      Piece.parse (print braces) = .ok
        [.literal "\x7b", .argument 0 none, .literal "\x7d",
          .argument 7 (some { raw := ":<5", fill := ':', align := some .left, width := some 5 }),
          .argument 1 (some { raw := "\x7b>3", fill := '\x7b', align := some .right, width := some 3 }),
          .literal "\x7d\x7b", .argument 2 none] ∧
      ∃ ws, Proper ws ∧ pieces 0 ws = pieces 0 braces :=
  have hread := parse_print.1 braces proper_braces
  ⟨by decide, hread.trans (congrArg Except.ok (by decide)), parse_print.2 (print braces) _ hread⟩

end Written

end TextPane
