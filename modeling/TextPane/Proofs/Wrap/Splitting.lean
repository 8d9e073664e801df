import Mathlib.Data.List.Basic
import Mathlib.Data.List.TakeWhile
import TextPane.Proofs.Wrap.Unit

/-! How a text falls into units.

What a unit is shows from its characters and those on both sides of it (`IsUnitBetween`): a line end, or a run
of blanks or of characters that are not blank, with none of its sort next to it. A text falls into such units
in one way only (`units_unique`), and they are what is read from the text one after the other (`Reads`): a unit
goes as far as its sort does, whatever stands behind that (`IsUnitBetween.ofChars_append`). -/
namespace TextPane.WrapUnit

/-! ### What a unit is -/

/-- A whole run of characters of a sort, with none of the sort right before it or behind it. -/
structure IsRun (sort : Char → Prop) (before run behind : List Char) : Prop where
  ne_nil : run ≠ []
  uniform : ∀ c ∈ run, sort c
  opens : ∀ c ∈ before.getLast?, ¬sort c
  ends : ∀ c ∈ behind.head?, ¬sort c

/-- What a unit is, between the text before it and the text behind it. A return that a line feed stands behind
is no line end without it. -/
def IsUnitBetween (u : WrapUnit) (before behind : List Char) : Prop :=
  match u.kind with
  | .newline => u.text = ['\r', '\n'] ∨ u.text = ['\n'] ∨ u.text = ['\r'] ∧ behind.head? ≠ some '\n'
  | .space => IsRun (fun c => Text.isBlank c = true ∧ c ≠ '\n' ∧ c ≠ '\r') before u.text behind
  | .word => IsRun (fun c => Text.isBlank c = false) before u.text behind

/-- Units that a text falls into. -/
structure Decomposes (cs : List Char) (us : List WrapUnit) : Prop where
  joined : us.flatMap text = cs
  units : ∀ before u behind, us = before ++ u :: behind →
    u.IsUnitBetween (before.flatMap text) (behind.flatMap text)

section
variable {u : WrapUnit} {before behind : List Char}

theorem isUnitBetween_iff_isRun (hkind : u.kind ≠ .newline) :
    u.IsUnitBetween before behind ↔ IsRun (fun c => kindOf c = u.kind) before u.text behind := by
  cases h : u.kind with
  | newline => exact absurd h hkind
  | space => simp only [IsUnitBetween, h, kindOf_eq_space_iff]
  | word => simp only [IsUnitBetween, h, kindOf_eq_word_iff]

theorem isUnitBetween_iff_of_newline (hkind : u.kind = .newline) :
    u.IsUnitBetween before behind ↔
      u.text = ['\r', '\n'] ∨ u.text = ['\n'] ∨ u.text = ['\r'] ∧ behind.head? ≠ some '\n' := by
  simp only [IsUnitBetween, hkind]

/-- Where a unit begins depends on the text before it only if that ends in a character of its sort. -/
theorem IsUnitBetween.placed (h : u.IsUnitBetween [] behind)
    (hbefore : u.kind ≠ .newline → ∀ c ∈ before.getLast?, kindOf c ≠ u.kind) :
    u.IsUnitBetween before behind := by
  by_cases hkind : u.kind = .newline
  · rw [isUnitBetween_iff_of_newline hkind] at h ⊢
    exact h
  · rw [isUnitBetween_iff_isRun hkind] at h ⊢
    exact { h with opens := hbefore hkind }

/-! ### Units from the left -/

theorem ofChars_lineFeed (cs : List Char) : ofChars ('\n' :: cs) = ⟨.newline, ['\n']⟩ :: ofChars cs := by
  rw [ofChars]
  cases ofChars cs with
  | nil => rfl
  | cons v rest =>
    rw [cons, if_neg (by simp [absorbs, kindOf])]
    rfl

/-- A return with no line feed behind it is a unit. -/
theorem ofChars_return {cs : List Char} (h : cs.head? ≠ some '\n') :
    ofChars ('\r' :: cs) = ⟨.newline, ['\r']⟩ :: ofChars cs := by
  rw [ofChars]
  cases hcs : ofChars cs with
  | nil => rfl
  | cons v rest =>
    have hlone : absorbs '\r' v = false := by
      refine Bool.eq_false_iff.mpr fun habsorbs => h ?_
      have htext : v.text = ['\n'] := by simpa [absorbs, kindOf] using habsorbs
      rw [← flatMap_ofChars cs, hcs, List.flatMap_cons, htext]
      rfl
    rw [cons, hlone]
    rfl

/-- A unit in front of a text is the first unit of both together. -/
theorem IsUnitBetween.ofChars_append (h : u.IsUnitBetween before behind) :
    ofChars (u.text ++ behind) = u :: ofChars behind := by
  obtain ⟨kind, text⟩ := u
  by_cases hkind : kind = .newline
  · subst hkind
    rcases (isUnitBetween_iff_of_newline rfl).mp h with htext | htext | ⟨htext, hbehind⟩
    all_goals
      simp only at htext
      subst htext
    · show cons '\r' (ofChars ('\n' :: behind)) = _
      rw [ofChars_lineFeed]
      rfl
    · exact ofChars_lineFeed behind
    · exact ofChars_return hbehind
  · have hrun := (isUnitBetween_iff_isRun hkind).mp h
    exact ofChars_run hkind hrun.ne_nil hrun.uniform hrun.ends

end

/-- The first unit of a text, and the text behind it. -/
def next? : List Char → Option (WrapUnit × List Char)
  | [] => none
  | c :: cs =>
    match kindOf c with
    | .newline =>
      if c = '\r' ∧ cs.head? = some '\n' then some (⟨.newline, ['\r', '\n']⟩, cs.tail)
      else some (⟨.newline, [c]⟩, cs)
    | kind => some (⟨kind, c :: cs.takeWhile (kindOf · = kind)⟩, cs.dropWhile (kindOf · = kind))

theorem next?_eq_none_iff {cs : List Char} : next? cs = none ↔ cs = [] := by
  cases cs with
  | nil => simp [next?]
  | cons c cs =>
    simp only [next?]
    split
    · split <;> simp
    · simp

/-- What is read first is a unit of the text, and the rest is what stands behind it. -/
theorem isUnitBetween_of_next? {cs rest : List Char} {u : WrapUnit} (h : next? cs = some (u, rest)) :
    cs = u.text ++ rest ∧ u.IsUnitBetween [] rest := by
  cases cs with
  | nil => cases h
  | cons c cs =>
    simp only [next?] at h
    split at h
    · next hline =>
      split at h
      · next hpair =>
        obtain ⟨rfl, rfl⟩ := Prod.mk.inj (Option.some.inj h)
        obtain ⟨tail, rfl⟩ := List.head?_eq_some_iff.mp hpair.2
        exact ⟨by rw [hpair.1]; rfl, .inl rfl⟩
      · next hpair =>
        obtain ⟨rfl, rfl⟩ := Prod.mk.inj (Option.some.inj h)
        refine ⟨rfl, .inr ?_⟩
        rcases kindOf_eq_newline_iff.mp hline with rfl | rfl
        · exact .inl rfl
        · exact .inr ⟨rfl, fun hfeed => hpair ⟨rfl, hfeed⟩⟩
    · next hline =>
      obtain ⟨rfl, rfl⟩ := Prod.mk.inj (Option.some.inj h)
      refine ⟨?_, (isUnitBetween_iff_isRun fun hkind => hline hkind).mpr ?_⟩
      · rw [List.cons_append, List.takeWhile_append_dropWhile]
      · refine ⟨List.cons_ne_nil _ _, fun d hd => ?_, fun d hd => (by cases hd), fun d hd => ?_⟩
        · rcases List.mem_cons.mp hd with rfl | hd
          · rfl
          · have hsame := List.mem_takeWhile_imp hd
            simpa using hsame
        · have hends := List.head?_dropWhile_not (kindOf · = kindOf c) cs
          rw [Option.mem_def.mp hd] at hends
          simpa using hends

/-- The units of a text are the first that is read, and those of the rest. -/
theorem ofChars_of_next? {cs rest : List Char} {u : WrapUnit} (h : next? cs = some (u, rest)) :
    ofChars cs = u :: ofChars rest := by
  obtain ⟨rfl, hu⟩ := isUnitBetween_of_next? h
  exact hu.ofChars_append

/-- Reading a text to its end, a unit at a time. -/
inductive Reads : List Char → List WrapUnit → Prop
  | done {cs : List Char} : next? cs = none → Reads cs []
  | more {cs rest : List Char} {u : WrapUnit} {us : List WrapUnit} :
    next? cs = some (u, rest) → Reads rest us → Reads cs (u :: us)

/-- Reading comes to an end, and has read the units. -/
theorem reads_iff {cs : List Char} {us : List WrapUnit} : Reads cs us ↔ us = ofChars cs := by
  constructor
  · intro h
    induction h with
    | done hnone =>
      rw [next?_eq_none_iff.mp hnone]
      rfl
    | more hnext _ ih => rw [ofChars_of_next? hnext, ih]
  · intro h
    induction us generalizing cs with
    | nil =>
      refine .done (next?_eq_none_iff.mpr ?_)
      rw [← flatMap_ofChars cs, ← h]
      rfl
    | cons u us ih =>
      cases hnext : next? cs with
      | none =>
        rw [next?_eq_none_iff.mp hnext] at h
        cases h
      | some first =>
        rw [ofChars_of_next? hnext] at h
        obtain ⟨rfl, hus⟩ := List.cons.inj h
        exact .more hnext (ih hus)

/-! ### Decompositions -/

/-- Units that are told from what stands behind them are read back from the text they make. -/
theorem ofChars_flatMap {us : List WrapUnit} (h : ∀ before u behind, us = before ++ u :: behind →
    ∃ front, u.IsUnitBetween front (behind.flatMap text)) : ofChars (us.flatMap text) = us := by
  induction us with
  | nil => rfl
  | cons u us ih =>
    obtain ⟨_, hu⟩ := h [] u us rfl
    have hus := ih fun before v behind hsplit => h (u :: before) v behind (by rw [hsplit]; rfl)
    rw [List.flatMap_cons, hu.ofChars_append, hus]

theorem isUnitBetween_of_ofChars_cons {cs : List Char} {u : WrapUnit} {us : List WrapUnit}
    (h : ofChars cs = u :: us) : u.IsUnitBetween [] (us.flatMap text) := by
  cases hnext : next? cs with
  | none =>
    rw [next?_eq_none_iff.mp hnext] at h
    cases h
  | some first =>
    rw [ofChars_of_next? hnext] at h
    obtain ⟨rfl, rfl⟩ := List.cons.inj h
    rw [flatMap_ofChars]
    exact (isUnitBetween_of_next? hnext).2

/-- The units of a text are such as it falls into. -/
theorem decomposes_ofChars (cs : List Char) : Decomposes cs (ofChars cs) where
  joined := flatMap_ofChars cs
  units before u behind hsplit := by
    have hbehind := isUnitBetween_of_ofChars_cons (ofChars_of_append hsplit).2
    refine hbehind.placed fun hkind c hc => ?_
    -- What stands before is the end of a unit of another sort.
    rcases List.eq_nil_or_concat' before with rfl | ⟨before, v, rfl⟩
    · cases hc
    · have hv : v ∈ ofChars cs := by rw [hsplit]; simp
      have hlast : c ∈ v.text.getLast? := by
        rwa [List.flatMap_append, List.flatMap_singleton,
          List.getLast?_append_of_ne_nil _ (ne_nil_of_mem hv)] at hc
      rw [kindOf_of_mem hv c (List.mem_of_getLast? hlast)]
      intro hsame
      rw [List.append_assoc] at hsplit
      exact hkind (hsame ▸ newline_of_append hsplit hsame)

/-- **A text falls into units in one way.** Reading it unit by unit comes to an end, and what was read is the
only list of units that make the text and each are a line end or a whole run. So no two words and no two runs
of blanks stand side by side. -/
theorem units_unique (cs : List Char) :
    (∀ us, Reads cs us ↔ us = ofChars cs) ∧ (∀ us, Decomposes cs us ↔ us = ofChars cs) ∧
      ¬∃ before kind a b behind, kind ≠ .newline ∧
        ofChars cs = before ++ ⟨kind, a⟩ :: ⟨kind, b⟩ :: behind := by
  refine ⟨fun us => reads_iff, fun us => ⟨fun h => ?_, fun h => h ▸ decomposes_ofChars cs⟩, ?_⟩
  · rw [← h.joined]
    exact (ofChars_flatMap fun before u behind hsplit => ⟨_, h.units before u behind hsplit⟩).symm
  · rintro ⟨before, kind, a, b, behind, hkind, hsplit⟩
    exact hkind (newline_of_append hsplit rfl)

example : ofChars ['a', ' ', '\t', '\n', '\r', '\n', '\r', 'b'] =
    [⟨.word, ['a']⟩, ⟨.space, [' ', '\t']⟩, ⟨.newline, ['\n']⟩, ⟨.newline, ['\r', '\n']⟩, ⟨.newline, ['\r']⟩,
      ⟨.word, ['b']⟩] := by decide

end TextPane.WrapUnit
