import TextPane.Wrap.Unit

/-! What the units of a text hold.

Every character of a text stands in exactly one unit (`flatMap_ofChars`), and in one of its own sort
(`kindOf_of_mem`). So words and blanks hold no line ends.

Two units of one sort stand side by side only where they are line ends (`newline_of_append`), and a text
that is cut between units falls into the same units (`ofChars_of_append`). -/
namespace TextPane.WrapUnit

/-! ### The sorts of characters -/

theorem kindOf_eq_newline_iff {c : Char} : kindOf c = .newline ↔ c = '\n' ∨ c = '\r' := by
  unfold kindOf
  split
  · simp_all
  · split <;> simp_all

theorem kindOf_eq_space_iff {c : Char} :
    kindOf c = .space ↔ Text.isBlank c = true ∧ c ≠ '\n' ∧ c ≠ '\r' := by
  unfold kindOf
  split
  · next hend => rcases hend with rfl | rfl <;> simp
  · split <;> simp_all

theorem kindOf_eq_word_iff {c : Char} : kindOf c = .word ↔ Text.isBlank c = false := by
  unfold kindOf
  split
  · next hend => rcases hend with rfl | rfl <;> decide
  · split <;> simp_all

/-! ### Characters in units -/

theorem flatMap_cons (c : Char) (us : List WrapUnit) :
    (cons c us).flatMap text = c :: us.flatMap text := by
  cases us with
  | nil => rfl
  | cons u rest =>
    rw [cons]
    split <;> rfl

/-- The units of a text put together are the text. -/
theorem flatMap_ofChars (cs : List Char) : (ofChars cs).flatMap text = cs := by
  induction cs with
  | nil => rfl
  | cons c cs ih => rw [ofChars, flatMap_cons, ih]

theorem mem_of_mem_ofChars {cs : List Char} {u : WrapUnit} (hu : u ∈ ofChars cs) {c : Char}
    (hc : c ∈ u.text) : c ∈ cs := by
  rw [← flatMap_ofChars cs]
  exact List.mem_flatMap.mpr ⟨u, hu, hc⟩

theorem ne_nil_of_mem_cons {c : Char} {us : List WrapUnit} (h : ∀ u ∈ us, u.text ≠ [])
    {u : WrapUnit} (hu : u ∈ cons c us) : u.text ≠ [] := by
  cases us with
  | nil =>
    rw [List.mem_singleton.mp hu]
    simp
  | cons v rest =>
    rw [cons] at hu
    split at hu
    · rcases List.mem_cons.mp hu with rfl | hu
      · simp
      · exact h u (List.mem_cons_of_mem v hu)
    · rcases List.mem_cons.mp hu with rfl | hu
      · simp
      · exact h u hu

/-- No unit is empty. -/
theorem ne_nil_of_mem {cs : List Char} {u : WrapUnit} (hu : u ∈ ofChars cs) : u.text ≠ [] := by
  induction cs generalizing u with
  | nil => cases hu
  | cons c cs ih => exact ne_nil_of_mem_cons (fun v hv => ih hv) hu

theorem kindOf_of_absorbs {c : Char} {u : WrapUnit} (h : absorbs c u = true)
    (hu : ∀ d ∈ u.text, kindOf d = u.kind) : kindOf c = u.kind := by
  unfold absorbs at h
  split at h
  · next hc =>
    have htext : u.text = ['\n'] := by simpa using (by simpa using h : c = '\r' ∧ u.text = ['\n']).2
    rw [hc, ← hu '\n' (by simp [htext])]
    rfl
  · simpa using h

/-- Every character of a unit is of the sort of the unit. -/
theorem kindOf_of_mem {cs : List Char} {u : WrapUnit} (hu : u ∈ ofChars cs) :
    ∀ c ∈ u.text, kindOf c = u.kind := by
  induction cs generalizing u with
  | nil => cases hu
  | cons c cs ih =>
    unfold ofChars at hu
    cases hus : ofChars cs with
    | nil =>
      rw [hus] at hu
      rw [List.mem_singleton.mp hu]
      simp
    | cons v rest =>
      rw [hus] at hu ih
      have hv := ih (List.mem_cons_self ..)
      rw [cons] at hu
      split at hu
      · next habsorbs =>
        rcases List.mem_cons.mp hu with rfl | hu
        · intro d hd
          rcases List.mem_cons.mp hd with rfl | hd
          · have hd := kindOf_of_absorbs habsorbs hv
            exact hd
          · exact hv d hd
        · exact ih (List.mem_cons_of_mem v hu)
      · rcases List.mem_cons.mp hu with rfl | hu
        · simp
        · exact ih hu

/-- Words and blanks hold no line ends. -/
theorem not_lineEnd_of_mem {cs : List Char} {u : WrapUnit} (hu : u ∈ ofChars cs)
    (hk : u.kind ≠ .newline) {c : Char} (hc : c ∈ u.text) : c ≠ '\n' ∧ c ≠ '\r' := by
  have hkind := kindOf_of_mem hu c hc
  constructor <;> rintro rfl <;> exact hk hkind.symm

/-! ### Between units -/

/-- A run of characters of one sort, with one of another sort behind it, is a unit. -/
theorem ofChars_run {kind : UnitKind} (hkind : kind ≠ .newline) {run : List Char} (hne : run ≠ [])
    (hrun : ∀ c ∈ run, kindOf c = kind) {rest : List Char} (hrest : ∀ c ∈ rest.head?, kindOf c ≠ kind) :
    ofChars (run ++ rest) = ⟨kind, run⟩ :: ofChars rest := by
  have habsorbs {c : Char} (hc : kindOf c = kind) (u : WrapUnit) :
      absorbs c u = decide (kind = u.kind) := by
    unfold absorbs
    split
    · next hline => exact absurd (hc.symm.trans hline) hkind
    · rw [hc]
  induction run with
  | nil => exact absurd rfl hne
  | cons c run ih =>
    obtain ⟨hc, hrun⟩ := List.forall_mem_cons.mp hrun
    rw [List.cons_append, ofChars]
    cases run with
    | cons d run => rw [ih (by simp) hrun, cons, habsorbs hc, if_pos (decide_eq_true rfl)]
    | nil =>
      rw [List.nil_append]
      cases hunits : ofChars rest with
      | nil => rw [cons, hc]
      | cons u units =>
        -- The unit behind is of the sort of its first character.
        have hu : u ∈ ofChars rest := hunits ▸ List.mem_cons_self ..
        obtain ⟨d, ds, htext⟩ := List.exists_cons_of_ne_nil (ne_nil_of_mem hu)
        have hhead : rest.head? = some d := by
          rw [← flatMap_ofChars rest, hunits, List.flatMap_cons, htext]
          rfl
        have hother : kind ≠ u.kind := by
          rw [← kindOf_of_mem hu d (htext ▸ List.mem_cons_self ..)]
          exact (hrest d hhead).symm
        rw [cons, habsorbs hc, if_neg (by simpa using hother), hc]

/-- No two words and no two runs of blanks stand side by side. -/
theorem newline_of_append {cs : List Char} {a b : List WrapUnit} {u v : WrapUnit}
    (h : ofChars cs = a ++ u :: v :: b) (hkind : u.kind = v.kind) : u.kind = .newline := by
  induction cs generalizing a u with
  | nil => simp [ofChars] at h
  | cons c cs ih =>
    rw [ofChars] at h
    cases hus : ofChars cs with
    | nil =>
      rw [hus, cons] at h
      cases a <;> simp at h
    | cons w rest =>
      rw [hus, cons] at h
      split at h
      · cases a with
        | nil =>
          obtain ⟨rfl, rfl⟩ := List.cons.inj h
          exact @ih [] w hus hkind
        | cons x a =>
          obtain ⟨-, rfl⟩ := List.cons.inj h
          exact @ih (w :: a) u hus hkind
      · next habsorbs =>
        cases a with
        | nil =>
          obtain ⟨rfl, hrest⟩ := List.cons.inj h
          obtain ⟨rfl, -⟩ := List.cons.inj hrest
          cases hc : kindOf c with
          | newline => rfl
          | _ => simp_all [absorbs]
        | cons x a =>
          obtain ⟨-, hrest⟩ := List.cons.inj h
          exact @ih a u (hus.trans hrest) hkind

/-- A text cut between units falls into the same units. -/
theorem ofChars_of_append {cs : List Char} {a b : List WrapUnit} (h : ofChars cs = a ++ b) :
    ofChars (a.flatMap text) = a ∧ ofChars (b.flatMap text) = b := by
  induction cs generalizing a with
  | nil =>
    obtain ⟨rfl, rfl⟩ := List.append_eq_nil_iff.mp h.symm
    exact ⟨rfl, rfl⟩
  | cons c cs ih =>
    cases a with
    | nil =>
      rw [List.nil_append] at h
      rw [← h, flatMap_ofChars]
      exact ⟨rfl, rfl⟩
    | cons u a =>
      rw [ofChars] at h
      cases hus : ofChars cs with
      | nil =>
        rw [hus] at h
        obtain ⟨rfl, hnil⟩ := List.cons.inj h
        obtain ⟨rfl, rfl⟩ := List.append_eq_nil_iff.mp hnil.symm
        exact ⟨rfl, rfl⟩
      | cons v rest =>
        rw [hus, cons] at h
        split at h
        · next habsorbs =>
          obtain ⟨rfl, rfl⟩ := List.cons.inj h
          obtain ⟨ha, hb⟩ := @ih (v :: a) hus
          refine ⟨?_, hb⟩
          show cons c (ofChars ((v :: a).flatMap text)) = _
          rw [ha, cons, if_pos habsorbs]
        · next habsorbs =>
          obtain ⟨rfl, hrest⟩ := List.cons.inj h
          obtain ⟨ha, hb⟩ := @ih a (hus.trans hrest)
          refine ⟨?_, hb⟩
          show cons c (ofChars (a.flatMap text)) = _
          rw [ha]
          cases a with
          | nil => rfl
          | cons w a =>
            obtain ⟨rfl, -⟩ := List.cons.inj hrest
            rw [cons, if_neg habsorbs]

end TextPane.WrapUnit
