import TextPane.Proofs.View.Paint

/-! What drawing tries, and what it does not.

All that is drawn is drawn in a few kinds of work on the terminal (`Stroke`). Each of them tries calls one
after the other up to the first that fails, and none of these is to show the cursor (`Stroke.hides`). -/
namespace TextPane

namespace Terminal

/-- The terminal after calls that were tried in turn, whether they failed or not. -/
def tryAll (t : Terminal) (cs : List Call) : Terminal := cs.foldl (fun t c => (call c t).2) t

/-- Calls were tried, and none of them was to show the cursor. -/
def Hides (t t' : Terminal) : Prop := ∃ cs, .showCursor ∉ cs ∧ t' = t.tryAll cs

/-- Of calls to be made in turn those are tried that come up to the first that fails. -/
theorem makeAll_tries (cs : List Call) (t : Terminal) :
    ∃ k, (makeAll cs t).2 = t.tryAll (cs.take k) := by
  induction cs generalizing t with
  | nil => exact ⟨0, rfl⟩
  | cons c rest ih =>
    rcases hcall : call c t with ⟨e | _, t'⟩
    · refine ⟨1, ?_⟩
      rw [makeAll, bind_of_error hcall, List.take_succ_cons, List.take_zero, tryAll, List.foldl_cons, hcall]
      rfl
    · obtain ⟨k, hk⟩ := ih t'
      refine ⟨k + 1, ?_⟩
      rw [makeAll, bind_of_ok hcall, hk, List.take_succ_cons, tryAll, tryAll, List.foldl_cons, hcall]

namespace Hides
variable {t t' t'' : Terminal}

theorem refl (t : Terminal) : t.Hides t := ⟨[], List.not_mem_nil, rfl⟩

theorem trans (h : t.Hides t') (h' : t'.Hides t'') : t.Hides t'' := by
  obtain ⟨cs, hcs, rfl⟩ := h
  obtain ⟨ds, hds, rfl⟩ := h'
  refine ⟨cs ++ ds, fun hmem => (List.mem_append.mp hmem).elim hcs hds, ?_⟩
  rw [tryAll, tryAll, tryAll, List.foldl_append]

theorem of_makeAll {cs : List Call} (hcs : .showCursor ∉ cs) (t : Terminal) :
    t.Hides (makeAll cs t).2 := by
  obtain ⟨k, hk⟩ := makeAll_tries cs t
  exact ⟨cs.take k, fun hmem => hcs (List.mem_of_mem_take hmem), hk⟩

theorem of_call {c : Call} (hc : c ≠ .showCursor) (t : Terminal) : t.Hides (call c t).2 :=
  ⟨[c], fun hmem => hc (List.mem_singleton.mp hmem).symm, rfl⟩

end Hides

end Terminal

/-! ### The calls of a drawing -/

namespace Print

theorem showCursor_not_mem_fragmentsCalls (fs : List Fragment) (k : Colors) :
    .showCursor ∉ fragmentsCalls k fs := by
  induction fs generalizing k with
  | nil => exact List.not_mem_nil
  | cons f rest ih =>
    have hfirst : .showCursor ∉ fragmentCalls k f := by
      unfold fragmentCalls colorCalls
      repeat' split
      all_goals simp
    exact fun hmem => (List.mem_append.mp hmem).elim hfirst (ih _)

theorem showCursor_not_mem_lineCalls (mode : Mode) (region : Region) (k : Colors) (index : Nat)
    (l : Line) : .showCursor ∉ lineCalls mode region k index l := by
  have hpadding : .showCursor ∉ paddingCalls region l := by
    unfold paddingCalls
    split <;> simp
  cases mode with
  | console => simp [lineCalls, showCursor_not_mem_fragmentsCalls, hpadding]
  | _ => simp [lineCalls]

theorem showCursor_not_mem_linesCalls (mode : Mode) (region : Region) (k : Colors) (index : Nat)
    (ls : List Line) : .showCursor ∉ linesCalls mode region k index ls := by
  induction ls generalizing k index with
  | nil => exact List.not_mem_nil
  | cons l rest ih =>
    exact fun hmem => (List.mem_append.mp hmem).elim (showCursor_not_mem_lineCalls _ _ _ _ l) (ih _ _)

end Print

namespace Renderer
open Terminal (Hides)

theorem showCursor_not_mem_renderCalls (r : Renderer) (s : Span) (region : Region) (k : Colors) :
    .showCursor ∉ r.renderCalls s region k := by
  have hundo : .showCursor ∉ undoCalls r.mode := by
    unfold undoCalls
    split <;> simp
  unfold renderCalls
  split
  · exact List.not_mem_nil
  · rw [List.mem_append, not_or]
    refine ⟨Print.showCursor_not_mem_linesCalls _ _ _ _ _, ?_⟩
    split
    · exact hundo
    · exact List.not_mem_nil

theorem showCursor_not_mem_blankCalls (r : Renderer) (region : Region) :
    .showCursor ∉ r.blankCalls region := by
  have hrows : ∀ index count, .showCursor ∉ blankRowCalls region index count := by
    intro index count
    induction count generalizing index with
    | zero => exact List.not_mem_nil
    | succ count ih => simp [blankRowCalls, ih]
  unfold blankCalls
  split
  · exact List.not_mem_nil
  · cases r.mode with
    | console => exact hrows _ _
    | _ => simp

/-- The work on the terminal that drawing is made of. -/
inductive Stroke : {α : Type} → TerminalM α → Prop where
  | measure (r : Renderer) (s : Span) (limit : Size) : Stroke ((r.spanBox s).measure limit)
  | render (r : Renderer) (s : Span) (region : Region) : Stroke ((r.spanBox s).render region)
  | blank (r : Renderer) (region : Region) : Stroke (r.clearRegion region)
  | clear (r : Renderer) : Stroke r.clearScreen
  | flush : Stroke (Terminal.call .flush)

/-- **Nothing that is drawn tries to show the cursor.** -/
theorem Stroke.hides {α : Type} {work : TerminalM α} (h : Stroke work) (t : Terminal) :
    t.Hides (work t).2 := by
  cases h with
  | measure r s limit => exact .refl t
  | render r s region =>
    show t.Hides (r.render s region t).2
    rw [render_eq_makeAll]
    exact .of_makeAll (r.showCursor_not_mem_renderCalls s region t.colors) t
  | blank r region =>
    rw [clearRegion_eq_makeAll]
    exact .of_makeAll (r.showCursor_not_mem_blankCalls region) t
  | clear r =>
    rw [clearScreen_eq_makeAll]
    refine .of_makeAll ?_ t
    unfold clearCalls
    split <;> simp
  | flush => exact .of_call (by simp) t

end Renderer

end TextPane
