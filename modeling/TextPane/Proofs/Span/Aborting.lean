import TextPane.Proofs.Span.Leaves

/-! Visits that fail.

A visitor that keeps a state of its own may fail at any hook, and whether it does may depend on all that it
has met. What it does not decide is the order of the calls: the root is announced, every node is recorded
before its own hook is called, and the root is taken leave of (`Span.hooks`). The first hook that fails is the
last that is called, however deep in the tree it is, and its error is that of the visit
(`Visitor.visit_aborts`). -/
namespace TextPane

/-! ### The calls of a visit -/

/-- The call that a leaf is met with. -/
def Leaf.hook : Leaf → Hook
  | .content text length => .content text length
  | .control c => .control c
  | .host h => .host h

namespace Span

/-- The calls at one node. -/
def calls (node : Span) : List Hook := .record node :: (node.leaf?.map Leaf.hook).toList

/-- The calls of a visit before the root is taken leave of. -/
def hooksBeforeStop (root : Span) : List Hook := .start root :: root.nodes.flatMap calls

/-- The calls of a visit in which no hook fails. -/
def hooks (root : Span) : List Hook := root.hooksBeforeStop ++ [.stop root]

theorem stop_notMem_hooksBeforeStop (root : Span) : .stop root ∉ root.hooksBeforeStop := by
  intro h
  rcases List.mem_cons.mp h with h | h
  · cases h
  · obtain ⟨node, -, hcall⟩ := List.mem_flatMap.mp h
    cases node <;> simp [calls, leaf?, Leaf.hook] at hcall

end Span

namespace Visitor

section
variable {m : Type → Type} [Monad m] (v : Visitor m)

/-- Calls one hook. -/
def call : Hook → m Unit
  | .start root => v.start root
  | .record node => v.record node
  | .content text length => v.content text length
  | .control c => v.control c
  | .host h => v.host h
  | .stop root => v.stop root

variable [LawfulMonad m]

theorem forM_calls (node : Span) : node.calls.forM v.call = v.enter node := by
  cases node <;> simp [Span.calls, Span.leaf?, Leaf.hook, enter, call, meet]

theorem forM_flatMap_calls (nodes : List Span) :
    (nodes.flatMap Span.calls).forM v.call = nodes.forM v.enter := by
  induction nodes with
  | nil => rfl
  | cons node rest ih =>
    calc (node.calls ++ rest.flatMap Span.calls).forM v.call
      _ = (do node.calls.forM v.call; (rest.flatMap Span.calls).forM v.call) := List.forM_append
      _ = (do v.enter node; rest.forM v.enter) := by rw [forM_calls, ih]

/-- A visit calls its hooks one after the other. -/
theorem visit_eq (root : Span) : v.visit root = root.hooks.forM v.call := by
  have hstop : root.hooks.forM v.call = (do root.hooksBeforeStop.forM v.call; [Hook.stop root].forM v.call) :=
    List.forM_append
  have hstart : root.hooksBeforeStop.forM v.call = (do v.start root; root.nodes.forM v.enter) := by
    rw [← forM_flatMap_calls]
    rfl
  rw [hstop, hstart, visit, walk_eq, bind_assoc]
  simp [call]

end

/-! ### Calls in turn -/

variable {ε σ : Type} (v : Visitor (ExceptT ε (StateM σ)))

/-- What a call comes to in a state: whether it fails, and the state it leaves. -/
def result (h : Hook) (s : σ) : Except ε Unit × σ := (v.call h).run.run s

/-- What calls one after the other come to. -/
def results (hs : List Hook) (s : σ) : Except ε Unit × σ := (hs.forM v.call).run.run s

/-- Calls one after the other, none of which fails. -/
inductive Passes : List Hook → σ → σ → Prop
  | nil (s : σ) : Passes [] s s
  | cons {h : Hook} {hs : List Hook} {s s' s'' : σ} :
    v.result h s = (.ok (), s') → Passes hs s' s'' → Passes (h :: hs) s s''

section
variable {v} {h : Hook} {hs more : List Hook} {s s' s'' : σ} {e : ε}

theorem results_cons_ok (hr : v.result h s = (.ok (), s')) : v.results (h :: hs) s = v.results hs s' := by
  show (do v.call h; hs.forM v.call : ExceptT ε (StateM σ) Unit).run.run s = _
  rw [ExceptT.run_bind, StateT.run_bind, show (v.call h).run.run s = _ from hr]
  rfl

/-- Behind a hook that fails none is called. -/
theorem results_cons_error (hr : v.result h s = (.error e, s')) :
    v.results (h :: hs) s = (.error e, s') := by
  show (do v.call h; hs.forM v.call : ExceptT ε (StateM σ) Unit).run.run s = _
  rw [ExceptT.run_bind, StateT.run_bind, show (v.call h).run.run s = _ from hr]
  rfl

/-- Hooks that pass are called, and then the rest. -/
theorem Passes.results_append (hpass : v.Passes hs s s') : v.results (hs ++ more) s = v.results more s' := by
  induction hpass with
  | nil => rfl
  | cons hr _ ih => rw [List.cons_append, results_cons_ok hr, ih]

theorem Passes.of_append (hpass : v.Passes (hs ++ more) s s'') :
    ∃ s', v.Passes hs s s' ∧ v.Passes more s' s'' := by
  induction hs generalizing s with
  | nil => exact ⟨s, .nil s, hpass⟩
  | cons h hs ih =>
    cases hpass with
    | cons hr hrest =>
      obtain ⟨s', hhs, hmore⟩ := ih hrest
      exact ⟨s', .cons hr hhs, hmore⟩

/-- Calls in turn lead to one state. -/
theorem Passes.unique (hpass : v.Passes hs s s') (hpass' : v.Passes hs s s'') : s' = s'' := by
  induction hpass with
  | nil =>
    cases hpass'
    rfl
  | cons hr _ ih =>
    cases hpass' with
    | cons hr' hrest' =>
      obtain ⟨-, rfl⟩ := Prod.mk.inj (hr.symm.trans hr')
      exact ih hrest'

/-- A hook that fails is not passed. -/
theorem not_passes_of_fails (hpass : v.Passes hs s s') (hfail : v.result h s' = (.error e, s'')) :
    ¬∃ t, v.Passes (hs ++ h :: more) s t := by
  rintro ⟨t, hall⟩
  obtain ⟨s₁, hhs, hrest⟩ := hall.of_append
  obtain rfl := hpass.unique hhs
  cases hrest with
  | cons hr _ =>
    rw [hfail] at hr
    cases hr

end

/-- Calls in turn all pass, or there is a first that fails. -/
theorem exists_passes (hs : List Hook) (s : σ) :
    (∃ s', v.Passes hs s s') ∨
      ∃ before h after s₁ e s', hs = before ++ h :: after ∧ v.Passes before s s₁ ∧
        v.result h s₁ = (.error e, s') := by
  induction hs generalizing s with
  | nil => exact .inl ⟨s, .nil s⟩
  | cons h hs ih =>
    rcases hr : v.result h s with ⟨r, s₁⟩
    cases r with
    | error e => exact .inr ⟨[], h, hs, s, e, s₁, rfl, .nil s, hr⟩
    | ok _ =>
      rcases ih s₁ with ⟨s', hpass⟩ | ⟨before, k, after, s₂, e, s', rfl, hpass, hfail⟩
      · exact .inl ⟨s', .cons hr hpass⟩
      · exact .inr ⟨h :: before, k, after, s₂, e, s', rfl, .cons hr hpass, hfail⟩

/-! ### Calls that are kept -/

/-- Calls a hook, and adds the call to those made before. -/
def keep (h : Hook) : ExceptT ε (StateM (σ × List Hook)) Unit := fun (s, called) =>
  let (result, s') := v.result h s
  (result, s', called ++ [h])

/-- The visitor that does the same and keeps its calls, in order. -/
def kept : Visitor (ExceptT ε (StateM (σ × List Hook))) where
  start root := v.keep (.start root)
  record node := v.keep (.record node)
  content text length := v.keep (.content text length)
  control c := v.keep (.control c)
  host h := v.keep (.host h)
  stop root := v.keep (.stop root)

/-- The calls that a visit makes, in order. -/
def called (root : Span) (s : σ) : List Hook := ((v.kept.visit root).run.run (s, [])).2.2

variable {v}

theorem result_kept (h : Hook) (s : σ) (called : List Hook) :
    v.kept.result h (s, called) = ((v.result h s).1, (v.result h s).2, called ++ [h]) := by
  cases h <;> rfl

theorem Passes.kept {hs : List Hook} {s s' : σ} (hpass : v.Passes hs s s') (called : List Hook) :
    v.kept.Passes hs (s, called) (s', called ++ hs) := by
  induction hpass generalizing called with
  | nil =>
    rw [List.append_nil]
    exact .nil _
  | @cons h hs s s' s'' hr _ ih =>
    have hrest := ih (called ++ [h])
    rw [List.append_assoc] at hrest
    exact .cons (by rw [result_kept, hr]) hrest

theorem run_visit (root : Span) (s : σ) : (v.visit root).run.run s = v.results root.hooks s := by
  rw [visit_eq]
  rfl

/-- A visit in which all hooks pass calls them all. -/
theorem Passes.visit {root : Span} {s s' : σ} (hpass : v.Passes root.hooks s s') :
    (v.visit root).run.run s = (.ok (), s') ∧ v.called root s = root.hooks := by
  have hall {τ : Type} {w : Visitor (ExceptT ε (StateM τ))} {t t' : τ} (h : w.Passes root.hooks t t') :
      (w.visit root).run.run t = (.ok (), t') := by
    rw [run_visit, ← List.append_nil root.hooks, h.results_append]
    rfl
  refine ⟨hall hpass, ?_⟩
  rw [called, hall (hpass.kept [])]
  rfl

/-- A visit calls no hook behind the first that fails. -/
theorem Passes.visit_fails {root : Span} {before after : List Hook} {h : Hook} {s s₁ s' : σ} {e : ε}
    (hhooks : root.hooks = before ++ h :: after) (hpass : v.Passes before s s₁)
    (hfail : v.result h s₁ = (.error e, s')) :
    (v.visit root).run.run s = (.error e, s') ∧ v.called root s = before ++ [h] := by
  have hfirst {τ : Type} {w : Visitor (ExceptT ε (StateM τ))} {t t₁ t' : τ} (hpass : w.Passes before t t₁)
      (hfail : w.result h t₁ = (.error e, t')) : (w.visit root).run.run t = (.error e, t') := by
    rw [run_visit, hhooks, hpass.results_append, results_cons_error hfail]
  refine ⟨hfirst hpass hfail, ?_⟩
  rw [called, hfirst (hpass.kept []) (by rw [result_kept, hfail])]
  rfl

section
variable (fails : Hook → Bool) (error : ε)

theorem result_logging (h : Hook) (log : List Hook) : ((logging fails error).result h log).2 = log ++ [h] := by
  cases h with
  | record node => rfl
  | _ =>
    simp only [result, call, logging]
    split <;> rfl

theorem Passes.logging {hs log log' : List Hook} (hpass : (logging fails error).Passes hs log log') :
    log' = log ++ hs := by
  induction hpass with
  | nil => exact (List.append_nil _).symm
  | @cons h hs log log' _ hr _ ih =>
    have hlog := result_logging fails error h log
    rw [hr] at hlog
    rw [ih, show log' = _ from hlog, List.append_assoc]
    rfl

/-- What the logging visitor leaves behind is the log it found and the calls it made. -/
theorem log_logging (root : Span) (log : List Hook) :
    (((logging fails error).visit root).run.run log).2 = log ++ (logging fails error).called root log := by
  rcases (logging fails error).exists_passes root.hooks log with
    ⟨log', hpass⟩ | ⟨before, h, after, log₁, e, log', hhooks, hpass, hfail⟩
  · obtain ⟨hvisit, hcalled⟩ := hpass.visit
    rw [hvisit, hcalled]
    exact hpass.logging
  · obtain ⟨hvisit, hcalled⟩ := Passes.visit_fails hhooks hpass hfail
    have hlog := result_logging fails error h log₁
    rw [hfail, hpass.logging, List.append_assoc] at hlog
    rw [hvisit, hcalled]
    exact hlog

end

variable (v)

/-- **The first hook that fails ends a visit.** Where none fails, as in the visitor that does nothing, all hooks
of the span are called: the root is announced, the nodes are recorded in preorder, each before its own hook is
called, and the root is taken leave of. Whatever a visitor does and wherever it fails, the hooks called are
these up to the first that fails, and the visit fails with its error; leave is taken of the root just when no
hook before that failed. -/
theorem visit_aborts (root : Span) (s : σ) :
    (idle : Visitor (ExceptT ε (StateM σ))).called root s = root.hooks ∧
    ((∃ s', v.Passes root.hooks s s' ∧ (v.visit root).run.run s = (.ok (), s') ∧
        v.called root s = root.hooks) ∨
      ∃ before h after s₁ e s', root.hooks = before ++ h :: after ∧ v.Passes before s s₁ ∧
        v.result h s₁ = (.error e, s') ∧ (v.visit root).run.run s = (.error e, s') ∧
        v.called root s = before ++ [h]) ∧
    (.stop root ∈ v.called root s ↔ ∃ s', v.Passes root.hooksBeforeStop s s') := by
  constructor
  · rcases (idle : Visitor (ExceptT ε (StateM σ))).exists_passes root.hooks s with
      ⟨s', hpass⟩ | ⟨before, h, after, s₁, e, s', -, -, hfail⟩
    · exact hpass.visit.2
    · cases h <;> cases hfail
  rcases v.exists_passes root.hooks s with
    ⟨s', hpass⟩ | ⟨before, h, after, s₁, e, s', hhooks, hpass, hfail⟩
  · obtain ⟨hvisit, hcalled⟩ := hpass.visit
    obtain ⟨s₁, hbefore, -⟩ := Passes.of_append hpass
    refine ⟨.inl ⟨s', hpass, hvisit, hcalled⟩, fun _ => ⟨s₁, hbefore⟩, fun _ => ?_⟩
    rw [hcalled]
    exact List.mem_append_right _ (List.mem_singleton_self _)
  · obtain ⟨hvisit, hcalled⟩ := Passes.visit_fails hhooks hpass hfail
    refine ⟨.inr ⟨before, h, after, s₁, e, s', hhooks, hpass, hfail, hvisit, hcalled⟩, ?_⟩
    rw [hcalled]
    rcases List.eq_nil_or_concat' after with rfl | ⟨rest, last, rfl⟩
    · -- Taking leave of the root is what fails.
      obtain ⟨rfl, hlast⟩ := List.append_inj' hhooks rfl
      rw [← hlast]
      exact ⟨fun _ => ⟨s₁, hpass⟩, fun _ => List.mem_append_right _ (List.mem_singleton_self _)⟩
    · rw [← List.cons_append, ← List.append_assoc] at hhooks
      obtain ⟨hbefore, -⟩ := List.append_inj' hhooks rfl
      rw [hbefore]
      refine ⟨fun hstop => ?_, fun hall => absurd hall (not_passes_of_fails hpass hfail)⟩
      refine absurd ?_ root.stop_notMem_hooksBeforeStop
      rw [hbefore, ← List.singleton_append, ← List.append_assoc]
      exact List.mem_append_left _ hstop

end Visitor
end TextPane
