import TextPane.Terminal.Screen

/-! Calls made one after the other.

Work on a terminal is a list of calls, and what the terminal is like afterwards can be read off the
list: the calls are recorded behind those of before (`calls_after`), the colours are what the calls
make of them, and the screen is what replaying them makes of it (`screen_after`). All of them are made
where none fails (`makeAll_of_spares`), and where one fails, those before it and none behind it
(`makeAll_of_hit`). -/
namespace TextPane

/-! ### Work that may fail -/

section Bind
variable {σ ε α β : Type} {x : ExceptT ε (StateM σ) α} {s s' : σ}

/-- What follows is done on the state that the first part leaves. -/
theorem bind_of_ok {a : α} (h : x s = (.ok a, s')) (f : α → ExceptT ε (StateM σ) β) :
    (x >>= f) s = f a s' := by
  simp only [bind, ExceptT.bind, ExceptT.mk, StateT.bind, ExceptT.bindCont, h]

/-- After a failure nothing follows. -/
theorem bind_of_error {e : ε} (h : x s = (.error e, s')) (f : α → ExceptT ε (StateM σ) β) :
    (x >>= f) s = (.error e, s') := by
  simp only [bind, ExceptT.bind, ExceptT.mk, StateT.bind, ExceptT.bindCont, h]
  rfl

end Bind

/-- The two colours of a console. -/
structure Colors where
  foreground : Option Color := none
  background : Option Color := none
deriving DecidableEq, Repr

/-- The colours after a call. -/
def Colors.after (k : Colors) : Call → Colors
  | .foreground c => { k with foreground := some c }
  | .background c => { k with background := some c }
  | .resetColor => {}
  | _ => k

/-- The colours after calls made in turn. -/
def Colors.afterAll (k : Colors) (cs : List Call) : Colors := cs.foldl Colors.after k

/-- The screen after calls made in turn. -/
def Screen.replayAll (s : Screen) (cs : List Call) : Screen := cs.foldl replay s

theorem Screen.replayAll_append (s : Screen) (a b : List Call) :
    s.replayAll (a ++ b) = (s.replayAll a).replayAll b := List.foldl_append

/-- The screen of a terminal is what its calls make of a blank one. -/
theorem Terminal.screen_eq (t : Terminal) :
    t.screen = (Screen.blank t.size).replayAll t.calls.toList := by
  rw [screen, ← Array.foldl_toList]
  rfl

namespace Terminal

def colors (t : Terminal) : Colors := ⟨t.foreground, t.background⟩

/-- None of the next calls, so many of them, fails. -/
def Spares (t : Terminal) (count : Nat) : Prop := ∀ i < count, t.faults.hit (t.made + i) = false

/-- No further call fails. -/
def Reliable (t : Terminal) : Prop := ∀ n, t.made ≤ n → t.faults.hit n = false

/-- Makes calls in turn, up to the first that fails. -/
def makeAll : List Call → TerminalM Unit
  | [] => pure ()
  | c :: rest => do
    call c
    makeAll rest

/-- The terminal after calls that succeeded. -/
def after (t : Terminal) : List Call → Terminal
  | [] => t
  | c :: rest => ({ t with made := t.made + 1 }.record c).after rest

theorem makeAll_append (a b : List Call) :
    makeAll (a ++ b) = (do makeAll a; makeAll b) := by
  induction a with
  | nil => simp [makeAll]
  | cons c rest ih => simp only [List.cons_append, makeAll, ih, bind_assoc]

theorem makeAll_single (c : Call) : makeAll [c] = call c := by simp only [makeAll, bind_pure_unit]

theorem after_append (t : Terminal) (a b : List Call) : t.after (a ++ b) = (t.after a).after b := by
  induction a generalizing t with
  | nil => rfl
  | cons c rest ih => exact ih _

section Record
variable (t : Terminal) (c : Call)

@[simp] theorem calls_record : (t.record c).calls = t.calls.push c := by cases c <;> rfl

@[simp] theorem size_record : (t.record c).size = t.size := by cases c <;> rfl

@[simp] theorem made_record : (t.record c).made = t.made := by cases c <;> rfl

@[simp] theorem faults_record : (t.record c).faults = t.faults := by cases c <;> rfl

@[simp] theorem colors_record : (t.record c).colors = t.colors.after c := by cases c <;> rfl

@[simp] theorem screen_record : (t.record c).screen = t.screen.replay c := by simp [screen]

end Record

section After
variable (t : Terminal) (cs : List Call)

@[simp] theorem calls_after : (t.after cs).calls.toList = t.calls.toList ++ cs := by
  induction cs generalizing t with
  | nil => simp [after]
  | cons c rest ih => simp [after, ih]

@[simp] theorem size_after : (t.after cs).size = t.size := by
  induction cs generalizing t with
  | nil => rfl
  | cons c rest ih => simp [after, ih]

theorem made_after : (t.after cs).made = t.made + cs.length := by
  induction cs generalizing t with
  | nil => rfl
  | cons c rest ih =>
    simp only [after, ih, made_record, List.length_cons]
    omega

@[simp] theorem faults_after : (t.after cs).faults = t.faults := by
  induction cs generalizing t with
  | nil => rfl
  | cons c rest ih => simp [after, ih]

@[simp] theorem colors_after : (t.after cs).colors = t.colors.afterAll cs := by
  induction cs generalizing t with
  | nil => rfl
  | cons c rest ih =>
    rw [after, ih, colors_record]
    rfl

@[simp] theorem screen_after : (t.after cs).screen = t.screen.replayAll cs := by
  induction cs generalizing t with
  | nil => rfl
  | cons c rest ih =>
    rw [after, ih, screen_record]
    rfl

end After

theorem Reliable.after {t : Terminal} (h : t.Reliable) (cs : List Call) : (t.after cs).Reliable := by
  intro n hn
  rw [made_after] at hn
  rw [faults_after]
  exact h n (by omega)

theorem Reliable.spares {t : Terminal} (h : t.Reliable) (n : Nat) : t.Spares n :=
  fun i _ => h _ (Nat.le_add_right _ i)

/-- A call either fails and is not recorded, or is recorded. -/
theorem call_cases (c : Call) (t : Terminal) :
    call c t = (.error .terminal, { t with made := t.made + 1 }) ∨ call c t = (.ok (), t.after [c]) := by
  unfold call
  simp only
  split
  · exact .inl rfl
  · exact .inr rfl

theorem call_of_hit {t : Terminal} (h : t.faults.hit t.made = false) (c : Call) :
    call c t = (.ok (), t.after [c]) := by
  simp only [call, h, Bool.false_eq_true, if_false]
  rfl

/-- Calls that all succeed leave the terminal as `after` says. -/
theorem eq_after_of_makeAll {cs : List Call} {t : Terminal} (h : (makeAll cs t).1 = .ok ()) :
    (makeAll cs t).2 = t.after cs := by
  induction cs generalizing t with
  | nil => rfl
  | cons c rest ih =>
    rw [makeAll] at h ⊢
    rcases call_cases c t with hc | hc
    · rw [bind_of_error hc] at h
      cases h
    · rw [bind_of_ok hc] at h ⊢
      exact ih h

/-- Where none of the calls fails, all are made. -/
theorem makeAll_of_spares {t : Terminal} (cs : List Call) (h : t.Spares cs.length) :
    makeAll cs t = (.ok (), t.after cs) := by
  induction cs generalizing t with
  | nil => rfl
  | cons c rest ih =>
    have hfirst : t.faults.hit t.made = false := h 0 (Nat.succ_pos _)
    have hrest : (t.after [c]).Spares rest.length := fun i hi => by
      have hnext := h (i + 1) (Nat.succ_lt_succ hi)
      rwa [made_after, faults_after, List.length_singleton, Nat.add_assoc, Nat.add_comm 1 i]
    rw [makeAll, bind_of_ok (call_of_hit hfirst c)]
    exact ih hrest

/-- Where no further call fails, all are made. -/
theorem makeAll_of_reliable {t : Terminal} (h : t.Reliable) (cs : List Call) :
    makeAll cs t = (.ok (), t.after cs) := makeAll_of_spares cs (h.spares _)

theorem call_fails {t : Terminal} (h : t.faults.hit t.made = true) (c : Call) :
    call c t = (.error .terminal, { t with made := t.made + 1 }) := by
  simp only [call, h, if_true]

/-- Where so many calls succeed and the next one fails, those are made and no call behind that one is
tried. -/
theorem makeAll_of_hit {t : Terminal} {k : Nat} (hspared : t.Spares k)
    (hhit : t.faults.hit (t.made + k) = true) (cs : List Call) (hk : k < cs.length) :
    makeAll cs t =
      (.error .terminal, { t.after (cs.take k) with made := t.made + (k + 1) }) := by
  have hlength : (cs.take k).length = k := List.length_take_of_le (Nat.le_of_lt hk)
  have hmade : (t.after (cs.take k)).made = t.made + k := by rw [made_after, hlength]
  have hbefore : makeAll (cs.take k) t = (.ok (), t.after (cs.take k)) :=
    makeAll_of_spares _ (hlength.symm ▸ hspared)
  have hfailed : call cs[k] (t.after (cs.take k)) =
      (.error .terminal, { t.after (cs.take k) with made := t.made + (k + 1) }) := by
    rw [call_fails (by rwa [faults_after, hmade]), hmade, Nat.add_assoc]
  calc makeAll cs t
      = makeAll (cs.take k ++ cs[k] :: cs.drop (k + 1)) t := by
        rw [List.getElem_cons_drop, List.take_append_drop]
    _ = makeAll (cs[k] :: cs.drop (k + 1)) (t.after (cs.take k)) := by
        rw [makeAll_append, bind_of_ok hbefore]
    _ = _ := by rw [makeAll, bind_of_error hfailed]

end Terminal

end TextPane
