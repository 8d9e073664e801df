import TextPane.Proofs.View.Work
import TextPane.Proofs.View.Carry

/-! What a layout asks of the things in it.

Things are measured and rendered in turn, and regions blanked in between. Work that notes all this
(`Asking`) is the work itself once the notes are dropped (`Asking.plain`), so a layout of things that are
noted is the layout of the things (`Grid.plain_asking`). -/
namespace TextPane

/-- What a layout asks for. -/
inductive Asked (ν : Type) where
  | measure (thing : ν) (limit : Size)
  | render (thing : ν) (region : Region)
  | blank (region : Region)

namespace Asked
variable {ν : Type}

def IsMeasure : Asked ν → Prop
  | .measure _ _ => True
  | _ => False

/-- The thing that is to be rendered. -/
def rendered? : Asked ν → Option ν
  | .render v _ => some v
  | _ => none

theorem IsMeasure.rendered? {e : Asked ν} (h : e.IsMeasure) : e.rendered? = none := by
  cases e with
  | measure => rfl
  | render => exact absurd h id
  | blank => rfl

end Asked

/-- Work of things that keep a state, and what is asked for on the way. -/
def Asking (ν σ α : Type) : Type := σ → (α × σ) × List (Asked ν)

namespace Asking
variable {ν σ : Type}

instance : Monad (Asking ν σ) where
  pure a s := ((a, s), [])
  bind x f s :=
    let next := f (x s).1.1 (x s).1.2
    (next.1, (x s).2 ++ next.2)

theorem bind_of_run {α β : Type} {x : Asking ν σ α} {a : α} {s s' : σ} {asked : List (Asked ν)}
    (h : x s = ((a, s'), asked)) (f : α → Asking ν σ β) :
    (x >>= f) s = ((f a s').1, asked ++ (f a s').2) := by
  show ((f (x s).1.1 (x s).1.2).1, (x s).2 ++ (f (x s).1.1 (x s).1.2).2) = _
  rw [h]

/-- Work that is asked for. -/
def ask {α : Type} (e : Asked ν) (x : StateM σ α) : Asking ν σ α := fun s => (x s, [e])

/-- A thing as a box that notes what it is asked. -/
def box (v : ν) (b : Box (StateM σ)) : Box (Asking ν σ) where
  measure limit := ask (.measure v limit) (b.measure limit)
  render region := ask (.render v region) (b.render region)

/-- The work alone. -/
def plain : Carry (Asking ν σ) (StateM σ) where
  run x s := (x s).1
  run_pure _ := rfl
  run_bind _ _ := rfl

/-- Work that asks for nothing but measures. -/
def measuring : Work (Asking ν σ) where
  does x := ∀ s, ∀ e ∈ (x s).2, e.IsMeasure
  pure _ _ _ he := absurd he List.not_mem_nil
  bind hx hf s e he := (List.mem_append.mp he).elim (hx s e) (hf _ _ e)

theorem measuring_box (v : ν) (b : Box (StateM σ)) : measuring.Measures (box v b) := by
  intro limit s e he
  rw [List.mem_singleton.mp he]
  exact trivial

end Asking

end TextPane
