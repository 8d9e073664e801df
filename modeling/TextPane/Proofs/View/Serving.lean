import TextPane.Proofs.View.Asking
import TextPane.Proofs.View.Overflow

/-! What a stack serves.

A stack is gone through when it is measured and again when it is rendered, the first time with the room that
is left counted down and the second time with the offset counted up. Where things say their size and nothing
else depends on that, both times the same things are served (`Stack.serve`), each offered the same and each
given the same extent (`Stack.measure_serves`, `Stack.asked_renderFrom`). The parts that they are rendered
in lie one behind the other from the beginning of the region on, and end in it (`Stack.tiles_serve`).

On machine words no extent is taken from one that is less, and no offset ends behind the last word
(`Stack.measureWords_eq`, `Stack.renderFromWords_eq`). -/
namespace TextPane

/-! ### Parts on words -/

namespace Orientation
variable (o : Orientation) (region : Region) (offset extent : Nat)

theorem not_has_slice_zero (row column : Nat) : ¬(o.slice region offset 0).Has row column := by
  intro hcell
  cases o with
  | vertical => exact Nat.not_lt.mpr hcell.1.1 hcell.1.2
  | horizontal => exact Nat.not_lt.mpr hcell.2.1 hcell.2.2

variable {o region offset extent}

theorem main_le (o : Orientation) {region : Region} (hregion : region.Bounded) :
    o.main region.size ≤ cellLimit := by
  obtain ⟨hright, hbottom⟩ := hregion
  cases o with
  | vertical => exact Nat.le_trans (Nat.le_add_left ..) hbottom
  | horizontal => exact Nat.le_trans (Nat.le_add_left ..) hright

/-- `part` on words. -/
def partWords (o : Orientation) (region : Region) (offset extent : Nat) : Option Region :=
  match o with
  | .vertical => (Word.add 16 region.top offset).map fun top => { region with top, height := extent }
  | .horizontal => (Word.add 16 region.left offset).map fun left => { region with left, width := extent }

theorem partWords_eq (hregion : region.Bounded) (hoffset : offset ≤ o.main region.size) :
    o.partWords region offset extent = some (o.part region offset extent) := by
  rw [part_eq_slice hregion hoffset]
  obtain ⟨hright, hbottom⟩ := hregion
  have hlimit : cellLimit < 2 ^ (16 : Nat) := by decide
  cases o with
  | vertical =>
    have hheight : offset ≤ region.height := hoffset
    rw [partWords, Word.add_eq (by omega)]
    rfl
  | horizontal =>
    have hwidth : offset ≤ region.width := hoffset
    rw [partWords, Word.add_eq (by omega)]
    rfl

end Orientation

/-! ### Stacks on words -/

namespace Stack
variable {m : Type → Type} [Monad m]

/-- `measureAll` on words. -/
def measureAllWords (o : Orientation) (maxCross room cross : Nat) :
    List (Box m) → OptionT m (Nat × Nat)
  | [] => pure (room, cross)
  | b :: rest => do
    if room = 0 then return (room, cross)
    let size ← OptionT.lift (b.measure (o.size room maxCross))
    let left ← (Word.sub room (min (o.main size) room)).getM
    measureAllWords o maxCross left (max cross (o.cross size)) rest

/-- `measure` on words. -/
def measureWords (o : Orientation) (boxes : List (Box m)) (limit : Size) : OptionT m Size := do
  let (room, cross) ← measureAllWords o (o.cross limit) (o.main limit) 0 boxes
  return o.size (← (Word.sub (o.main limit) room).getM) (min cross (o.cross limit))

/-- `renderFrom` on words. -/
def renderFromWords (o : Orientation) (region : Region) (offset : Nat) : List (Box m) → OptionT m Unit
  | [] => pure ()
  | b :: rest => do
    let room ← (Word.sub (o.main region.size) offset).getM
    if room = 0 then return
    let size ← OptionT.lift (b.measure (o.size room (o.cross region.size)))
    let extent := min (o.main size) room
    OptionT.lift (b.render (← (o.partWords region offset extent).getM))
    renderFromWords o region (← (Word.add 16 offset extent).getM) rest

variable [LawfulMonad m]

theorem measureAllWords_eq (o : Orientation) (maxCross room cross : Nat) (boxes : List (Box m)) :
    measureAllWords o maxCross room cross boxes =
      OptionT.lift (measureAll o maxCross room cross boxes) := by
  induction boxes generalizing room cross with
  | nil => exact (OptionT.lift_pure _).symm
  | cons b rest ih =>
    unfold measureAllWords measureAll
    split
    · exact (OptionT.lift_pure _).symm
    · rw [OptionT.lift_bind]
      refine bind_congr fun size => ?_
      rw [Word.sub_eq (Nat.min_le_right ..), Option.getM_some, pure_bind, ih]

theorem ends_measureAll (o : Orientation) (maxCross room cross : Nat) (boxes : List (Box m)) :
    Ends (fun left => left.1 ≤ room) (measureAll o maxCross room cross boxes) := by
  induction boxes generalizing room cross with
  | nil => exact ends_pure (Nat.le_refl room)
  | cons b rest ih =>
    unfold measureAll
    refine Ends.ite (fun _ => ends_pure (Nat.le_refl room)) fun _ => ?_
    refine (ends_any (b.measure (o.size room maxCross))).bind fun size _ => ?_
    exact (ih _ _).mono fun left hleft => Nat.le_trans hleft (Nat.sub_le ..)

/-- However things answer when they are measured, a stack is measured on words. -/
theorem measureWords_eq (o : Orientation) (boxes : List (Box m)) (limit : Size) :
    measureWords o boxes limit = OptionT.lift (measure o boxes limit) := by
  rw [measureWords, measure, measureAllWords_eq, OptionT.lift_bind]
  refine (ends_measureAll o _ _ _ boxes).lift.congr fun left hleft => ?_
  obtain ⟨room, cross⟩ := left
  dsimp only at hleft ⊢
  rw [Word.sub_eq hleft, Option.getM_some, pure_bind]
  exact (OptionT.lift_pure _).symm

theorem renderFromWords_eq (o : Orientation) {region : Region} (hregion : region.Bounded) {offset : Nat}
    (hoffset : offset ≤ o.main region.size) (boxes : List (Box m)) :
    renderFromWords o region offset boxes = OptionT.lift (renderFrom o region offset boxes) := by
  have hmain := o.main_le hregion
  have hlimit : cellLimit < 2 ^ (16 : Nat) := by decide
  induction boxes generalizing offset with
  | nil => exact (OptionT.lift_pure _).symm
  | cons b rest ih =>
    simp only [renderFromWords, renderFrom, Word.sub_eq hoffset, Option.getM_some, pure_bind]
    split
    · exact (OptionT.lift_pure _).symm
    · rw [OptionT.lift_bind]
      refine bind_congr fun size => ?_
      have hextent : min (o.main size) (o.main region.size - offset) ≤ o.main region.size - offset :=
        Nat.min_le_right ..
      rw [Orientation.partWords_eq hregion hoffset, Option.getM_some, pure_bind, OptionT.lift_bind]
      refine bind_congr fun _ => ?_
      rw [Word.add_eq (by omega), Option.getM_some, pure_bind]
      exact ih (by omega)

end Stack

/-! ### Things in a stack -/

/-- A thing that gets room in a stack: where this begins along the axis, and how far it goes. -/
structure Served (ν : Type) where
  thing : ν
  offset : Nat
  extent : Nat
deriving DecidableEq, Repr

namespace Served
variable {ν : Type} (o : Orientation)

/-- What the thing is offered when it is measured within limits. -/
def offer (limit : Size) (c : Served ν) : Size := o.size (o.main limit - c.offset) (o.cross limit)

/-- Where the thing is rendered. -/
def target (region : Region) (c : Served ν) : Region := o.slice region c.offset c.extent

/-- What things have together. -/
def total (served : List (Served ν)) : Nat := (served.map (·.extent)).sum

@[simp] theorem total_cons (c : Served ν) (rest : List (Served ν)) :
    total (c :: rest) = c.extent + total rest := rfl

/-- What is asked of things when they are measured. -/
def measures (limit : Size) (served : List (Served ν)) : List (Asked ν) :=
  served.map fun c => .measure c.thing (c.offer o limit)

/-- What is asked of things when they are rendered. -/
def renders (region : Region) (served : List (Served ν)) : List (Asked ν) :=
  served.flatMap fun c => [.measure c.thing (c.offer o region.size), .render c.thing (c.target o region)]

end Served

namespace Stack
variable {ν σ : Type} (o : Orientation) (size : ν → Size → Size)

/-- The things that get room from an offset on. -/
def serve (limit : Size) (offset : Nat) : List ν → List (Served ν)
  | [] => []
  | v :: rest =>
    let room := o.main limit - offset
    if room = 0 then [] else
      let extent := min (o.main (size v (o.size room (o.cross limit)))) room
      ⟨v, offset, extent⟩ :: serve limit (offset + extent) rest

section Serve
variable {o size} {limit : Size} {offset : Nat} {v : ν} {rest : List ν}

theorem serve_full (h : o.main limit - offset = 0) : serve o size limit offset (v :: rest) = [] := if_pos h

theorem serve_cons (h : o.main limit - offset ≠ 0) :
    let extent := min (o.main (size v (o.size (o.main limit - offset) (o.cross limit))))
      (o.main limit - offset)
    serve o size limit offset (v :: rest) =
      ⟨v, offset, extent⟩ :: serve o size limit (offset + extent) rest := if_neg h

end Serve

/-- Which things a stack serves from an offset on, and how. -/
structure Serves (limit : Size) (offset : Nat) (things : List ν) (served : List (Served ν)) : Prop where
  /-- Things are served in order. -/
  front : served.map (·.thing) <+: things
  /-- Some are passed over only where no room is left. -/
  all : served.length < things.length → offset + Served.total served = o.main limit
  room : offset + Served.total served ≤ o.main limit
  /-- What each thing gets begins where what the things before it get ends. -/
  each : ∀ i c, served[i]? = some c → c.offset = offset + Served.total (served.take i) ∧
    c.offset < o.main limit ∧
    c.extent = min (o.main (size c.thing (c.offer o limit))) (o.main limit - c.offset)

theorem serves_serve (limit : Size) {offset : Nat} (hoffset : offset ≤ o.main limit) (things : List ν) :
    Serves o size limit offset things (serve o size limit offset things) := by
  induction things generalizing offset with
  | nil =>
    exact ⟨List.prefix_refl _, fun h => absurd h (Nat.lt_irrefl 0), hoffset, fun i c hc => by cases hc⟩
  | cons v rest ih =>
    by_cases hroom : o.main limit - offset = 0
    · rw [serve_full hroom]
      exact ⟨List.nil_prefix, fun _ => by show offset = _; omega, hoffset, fun i c hc => by cases hc⟩
    · rw [serve_cons hroom]
      let extent := min (o.main (size v (o.size (o.main limit - offset) (o.cross limit))))
        (o.main limit - offset)
      have hextent : extent ≤ o.main limit - offset := Nat.min_le_right ..
      have hend : offset + extent ≤ o.main limit := by omega
      obtain ⟨hfront, hall, hrest, heach⟩ := ih hend
      refine ⟨?_, fun hless => ?_, ?_, fun i c hc => ?_⟩
      · exact List.cons_prefix_cons.mpr ⟨rfl, hfront⟩
      · rw [Served.total_cons, ← Nat.add_assoc]
        exact hall (Nat.lt_of_succ_lt_succ hless)
      · rw [Served.total_cons, ← Nat.add_assoc]
        exact hrest
      · cases i with
        | zero =>
          cases hc
          exact ⟨rfl, by show offset < _; omega, rfl⟩
        | succ i =>
          obtain ⟨hbegin, hend⟩ := heach i c hc
          refine ⟨?_, hend⟩
          rw [List.take_succ_cons, Served.total_cons, ← Nat.add_assoc]
          exact hbegin

/-- What things are rendered in tiles the region as far as there are things. -/
theorem tiles_serve {limit : Size} {offset : Nat} {things : List ν} (region : Region) :
    (o.slice region offset (Served.total (serve o size limit offset things))).Tiles
      ((serve o size limit offset things).map (Served.target o region)) := by
  induction things generalizing offset with
  | nil => exact Region.tiles_nil (o.not_has_slice_zero region offset)
  | cons v rest ih =>
    by_cases hroom : o.main limit - offset = 0
    · rw [serve_full hroom]
      exact Region.tiles_nil (o.not_has_slice_zero region offset)
    · rw [serve_cons hroom, Served.total_cons, List.map_cons]
      exact Region.Tiles.append (Region.tiles_single (.refl _) (.refl _)) ih (o.slice_splits ..)

/-! ### Runs of a stack -/

variable (paint : ν → Region → StateM σ Unit)

/-- A thing that says its size. -/
def saying (v : ν) : Box (StateM σ) where
  measure limit := pure (size v limit)
  render := paint v

theorem measure_bind {α : Type} (v : ν) (limit : Size) (f : Size → Asking ν σ α) (s : σ) :
    ((Asking.box v (saying size paint v)).measure limit >>= f) s =
      ((f (size v limit) s).1, .measure v limit :: (f (size v limit) s).2) := rfl

theorem render_bind {α : Type} (v : ν) (region : Region) (f : Unit → Asking ν σ α) (s : σ) :
    ((Asking.box v (saying size paint v)).render region >>= f) s =
      ((f () (paint v region s).2).1, .render v region :: (f () (paint v region s).2).2) := rfl

/-- The stack of things as a box that notes what it asks for. -/
def asking (things : List ν) : Box (Asking ν σ) :=
  box o (things.map fun v => Asking.box v (saying size paint v))

/-- Dropping the notes leaves the stack of things. -/
theorem plain_asking (things : List ν) :
    (asking o size paint things).map Asking.plain = box o (things.map (saying size paint)) := by
  rw [asking, map_box, List.map_map]
  rfl

/-- Counting down what is left, the things that are served are measured. -/
theorem measureAll_serves (limit : Size) (offset cross : Nat) (things : List ν) (s : σ) :
    ∃ cross', measureAll o (o.cross limit) (o.main limit - offset) cross
        (things.map fun v => Asking.box v (saying size paint v)) s =
      (((o.main limit - offset - Served.total (serve o size limit offset things), cross'), s),
        Served.measures o limit (serve o size limit offset things)) := by
  induction things generalizing offset cross with
  | nil => exact ⟨cross, rfl⟩
  | cons v rest ih =>
    by_cases hroom : o.main limit - offset = 0
    · refine ⟨cross, ?_⟩
      rw [serve_full hroom, List.map_cons, measureAll, if_pos hroom]
      rfl
    · let answer := size v (o.size (o.main limit - offset) (o.cross limit))
      let extent := min (o.main answer) (o.main limit - offset)
      have hleft : o.main limit - offset - extent = o.main limit - (offset + extent) := Nat.sub_sub ..
      obtain ⟨cross', hrest⟩ := ih (offset + extent) (max cross (o.cross answer))
      have htotal (rest : Nat) :
          o.main limit - (offset + extent) - rest = o.main limit - offset - (extent + rest) := by omega
      refine ⟨cross', ?_⟩
      rw [serve_cons hroom, List.map_cons, measureAll, if_neg hroom, measure_bind, hleft, hrest, htotal]
      rfl

theorem measure_serves (limit : Size) (things : List ν) (s : σ) :
    ∃ cross, (asking o size paint things).measure limit s =
      ((o.size (Served.total (serve o size limit 0 things)) cross, s),
        Served.measures o limit (serve o size limit 0 things)) := by
  obtain ⟨cross, hall⟩ := measureAll_serves o size paint limit 0 0 things s
  have hroom := (serves_serve o size limit (Nat.zero_le _) things).room
  rw [Nat.zero_add] at hroom
  refine ⟨min cross (o.cross limit), ?_⟩
  rw [Nat.sub_zero] at hall
  refine (Asking.bind_of_run hall _).trans ?_
  show (((o.size (o.main limit - (o.main limit - _)) _, s), _ ++ []) : (Size × σ) × List (Asked ν)) = _
  rw [Nat.sub_sub_self hroom, List.append_nil]

/-- Counting up the offset, the things that are served are measured again, and rendered. -/
theorem asked_renderFrom {region : Region} (hregion : region.Bounded) {offset : Nat}
    (hoffset : offset ≤ o.main region.size) (things : List ν) (s : σ) :
    (renderFrom o region offset (things.map fun v => Asking.box v (saying size paint v)) s).2 =
      Served.renders o region (serve o size region.size offset things) := by
  induction things generalizing offset s with
  | nil => rfl
  | cons v rest ih =>
    by_cases hroom : o.main region.size - offset = 0
    · rw [serve_full hroom, List.map_cons, renderFrom]
      simp only [hroom, if_true]
      rfl
    · let extent := min (o.main (size v (o.size (o.main region.size - offset) (o.cross region.size))))
        (o.main region.size - offset)
      have hextent : extent ≤ o.main region.size - offset := Nat.min_le_right ..
      have hend : offset + extent ≤ o.main region.size := by omega
      rw [serve_cons hroom, List.map_cons, renderFrom]
      simp only [hroom, if_false]
      rw [measure_bind, render_bind, Orientation.part_eq_slice hregion hoffset]
      exact congrArg (_ :: _ :: ·) (ih hend _)

/-- Measured within the size of a region and rendered in the region, a stack serves these things. -/
structure InStep (things : List ν) (region : Region) (s : σ) (served : List (Served ν)) : Prop where
  serves : Serves o size region.size 0 things served
  /-- What is measured of the stack is what the things that are served have together. -/
  measured : ∃ cross, (asking o size paint things).measure region.size s =
    ((o.size (Served.total served) cross, s), Served.measures o region.size served)
  rendered : ((asking o size paint things).render region s).2 = Served.renders o region served
  tiles : (o.slice region 0 (Served.total served)).Tiles (served.map (Served.target o region))
  inside : (o.slice region 0 (Served.total served)).Inside region

/-- **A stack serves the same things when it is measured and when it is rendered**, one behind the other in
the region, and no word is too small for an offset. -/
theorem render_serves (things : List ν) {region : Region} (hregion : region.Bounded) (s : σ) :
    (asking o size paint things).map Asking.plain = box o (things.map (saying size paint)) ∧
      (∃ served, InStep o size paint things region s served) ∧
      measureWords o (things.map (saying size paint)) region.size =
        OptionT.lift (measure o (things.map (saying size paint)) region.size) ∧
      renderFromWords o region 0 (things.map (saying size paint)) =
        OptionT.lift (renderFrom o region 0 (things.map (saying size paint))) := by
  have hserves := serves_serve o size region.size (Nat.zero_le _) things
  refine ⟨plain_asking o size paint things, ⟨serve o size region.size 0 things, hserves,
    measure_serves o size paint region.size things s, ?_, tiles_serve o size region,
    Orientation.slice_inside hserves.room⟩, measureWords_eq .., ?_⟩
  · exact asked_renderFrom o size paint hregion (Nat.zero_le _) things s
  · exact renderFromWords_eq o hregion (Nat.zero_le _) _

/-- A thing of this width, higher than it may be. -/
def tall (width : Nat) (limit : Size) : Size := ⟨width, 2 * limit.height⟩

/-- At the edge of all columns a thing without width is served, the next one is cut short, and one is passed
over. -/
theorem render_serves_tall :
    let region : Region := { left := 65525, top := 3, width := 10, height := 2 }
    let count (width : Nat) (_ : Region) : StateM Nat Unit := modify (· + width)
    region.Bounded ∧
      (asking .horizontal tall count [3, 0, 9, 4]).map Asking.plain =
        box .horizontal ([3, 0, 9, 4].map (saying tall count)) ∧
      (∃ served, InStep .horizontal tall count [3, 0, 9, 4] region 1 served) ∧
      measureWords .horizontal ([3, 0, 9, 4].map (saying tall count)) region.size =
        OptionT.lift (measure .horizontal ([3, 0, 9, 4].map (saying tall count)) region.size) ∧
      renderFromWords .horizontal region 0 ([3, 0, 9, 4].map (saying tall count)) =
        OptionT.lift (renderFrom .horizontal region 0 ([3, 0, 9, 4].map (saying tall count))) := by
  intro region count
  have hregion : region.Bounded := ⟨by decide, by decide⟩
  exact ⟨hregion, render_serves .horizontal tall count [3, 0, 9, 4] hregion 1⟩

/-- The last of the things that are served there ends where the region ends. -/
example : serve .horizontal tall ⟨10, 2⟩ 0 [3, 0, 9, 4] = [⟨3, 0, 3⟩, ⟨0, 3, 0⟩, ⟨9, 3, 7⟩] := rfl

end Stack

end TextPane
