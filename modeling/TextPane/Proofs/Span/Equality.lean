import Mathlib.Data.List.Forall2
import TextPane.Span.Basic

/-! Equal spans.

Spans of a host are equal when their kinds and texts are, whatever their lengths. A container compares the
sum of the lengths of its children besides the children, as a word keeps it. So equal children make equal
containers only where the spans of a host among them are together equally long (`Span.beq_ofList_iff`), and two
spans of a host that are equal may make containers that are not (`Span.beq_ofList_hosts`). All other spans are
as long as any span that they equal (`Span.length_of_beq`). -/
namespace TextPane

namespace Text

theorem toWord_of_lt {n : Nat} (h : n < wordLimit) : toWord n = n := Nat.mod_eq_of_lt h

theorem toWord_lt (n : Nat) : toWord n < wordLimit := Nat.mod_lt n (by decide)

@[simp] theorem toWord_toWord (n : Nat) : toWord (toWord n) = toWord n := Nat.mod_mod ..

/-- A sum that is kept in a word after each addition is the whole sum as a word keeps it. -/
@[simp] theorem toWord_toWord_add (m n : Nat) : toWord (toWord m + n) = toWord (m + n) :=
  Nat.mod_add_mod ..

@[simp] theorem toWord_add_toWord (m n : Nat) : toWord (m + toWord n) = toWord (m + n) :=
  Nat.add_mod_mod ..

end Text

namespace Span

/-- The length that a host gave a span. -/
def hostLength : Span → Nat
  | .host h => h.length
  | .empty | .content .. | .container .. | .control _ => 0

/-- The lengths that a host gave spans, together. -/
def hostLengths (ss : List Span) : Nat := (ss.map hostLength).sum

theorem hostLengths_cons (s : Span) (rest : List Span) :
    hostLengths (s :: rest) = s.hostLength + hostLengths rest := rfl

theorem totalLength_cons (s : Span) (rest : List Span) :
    totalLength (s :: rest) = s.length + totalLength rest := rfl

theorem sameAll_iff (xs ys : List Span) :
    sameAll xs ys = true ↔ List.Forall₂ (fun x y => (x == y) = true) xs ys := by
  induction xs generalizing ys with
  | nil => cases ys <;> simp [sameAll]
  | cons x xs ih =>
    cases ys with
    | nil => simp [sameAll]
    | cons y ys =>
      rw [sameAll, Bool.and_eq_true, List.forall₂_cons, ih]
      rfl

/-- A container is equal to another when its children are, one by one, and the sums are. -/
theorem beq_container_iff (xs ys : List Span) (m n : Nat) :
    (container xs m == container ys n) = true ↔
      List.Forall₂ (fun x y => (x == y) = true) xs ys ∧ m = n := by
  show same (container xs m) (container ys n) = true ↔ _
  rw [same, Bool.and_eq_true, sameAll_iff, beq_iff_eq]

/-- Equal spans differ in length by what a host gave them. -/
theorem length_of_beq {x y : Span} (h : (x == y) = true) :
    x.length + y.hostLength = y.length + x.hostLength := by
  change same x y = true at h
  cases x <;> cases y <;> simp only [same, Bool.false_eq_true, Bool.and_eq_true, beq_iff_eq] at h
  case empty.empty => rfl
  case content.content => exact congrArg (· + 0) h.2
  case container.container => exact congrArg (· + 0) h.2
  case control.control => rfl
  case host.host g h' => exact Nat.add_comm g.length h'.length

theorem totalLength_of_beq {xs ys : List Span} (h : List.Forall₂ (fun x y => (x == y) = true) xs ys) :
    totalLength xs + hostLengths ys = totalLength ys + hostLengths xs := by
  induction h with
  | nil => rfl
  | cons hxy _ ih =>
    have hlength := length_of_beq hxy
    rw [totalLength_cons, totalLength_cons, hostLengths_cons, hostLengths_cons]
    omega

/-- Where equal spans of a host are equally long, lists of equal spans have as much of their length from a
host. -/
theorem hostLengths_eq {xs ys : List Span} (h : List.Forall₂ (fun x y => (x == y) = true) xs ys)
    (hlengths : ∀ g k : HostSpan, .host g ∈ xs → .host k ∈ ys → g.kind = k.kind → g.text = k.text →
      g.length = k.length) :
    hostLengths xs = hostLengths ys := by
  induction h with
  | nil => rfl
  | @cons x y xs ys hxy _ ih =>
    have hrest := ih fun g k hg hk => hlengths g k (List.mem_cons_of_mem x hg) (List.mem_cons_of_mem y hk)
    have hfirst : x.hostLength = y.hostLength := by
      change same x y = true at hxy
      cases x <;> cases y <;> simp only [same, Bool.false_eq_true, Bool.and_eq_true, beq_iff_eq] at hxy
      case host.host g k => exact hlengths g k (List.mem_cons_self ..) (List.mem_cons_self ..) hxy.1 hxy.2
      all_goals rfl
    rw [hostLengths_cons, hostLengths_cons, hfirst, hrest]

/-- Lists of equal spans are together equally long, as a word keeps it, if and only if the spans of a host
among them are. -/
theorem toWord_totalLength_eq_iff {xs ys : List Span}
    (h : List.Forall₂ (fun x y => (x == y) = true) xs ys) :
    Text.toWord (totalLength xs) = Text.toWord (totalLength ys) ↔
      Text.toWord (hostLengths xs) = Text.toWord (hostLengths ys) := by
  have hlength := totalLength_of_beq h
  simp only [Text.toWord, Text.wordLimit]
  omega

/-- **Equal containers.** Two containers are equal if and only if their children are as many and equal one by
one and the spans of a host among them are together equally long, as a word keeps it: lengths that sum to less
than the limit of a word have to be equal sums. Where spans of a host that are equal are equally long, the
children alone decide. -/
theorem beq_ofList_iff (xs ys : List Span) :
    ((ofList xs == ofList ys) = true ↔
      List.Forall₂ (fun x y => (x == y) = true) xs ys ∧
        Text.toWord (hostLengths xs) = Text.toWord (hostLengths ys)) ∧
    (hostLengths xs < Text.wordLimit → hostLengths ys < Text.wordLimit →
      ((ofList xs == ofList ys) = true ↔
        List.Forall₂ (fun x y => (x == y) = true) xs ys ∧ hostLengths xs = hostLengths ys)) ∧
    ((∀ g k : HostSpan, .host g ∈ xs → .host k ∈ ys → g.kind = k.kind → g.text = k.text →
        g.length = k.length) →
      ((ofList xs == ofList ys) = true ↔ List.Forall₂ (fun x y => (x == y) = true) xs ys)) := by
  have hcontainers : (ofList xs == ofList ys) = true ↔
      List.Forall₂ (fun x y => (x == y) = true) xs ys ∧
        Text.toWord (hostLengths xs) = Text.toWord (hostLengths ys) := by
    rw [ofList, ofList, beq_container_iff]
    exact and_congr_right toWord_totalLength_eq_iff
  refine ⟨hcontainers, fun hxs hys => ?_, fun hlengths => ?_⟩
  · rwa [Text.toWord_of_lt hxs, Text.toWord_of_lt hys] at hcontainers
  · rw [hcontainers]
    exact and_iff_left_of_imp fun hchildren => congrArg Text.toWord (hostLengths_eq hchildren hlengths)

/-- A gauge of ten columns behind its title, twice. -/
theorem beq_ofList_iff_gauge :
    let gauge : HostSpan := { kind := "gauge", text := "50%", length := 10 }
    let xs := [ofList [.foreground "red", ofString "cpu"], .host gauge]
    let ys := [ofList [.foreground "Red", ofString "cpu"], .host gauge]
    (∀ g k : HostSpan, .host g ∈ xs → .host k ∈ ys → g.kind = k.kind → g.text = k.text →
        g.length = k.length) ∧
      hostLengths xs < Text.wordLimit ∧ hostLengths ys < Text.wordLimit ∧
      (ofList xs == ofList ys) = true ∧ List.Forall₂ (fun x y => (x == y) = true) xs ys ∧
      hostLengths xs = hostLengths ys := by
  intro gauge xs ys
  have hlengths : ∀ g k : HostSpan, .host g ∈ xs → .host k ∈ ys → g.kind = k.kind → g.text = k.text →
      g.length = k.length := by
    intro g k hg hk _ _
    simp only [xs, ys, ofList, List.mem_cons, List.not_mem_nil, reduceCtorEq, false_or, or_false,
      host.injEq] at hg hk
    rw [hg, hk]
  have hchildren : List.Forall₂ (fun x y => (x == y) = true) xs ys :=
    .cons (by decide +kernel) (.cons (by decide +kernel) .nil)
  have hxs : hostLengths xs < Text.wordLimit := by decide
  have hys : hostLengths ys < Text.wordLimit := by decide
  obtain ⟨-, hsums, hgauges⟩ := beq_ofList_iff xs ys
  have hequal := (hgauges hlengths).mpr hchildren
  exact ⟨hlengths, hxs, hys, hequal, (hsums hxs hys).mp hequal⟩

/-- Two gauges that are equal but for their lengths are equal, and containers of them are not. -/
theorem beq_ofList_hosts :
    ¬∀ xs ys : List Span, (ofList xs == ofList ys) = true ↔
      List.Forall₂ (fun x y => (x == y) = true) xs ys := by
  intro hlaw
  let gauge (length : Nat) : Span := .host { kind := "gauge", text := "50%", length }
  have hchildren : List.Forall₂ (fun x y => (x == y) = true) [gauge 10] [gauge 20] :=
    .cons (by decide) .nil
  exact absurd ((hlaw _ _).mpr hchildren) (by decide)

end Span

end TextPane
