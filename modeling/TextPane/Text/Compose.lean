import TextPane.Text.Property.Canonical

/-! Canonical composition.

Texts that differ only in how their accented letters are encoded look alike and should be alike. A
text is decomposed, its marks are put in canonical order, and what can be composed is composed
again (Normalization Form C). -/
namespace TextPane.Text

/-- The canonical combining class: zero for a character that starts, positive for a mark. -/
def combiningClass (c : Char) : Nat :=
  ((bisect Property.combiningClass (fun r => sideOfRange c.toNat r.1 r.2.1) 0
    Property.combiningClass.size).map (·.2.2)).getD 0

/-- A Hangul syllable in its letters: 588 syllables share a first letter, 28 the first two. -/
def decomposeHangul (n : Nat) : List Char :=
  let k := n - 0xAC00
  let head := [Char.ofNat (0x1100 + k / 588), Char.ofNat (0x1161 + k % 588 / 28)]
  if k % 28 = 0 then head else head ++ [Char.ofNat (0x11A7 + k % 28)]

/-- The full canonical decomposition of a character. -/
def decompose (c : Char) : List Char :=
  let n := c.toNat
  if 0xAC00 ≤ n ∧ n ≤ 0xD7A3 then decomposeHangul n
  else match findEntry Property.singleton n with
    | some d => [Char.ofNat d]
    | none => match findEntry Property.sequence n with
      | some ds => ds.map Char.ofNat
      | none => [c]

/-- Puts a character before a text in canonical order, behind the marks of lower class. -/
def insertMark (c : Char) : List Char → List Char
  | [] => [c]
  | d :: ds =>
    if combiningClass d < combiningClass c ∧ combiningClass d ≠ 0 then d :: insertMark c ds
    else c :: d :: ds

/-- Runs of marks in ascending order of class; marks of one class keep their order. -/
def orderMarks (cs : List Char) : List Char :=
  cs.foldr insertMark []

/-- The character that two characters compose to. -/
def composePair (a b : Char) : Option Char :=
  let m := a.toNat
  let n := b.toNat
  if 0x1100 ≤ m ∧ m ≤ 0x1112 ∧ 0x1161 ≤ n ∧ n ≤ 0x1175 then
    some (Char.ofNat (0xAC00 + ((m - 0x1100) * 21 + (n - 0x1161)) * 28))
  else if 0xAC00 ≤ m ∧ m ≤ 0xD7A3 ∧ (m - 0xAC00) % 28 = 0 ∧ 0x11A8 ≤ n ∧ n ≤ 0x11C2 then
    some (Char.ofNat (m + (n - 0x11A7)))
  else
    (bisect Property.composite (fun e => (compare m e.1).then (compare n e.2.1)) 0
      Property.composite.size).map fun e => Char.ofNat e.2.2

/-- Composes a text in canonical order onto `starter`. `held` are the marks behind it that did not
compose, of which the last has class `heldClass`; a mark of that class or a lower one cannot reach
the starter past them. -/
def composeFrom (starter : Char) (held : List Char) (heldClass : Nat) : List Char → List Char
  | [] => starter :: held
  | c :: cs =>
    let k := combiningClass c
    match if held.isEmpty ∨ heldClass < k then composePair starter c else none with
    | some composed => composeFrom composed held heldClass cs
    | none =>
      if k = 0 then starter :: held ++ composeFrom c [] 0 cs
      else composeFrom starter (held ++ [c]) k cs

/-- Composes a text in canonical order; marks before the first starter stay as they are. -/
def composeOrdered : List Char → List Char
  | [] => []
  | c :: cs => if combiningClass c = 0 then composeFrom c [] 0 cs else c :: composeOrdered cs

/-- The composed form of a text. Below U+0300 there are no marks and all letters are composed. -/
def compose (cs : List Char) : List Char :=
  if cs.all fun c => c.toNat < 0x300 then cs
  else composeOrdered (orderMarks (cs.flatMap decompose))

/-- The composed form of a string. -/
def normalize (s : String) : String := String.ofList (compose s.toList)

end TextPane.Text
