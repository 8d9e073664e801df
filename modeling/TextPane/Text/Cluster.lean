import TextPane.Text.Property.Breaking

/-! Extended grapheme clusters.

A text falls into clusters, the units a reader takes for one character. Whether a cluster ends
before a character depends on that character and on how the cluster reads so far (`Tail`), so the
clusters of a text are found in one pass from the left, and cutting a text between two of its
clusters cuts the list of clusters in two. -/
namespace TextPane.Text

/-- The part a character plays in the rules for cluster ends. -/
inductive BreakClass where
  | other
  | carriageReturn
  | lineFeed
  | control
  | extend
  | joiner
  | spacingMark
  | prepended
  | leadingJamo
  | vowelJamo
  | trailingJamo
  | openSyllable
  | closedSyllable
  | regionalIndicator
  | pictograph
  | consonant
deriving DecidableEq, Repr

/-- Hangul syllables are laid out in rows of 28, the first of each row without a final letter. -/
def hangulClass (n : Nat) : Option BreakClass :=
  if (0x1100 ≤ n ∧ n ≤ 0x115F) ∨ (0xA960 ≤ n ∧ n ≤ 0xA97C) then some .leadingJamo
  else if (0x1160 ≤ n ∧ n ≤ 0x11A7) ∨ (0xD7B0 ≤ n ∧ n ≤ 0xD7C6) then some .vowelJamo
  else if n = 0x16D63 ∨ (0x16D67 ≤ n ∧ n ≤ 0x16D6A) then some .vowelJamo
  else if (0x11A8 ≤ n ∧ n ≤ 0x11FF) ∨ (0xD7CB ≤ n ∧ n ≤ 0xD7FB) then some .trailingJamo
  else if 0xAC00 ≤ n ∧ n ≤ 0xD7A3 then
    some (if (n - 0xAC00) % 28 = 0 then .openSyllable else .closedSyllable)
  else none

/-- The class of an ASCII character. -/
def asciiBreakClass (c : Char) : BreakClass :=
  if c = '\r' then .carriageReturn
  else if c = '\n' then .lineFeed
  else if c < ' ' ∨ c = '\x7f' then .control
  else .other

def isRegionalIndicator (c : Char) : Bool :=
  0x1F1E6 ≤ c.toNat && c.toNat ≤ 0x1F1FF

def isSkinTone (c : Char) : Bool :=
  0x1F3FB ≤ c.toNat && c.toNat ≤ 0x1F3FF

/-- The class of a character beyond ASCII. -/
def wideBreakClass (c : Char) : BreakClass :=
  if c = '\u200d' then .joiner
  else if Property.graphemeExtend.holds c || isSkinTone c then .extend
  else if Property.breakControl.holds c then .control
  else if Property.prepended.holds c then .prepended
  else if Property.spacingMark.holds c then .spacingMark
  else if isRegionalIndicator c then .regionalIndicator
  else if Property.pictographic.holds c then .pictograph
  else if Property.conjunctConsonant.holds c then .consonant
  else (hangulClass c.toNat).getD .other

def breakClass (c : Char) : BreakClass :=
  if c.toNat < 0x80 then asciiBreakClass c else wideBreakClass c

/-- What an open cluster still waits for, besides marks. -/
inductive Pending where
  /-- Nothing. -/
  | nothing
  /-- The second half of a flag. -/
  | flag
  /-- A pictograph and its marks: a joiner may tie the next one to it. -/
  | pictograph
  /-- Such a pictograph and its joiner. -/
  | joinedPictograph
  /-- A consonant and its marks: a virama may tie the next one to it. -/
  | consonant
  /-- Such a consonant and its virama. -/
  | conjunct
deriving DecidableEq, Repr

/-- How a cluster reads at its end. -/
structure Tail where
  last : BreakClass
  pending : Pending
deriving DecidableEq, Repr

namespace Tail

/-- A cluster of one character. -/
def start (c : Char) : Tail :=
  match breakClass c with
  | .regionalIndicator => ⟨.regionalIndicator, .flag⟩
  | .pictograph => ⟨.pictograph, .pictograph⟩
  | .consonant => ⟨.consonant, .consonant⟩
  | k => ⟨k, .nothing⟩

/-- What a cluster waits for once a mark or a joiner has joined it. -/
def pendingAfterMark (p : Pending) (c : Char) (k : BreakClass) : Pending :=
  match p with
  | .pictograph =>
    if k = .joiner then .joinedPictograph else if k = .extend then .pictograph else .nothing
  | .consonant =>
    if Property.conjunctLinker.holds c then .conjunct
    else if (k = .extend ∧ c ≠ '\u200c') ∨ k = .joiner then .consonant
    else .nothing
  | .conjunct => if (k = .extend ∧ c ≠ '\u200c') ∨ k = .joiner then .conjunct else .nothing
  | _ => .nothing

/-- The cluster after a character has joined it. -/
def push (t : Tail) (c : Char) : Tail :=
  match breakClass c with
  | .regionalIndicator => ⟨.regionalIndicator, if t.pending = .flag then .nothing else .flag⟩
  | .pictograph => ⟨.pictograph, .pictograph⟩
  | .consonant => ⟨.consonant, .consonant⟩
  | k => ⟨k, pendingAfterMark t.pending c k⟩

/-- Whether a character of class `k` joins the cluster. A line end stands alone but for the pair of
return and line feed; marks join anything; then come the rules for prepended marks, Hangul
syllables, conjuncts, joined emoji and flags. -/
def joins (t : Tail) (k : BreakClass) : Bool :=
  match t.last, k with
  | .carriageReturn, .lineFeed => true
  | .carriageReturn, _ | .lineFeed, _ | .control, _ => false
  | _, .carriageReturn | _, .lineFeed | _, .control => false
  | .leadingJamo, .leadingJamo | .leadingJamo, .vowelJamo => true
  | .leadingJamo, .openSyllable | .leadingJamo, .closedSyllable => true
  | .openSyllable, .vowelJamo | .openSyllable, .trailingJamo => true
  | .vowelJamo, .vowelJamo | .vowelJamo, .trailingJamo => true
  | .closedSyllable, .trailingJamo | .trailingJamo, .trailingJamo => true
  | _, .extend | _, .joiner | _, .spacingMark => true
  | .prepended, _ => true
  | _, .consonant => t.pending == .conjunct
  | _, .pictograph => t.pending == .joinedPictograph
  | .regionalIndicator, .regionalIndicator => t.pending == .flag
  | _, _ => false

end Tail

/-- The rest of the cluster that reads `t` so far, and the clusters after it. -/
def clustersFrom (t : Tail) : List Char → List Char × List (List Char)
  | [] => ([], [])
  | c :: cs =>
    if t.joins (breakClass c) then
      let (rest, later) := clustersFrom (t.push c) cs
      (c :: rest, later)
    else
      let (rest, later) := clustersFrom (Tail.start c) cs
      ([], (c :: rest) :: later)

/-- The clusters of a text, in order. -/
def clusters : List Char → List (List Char)
  | [] => []
  | c :: cs =>
    let (rest, later) := clustersFrom (Tail.start c) cs
    (c :: rest) :: later

end TextPane.Text
