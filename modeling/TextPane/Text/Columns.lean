import TextPane.Text.Cluster
import TextPane.Text.Property.Columns

/-! Columns of a text read as one piece.

A terminal draws some sequences of characters as one sign: emoji with their selectors, modifiers and
joiners, flags, and the ligatures of a few scripts. The columns of a text are therefore counted from
its end: each character adds its own columns, corrected by what the text after it begins with
(`Ahead`). -/
namespace TextPane.Text

def isControl (c : Char) : Bool :=
  c.toNat < 0x20 || (0x7F ≤ c.toNat && c.toNat < 0xA0)

/-- Columns of a character that stands alone; a control counts for one. -/
def charColumns (c : Char) : Nat :=
  if c.toNat < 0xA0 then 1
  else if Property.zeroWidth.holds c then 0
  else if c = '\u17d8' then 3
  else if Property.wide.holds c then 2
  else 1

/-- How a text begins, as far as the character before it can tell. -/
inductive Opening where
  | plain
  | lineFeed
  /-- Two variants: a skin tone, a half flag, a run of half flags, an emoji. -/
  | skinTone
  | flag
  | flags
  | emoji
  /-- A joiner and an emoji, alone or behind a keycap mark or half flags. -/
  | joinedEmoji
  | joinedKeycap
  | joinedFlag
  | joinedEvenFlags
  | joinedOddFlags
  /-- The end of a tag sequence before a joined emoji, after so many tag letters or digits. -/
  | tagLetters (count : Nat)
  | tagDigits (count : Nat)
  | arabicAlef
  | hebrewLamed
  | bugineseYa
  | bugineseIYa
  | tifinaghLetter
  | tifinaghJoined
  | lisuTone
  | turkicI
  | khmerLetter
  | kiratVowelE
  | kiratVowelAi
deriving DecidableEq, Repr

namespace Opening

/-- Letters of which a ligature may be made across a joiner or a variation selector. -/
def isLigature : Opening → Bool
  | .arabicAlef | .hebrewLamed | .bugineseYa | .bugineseIYa | .tifinaghLetter | .tifinaghJoined
  | .lisuTone | .turkicI | .khmerLetter => true
  | _ => false

/-- Openings that stay what they are behind an emoji selector. -/
def keepsEmojiStyle (o : Opening) : Bool :=
  o.isLigature || o == .joinedEmoji || o == .joinedKeycap

end Opening

/-- The two looks that a variation selector chooses between. -/
inductive Style where
  | text
  | emoji
deriving DecidableEq, Repr

/-- What stands to the right of a character. -/
structure Ahead where
  opening : Opening := .plain
  /-- Whether a joiner stands between the character and a letter of a ligature. -/
  joined : Bool := false
  /-- The selector that stands next, if one does. -/
  style : Option Style := none
deriving DecidableEq, Repr

namespace Ahead

def plain : Ahead := {}

/-- A selector before this text. -/
def select (a : Ahead) (style : Style) : Ahead :=
  let kept := match style with
    | .emoji => a.opening.keepsEmojiStyle
    | .text => a.opening.isLigature
  if kept then { a with style := some style } else { style := some style }

/-- This text when the selector before it selected nothing. -/
def deselect (a : Ahead) : Ahead :=
  if a.opening.isLigature then { a with style := none } else plain

/-- Whether the emoji selector applies to an emoji that a joiner ties to the one before it. -/
def isJoinedStyle (a : Ahead) : Bool :=
  a.opening == .joinedEmoji || a.opening == .joinedKeycap

end Ahead

def isEmojiDefault (c : Char) : Bool :=
  Property.emojiDefault.holds c && !isRegionalIndicator c && !isSkinTone c

/-- Ignorable characters that a ligature reaches across. -/
def isLigatureTransparent (c : Char) : Bool :=
  let n := c.toNat
  n == 0x34F || (0x17B4 ≤ n && n ≤ 0x17B5) || (0x180B ≤ n && n ≤ 0x180D) || n == 0x180F ||
    n == 0x200D || (0xFE00 ≤ n && n ≤ 0xFE0F) || (0xE0100 ≤ n && n ≤ 0xE01EF)

/-- Marks across which two Arabic letters join. -/
def isJoiningTransparent (c : Char) : Bool :=
  charColumns c == 0 && !Property.joiningBreak.holds c

def isArabicLam (c : Char) : Bool :=
  let n := c.toNat
  n == 0x644 || (0x6B5 ≤ n && n ≤ 0x6B8) || n == 0x76A || n == 0x8A6 || n == 0x8C7

def isArabicAlef (c : Char) : Bool :=
  let n := c.toNat
  (0x622 ≤ n && n ≤ 0x623) || n == 0x625 || n == 0x627 || (0x671 ≤ n && n ≤ 0x673) || n == 0x675 ||
    (0x773 ≤ n && n ≤ 0x774) || (0x870 ≤ n && n ≤ 0x882)

def isTifinaghLetter (c : Char) : Bool :=
  let n := c.toNat
  (0x2D31 ≤ n && n ≤ 0x2D65) || n == 0x2D6F

/-- Khmer letters that can stand as a subscript. -/
def isKhmerSubscript (c : Char) : Bool :=
  let n := c.toNat
  (0x1780 ≤ n && n ≤ 0x1782) || (0x1784 ≤ n && n ≤ 0x1787) || (0x1789 ≤ n && n ≤ 0x178C) ||
    (0x178E ≤ n && n ≤ 0x1793) || (0x1795 ≤ n && n ≤ 0x1798) || (0x179B ≤ n && n ≤ 0x179D) ||
    n == 0x17A0 || n == 0x17A2 || n == 0x17A7 || (0x17AB ≤ n && n ≤ 0x17AC) || n == 0x17AF

def isTagLetter (c : Char) : Bool :=
  0xE0061 ≤ c.toNat && c.toNat ≤ 0xE007A

def isTagDigit (c : Char) : Bool :=
  0xE0030 ≤ c.toNat && c.toNat ≤ 0xE0039

/-- How a text begins that begins with this character. -/
def openingOf (c : Char) : Opening :=
  if c = '\ua4fc' ∨ c = '\ua4fd' then .lisuTone
  else if c = '\u05dc' then .hebrewLamed
  else if isArabicAlef c then .arabicAlef
  else if isKhmerSubscript c then .khmerLetter
  else if c = '\u1a10' then .bugineseYa
  else if isTifinaghLetter c then .tifinaghLetter
  else if c.toNat = 0x10C03 then .turkicI
  else if c.toNat = 0x16D67 then .kiratVowelE
  else if c.toNat = 0x16D68 then .kiratVowelAi
  else if isRegionalIndicator c then .flag
  else if isSkinTone c then .skinTone
  else if isEmojiDefault c then .emoji
  else .plain

/-- The character and its columns where it makes one sign with the text after it. -/
def ligature (a : Ahead) (c : Char) : Option (Int × Ahead) :=
  let n := c.toNat
  match a.opening with
  | .arabicAlef =>
    if isArabicLam c then some (0, .plain)
    else if isJoiningTransparent c then some (0, { opening := .arabicAlef })
    else none
  | .hebrewLamed => if a.joined ∧ n = 0x5D0 then some (0, .plain) else none
  | .khmerLetter => if n = 0x17D2 then some (-1, .plain) else none
  | .bugineseYa => if a.joined ∧ n = 0x1A17 then some (0, { opening := .bugineseIYa }) else none
  | .bugineseIYa => if n = 0x1A15 then some (0, .plain) else none
  | .tifinaghLetter =>
    if n = 0x2D7F then some (1, { opening := .tifinaghJoined })
    else if a.joined ∧ isTifinaghLetter c then some (0, .plain)
    else none
  | .tifinaghJoined => if isTifinaghLetter c then some (-1, .plain) else none
  | .lisuTone => if 0xA4F8 ≤ n ∧ n ≤ 0xA4FB then some (0, .plain) else none
  | .turkicI => if a.joined ∧ n = 0x10C32 then some (0, .plain) else none
  | .skinTone =>
    if Property.modifierBase.holds c then some (0, { opening := .emoji })
    else if n = 0x200D then some (0, { opening := .joinedEmoji })
    else none
  | .flag => if isRegionalIndicator c then some (1, { opening := .flags }) else none
  | .flags =>
    if isRegionalIndicator c then some (1, { opening := .flags })
    else if n = 0x200D then some (0, { opening := .joinedEmoji })
    else none
  | .emoji => if n = 0x200D then some (0, { opening := .joinedEmoji }) else none
  | .joinedEmoji =>
    if n = 0x20E3 then some (0, { opening := .joinedKeycap })
    else if isRegionalIndicator c then some (1, { opening := .joinedFlag })
    else if isSkinTone c then some (0, { opening := .skinTone })
    else if n = 0xE007F then some (0, { opening := .tagLetters 0 })
    else if isEmojiDefault c then some (0, { opening := .emoji })
    else none
  | .joinedFlag => if isRegionalIndicator c then some (-1, { opening := .joinedEvenFlags }) else none
  | .joinedOddFlags =>
    if n = 0x200D then some (0, { opening := .joinedEmoji })
    else if isRegionalIndicator c then some (-1, { opening := .joinedEvenFlags })
    else none
  | .joinedEvenFlags =>
    if n = 0x200D then some (0, { opening := .joinedEmoji })
    else if isRegionalIndicator c then some (3, { opening := .joinedOddFlags })
    else none
  | .tagLetters k =>
    if isTagLetter c ∧ k < 6 then some (0, { opening := .tagLetters (k + 1) })
    else if isTagDigit c ∧ k ≤ 4 then some (0, { opening := .tagDigits 1 })
    else if n = 0x1F3F4 ∧ 3 ≤ k then some (0, { opening := .emoji })
    else none
  | .tagDigits k =>
    if isTagDigit c ∧ k < 3 then some (0, { opening := .tagDigits (k + 1) })
    else if n = 0x1F3F4 ∧ k = 3 then some (0, { opening := .emoji })
    else none
  | .kiratVowelE =>
    if n = 0x16D63 ∨ n = 0x16D69 then some (0, .plain)
    else if n = 0x16D67 then some (0, { opening := .kiratVowelAi })
    else if n = 0x16D68 then some (1, { opening := .kiratVowelE })
    else none
  | .kiratVowelAi => if n = 0x16D63 then some (0, .plain) else none
  | .plain | .lineFeed | .joinedKeycap => none

/-- A character beyond the controls and ASCII, before text that no emoji selector opens. -/
def wideColumnsBefore (a : Ahead) (c : Char) : Int × Ahead :=
  if c = '\ufe0f' then (0, a.select .emoji)
  else if c = '\ufe0e' then (0, a.select .text)
  else if a.style = some .text ∧ Property.emojiVariant.holds c ∧ isEmojiDefault c ∧
      ¬(0x1F200 ≤ c.toNat ∧ c.toNat ≤ 0x1F2FF) then (1, .plain)
  else
    let a := if a.style = some .text then a.deselect else a
    if a.opening.isLigature ∧ a.opening ≠ .arabicAlef ∧ isLigatureTransparent c then
      (0, if c = '\u200d' then { a with joined := true } else a)
    else (ligature a c).getD (charColumns c, { opening := openingOf c })

/-- The columns a character adds before the text `a`, and the text it opens. -/
def columnsBefore (a : Ahead) (c : Char) : Int × Ahead :=
  if a.style = some .emoji ∧ Property.emojiVariant.holds c then
    (if a.isJoinedStyle then 0 else 2, { opening := .emoji })
  else
    let a := if a.style = some .emoji then a.deselect else a
    if c.toNat ≤ 0xA0 then
      if c = '\n' then (1, { opening := .lineFeed })
      else if c = '\r' ∧ a.opening = .lineFeed then (0, .plain)
      else (1, .plain)
    else wideColumnsBefore a c

/-- The columns of a text and how it begins. -/
def columnsAhead : List Char → Int × Ahead
  | [] => (0, .plain)
  | c :: cs =>
    let (sum, a) := columnsAhead cs
    let (own, b) := columnsBefore a c
    (sum + own, b)

/-- The columns of a text read as one piece. -/
def columns (cs : List Char) : Nat :=
  (columnsAhead cs).1.toNat

end TextPane.Text
