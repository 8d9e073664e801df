import TextPane.Text.Property.Uppercase

/-! Letter case.

Names of colours, modes and sizes are compared without regard to ASCII case. Uppercasing knows every
letter. -/
namespace TextPane.Text

/-- ASCII letters in lower case, all else as it is. -/
def lowerAscii (s : String) : String := String.ofList (s.toList.map Char.toLower)

/-- The uppercase of a character, which may have several characters. -/
def upperChar (c : Char) : List Char :=
  let n := c.toNat
  if n < 0x80 then [c.toUpper]
  else match findEntry Property.uppercaseSequence n with
    | some us => us.map Char.ofNat
    | none =>
      match bisect Property.uppercaseRun (fun r => sideOfRange n r.1 r.2.1) 0
          Property.uppercaseRun.size with
      | some (first, _, step, offset) =>
        if (n - first) % step = 0 then [Char.ofNat (n + offset).toNat] else [c]
      | none => [c]

/-- The text in upper case. -/
def upper (s : String) : String := String.ofList (s.toList.flatMap upperChar)

end TextPane.Text
