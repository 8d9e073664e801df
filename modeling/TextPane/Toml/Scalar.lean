import TextPane.Toml.Value

/-! Values that are written without quotes: truth values, numbers, dates and times. -/
namespace TextPane.Toml

/-! ### Digits -/

/-- The value of a digit in a base up to 16. -/
def digit? (base : Nat) (c : Char) : Option Nat :=
  let value :=
    if '0' ≤ c ∧ c ≤ '9' then some (c.toNat - '0'.toNat)
    else if 'a' ≤ c ∧ c ≤ 'f' then some (c.toNat - 'a'.toNat + 10)
    else if 'A' ≤ c ∧ c ≤ 'F' then some (c.toNat - 'A'.toNat + 10)
    else none
  value.filter (· < base)

/-- Reads digits from the last one read on. An underscore may stand between two of them. -/
def moreDigits (base value count : Nat) : List Char → Option (Nat × Nat)
  | [] => some (value, count)
  | '_' :: c :: rest => do moreDigits base (value * base + (← digit? base c)) (count + 1) rest
  | c :: rest => do moreDigits base (value * base + (← digit? base c)) (count + 1) rest

/-- The value of a run of digits, and how many there are. There is at least one. -/
def digits? (base : Nat) : List Char → Option (Nat × Nat)
  | [] => none
  | c :: rest => do moreDigits base (← digit? base c) 1 rest

/-- The value of a run of decimal digits that does not begin with a needless zero. -/
def whole? : List Char → Option Nat
  | ['0'] => some 0
  | '0' :: _ => none
  | cs => (digits? 10 cs).map (·.1)

/-! ### Numbers -/

/-- Takes a sign off; the first part says whether it was a minus. -/
def unsigned : List Char → Bool × List Char
  | '-' :: cs => (true, cs)
  | '+' :: cs => (false, cs)
  | cs => (false, cs)

def integer? (cs : List Char) : Option Int :=
  match cs with
  | '0' :: 'x' :: ds => (digits? 16 ds).map fun d => (d.1 : Int)
  | '0' :: 'o' :: ds => (digits? 8 ds).map fun d => (d.1 : Int)
  | '0' :: 'b' :: ds => (digits? 2 ds).map fun d => (d.1 : Int)
  | _ =>
    let (negative, ds) := unsigned cs
    (whole? ds).map fun n => if negative then -(n : Int) else n

/-- Splits behind the first character of a kind, which is dropped. -/
def splitAt? (p : Char → Bool) (cs : List Char) : List Char × Option (List Char) :=
  match cs.dropWhile (!p ·) with
  | [] => (cs, none)
  | _ :: rest => (cs.takeWhile (!p ·), some rest)

/-- The exponent behind its mark; without a mark it is zero. -/
def exponent? : Option (List Char) → Option Int
  | none => some 0
  | some cs =>
    let (negative, ds) := unsigned cs
    (digits? 10 ds).map fun d => if negative then -(d.1 : Int) else d.1

def real? (cs : List Char) : Option Real :=
  let (_, body) := unsigned cs
  if body = "inf".toList then some .infinite
  else if body = "nan".toList then some .nan
  else do
    let (mantissa, power) := splitAt? (fun c => c == 'e' || c == 'E') body
    let (front, back) := splitAt? (· == '.') mantissa
    if power.isNone ∧ back.isNone then failure
    let high ← whole? front
    let exponent ← exponent? power
    match back with
    | none => return .decimal high exponent
    | some back =>
      let (low, count) ← digits? 10 back
      return .decimal (high * 10 ^ count + low) (exponent - count)

/-! ### Dates and times -/

/-- The value of exactly so many digits at the front, and what is behind them. -/
def fixedDigits? (count : Nat) (cs : List Char) : Option (Nat × List Char) := do
  let front := cs.take count
  if front.length ≠ count ∨ !front.all Char.isDigit then failure
  return ((← digits? 10 front).1, cs.drop count)

/-- Takes one character off the front. -/
def skip? (c : Char) : List Char → Option (List Char)
  | [] => none
  | d :: rest => if c = d then some rest else none

def isLeapYear (year : Nat) : Bool := year % 4 == 0 && (year % 100 != 0 || year % 400 == 0)

def daysInMonth (year month : Nat) : Nat :=
  match month with
  | 2 => if isLeapYear year then 29 else 28
  | 4 | 6 | 9 | 11 => 30
  | _ => 31

/-- Reads a date off the front. -/
def date? (cs : List Char) : Option (List Char) := do
  let (year, cs) ← fixedDigits? 4 cs
  let (month, cs) ← fixedDigits? 2 (← skip? '-' cs)
  let (day, cs) ← fixedDigits? 2 (← skip? '-' cs)
  if 1 ≤ month ∧ month ≤ 12 ∧ 1 ≤ day ∧ day ≤ daysInMonth year month then return cs
  failure

/-- Reads hours and minutes off the front. -/
def hourMinute? (cs : List Char) : Option (List Char) := do
  let (hour, cs) ← fixedDigits? 2 cs
  let (minute, cs) ← fixedDigits? 2 (← skip? ':' cs)
  if hour ≤ 23 ∧ minute ≤ 59 then return cs
  failure

/-- Reads a fraction of a second off the front, if there is a point. -/
def fraction? : List Char → Option (List Char)
  | '.' :: cs => if (cs.takeWhile Char.isDigit).isEmpty then none else some (cs.dropWhile Char.isDigit)
  | cs => some cs

/-- Reads a time off the front. Seconds may be left out; there may be a leap second. -/
def time? (cs : List Char) : Option (List Char) := do
  match ← hourMinute? cs with
  | ':' :: cs =>
    let (second, cs) ← fixedDigits? 2 cs
    if second ≤ 60 then fraction? cs else failure
  | cs => return cs

/-- Reads an offset off the front, if there is one. -/
def offset? : List Char → Option (List Char)
  | 'Z' :: cs => some cs
  | 'z' :: cs => some cs
  | '+' :: cs => hourMinute? cs
  | '-' :: cs => hourMinute? cs
  | cs => some cs

/-- Whether the text is a date, a time, or a date with a time behind it. Only the last may have an
offset. -/
def isMoment (cs : List Char) : Bool :=
  match date? cs with
  | some [] => true
  | some (c :: rest) =>
    (c == 'T' || c == 't' || c == ' ') && ((time? rest).bind offset?).any (·.isEmpty)
  | none => (time? cs).any (·.isEmpty)

/-! ### Scalars -/

/-- The value that is written without quotes. -/
def scalar? (cs : List Char) : Option Value :=
  if cs = "true".toList then some (.boolean true)
  else if cs = "false".toList then some (.boolean false)
  else if isMoment cs then some .moment
  else match integer? cs with
    | some n => some (.integer n)
    | none => (real? cs).map .real

end TextPane.Toml
