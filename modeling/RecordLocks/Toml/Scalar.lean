import RecordLocks.Hexadecimal
import RecordLocks.Binary64
import RecordLocks.Instant
namespace RecordLocks

/-- Whether decimal digits with `places` of them behind the point, times `10 ^ power`, round to
more than the largest finite double. -/
def Binary64.overflows (digits : List Char) (places : Nat) (power : Int) : Bool :=
  let significant := digits.dropWhile (· = '0')
  let order := (significant.length : Int) - places + power
  if significant.isEmpty || order < 300 then false
  else if 310 < order then true
  else
    let shift := power - places
    let limit := Nat.pow 2 1024 - Nat.pow 2 970
    limit * raise 10 (-shift) ≤ Decimal.value significant * raise 10 shift

namespace Toml

def isDigit : Char → Bool := Decimal.isDigit

/-- Digits, between any two of which an underscore may stand, and what follows them. -/
def readDigits (isDigit : Char → Bool) : List Char → Option (List Char × List Char)
  | [] => none
  | '_' :: _ => none
  | c :: '_' :: rest =>
    if isDigit c then do
      let (digits, rest) ← readDigits isDigit rest
      return (c :: digits, rest)
    else none
  | c :: rest =>
    if isDigit c then
      match rest with
      | [] => some ([c], [])
      | next :: _ =>
        if isDigit next then do
          let (digits, rest) ← readDigits isDigit rest
          return (c :: digits, rest)
        else some ([c], rest)
    else none

def readSign : List Char → Bool × List Char
  | '+' :: rest => (false, rest)
  | '-' :: rest => (true, rest)
  | cs => (false, cs)

/-- A whole number without leading zeros. -/
def readWhole : List Char → Option (List Char × List Char)
  | '0' :: rest => some (['0'], rest)
  | cs => readDigits isDigit cs

def leastInteger : Int := -0x8000000000000000

def greatestInteger : Int := 0x7FFFFFFFFFFFFFFF

def inRange (n : Int) : Option Int :=
  if leastInteger ≤ n ∧ n ≤ greatestInteger then some n else none

def digitIn (base : Nat) (c : Char) : Bool := (Hexadecimal.digitValue? c).any (· < base)

def valueIn (base : Nat) (digits : List Char) : Nat :=
  digits.foldl (fun n c => n * base + (Hexadecimal.digitValue? c).getD 0) 0

def readBase (base : Nat) (cs : List Char) : Option (Int × List Char) := do
  let (digits, rest) ← readDigits (digitIn base) cs
  return (← inRange (valueIn base digits), rest)

/-- Integers are decimal, with an optional sign, or hexadecimal, octal or binary without one. -/
def readInteger (cs : List Char) : Option (Int × List Char) :=
  match cs with
  | '0' :: 'x' :: rest => readBase 16 rest
  | '0' :: 'o' :: rest => readBase 8 rest
  | '0' :: 'b' :: rest => readBase 2 rest
  | _ => do
    let (negative, cs) := readSign cs
    let (digits, rest) ← readWhole cs
    let size : Int := Decimal.value digits
    return (← inRange (if negative then -size else size), rest)

def readExponent : List Char → Option (Int × List Char)
  | 'e' :: cs | 'E' :: cs => do
    let (negative, cs) := readSign cs
    let (digits, rest) ← readDigits isDigit cs
    return (if negative then -(Decimal.value digits : Int) else Decimal.value digits, rest)
  | _ => none

def skipSpecial : List Char → Option (List Char)
  | 'i' :: 'n' :: 'f' :: rest => some rest
  | 'n' :: 'a' :: 'n' :: rest => some rest
  | _ => none

/-- What follows a number with a fraction or an exponent. A positive one that is too large is
refused. -/
def skipReal (cs : List Char) : Option (List Char) :=
  let (negative, cs) := readSign cs
  match skipSpecial cs with
  | some rest => some rest
  | none => do
    let (whole, cs) ← readWhole cs
    let (fraction, power, rest) ←
      match cs with
      | '.' :: cs => do
        let (fraction, cs) ← readDigits isDigit cs
        match readExponent cs with
        | some (power, rest) => some (fraction, power, rest)
        | none => some (fraction, 0, cs)
      | cs => do
        let (power, rest) ← readExponent cs
        some ([], power, rest)
    if !negative && Binary64.overflows (whole ++ fraction) fraction.length power then none
    else some rest

/-- Exactly `width` digits. -/
def readFixed (width : Nat) (cs : List Char) : Option (Nat × List Char) :=
  let digits := cs.take width
  if digits.length = width ∧ digits.all isDigit then some (Decimal.value digits, cs.drop width)
  else none

def skipMark (mark : Char) : List Char → Option (List Char)
  | c :: rest => if c = mark then some rest else none
  | [] => none

def skipDate (cs : List Char) : Option (List Char) := do
  let (year, cs) ← readFixed 4 cs
  let cs ← skipMark '-' cs
  let (month, cs) ← readFixed 2 cs
  let cs ← skipMark '-' cs
  let (day, cs) ← readFixed 2 cs
  if 1 ≤ month ∧ month ≤ 12 ∧ 1 ≤ day ∧ day ≤ daysInMonth year month then some cs else none

def skipFraction : List Char → List Char
  | '.' :: c :: rest => if isDigit c then rest.dropWhile isDigit else '.' :: c :: rest
  | cs => cs

def skipTime (cs : List Char) : Option (List Char) := do
  let (hour, cs) ← readFixed 2 cs
  let cs ← skipMark ':' cs
  let (minute, cs) ← readFixed 2 cs
  let cs ← skipMark ':' cs
  let (second, cs) ← readFixed 2 cs
  if hour ≤ 23 ∧ minute ≤ 59 ∧ second ≤ 60 then some (skipFraction cs) else none

def skipShift (cs : List Char) : Option (List Char) := do
  let (hour, cs) ← readFixed 2 cs
  let cs ← skipMark ':' cs
  let (minute, cs) ← readFixed 2 cs
  if hour ≤ 23 ∧ minute ≤ 59 then some cs else none

/-- An offset may be missing, but one that has begun is complete. -/
def skipOffset : List Char → Option (List Char)
  | 'Z' :: rest | 'z' :: rest => some rest
  | '+' :: rest | '-' :: rest => skipShift rest
  | cs => some cs

def skipClock : List Char → Option (List Char)
  | 'T' :: rest | 't' :: rest | ' ' :: rest => do skipOffset (← skipTime rest)
  | _ => none

/-- What follows a date, a time, or a date with a time. -/
def skipMoment (cs : List Char) : Option (List Char) :=
  match skipDate cs with
  | some rest => some ((skipClock rest).getD rest)
  | none => skipTime cs

end Toml

end RecordLocks
