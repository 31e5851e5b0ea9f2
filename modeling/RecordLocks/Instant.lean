import RecordLocks.Decimal
import RecordLocks.Text.Blank
namespace RecordLocks

def isLeapYear (year : Int) : Bool := year % 4 = 0 && (year % 100 ≠ 0 || year % 400 = 0)

def daysInMonth (year : Int) (month : Nat) : Nat :=
  if month = 2 then if isLeapYear year then 29 else 28
  else if month = 4 ∨ month = 6 ∨ month = 9 ∨ month = 11 then 30
  else 31

def firstYear : Int := -262143

def lastYear : Int := 262142

def IsDate (year : Int) (month day : Nat) : Prop :=
  firstYear ≤ year ∧ year ≤ lastYear ∧ 1 ≤ month ∧ month ≤ 12 ∧
    1 ≤ day ∧ day ≤ daysInMonth year month

instance (year : Int) (month day : Nat) : Decidable (IsDate year month day) :=
  inferInstanceAs (Decidable (_ ∧ _))

structure Date where
  year : Int
  month : Nat
  day : Nat
  isDate : IsDate year month day
  deriving DecidableEq

namespace Date

def ofParts? (year : Int) (month day : Nat) : Option Date :=
  if valid : IsDate year month day then some ⟨year, month, day, valid⟩ else none

def next? (date : Date) : Option Date :=
  if date.day < daysInMonth date.year date.month then
    ofParts? date.year date.month (date.day + 1)
  else if date.month < 12 then ofParts? date.year (date.month + 1) 1
  else ofParts? (date.year + 1) 1 1

def previous? (date : Date) : Option Date :=
  if 1 < date.day then ofParts? date.year date.month (date.day - 1)
  else if 1 < date.month then
    ofParts? date.year (date.month - 1) (daysInMonth date.year (date.month - 1))
  else ofParts? (date.year - 1) 12 31

def shift? (date : Date) (days : Int) : Option Date :=
  if days = 1 then date.next? else if days = -1 then date.previous? else some date

end Date

def daySeconds : Nat := 86400

def secondNanos : Nat := 1000000000

/-- A leap second lengthens the last second of a minute to two. No text gives one in the middle of a
minute, nor would such a one be read back from its text: these are left out. -/
def IsTime (second nano : Nat) : Prop :=
  second < daySeconds ∧ (nano < secondNanos ∨ (second % 60 = 59 ∧ nano < 2 * secondNanos))

instance (second nano : Nat) : Decidable (IsTime second nano) :=
  inferInstanceAs (Decidable (_ ∧ _))

/-- A moment in coordinated universal time. -/
structure Instant where
  date : Date
  second : Nat
  nano : Nat
  isTime : IsTime second nano
  deriving DecidableEq

namespace Instant

def ofParts? (date : Date) (second nano : Nat) : Option Instant :=
  if valid : IsTime second nano then some ⟨date, second, nano, valid⟩ else none

def epoch : Instant := ⟨⟨1970, 1, 1, by decide⟩, 0, 0, by decide⟩

instance : Inhabited Instant := ⟨epoch⟩

/-- The moment at which clocks set `offset` seconds ahead show the given time. -/
def ofLocal? (date : Date) (second nano : Nat) (offset : Int) : Option Instant := do
  let shifted := (second : Int) - offset
  let date ← date.shift? (shifted / daySeconds)
  ofParts? date (shifted % daySeconds).toNat nano

def isDigit : Char → Bool := Decimal.isDigit

def readNumber (width : Nat) (cs : List Char) : Option (Nat × List Char) :=
  let digits := (cs.take width).takeWhile isDigit
  if digits.isEmpty then none else some (Decimal.value digits, cs.drop digits.length)

def readPart (cs : List Char) : Option (Nat × List Char) := readNumber 2 (Text.trimStart cs)

/-- Four digits, or a sign and any number of them. -/
def readYear (cs : List Char) : Option (Int × List Char) :=
  match Text.trimStart cs with
  | '-' :: rest => (readNumber rest.length rest).map fun (n, rest) => (-(n : Int), rest)
  | '+' :: rest => (readNumber rest.length rest).map fun (n, rest) => ((n : Int), rest)
  | rest => (readNumber 4 rest).map fun (n, rest) => ((n : Int), rest)

def readMark (mark : Char) (cs : List Char) : Option (List Char) :=
  match Text.trimStart cs with
  | c :: rest => if c = mark then some rest else none
  | [] => none

def readSeparator : List Char → Option (List Char)
  | 'T' :: rest | 't' :: rest | ' ' :: rest => some rest
  | _ => none

/-- Nine digits count. -/
def readNanos : List Char → Option (Nat × List Char)
  | '.' :: cs => do
    let (n, rest) ← readNumber 9 cs
    return (n * Nat.pow 10 (9 - (cs.length - rest.length)), rest.dropWhile isDigit)
  | cs => some (0, cs)

def digitPair? : List Char → Option (Nat × List Char)
  | a :: b :: rest => do
    return ((← Decimal.digitValue? a) * 10 + (← Decimal.digitValue? b), rest)
  | _ => none

def isOffsetGap (c : Char) : Bool := c = ':' || Text.isBlank c

/-- Hours and minutes after a sign; a colon and blanks may stand between them. -/
def readShift (cs : List Char) : Option (Nat × List Char) := do
  let (hours, cs) ← digitPair? cs
  let (minutes, cs) ← digitPair? (cs.dropWhile isOffsetGap)
  if minutes < 60 then return (hours * 3600 + minutes * 60, cs) else none

def lowerAscii (c : Char) : Char := c.toLower

def readOffset (cs : List Char) : Option (Int × List Char) :=
  if (cs.take 3).map lowerAscii = ['u', 't', 'c'] then some (0, cs.drop 3)
  else
    match cs with
    | 'Z' :: rest | 'z' :: rest => some (0, rest)
    | '+' :: rest => (readShift rest).map fun (n, rest) => ((n : Int), rest)
    | '-' :: rest | '−' :: rest => (readShift rest).map fun (n, rest) => (-(n : Int), rest)
    | _ => none

def readDate (cs : List Char) : Option (Date × List Char) := do
  let (year, cs) ← readYear cs
  let cs ← readMark '-' cs
  let (month, cs) ← readPart cs
  let cs ← readMark '-' cs
  let (day, cs) ← readPart cs
  return (← Date.ofParts? year month day, cs)

/-- The second of the day and its nanoseconds. The sixtieth second of a minute is a leap second. -/
def readTime (cs : List Char) : Option ((Nat × Nat) × List Char) := do
  let (hour, cs) ← readPart cs
  let cs ← readMark ':' cs
  let (minute, cs) ← readPart cs
  let cs ← readMark ':' cs
  let (second, cs) ← readPart cs
  let (nano, cs) ← readNanos cs
  let clock := (hour * 60 + minute) * 60
  if 23 < hour ∨ 59 < minute ∨ 60 < second then none
  else if second = 60 then return ((clock + 59, secondNanos + nano), cs)
  else return ((clock + second, nano), cs)

def read (text : String) : Option Instant := do
  let (date, cs) ← readDate text.toList
  let cs ← readSeparator cs
  let ((second, nano), cs) ← readTime cs
  let (offset, cs) ← readOffset (Text.trimStart cs)
  if offset.natAbs < daySeconds ∧ (Text.trimStart cs).isEmpty then
    ofLocal? date second nano offset
  else none

def yearChars (year : Int) : List Char :=
  if 0 ≤ year ∧ year ≤ 9999 then Decimal.padded 4 year.natAbs
  else (if year < 0 then '-' else '+') :: Decimal.padded 4 year.natAbs

/-- No fraction, or three, six or nine digits of it, as few as are exact. -/
def fractionChars (nano : Nat) : List Char :=
  if nano = 0 then []
  else if nano % 1000000 = 0 then '.' :: Decimal.padded 3 (nano / 1000000)
  else if nano % 1000 = 0 then '.' :: Decimal.padded 6 (nano / 1000)
  else '.' :: Decimal.padded 9 nano

def chars (instant : Instant) : List Char :=
  let second := instant.second % 60 + instant.nano / secondNanos
  yearChars instant.date.year ++
    '-' :: Decimal.padded 2 instant.date.month ++
    '-' :: Decimal.padded 2 instant.date.day ++
    'T' :: Decimal.padded 2 (instant.second / 3600) ++
    ':' :: Decimal.padded 2 (instant.second / 60 % 60) ++
    ':' :: Decimal.padded 2 second ++
    fractionChars (instant.nano % secondNanos) ++ ['Z']

def text (instant : Instant) : String := String.ofList instant.chars

end Instant

end RecordLocks
