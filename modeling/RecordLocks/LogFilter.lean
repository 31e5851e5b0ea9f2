import RecordLocks.Decimal
import RecordLocks.Pattern.Reader
namespace RecordLocks.LogFilter

/-- Why a filter cannot be used: it is no list of directives, or a part of a directive begins or
ends within a character. -/
inductive Fault where
  | malformed
  | torn
  deriving DecidableEq, Repr

abbrev Check := Except Fault Unit

def require (condition : Bool) : Check := if condition then .ok () else .error .malformed

def pieces (mark : Char) : List Char → List (List Char)
  | [] => [[]]
  | c :: rest =>
    if c = mark then [] :: pieces mark rest
    else
      match pieces mark rest with
      | [] => [[c]]
      | piece :: more => (c :: piece) :: more

def levels : List String := ["error", "warn", "info", "debug", "trace", "off"]

/-- A level is named in any case or numbered up to five; an empty one is left to its standard. -/
def isLevel (text : List Char) : Bool :=
  text.isEmpty || levels.contains (String.ofList (text.map Char.toLower)) ||
    match Decimal.read UInt64.size text with
    | .ok n => n ≤ 5
    | .error _ => false

def withoutSign : List Char → List Char
  | '+' :: rest | '-' :: rest => rest
  | cs => cs

def areDigits (cs : List Char) : Bool := !cs.isEmpty && cs.all Decimal.isDigit

def isExponent : List Char → Bool
  | [] => true
  | 'e' :: rest | 'E' :: rest => areDigits (withoutSign rest)
  | _ => false

def isDecimal (cs : List Char) : Bool :=
  let whole := cs.takeWhile Decimal.isDigit
  match cs.dropWhile Decimal.isDigit with
  | '.' :: rest =>
    areDigits (whole ++ rest.takeWhile Decimal.isDigit) &&
      isExponent (rest.dropWhile Decimal.isDigit)
  | rest => areDigits whole && isExponent rest

def isNumber (text : List Char) : Bool :=
  let size := withoutSign text
  isDecimal size || ["inf", "infinity", "nan"].contains (String.ofList (size.map Char.toLower))

/-- A field may be asked to have a value, which is a number or matches a pattern. What follows a
second equals sign does not count. -/
def isField (text : List Char) : Bool :=
  match pieces '=' text with
  | _ :: value :: _ => isNumber value || Pattern.isPattern value
  | _ => true

def byteSize (cs : List Char) : Nat := cs.foldl (· + ·.utf8Size) 0

def splitBytes : Nat → List Char → Except Fault (List Char × List Char)
  | 0, cs => .ok ([], cs)
  | _, [] => .ok ([], [])
  | bytes, c :: rest =>
    if c.utf8Size ≤ bytes then do
      let (first, last) ← splitBytes (bytes - c.utf8Size) rest
      return (c :: first, last)
    else .error .torn

def suffix (written : List Char) (start : Nat) : Except Fault (List Char) :=
  (splitBytes start written).map (·.2)

def part (written : List Char) (start stop : Nat) : Except Fault (List Char) := do
  return (← splitBytes (stop - start) (← suffix written start)).1

def markAfter (start : Nat) (cs : List Char) : Nat := start + byteSize cs

/-- The places of the parts of a directive are found without the blanks around it, but the parts
are taken from the directive as it is written. After the name comes an optional level. -/
def checkLevel (written : List Char) (start : Nat) : List Char → Check
  | [] => .ok ()
  | '=' :: _ => do require (isLevel (← suffix written (start + 1)))
  | _ => .error .malformed

def checkFields (written : List Char) (start : Nat) (cs : List Char) : Check := do
  let fields := cs.takeWhile (· ≠ '}')
  let stop := markAfter start fields
  match cs.dropWhile (· ≠ '}') with
  | [] => .error .malformed
  | _ :: rest =>
    let text ← part written start stop
    require (!text.isEmpty && isField text)
    match rest with
    | ']' :: rest => checkLevel written (stop + 2) rest
    | _ => .error .malformed

def checkSpan (written : List Char) (start : Nat) (cs : List Char) : Check := do
  let name := cs.takeWhile fun c => c ≠ ']' && c ≠ '{'
  let stop := markAfter start name
  match cs.dropWhile fun c => c ≠ ']' && c ≠ '{' with
  | [] => .error .malformed
  | mark :: rest =>
    let _ ← part written start stop
    if mark = ']' then checkLevel written (stop + 1) rest
    else checkFields written (stop + 1) rest

def startsTarget (c : Char) : Bool :=
  c = '-' || c = ':' || c = '_' || Text.isAlphanumeric c

def checkTarget (written : List Char) (cs : List Char) : Check := do
  let target := cs.takeWhile fun c => c ≠ '=' && c ≠ '['
  let stop := markAfter 0 target
  match cs.dropWhile fun c => c ≠ '=' && c ≠ '[' with
  | [] => .ok ()
  | mark :: rest =>
    let _ ← part written 0 stop
    if mark = '[' then checkSpan written (stop + 1) rest else checkLevel written stop (mark :: rest)

def checkDirective (written : List Char) : Check :=
  match Text.trim written with
  | [] => .error .malformed
  | '[' :: rest => checkSpan written 1 rest
  | c :: rest => if startsTarget c then checkTarget written (c :: rest) else .error .malformed

/-- A filter is a list of directives with commas between them. The first fault counts. -/
def check (text : String) : Check :=
  ((pieces ',' text.toList).filter fun piece => !piece.isEmpty).forM checkDirective

end RecordLocks.LogFilter
