import RecordLocks.Json.Value
namespace RecordLocks.Json

/-- A number as it is written. The exponent is a sign and its digits. -/
structure Literal where
  negative : Bool
  whole : List Char
  fraction : List Char
  exponent : Option (Bool × List Char)
  deriving DecidableEq, Repr

/-- A document as it is written. Text in which an escaped surrogate stands alone has no value. -/
inductive Document where
  | null
  | bool (value : Bool)
  | number (literal : Literal)
  | text (value : Option String)
  | array (items : List Document)
  | object (members : List (Option String × Document))
  deriving Repr, Inhabited

def isBlank (c : Char) : Bool := c = ' ' || c = '\t' || c = '\n' || c = '\r'

def skipBlanks (cs : List Char) : List Char := cs.dropWhile isBlank

/-- A character of quoted text, or the code unit that an escape names by number. -/
inductive Piece where
  | plain (c : Char)
  | unit (code : Nat)
  deriving DecidableEq, Repr

def escape? : Char → Option Char
  | '"' => some '"'
  | '\\' => some '\\'
  | '/' => some '/'
  | 'b' => some '\x08'
  | 'f' => some '\x0c'
  | 'n' => some '\n'
  | 'r' => some '\r'
  | 't' => some '\t'
  | _ => none

/-- The pieces up to the closing quote. -/
def readPieces : List Char → Option (List Piece × List Char)
  | [] => none
  | '"' :: rest => some ([], rest)
  | '\\' :: 'u' :: a :: b :: c :: d :: rest => do
    let code ← Hexadecimal.value? [a, b, c, d]
    let (pieces, rest) ← readPieces rest
    return (.unit code :: pieces, rest)
  | '\\' :: c :: rest => do
    let plain ← escape? c
    let (pieces, rest) ← readPieces rest
    return (.plain plain :: pieces, rest)
  | c :: rest =>
    if c.toNat < 32 ∨ c = '\\' then none
    else do
      let (pieces, rest) ← readPieces rest
      return (.plain c :: pieces, rest)

def isHighSurrogate (code : Nat) : Bool := 0xD800 ≤ code && code < 0xDC00

def isLowSurrogate (code : Nat) : Bool := 0xDC00 ≤ code && code < 0xE000

def assemble : List Piece → Option (List Char)
  | [] => some []
  | .plain c :: rest => (assemble rest).map (c :: ·)
  | .unit high :: .unit low :: rest =>
    if isHighSurrogate high then
      if isLowSurrogate low then
        (assemble rest).map
          (Char.ofNat (0x10000 + (high - 0xD800) * 0x400 + (low - 0xDC00)) :: ·)
      else none
    else if isLowSurrogate high then none
    else (assemble (.unit low :: rest)).map (Char.ofNat high :: ·)
  | .unit code :: rest =>
    if isHighSurrogate code || isLowSurrogate code then none
    else (assemble rest).map (Char.ofNat code :: ·)

def readQuoted (cs : List Char) : Option (Option String × List Char) :=
  (readPieces cs).map fun (pieces, rest) => ((assemble pieces).map String.ofList, rest)

def digitsOf (cs : List Char) : List Char × List Char :=
  (cs.takeWhile Decimal.isDigit, cs.dropWhile Decimal.isDigit)

def readSign : List Char → Bool × List Char
  | '-' :: rest => (true, rest)
  | cs => (false, cs)

def readFraction : List Char → Option (List Char × List Char)
  | '.' :: rest =>
    let (digits, rest) := digitsOf rest
    if digits.isEmpty then none else some (digits, rest)
  | cs => some ([], cs)

def readPower (cs : List Char) : Option (Option (Bool × List Char) × List Char) :=
  let (negative, cs) :=
    match cs with
    | '+' :: rest => (false, rest)
    | '-' :: rest => (true, rest)
    | _ => (false, cs)
  let (digits, rest) := digitsOf cs
  if digits.isEmpty then none else some (some (negative, digits), rest)

def readExponent : List Char → Option (Option (Bool × List Char) × List Char)
  | 'e' :: rest => readPower rest
  | 'E' :: rest => readPower rest
  | cs => some (none, cs)

def readLiteral (cs : List Char) : Option (Literal × List Char) := do
  let (negative, cs) := readSign cs
  let (whole, cs) := digitsOf cs
  if whole.isEmpty || (whole.head? == some '0' && whole.length > 1) then none
  else
    let (fraction, cs) ← readFraction cs
    let (exponent, cs) ← readExponent cs
    return (⟨negative, whole, fraction, exponent⟩, cs)

mutual

def readValue : Nat → List Char → Option (Document × List Char)
  | 0, _ => none
  | fuel + 1, cs =>
    match skipBlanks cs with
    | 'n' :: 'u' :: 'l' :: 'l' :: rest => some (.null, rest)
    | 't' :: 'r' :: 'u' :: 'e' :: rest => some (.bool true, rest)
    | 'f' :: 'a' :: 'l' :: 's' :: 'e' :: rest => some (.bool false, rest)
    | '"' :: rest => (readQuoted rest).map fun (value, rest) => (.text value, rest)
    | '[' :: rest =>
      match skipBlanks rest with
      | ']' :: rest => some (.array [], rest)
      | rest => do
        let (item, rest) ← readValue fuel rest
        let (items, rest) ← readItems fuel rest
        return (.array (item :: items), rest)
    | '{' :: rest =>
      match skipBlanks rest with
      | '}' :: rest => some (.object [], rest)
      | rest => do
        let (member, rest) ← readMember fuel rest
        let (members, rest) ← readMembers fuel rest
        return (.object (member :: members), rest)
    | rest => (readLiteral rest).map fun (literal, rest) => (.number literal, rest)

def readItems : Nat → List Char → Option (List Document × List Char)
  | 0, _ => none
  | fuel + 1, cs =>
    match skipBlanks cs with
    | ']' :: rest => some ([], rest)
    | ',' :: rest => do
      let (item, rest) ← readValue fuel rest
      let (items, rest) ← readItems fuel rest
      return (item :: items, rest)
    | _ => none

def readMember : Nat → List Char → Option ((Option String × Document) × List Char)
  | 0, _ => none
  | fuel + 1, cs =>
    match skipBlanks cs with
    | '"' :: rest => do
      let (key, rest) ← readQuoted rest
      match skipBlanks rest with
      | ':' :: rest =>
        let (value, rest) ← readValue fuel rest
        return ((key, value), rest)
      | _ => none
    | _ => none

def readMembers : Nat → List Char → Option (List (Option String × Document) × List Char)
  | 0, _ => none
  | fuel + 1, cs =>
    match skipBlanks cs with
    | '}' :: rest => some ([], rest)
    | ',' :: rest => do
      let (member, rest) ← readMember fuel rest
      let (members, rest) ← readMembers fuel rest
      return (member :: members, rest)
    | _ => none

end

def Document.read (text : String) : Option Document := do
  let cs := text.toList
  let (document, rest) ← readValue (2 * cs.length + 2) cs
  if (skipBlanks rest).isEmpty then some document else none

/-- The number that digits add to `high` while it stays below `2 ^ 64`, and the digits left. -/
def absorb (high : Nat) : List Char → Nat × List Char
  | [] => (high, [])
  | c :: rest =>
    let next := high * 10 + (Decimal.digitValue? c).getD 0
    if next < UInt64.size then absorb next rest else (high, c :: rest)

def Literal.power (literal : Literal) : Int :=
  match literal.exponent with
  | none => 0
  | some (true, digits) => -(Decimal.value digits : Int)
  | some (false, digits) => Decimal.value digits

/-- Digits that no longer fit into 64 bits move the point but do not count otherwise. -/
def Literal.real? (literal : Literal) : Option Binary64 := do
  let (whole, spare) := absorb 0 literal.whole
  let (significand, rest) := absorb whole literal.fraction
  let used := literal.fraction.length - rest.length
  let size ← (← Binary64.ofNat significand).scale (spare.length - used + literal.power)
  return if literal.negative then size.neg else size

/-- Whole numbers from `-2 ^ 63` up to `2 ^ 64 - 1` stay exact, except for minus zero. -/
def Literal.value? (literal : Literal) : Option Json :=
  let size := Decimal.value literal.whole
  let exact :=
    if literal.negative then decide (size ≠ 0 ∧ size ≤ UInt64.size / 2)
    else decide (size < UInt64.size)
  if literal.fraction.isEmpty && literal.exponent.isNone && exact then
    some (.integer (if literal.negative then -(size : Int) else size))
  else literal.real?.map .real

mutual

/-- The value of a document in which arrays and objects nest at most `depth` deep. -/
def Document.value? : Nat → Document → Option Json
  | _, .null => some .null
  | _, .bool value => some (.bool value)
  | _, .number literal => literal.value?
  | _, .text value => value.map .text
  | 0, .array _ => none
  | depth + 1, .array items => (itemsValue? depth items).map .array
  | 0, .object _ => none
  | depth + 1, .object members => (membersValue? depth members []).map .object

def itemsValue? : Nat → List Document → Option (List Json)
  | _, [] => some []
  | depth, item :: items => do
    let value ← item.value? depth
    return value :: (← itemsValue? depth items)

def membersValue? : Nat → List (Option String × Document) → List (String × Json) →
    Option (List (String × Json))
  | _, [], placed => some placed
  | depth, (key, item) :: members, placed => do
    let value ← item.value? depth
    membersValue? depth members (placeMember (← key) value placed)

end

/-- How deep arrays and objects may nest. -/
def depthLimit : Nat := 127

def read (text : String) : Option Json := do (← Document.read text).value? depthLimit

end RecordLocks.Json
