import RecordLocks.Hexadecimal
namespace RecordLocks.Toml

def isSpace (c : Char) : Bool := c = ' ' || c = '\t'

/-- A character that no string may hold as it is. Line ends are not counted here. -/
def isControl (c : Char) : Bool := (c.toNat < 32 && c ≠ '\t' && c ≠ '\n') || c.toNat = 127

def isPlain (c : Char) : Bool := !isControl c && c ≠ '\n'

def escape? : Char → Option Char
  | 'b' => some '\x08'
  | 't' => some '\t'
  | 'n' => some '\n'
  | 'f' => some '\x0c'
  | 'r' => some '\r'
  | '"' => some '"'
  | '\\' => some '\\'
  | _ => none

def scalar? (digits : List Char) : Option Char := do
  let code ← Hexadecimal.value? digits
  if code < 0xD800 ∨ (0xE000 ≤ code ∧ code < 0x110000) then some (Char.ofNat code) else none

def prepend (c : Char) : List Char × List Char → List Char × List Char
  | (text, rest) => (c :: text, rest)

def readBasic : List Char → Option (List Char × List Char)
  | [] => none
  | '"' :: rest => some ([], rest)
  | '\\' :: 'u' :: a :: b :: c :: d :: rest => do
    return prepend (← scalar? [a, b, c, d]) (← readBasic rest)
  | '\\' :: 'U' :: a :: b :: c :: d :: e :: f :: g :: h :: rest => do
    return prepend (← scalar? [a, b, c, d, e, f, g, h]) (← readBasic rest)
  | '\\' :: c :: rest => do return prepend (← escape? c) (← readBasic rest)
  | c :: rest => if isPlain c && c ≠ '\\' then (readBasic rest).map (prepend c) else none

def readLiteral : List Char → Option (List Char × List Char)
  | [] => none
  | '\'' :: rest => some ([], rest)
  | c :: rest => if isPlain c then (readLiteral rest).map (prepend c) else none

/-- Where a reader of lines stands: in the text, or after a backslash that joins lines, before
or after the first line end. -/
inductive Place where
  | text
  | lineTail
  | nextLine
  deriving DecidableEq, Repr

/-- A string in triple quotes after the opening ones. Up to two quotes may stand before the
closing ones. -/
def readLong : Place → List Char → Option (List Char × List Char)
  | _, [] => none
  | .lineTail, '\r' :: '\n' :: rest | .nextLine, '\r' :: '\n' :: rest => readLong .nextLine rest
  | .lineTail, c :: rest =>
    if c = '\n' then readLong .nextLine rest
    else if isSpace c then readLong .lineTail rest
    else none
  | _, '"' :: '"' :: '"' :: '"' :: '"' :: rest => some (['"', '"'], rest)
  | _, '"' :: '"' :: '"' :: '"' :: rest => some (['"'], rest)
  | _, '"' :: '"' :: '"' :: rest => some ([], rest)
  | _, '\\' :: 'u' :: a :: b :: c :: d :: rest => do
    return prepend (← scalar? [a, b, c, d]) (← readLong .text rest)
  | _, '\\' :: 'U' :: a :: b :: c :: d :: e :: f :: g :: h :: rest => do
    return prepend (← scalar? [a, b, c, d, e, f, g, h]) (← readLong .text rest)
  | _, '\\' :: '\r' :: '\n' :: rest => readLong .nextLine rest
  | _, '\\' :: c :: rest =>
    if c = '\n' then readLong .nextLine rest
    else if isSpace c then readLong .lineTail rest
    else do return prepend (← escape? c) (← readLong .text rest)
  | .text, '\r' :: '\n' :: rest => (readLong .text rest).map (prepend '\n')
  | place, c :: rest =>
    if place = .nextLine ∧ (isSpace c ∨ c = '\n') then readLong .nextLine rest
    else if !isControl c && c ≠ '\\' then (readLong .text rest).map (prepend c)
    else none

def readLongLiteral : List Char → Option (List Char × List Char)
  | [] => none
  | '\'' :: '\'' :: '\'' :: '\'' :: '\'' :: rest => some (['\'', '\''], rest)
  | '\'' :: '\'' :: '\'' :: '\'' :: rest => some (['\''], rest)
  | '\'' :: '\'' :: '\'' :: rest => some ([], rest)
  | '\r' :: '\n' :: rest => (readLongLiteral rest).map (prepend '\n')
  | c :: rest => if !isControl c then (readLongLiteral rest).map (prepend c) else none

/-- A line end right after the opening of a long string does not count. -/
def skipLineEnd : List Char → List Char
  | '\n' :: rest => rest
  | '\r' :: '\n' :: rest => rest
  | cs => cs

def readString : List Char → Option (List Char × List Char)
  | '"' :: '"' :: '"' :: rest => readLong .text (skipLineEnd rest)
  | '"' :: rest => readBasic rest
  | '\'' :: '\'' :: '\'' :: rest => readLongLiteral (skipLineEnd rest)
  | '\'' :: rest => readLiteral rest
  | _ => none

inductive Form where
  | basic
  | literal
  | longBasic
  | longLiteral
  deriving DecidableEq, Repr

def hasRunOfThree (c : Char) : List Char → Bool
  | a :: b :: d :: rest => (a = c && b = c && d = c) || hasRunOfThree c (b :: d :: rest)
  | _ => false

/-- The first form in which nothing but tabs has to be escaped; without one, quotes. -/
def Form.choose (text : List Char) : Form :=
  let control := text.any isControl
  let backslash := text.contains '\\'
  let newline := text.contains '\n'
  if !control && !backslash && !text.contains '"' && !newline then .basic
  else if !control && !text.contains '\'' && !newline then .literal
  else if !control && !backslash && !hasRunOfThree '"' text then .longBasic
  else if !control && !hasRunOfThree '\'' text then .longLiteral
  else if newline then .longBasic
  else .basic

def escaped (c : Char) : List Char :=
  if c = '\x08' then ['\\', 'b']
  else if c = '\t' then ['\\', 't']
  else if c = '\x0c' then ['\\', 'f']
  else if c = '\r' then ['\\', 'r']
  else if c = '\\' then ['\\', '\\']
  else if isControl c then
    ['\\', 'u', '0', '0', Hexadecimal.upperDigit (c.toNat / 16),
      Hexadecimal.upperDigit (c.toNat % 16)]
  else [c]

def basicChar (c : Char) : List Char :=
  if c = '"' then ['\\', '"'] else if c = '\n' then ['\\', 'n'] else escaped c

/-- Every third quote in a row is escaped. -/
def longBody : Nat → List Char → List Char
  | _, [] => []
  | quotes, c :: rest =>
    if c = '"' then
      if quotes = 2 then '\\' :: '"' :: longBody 0 rest else '"' :: longBody (quotes + 1) rest
    else escaped c ++ longBody 0 rest

def openingLine (text : List Char) : List Char := if text.contains '\n' then ['\n'] else []

def Form.write (text : List Char) : Form → List Char
  | .basic => '"' :: (text.flatMap basicChar ++ ['"'])
  | .literal => '\'' :: (text ++ ['\''])
  | .longBasic => ['"', '"', '"'] ++ openingLine text ++ longBody 0 text ++ ['"', '"', '"']
  | .longLiteral => ['\'', '\'', '\''] ++ openingLine text ++ text ++ ['\'', '\'', '\'']

def writeString (text : List Char) : List Char := (Form.choose text).write text

end RecordLocks.Toml
