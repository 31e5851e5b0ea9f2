import RecordLocks.Toml.Quoted
import RecordLocks.Toml.Scalar
namespace RecordLocks.Toml

abbrev Key := String

/-- A value in a statement. Nobody reads numbers with a fraction, dates or times, so they are
only told apart. -/
inductive Written where
  | text (value : String)
  | integer (value : Int)
  | real
  | boolean (value : Bool)
  | moment
  | array (items : List Written)
  | inlineTable (members : List (List Key × Written))
  deriving Repr

/-- A line of a document: the header of a table or of another row of an array of tables, or a
value for a key. -/
inductive Statement where
  | table (path : List Key)
  | row (path : List Key)
  | assign (path : List Key) (value : Written)
  deriving Repr

/-- How deep arrays and inline tables may nest, and how many parts a key may have. -/
def nestingLimit : Nat := 79

def skipSpace (cs : List Char) : List Char := cs.dropWhile isSpace

def isBare (c : Char) : Bool := c.isAlphanum || c = '-' || c = '_'

def readKeyPart : List Char → Option (Key × List Char)
  | '"' :: rest => (readBasic rest).map fun (text, rest) => (String.ofList text, rest)
  | '\'' :: rest => (readLiteral rest).map fun (text, rest) => (String.ofList text, rest)
  | cs =>
    let bare := cs.takeWhile isBare
    if bare.isEmpty then none else some (String.ofList bare, cs.dropWhile isBare)

def readKeyParts : Nat → List Char → Option (List Key × List Char)
  | 0, _ => none
  | fuel + 1, cs => do
    let (part, rest) ← readKeyPart (skipSpace cs)
    match skipSpace rest with
    | '.' :: rest =>
      let (parts, rest) ← readKeyParts fuel rest
      return (part :: parts, rest)
    | rest => return ([part], rest)

/-- Parts with points between them, and spaces around each. -/
def readKey (cs : List Char) : Option (List Key × List Char) := do
  let (parts, rest) ← readKeyParts (cs.length + 1) cs
  if parts.length ≤ nestingLimit then some (parts, rest) else none

def isCommentChar (c : Char) : Bool := isPlain c

def skipComment : List Char → List Char
  | '#' :: rest => rest.dropWhile isCommentChar
  | cs => cs

def skipLine (cs : List Char) : Option (List Char) :=
  match skipComment (skipSpace cs) with
  | [] => some []
  | '\n' :: rest => some rest
  | '\r' :: '\n' :: rest => some rest
  | _ => none

def skipGap : Nat → List Char → Option (List Char)
  | 0, _ => none
  | fuel + 1, cs =>
    match skipSpace cs with
    | '#' :: rest =>
      match rest.dropWhile isCommentChar with
      | [] => some []
      | '\n' :: rest => skipGap fuel rest
      | '\r' :: '\n' :: rest => skipGap fuel rest
      | _ => none
    | '\n' :: rest => skipGap fuel rest
    | '\r' :: '\n' :: rest => skipGap fuel rest
    | rest => some rest

def gap (cs : List Char) : Option (List Char) := skipGap (cs.length + 1) cs

def readScalar (cs : List Char) : Option (Written × List Char) :=
  match cs with
  | 't' :: 'r' :: 'u' :: 'e' :: rest => some (.boolean true, rest)
  | 'f' :: 'a' :: 'l' :: 's' :: 'e' :: rest => some (.boolean false, rest)
  | '"' :: _ | '\'' :: _ =>
    (readString cs).map fun (text, rest) => (.text (String.ofList text), rest)
  | _ =>
    match skipMoment cs with
    | some rest => some (.moment, rest)
    | none =>
      match skipReal cs with
      | some rest => some (.real, rest)
      | none => (readInteger cs).map fun (value, rest) => (.integer value, rest)

mutual

/-- Reads a value in which arrays and inline tables nest at most `depth` deep. -/
def readWritten : Nat → Nat → List Char → Option (Written × List Char)
  | 0, _, _ => none
  | fuel + 1, depth, cs =>
    match cs with
    | '[' :: rest =>
      if depth = 0 then none
      else do
        match ← gap rest with
        | ']' :: rest => return (.array [], rest)
        | rest =>
          let (items, rest) ← readItems fuel (depth - 1) rest
          return (.array items, rest)
    | '{' :: rest =>
      if depth = 0 then none
      else
        match skipSpace rest with
        | '}' :: rest => some (.inlineTable [], rest)
        | rest => do
          let (members, rest) ← readMembers fuel (depth - 1) rest
          return (.inlineTable members, rest)
    | _ => readScalar cs

/-- Items up to the closing bracket; a comma may follow the last one. -/
def readItems : Nat → Nat → List Char → Option (List Written × List Char)
  | 0, _, _ => none
  | fuel + 1, depth, cs => do
    let (item, rest) ← readWritten fuel depth cs
    match ← gap rest with
    | ']' :: rest => return ([item], rest)
    | ',' :: rest =>
      match ← gap rest with
      | ']' :: rest => return ([item], rest)
      | rest =>
        let (items, rest) ← readItems fuel depth rest
        return (item :: items, rest)
    | _ => none

/-- Members up to the closing brace, on one line. -/
def readMembers : Nat → Nat → List Char → Option (List (List Key × Written) × List Char)
  | 0, _, _ => none
  | fuel + 1, depth, cs => do
    let (key, rest) ← readKey cs
    let rest ← skipMark '=' rest
    let (value, rest) ← readWritten fuel depth (skipSpace rest)
    match skipSpace rest with
    | '}' :: rest => return ([(key, value)], rest)
    | ',' :: rest =>
      let (members, rest) ← readMembers fuel depth rest
      return ((key, value) :: members, rest)
    | _ => none

end

def readAssignment (cs : List Char) : Option (Statement × List Char) := do
  let (key, rest) ← readKey cs
  let rest ← skipMark '=' rest
  let (value, rest) ← readWritten (2 * rest.length + 1) nestingLimit (skipSpace rest)
  return (.assign key value, ← skipLine rest)

def readRow (cs : List Char) : Option (Statement × List Char) := do
  let (key, rest) ← readKey cs
  let rest ← skipMark ']' rest
  let rest ← skipMark ']' rest
  return (.row key, ← skipLine rest)

def readTable (cs : List Char) : Option (Statement × List Char) := do
  let (key, rest) ← readKey cs
  let rest ← skipMark ']' rest
  return (.table key, ← skipLine rest)

def readStatement : List Char → Option (Statement × List Char)
  | '[' :: '[' :: rest => readRow rest
  | '[' :: rest => readTable rest
  | cs => readAssignment cs

def readLines : Nat → List Char → Option (List Statement)
  | 0, _ => none
  | fuel + 1, cs => do
    match ← gap cs with
    | [] => return []
    | cs =>
      let (statement, rest) ← readStatement cs
      return statement :: (← readLines fuel rest)

def byteOrderMark : Char := '\uFEFF'

def readStatements (cs : List Char) : Option (List Statement) :=
  let cs := if cs.head? = some byteOrderMark then cs.drop 1 else cs
  readLines (cs.length + 1) cs

end RecordLocks.Toml
