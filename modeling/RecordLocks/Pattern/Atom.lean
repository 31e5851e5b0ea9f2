import RecordLocks.Hexadecimal
import RecordLocks.Text.Blank
namespace RecordLocks.Pattern

/-- How a part of a pattern is read: whether blanks and comments are skipped, whether characters
are matched rather than bytes, and whether their case counts. -/
structure Mode where
  spaced : Bool
  unicode : Bool
  caseless : Bool
  deriving DecidableEq, Repr

def Mode.standard : Mode := ⟨false, true, false⟩

/-- What follows blanks and comments, the first of which may have begun. A comment ends with its
line. -/
def skipGaps : Bool → List Char → List Char
  | _, [] => []
  | true, c :: rest => skipGaps (c ≠ '\n') rest
  | false, c :: rest =>
    if c = '#' then skipGaps true rest
    else if Text.isBlank c then skipGaps false rest
    else c :: rest

def Mode.skip (mode : Mode) (cs : List Char) : List Char :=
  if mode.spaced then skipGaps false cs else cs

/-- What a character or an escape stands for: one character, which two hexadecimal digits may have
given as a byte; the digits, blanks or word characters, or all others; any character; the start or
end of the text or of a line; or where a word starts or ends. -/
inductive Atom where
  | literal (c : Char) (byte : Bool)
  | family (negated : Bool)
  | any
  | anchor
  | boundary
  deriving DecidableEq, Repr

/-- No case pairs and no classes of characters beyond ASCII are known, and word boundaries cannot
be found among them. A single byte matches as far as it is a character. -/
def Atom.isAllowed (mode : Mode) : Atom → Bool
  | literal c byte => if mode.unicode then !mode.caseless else !(byte && 0x7F < c.toNat)
  | family negated => !mode.unicode && !negated
  | any => mode.unicode
  | anchor => true
  | boundary => !mode.unicode

def Atom.isMember (mode : Mode) : Atom → Bool
  | literal c _ => if mode.unicode then !mode.caseless else c.toNat ≤ 0x7F
  | family negated => !mode.unicode && !negated
  | any | anchor | boundary => false

def readCode (mode : Mode) : Nat → Nat → List Char → Option (Nat × List Char)
  | 0, code, cs => some (code, cs)
  | digits + 1, code, cs =>
    match mode.skip cs with
    | [] => none
    | c :: rest => do readCode mode digits (code * 16 + (← Hexadecimal.digitValue? c)) rest

def readCoded (mode : Mode) (digits : Nat) (byte : Bool) (cs : List Char) :
    Option (Atom × List Char) := do
  let (code, rest) ← readCode mode digits 0 cs
  if code.isValidChar then return (.literal (Char.ofNat code) byte, rest) else none

def control? : Char → Option Char
  | 'a' => some '\x07'
  | 'f' => some '\x0c'
  | 'n' => some '\n'
  | 'r' => some '\r'
  | 't' => some '\t'
  | 'v' => some '\x0b'
  | _ => none

def escaped? (c : Char) : Option Atom :=
  if ['d', 's', 'w'].contains c then some (.family false)
  else if ['D', 'S', 'W'].contains c then some (.family true)
  else if ['A', 'z'].contains c then some .anchor
  else if ['b', 'B', '<', '>'].contains c then some .boundary
  else if c.toNat < 0x80 ∧ !c.isAlphanum then some (.literal c false)
  else (control? c).map fun c => .literal c false

/-- What stands after a backslash. A field ends at its first closing brace, so that a code never
stands in braces. -/
def readEscaped (mode : Mode) : List Char → Option (Atom × List Char)
  | [] => none
  | 'x' :: rest => readCoded mode 2 true rest
  | 'u' :: rest => readCoded mode 4 false rest
  | 'U' :: rest => readCoded mode 8 false rest
  | c :: rest => (escaped? c).map fun atom => (atom, rest)

def plain : Char → Atom
  | '.' => .any
  | '^' | '$' => .anchor
  | c => .literal c false

def readAtom (mode : Mode) : List Char → Option (Atom × List Char)
  | [] => none
  | '\\' :: rest => readEscaped mode rest
  | c :: rest => some (plain c, rest)

/-- In a set of characters only a backslash has a meaning of its own. -/
def readMember (mode : Mode) : List Char → Option (Atom × List Char)
  | [] => none
  | '\\' :: rest => readEscaped mode rest
  | c :: rest => some (.literal c false, rest)

end RecordLocks.Pattern
