import RecordLocks.Pattern.Atom
namespace RecordLocks.Pattern

/-- How deep a sequence nests whose parts nest as deep as listed. A single part is no sequence. -/
def joined : List Nat → Nat
  | [] => 0
  | [depth] => depth
  | depth :: more => more.foldl max depth + 1

/-- A set of characters in brackets that is being read: how deep the operand before the last
operator nests, how deep each member after it does, and whether only hyphens have been read. -/
structure CharSet where
  operand : Option Nat
  members : List Nat
  atStart : Bool
  deriving DecidableEq, Repr

namespace CharSet

def start : CharSet := ⟨none, [], true⟩

def addMember (set : CharSet) (depth : Nat) : CharSet :=
  { set with members := depth :: set.members, atStart := false }

def depth (set : CharSet) : Nat :=
  match set.operand with
  | none => joined set.members
  | some operand => max operand (joined set.members) + 1

def addOperator (set : CharSet) : CharSet := ⟨some set.depth, [], false⟩

/-- What comes next after a hyphen, as far as it tells whether the hyphen makes a range. A mark that
begins a comment does not count. -/
def peek? (mode : Mode) (cs : List Char) : Option Char :=
  if mode.spaced then
    match Text.trimStart cs with
    | '#' :: rest => (Text.trimStart rest).head?
    | rest => rest.head?
  else cs.head?

def startsRange (mode : Mode) (cs : List Char) : Bool :=
  peek? mode cs ≠ some ']' && peek? mode cs ≠ some '-'

def orderedFrom : Atom → Atom → Bool
  | .literal first _, .literal last _ => first ≤ last
  | _, _ => false

def readAllowed (mode : Mode) (cs : List Char) : Option (Atom × List Char) := do
  let (atom, rest) ← readMember mode (mode.skip cs)
  if atom.isMember mode then return (atom, rest) else none

def skipRange (mode : Mode) (cs : List Char) : Option (List Char) := do
  let (first, rest) ← readAllowed mode cs
  match mode.skip rest with
  | '-' :: cs =>
    if startsRange mode cs then
      let (last, rest) ← readAllowed mode cs
      if orderedFrom first last then return rest else none
    else return '-' :: cs
  | rest => return rest

def names : List String :=
  ["alnum", "alpha", "ascii", "blank", "cntrl", "digit", "graph", "lower", "print", "punct",
    "space", "upper", "word", "xdigit"]

def readNamed : List Char → Option (Bool × List Char)
  | ':' :: cs =>
    let (negated, cs) :=
      match cs with
      | '^' :: cs => (true, cs)
      | _ => (false, cs)
    match cs.dropWhile (· ≠ ':') with
    | ':' :: ']' :: rest =>
      if names.contains (String.ofList (cs.takeWhile (· ≠ ':'))) then some (negated, rest)
      else none
    | _ => none
  | _ => none

/-- What follows the start of a set. Sets of bytes have no complement among the characters. -/
def skipNegation (mode : Mode) (cs : List Char) : Option (List Char) :=
  match mode.skip cs with
  | '^' :: rest => if mode.unicode then some rest else none
  | rest => some rest

def isNamedAllowed (mode : Mode) (negated : Bool) : Bool :=
  if mode.unicode then !mode.caseless else !negated

/-- Reads on in a set that stands within others, up to the end of the outermost one, and returns
how deep that nests. -/
def readWithin (mode : Mode) : Nat → CharSet → List CharSet → List Char →
    Option (Nat × List Char)
  | 0, _, _, _ => none
  | fuel + 1, set, outer, cs =>
    match mode.skip cs with
    | [] => none
    | '[' :: rest =>
      match readNamed rest with
      | some (negated, rest) =>
        if isNamedAllowed mode negated then readWithin mode fuel (set.addMember 0) outer rest
        else none
      | none => do
        let rest ← skipNegation mode rest
        readWithin mode fuel start ({ set with atStart := false } :: outer) rest
    | ']' :: rest =>
      if set.atStart ∧ set.members.isEmpty then
        if Atom.isMember mode (.literal ']' false) then
          readWithin mode fuel (set.addMember 0) outer rest
        else none
      else
        match outer with
        | [] => some (set.depth + 1, rest)
        | around :: outer => readWithin mode fuel (around.addMember (set.depth + 1)) outer rest
    | '&' :: '&' :: rest => readWithin mode fuel set.addOperator outer rest
    | '~' :: '~' :: rest => readWithin mode fuel set.addOperator outer rest
    | '-' :: rest =>
      if set.atStart then
        if Atom.isMember mode (.literal '-' false) then
          readWithin mode fuel { set.addMember 0 with atStart := true } outer rest
        else none
      else if rest.head? = some '-' then readWithin mode fuel set.addOperator outer (rest.drop 1)
      else do readWithin mode fuel (set.addMember 0) outer (← skipRange mode ('-' :: rest))
    | rest => do readWithin mode fuel (set.addMember 0) outer (← skipRange mode rest)

def read (mode : Mode) (cs : List Char) : Option (Nat × List Char) := do
  let rest ← skipNegation mode cs
  readWithin mode (rest.length + 1) start [] rest

end CharSet

end RecordLocks.Pattern
