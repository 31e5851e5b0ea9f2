import RecordLocks.Pattern.CharSet
import RecordLocks.Text.Alphanumeric
namespace RecordLocks.Pattern

structure Item where
  depth : Nat
  repeatable : Bool
  deriving DecidableEq, Repr

/-- A group that is being read: the mode around it, the depths of its finished branches, and the
items of the last branch, the latest first. -/
structure Group where
  around : Mode
  branches : List Nat
  items : List Item
  deriving DecidableEq, Repr

namespace Group

def start (around : Mode) : Group := ⟨around, [], []⟩

def branch (group : Group) : Nat := joined (group.items.map (·.depth))

def depth (group : Group) : Nat := joined (group.branch :: group.branches)

def nextBranch (group : Group) : Group :=
  { group with branches := group.branch :: group.branches, items := [] }

def push (group : Group) (item : Item) : Group := { group with items := item :: group.items }

def repeatLast? (group : Group) : Option Group :=
  match group.items with
  | ⟨depth, true⟩ :: items => some { group with items := ⟨depth + 1, true⟩ :: items }
  | _ => none

end Group

structure Reader where
  mode : Mode
  names : List (List Char)
  group : Group
  outer : List Group
  deriving DecidableEq, Repr

namespace Reader

def start : Reader := ⟨.standard, [], .start .standard, []⟩

def push (reader : Reader) (item : Item) : Reader :=
  { reader with group := reader.group.push item }

def openGroup (reader : Reader) (mode : Mode) : Reader :=
  { reader with
    mode := mode
    group := .start reader.mode
    outer := reader.group :: reader.outer }

/-- A mode that is set within a group ends with it. -/
def closeGroup? (reader : Reader) : Option Reader :=
  match reader.outer with
  | [] => none
  | group :: outer =>
    some { reader with
      mode := reader.group.around
      group := group.push ⟨reader.group.depth + 1, true⟩
      outer := outer }

def isNameStart (c : Char) : Bool := c = '_' || Text.isAlphabetic c

def isNamePart (c : Char) : Bool := ['_', '.', '[', ']'].contains c || Text.isAlphanumeric c

def isName : List Char → Bool
  | [] => false
  | c :: rest => isNameStart c && rest.all isNamePart

def openNamed (reader : Reader) (cs : List Char) : Option (Reader × List Char) :=
  let name := cs.takeWhile (· ≠ '>')
  match cs.dropWhile (· ≠ '>') with
  | [] => none
  | _ :: rest =>
    if isName name ∧ name ∉ reader.names then
      some ({ reader.openGroup reader.mode with names := name :: reader.names }, rest)
    else none

def flags : List Char := ['-', 'i', 'm', 's', 'U', 'u', 'R', 'x']

/-- Each flag is named once, and something follows a hyphen. -/
def areFlags (text : List Char) : Bool :=
  decide text.Nodup && text.all flags.contains && text.getLast? ≠ some '-'

def setFlag (flag : Char) (text : List Char) (before : Bool) : Bool :=
  if (text.takeWhile (· ≠ '-')).contains flag then true
  else if text.contains flag then false
  else before

def withFlags (mode : Mode) (text : List Char) : Mode :=
  ⟨setFlag 'x' text mode.spaced, setFlag 'u' text mode.unicode, setFlag 'i' text mode.caseless⟩

/-- Flags of their own set the mode of what follows, and flags before a colon that of a group. -/
def openFlagged (reader : Reader) (cs : List Char) : Option (Reader × List Char) :=
  let text := cs.takeWhile fun c => c ≠ ':' && c ≠ ')'
  let mode := withFlags reader.mode text
  if areFlags text then
    match cs.dropWhile fun c => c ≠ ':' && c ≠ ')' with
    | ':' :: rest => some (reader.openGroup mode, rest)
    | ')' :: rest =>
      if text.isEmpty then none
      else some ({ reader.push ⟨0, false⟩ with mode := mode }, rest)
    | _ => none
  else none

/-- What follows an opening bracket. There is no look at what stands around a match. -/
def readOpening (reader : Reader) (cs : List Char) : Option (Reader × List Char) :=
  match reader.mode.skip cs with
  | '?' :: 'P' :: '<' :: rest | '?' :: '<' :: rest => reader.openNamed rest
  | '?' :: rest => reader.openFlagged rest
  | rest => some (reader.openGroup reader.mode, rest)

def skipLazy : List Char → List Char
  | '?' :: rest => rest
  | cs => cs

def readRepetition (reader : Reader) (cs : List Char) : Option (Reader × List Char) := do
  return ({ reader with group := ← reader.group.repeatLast? }, skipLazy cs)

def readSet (reader : Reader) (cs : List Char) : Option (Reader × List Char) := do
  let (depth, rest) ← CharSet.read reader.mode cs
  return (reader.push ⟨depth, true⟩, rest)

def readOne (reader : Reader) (cs : List Char) : Option (Reader × List Char) := do
  let (atom, rest) ← readAtom reader.mode cs
  if atom.isAllowed reader.mode then return (reader.push ⟨0, true⟩, rest) else none

/-- Reads one part of a pattern. A repetition never has its counts in braces, since a field ends at
its first closing brace. -/
def readPart (reader : Reader) : List Char → Option (Reader × List Char)
  | [] => none
  | '(' :: rest => reader.readOpening rest
  | ')' :: rest => do return (← reader.closeGroup?, rest)
  | '|' :: rest => some ({ reader with group := reader.group.nextBranch }, rest)
  | '[' :: rest => reader.readSet rest
  | '?' :: rest | '*' :: rest | '+' :: rest => reader.readRepetition rest
  | '{' :: _ => none
  | cs => reader.readOne cs

def readFrom : Nat → Reader → List Char → Option Nat
  | 0, _, _ => none
  | fuel + 1, reader, cs =>
    match reader.mode.skip cs with
    | [] => if reader.outer.isEmpty then some reader.group.depth else none
    | rest => do
      let (reader, rest) ← reader.readPart rest
      readFrom fuel reader rest

end Reader

def depthLimit : Nat := 250

def isPattern (text : List Char) : Bool :=
  (Reader.start.readFrom (text.length + 1) text).any (· ≤ depthLimit)

end RecordLocks.Pattern
