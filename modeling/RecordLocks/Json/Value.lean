import RecordLocks.Binary64
import RecordLocks.Hexadecimal
import RecordLocks.Ids
namespace RecordLocks

inductive Json where
  | null
  | bool (value : Bool)
  | integer (value : Int)
  | real (value : Binary64)
  | text (value : String)
  | array (items : List Json)
  | object (members : List (String × Json))
  deriving Repr, Inhabited

namespace Json

def word (n : UInt64) : Json := integer n.toNat

def ofOption (encode : α → Json) : Option α → Json
  | none => null
  | some value => encode value

/-- Quotes, backslashes and control characters below the space are escaped, nothing else. -/
def escaped (c : Char) : List Char :=
  if c = '"' then ['\\', '"']
  else if c = '\\' then ['\\', '\\']
  else if c = '\x08' then ['\\', 'b']
  else if c = '\t' then ['\\', 't']
  else if c = '\n' then ['\\', 'n']
  else if c = '\x0c' then ['\\', 'f']
  else if c = '\r' then ['\\', 'r']
  else if c.toNat < 32 then
    ['\\', 'u', '0', '0', Hexadecimal.digit (c.toNat / 16),
      Hexadecimal.digit (c.toNat % 16)]
  else [c]

def quoted (text : String) : List Char := '"' :: (text.toList.flatMap escaped ++ ['"'])

def integerChars (n : Int) : List Char :=
  if n < 0 then '-' :: Decimal.chars n.natAbs else Decimal.chars n.natAbs

mutual

def chars : Json → List Char
  | null => ['n', 'u', 'l', 'l']
  | bool true => ['t', 'r', 'u', 'e']
  | bool false => ['f', 'a', 'l', 's', 'e']
  | integer value => integerChars value
  | real value => value.chars
  | text value => quoted value
  | array [] => ['[', ']']
  | array (item :: items) => '[' :: (item.chars ++ itemsChars items)
  | object [] => ['{', '}']
  | object ((key, value) :: members) =>
    '{' :: (quoted key ++ ':' :: (value.chars ++ membersChars members))

def itemsChars : List Json → List Char
  | [] => [']']
  | item :: items => ',' :: (item.chars ++ itemsChars items)

def membersChars : List (String × Json) → List Char
  | [] => ['}']
  | (key, value) :: members =>
    ',' :: (quoted key ++ ':' :: (value.chars ++ membersChars members))

end

/-- The compact form, without blanks. -/
def render (value : Json) : String := String.ofList value.chars

/-- An object with a line for each member. -/
def renderLines (members : List (String × Json)) : String :=
  let line := fun (member : String × Json) =>
    String.ofList (' ' :: ' ' :: quoted member.1 ++ ':' :: ' ' :: member.2.chars)
  "\x7b\n" ++ String.intercalate ",\n" (members.map line) ++ "\n\x7d"

/-- Members are kept in ascending order of their keys; a later one replaces an earlier one. -/
def placeMember (key : String) (value : Json) : List (String × Json) → List (String × Json)
  | [] => [(key, value)]
  | (k, old) :: rest =>
    if key < k then (key, value) :: (k, old) :: rest
    else if key = k then (key, value) :: rest
    else (k, old) :: placeMember key value rest

end Json

end RecordLocks
