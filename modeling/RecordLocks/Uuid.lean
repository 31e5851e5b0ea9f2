import RecordLocks.Hexadecimal
namespace RecordLocks

/-- A universally unique identifier, as its thirty-two hexadecimal digits. -/
structure Uuid where
  digits : List (Fin 16)
  length_digits : digits.length = 32
  deriving DecidableEq

namespace Uuid

def ofDigits? (digits : List (Fin 16)) : Option Uuid :=
  if length : digits.length = 32 then some ⟨digits, length⟩ else none

def zero : Uuid := ⟨List.replicate 32 0, by decide⟩

instance : Inhabited Uuid := ⟨zero⟩

def ofHex? (cs : List Char) : Option Uuid := do
  ofDigits? (← cs.mapM fun c => (Hexadecimal.digitValue? c).map (Fin.ofNat 16))

def withoutHyphens (cs : List Char) : Option (List Char) :=
  if cs.length = 36 ∧ cs[8]? = some '-' ∧ cs[13]? = some '-' ∧ cs[18]? = some '-' ∧
      cs[23]? = some '-' then
    some (cs.take 8 ++ (cs.drop 9).take 4 ++ (cs.drop 14).take 4 ++ (cs.drop 19).take 4 ++
      cs.drop 24)
  else none

def ofHyphenated? (cs : List Char) : Option Uuid := do ofHex? (← withoutHyphens cs)

def scheme : List Char := "urn:uuid:".toList

/-- Plain digits, or hyphenated ones, which may stand in braces or after a scheme in any case. -/
def read (text : String) : Option Uuid :=
  let cs := text.toList
  if cs.length = 32 then ofHex? cs
  else if cs.length = 36 then ofHyphenated? cs
  else if cs.length = 38 then
    if cs.head? = some '{' ∧ cs.getLast? = some '}' then ofHyphenated? (cs.drop 1).dropLast
    else none
  else if cs.length = 45 ∧ (cs.take 9).map Char.toLower = scheme then ofHyphenated? (cs.drop 9)
  else none

def chars (uuid : Uuid) : List Char :=
  let hex := uuid.digits.map fun d => Hexadecimal.digit d.val
  hex.take 8 ++ '-' :: (hex.drop 8).take 4 ++ '-' :: (hex.drop 12).take 4 ++
    '-' :: (hex.drop 16).take 4 ++ '-' :: hex.drop 20

def text (uuid : Uuid) : String := String.ofList uuid.chars

end Uuid

end RecordLocks
