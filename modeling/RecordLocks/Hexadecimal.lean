import RecordLocks.Decimal
namespace RecordLocks.Hexadecimal

def digit (n : Nat) : Char :=
  if n < 10 then Decimal.digit n else Char.ofNat ('a'.toNat + n - 10)

def upperDigit (n : Nat) : Char :=
  if n < 10 then Decimal.digit n else Char.ofNat ('A'.toNat + n - 10)

def digitValue? (c : Char) : Option Nat :=
  if c.isDigit then some (c.toNat - '0'.toNat)
  else if 'a' ≤ c ∧ c ≤ 'f' then some (c.toNat - 'a'.toNat + 10)
  else if 'A' ≤ c ∧ c ≤ 'F' then some (c.toNat - 'A'.toNat + 10)
  else none

/-- The value of digits, all of which have to be hexadecimal. -/
def value? (digits : List Char) : Option Nat :=
  digits.foldlM (fun n c => (digitValue? c).map (n * 16 + ·)) 0

end RecordLocks.Hexadecimal
