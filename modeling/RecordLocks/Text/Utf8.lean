namespace RecordLocks.Text.Utf8

def replacement : Char := '\uFFFD'

/-- A character that has begun: the bits read so far, how many bytes are still to come, and
between which bounds the next one lies. -/
structure Begun where
  bits : Nat
  missing : Nat
  low : Nat
  high : Nat
  deriving DecidableEq, Repr

/-- What a first byte begins. Overlong forms, surrogates and numbers beyond the last character
are ruled out by the bounds. -/
def begin? (byte : Nat) : Option Begun :=
  if byte < 0x80 then some ⟨byte, 0, 0, 0⟩
  else if byte < 0xC2 then none
  else if byte < 0xE0 then some ⟨byte - 0xC0, 1, 0x80, 0xBF⟩
  else if byte = 0xE0 then some ⟨0, 2, 0xA0, 0xBF⟩
  else if byte = 0xED then some ⟨0xD, 2, 0x80, 0x9F⟩
  else if byte < 0xF0 then some ⟨byte - 0xE0, 2, 0x80, 0xBF⟩
  else if byte = 0xF0 then some ⟨0, 3, 0x90, 0xBF⟩
  else if byte < 0xF4 then some ⟨byte - 0xF0, 3, 0x80, 0xBF⟩
  else if byte = 0xF4 then some ⟨4, 3, 0x80, 0x8F⟩
  else none

def first (byte : Nat) : List Char × Option Begun :=
  match begin? byte with
  | none => ([replacement], none)
  | some begun =>
    if begun.missing = 0 then ([Char.ofNat begun.bits], none) else ([], some begun)

def next (begun : Begun) (byte : Nat) : List Char × Option Begun :=
  if begun.low ≤ byte ∧ byte ≤ begun.high then
    let bits := begun.bits * 64 + (byte - 0x80)
    if begun.missing = 1 then ([Char.ofNat bits], none)
    else ([], some ⟨bits, begun.missing - 1, 0x80, 0xBF⟩)
  else
    let (chars, after) := first byte
    (replacement :: chars, after)

def displayFrom : Option Begun → List UInt8 → List Char
  | none, [] => []
  | some _, [] => [replacement]
  | begun, byte :: rest =>
    let (chars, after) :=
      match begun with
      | none => first byte.toNat
      | some begun => next begun byte.toNat
    chars ++ displayFrom after rest

def display (bytes : List UInt8) : String := String.ofList (displayFrom none bytes)

end RecordLocks.Text.Utf8
