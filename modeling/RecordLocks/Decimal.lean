namespace RecordLocks.Decimal

def digit (n : Nat) : Char := Char.ofNat ('0'.toNat + n)

def digitValue? (c : Char) : Option Nat :=
  if '0'.toNat ≤ c.toNat ∧ c.toNat ≤ '9'.toNat then some (c.toNat - '0'.toNat) else none

def isDigit (c : Char) : Bool := (digitValue? c).isSome

def charsFrom : Nat → Nat → List Char → List Char
  | 0, _, written => written
  | fuel + 1, n, written =>
    if n < 10 then digit n :: written
    else charsFrom fuel (n / 10) (digit (n % 10) :: written)

/-- A number's digits, the highest first and without leading zeros. -/
def chars (n : Nat) : List Char := charsFrom (n + 1) n []

def text (n : Nat) : String := String.ofList (chars n)

def valueFrom (high : Nat) (digits : List Char) : Nat :=
  digits.foldl (fun n c => n * 10 + (digitValue? c).getD 0) high

def value (digits : List Char) : Nat := valueFrom 0 digits

def padded (width n : Nat) : List Char :=
  List.replicate (width - (chars n).length) '0' ++ chars n

inductive Fault where
  | empty
  | invalidDigit
  | overflow
  deriving DecidableEq, Repr

def Fault.message : Fault → String
  | .empty => "cannot parse integer from empty string"
  | .invalidDigit => "invalid digit found in string"
  | .overflow => "number too large to fit in target type"

/-- The fault reported is the first one from the left. -/
def readDigits (bound : Nat) : Nat → List Char → Except Fault Nat
  | n, [] => .ok n
  | n, c :: rest =>
    match digitValue? c with
    | none => .error .invalidDigit
    | some d => if n * 10 + d < bound then readDigits bound (n * 10 + d) rest else .error .overflow

/-- Digits with an optional plus sign, denoting a number below `bound`. -/
def read (bound : Nat) : List Char → Except Fault Nat
  | [] => .error .empty
  | ['+'] => .error .invalidDigit
  | '+' :: digits => readDigits bound 0 digits
  | digits => readDigits bound 0 digits

def readWord (text : String) : Except Fault UInt64 :=
  (read UInt64.size text.toList).map UInt64.ofNat

theorem charsFrom_append (fuel n : Nat) (written : List Char) :
    charsFrom fuel n written = charsFrom fuel n [] ++ written := by
  induction fuel generalizing n written with
  | zero => simp [charsFrom]
  | succ fuel ih =>
    simp only [charsFrom]
    split
    · simp
    · rw [ih, ih _ [_], List.append_assoc]
      rfl

theorem charsFrom_fuel (fuel more n : Nat) (enough : n < fuel) (atLeast : fuel ≤ more) :
    charsFrom more n [] = charsFrom fuel n [] := by
  induction fuel generalizing more n with
  | zero => omega
  | succ fuel ih =>
    obtain ⟨more, rfl⟩ : ∃ m, more = m + 1 := ⟨more - 1, by omega⟩
    simp only [charsFrom]
    split
    · rfl
    · rw [charsFrom_append, charsFrom_append fuel, ih more (n / 10) (by omega) (by omega)]

theorem chars_of_lt {n : Nat} (small : n < 10) : chars n = [digit n] := by
  simp [chars, charsFrom, small]

theorem chars_of_ge {n : Nat} (large : 10 ≤ n) :
    chars n = chars (n / 10) ++ [digit (n % 10)] := by
  rw [chars, charsFrom, if_neg (by omega), charsFrom_append, chars,
    charsFrom_fuel (n / 10 + 1) n (n / 10) (by omega) (by omega)]

end RecordLocks.Decimal
