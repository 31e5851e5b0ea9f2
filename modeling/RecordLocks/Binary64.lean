import RecordLocks.Decimal
namespace RecordLocks

/-- A finite double-precision number: its sign, and `mantissa * 2 ^ exponent` as its size. -/
structure Binary64 where
  negative : Bool
  mantissa : Nat
  exponent : Int
  deriving DecidableEq, Repr

namespace Binary64

def precision : Nat := 53

def leastExponent : Int := -1074

def greatestExponent : Int := 971

def zero : Binary64 := ⟨false, 0, leastExponent⟩

def isZero (x : Binary64) : Bool := x.mantissa == 0

/-- A quotient to the nearest natural number, a half to the even one. -/
def roundedQuotient (numerator denominator : Nat) : Nat :=
  let quotient := numerator / denominator
  let twice := 2 * (numerator % denominator)
  if twice < denominator then quotient
  else if denominator < twice then quotient + 1
  else quotient + quotient % 2

def raise (base : Nat) (power : Int) : Nat := Nat.pow base power.toNat

def nearest (numerator denominator : Nat) (power : Int) : Option Binary64 :=
  if numerator = 0 then some zero
  else
    let top := numerator * raise 2 power
    let bottom := denominator * raise 2 (-power)
    let guess : Int := (Nat.log2 top : Int) - Nat.log2 bottom
    let order := if top * raise 2 (-guess) < bottom * raise 2 guess then guess - 1 else guess
    let exponent := max (order - (precision - 1 : Nat)) leastExponent
    let mantissa := roundedQuotient (top * raise 2 (-exponent)) (bottom * raise 2 exponent)
    let rounded : Binary64 :=
      if mantissa = Nat.pow 2 precision then ⟨false, mantissa / 2, exponent + 1⟩
      else ⟨false, mantissa, exponent⟩
    if greatestExponent < rounded.exponent then none else some rounded

def ofNat (n : Nat) : Option Binary64 := nearest n 1 0

def mul (x y : Binary64) : Option Binary64 :=
  nearest (x.mantissa * y.mantissa) 1 (x.exponent + y.exponent)

def div (x y : Binary64) : Option Binary64 :=
  nearest x.mantissa y.mantissa (x.exponent - y.exponent)

def neg (x : Binary64) : Binary64 := { x with negative := !x.negative }

def greatestPowerOfTen : Nat := 308

/-- Scaling by a power of ten takes one rounded product, or one rounded quotient for each
308 places that the point moves to the left. -/
def scaleDown (x : Binary64) (places : Nat) : Option Binary64 :=
  if greatestPowerOfTen < places then
    if x.isZero then some x
    else do
      let unit ← ofNat (Nat.pow 10 greatestPowerOfTen)
      scaleDown (← x.div unit) (places - greatestPowerOfTen)
  else do x.div (← ofNat (Nat.pow 10 places))
termination_by places
decreasing_by simp_all [greatestPowerOfTen]; omega

def scale (x : Binary64) (places : Int) : Option Binary64 :=
  if places < 0 then x.scaleDown places.natAbs
  else if places ≤ greatestPowerOfTen then do x.mul (← ofNat (Nat.pow 10 places.toNat))
  else if x.isZero then some x
  else none

/-- Whether `a * 10 ^ p ≤ b * 2 ^ q`. -/
def decimalLe (a : Nat) (p : Int) (b : Nat) (q : Int) : Bool :=
  a * raise 10 p * raise 2 (-q) ≤ b * raise 2 q * raise 10 (-p)

def binaryLe (b : Nat) (q : Int) (a : Nat) (p : Int) : Bool :=
  b * raise 2 q * raise 10 (-p) ≤ a * raise 10 p * raise 2 (-q)

/-- Whether `digits * 10 ^ power` is read back as `x`: whether it lies no further from `x` than
halfway to its neighbours, and for an odd mantissa strictly nearer. -/
def readsBack (x : Binary64) (digits : Nat) (power : Int) : Bool :=
  let below :=
    if x.mantissa = Nat.pow 2 (precision - 1) ∧ leastExponent < x.exponent then 1 else 2
  let low := 4 * x.mantissa - below
  let high := 4 * x.mantissa + 2
  let unit := x.exponent - 2
  if x.mantissa % 2 = 0 then
    binaryLe low unit digits power && decimalLe digits power high unit
  else
    !decimalLe digits power low unit && !binaryLe high unit digits power

def decimalOrder (x : Binary64) : Int :=
  let binary := x.exponent + Nat.log2 x.mantissa
  let guess := Int.fdiv (binary * 30103) 100000
  if decimalLe 1 (guess + 1) x.mantissa x.exponent then guess + 2
  else if decimalLe 1 guess x.mantissa x.exponent then guess + 1
  else guess

/-- Of the two decimals with `count` digits on either side of `x`, the one read back as `x`; the
nearer one if both are, and the even one if they are equally near. -/
def withDigits (x : Binary64) (count : Nat) : Option (Nat × Int) :=
  let power := x.decimalOrder - count
  let top := x.mantissa * raise 2 x.exponent * raise 10 (-power)
  let bottom := raise 10 power * raise 2 (-x.exponent)
  let low := top / bottom
  let chosen :=
    match x.readsBack low power, x.readsBack (low + 1) power with
    | true, true => some (roundedQuotient top bottom)
    | true, false => some low
    | false, true => some (low + 1)
    | false, false => none
  chosen.map fun digits =>
    if digits = Nat.pow 10 count then (digits / 10, power + 1) else (digits, power)

def shortest (x : Binary64) : Nat × Int :=
  ((List.range 17).findSome? fun count => x.withDigits (count + 1)).getD (0, 0)

def exponentText (power : Int) : List Char :=
  (if power < 0 then '-' else '+') :: Decimal.chars power.natAbs

/-- Sixteen places before the point and four zeros after it are written out; beyond that a power
of ten follows the digits. -/
def sizeText (x : Binary64) : List Char :=
  if x.isZero then ['0', '.', '0']
  else
    let (number, power) := x.shortest
    let digits := Decimal.chars number
    let point := digits.length + power
    if 0 ≤ power ∧ point ≤ 16 then digits ++ List.replicate power.toNat '0' ++ ['.', '0']
    else if 0 < point ∧ point ≤ 16 then
      digits.take point.toNat ++ '.' :: digits.drop point.toNat
    else if -5 < point ∧ point ≤ 0 then
      ['0', '.'] ++ List.replicate point.natAbs '0' ++ digits
    else
      match digits with
      | [only] => only :: 'e' :: exponentText (point - 1)
      | first :: rest => first :: '.' :: (rest ++ 'e' :: exponentText (point - 1))
      | [] => []

def chars (x : Binary64) : List Char := if x.negative then '-' :: x.sizeText else x.sizeText

end Binary64

end RecordLocks
