/-!
Binary64 numbers as exact values.

A finite number is `± mantissa · 2 ^ exponent` over natural numbers, so reading a decimal, comparing
and printing are exact integer arithmetic and can be computed in a proof. A not-a-number carries an
identity, because it equals nothing, itself included, and still is the same value as itself.
-/

namespace RecordQuery

/-- A binary64 number. A finite one is in its storage form: the mantissa is below `2 ^ 53`, the
exponent is at least `-1074`, and the mantissa is at least `2 ^ 52` unless the exponent is `-1074`. -/
inductive Binary64
  | nan (identity : Nat)
  | infinite (negative : Bool)
  | finite (negative : Bool) (mantissa : Nat) (exponent : Int)
  deriving DecidableEq

namespace Binary64

def zero (negative : Bool) : Binary64 := .finite negative 0 (-1074)

/-- `num / den · 2 ^ (-shift)` as a quotient and the data to round it: quotient, remainder, divisor. -/
def scaledDivision (num den : Nat) (shift : Int) : Nat × Nat × Nat :=
  let n := num * Nat.pow 2 (-shift).toNat
  let d := den * Nat.pow 2 shift.toNat
  (n / d, n % d, d)

/-- The quotient rounded to the nearest integer, a half to the even one. -/
def roundHalfEven (quotient remainder divisor : Nat) : Nat :=
  if 2 * remainder < divisor then quotient
  else if 2 * remainder > divisor then quotient + 1
  else quotient + quotient % 2

/-- The number nearest to `± num / den`; a half goes to the even mantissa. -/
def ofRatio (negative : Bool) (num den : Nat) : Binary64 :=
  if num = 0 ∨ den = 0 then zero negative
  else
    let low : Int := (num.log2 : Int) - den.log2 - 53
    let fits (e : Int) : Bool := (scaledDivision num den e).1 < Nat.pow 2 53
    let exponent := max (if fits low then low else if fits (low + 1) then low + 1 else low + 2) (-1074)
    let (quotient, remainder, divisor) := scaledDivision num den exponent
    let mantissa := roundHalfEven quotient remainder divisor
    let (mantissa, exponent) :=
      if mantissa = Nat.pow 2 53 then (Nat.pow 2 52, exponent + 1) else (mantissa, exponent)
    if exponent > 971 then .infinite negative else .finite negative mantissa exponent

/-- The number nearest to `± digits · 10 ^ power`. -/
def ofDecimal (negative : Bool) (digits : Nat) (power : Int) : Binary64 :=
  if digits = 0 then zero negative
  else if power > 400 then .infinite negative
  else if power + digits.log2 < -1100 then zero negative
  else ofRatio negative (digits * Nat.pow 10 power.toNat) (Nat.pow 10 (-power).toNat)

def ofInt (n : Int) : Binary64 := ofRatio (n < 0) n.natAbs 1

/-- The sign and size of a finite number as one integer, in units of `2 ^ exponent`. -/
def signedMantissa (negative : Bool) (mantissa : Nat) : Int :=
  if negative then -mantissa else mantissa

/-- The order of `a · 2 ^ e` and `b · 2 ^ f`. -/
def compareScaled (a : Int) (e : Int) (b : Int) (f : Int) : Ordering :=
  let unit := min e f
  compare (a * Nat.pow 2 (e - unit).toNat) (b * Nat.pow 2 (f - unit).toNat)

/-- The order of two numbers; `none` when one of them is not a number. -/
def order? : Binary64 → Binary64 → Option Ordering
  | .nan _, _ => none
  | _, .nan _ => none
  | .infinite a, .infinite b => some (compare b.toNat a.toNat)
  | .infinite a, .finite .. => some (if a then .lt else .gt)
  | .finite .., .infinite b => some (if b then .gt else .lt)
  | .finite s m e, .finite t n f =>
    some (compareScaled (signedMantissa s m) e (signedMantissa t n) f)

/-- The order of a number and an integer, which is not rounded for it. -/
def orderInt? : Binary64 → Int → Option Ordering
  | .nan _, _ => none
  | .infinite a, _ => some (if a then .lt else .gt)
  | .finite s m e, n => some (compareScaled (signedMantissa s m) e n 0)

def isZero : Binary64 → Bool
  | .finite _ 0 _ => true
  | _ => false

def truncate? : Binary64 → Option Int
  | .finite s m e =>
    some (signedMantissa s (if e < 0 then m / Nat.pow 2 (-e).toNat else m * Nat.pow 2 e.toNat))
  | _ => none

end Binary64
end RecordQuery
