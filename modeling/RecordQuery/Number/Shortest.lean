import RecordQuery.Number.Binary64
/-!
The text of a binary64 number: the fewest digits that read back as the same number, and of those the
nearest ones.

The number is taken as an exact ratio together with the interval of ratios that round to it. For one,
two, up to seventeen digits the two neighbours of the number on that decimal grid are tested against
the interval, and the first grid with a hit gives the digits. A text is positional for decimal
exponents from -4 to 15 and has an exponent mark otherwise.
-/

namespace RecordQuery
namespace Binary64

/-- A finite number above zero as `value / unit`, with the bounds of the ratios that round to it. -/
structure Interval where
  value : Nat
  low : Nat
  high : Nat
  unit : Nat
  /-- Whether the bounds themselves round to the number. -/
  closed : Bool

/-- The interval of `mantissa · 2 ^ exponent`: half a step to both sides, a quarter below a power of
two, where the steps below are half as long. -/
def interval (mantissa : Nat) (exponent : Int) : Interval :=
  let scale := Nat.pow 2 (exponent - 2).toNat
  let below := if mantissa = Nat.pow 2 52 ∧ exponent > -1074 then 1 else 2
  { value := 4 * mantissa * scale
    low := (4 * mantissa - below) * scale
    high := (4 * mantissa + 2) * scale
    unit := Nat.pow 2 (2 - exponent).toNat
    closed := mantissa % 2 = 0 }

/-- The interval in units of `10 ^ power`. -/
def Interval.scaleTo (i : Interval) (power : Int) : Interval :=
  let up := Nat.pow 10 (-power).toNat
  { i with
    value := i.value * up
    low := i.low * up
    high := i.high * up
    unit := i.unit * Nat.pow 10 power.toNat }

/-- Whether `n` units lie in the interval. -/
def Interval.holds (i : Interval) (n : Nat) : Bool :=
  let x := n * i.unit
  if i.closed then i.low ≤ x && x ≤ i.high else i.low < x && x < i.high

/-- The multiple of the unit that lies in the interval and is nearest to the value, if one does. -/
def Interval.nearest? (i : Interval) : Option Nat :=
  let n := i.value / i.unit
  let below := i.value % i.unit
  match i.holds n, i.holds (n + 1) with
  | true, true =>
    if 2 * below < i.unit then some n
    else if 2 * below > i.unit then some (n + 1)
    else some (n + n % 2)
  | true, false => some n
  | false, true => some (n + 1)
  | false, false => none

/-- The largest `k` with `10 ^ k` not above the value. -/
def Interval.decimalExponent (i : Interval) : Int :=
  let guess : Int := ((i.value.log2 : Int) - i.unit.log2) * 30103 / 100000
  let reaches (k : Int) : Bool := i.unit * Nat.pow 10 k.toNat ≤ i.value * Nat.pow 10 (-k).toNat
  if reaches (guess + 1) then guess + 1
  else if reaches guess then guess
  else if reaches (guess - 1) then guess - 1
  else guess - 2

/-- The digits found on the grids with `count`, `count + 1`, … digits, with the exponent of the last
digit. At most `fuel` grids are tried; the last one always has a hit for seventeen digits. -/
def Interval.shortest (i : Interval) : (fuel : Nat) → (count : Nat) → Nat × Int
  | 0, _ => (0, 0)
  | fuel + 1, count =>
    let power := i.decimalExponent + 1 - count
    match (i.scaleTo power).nearest? with
    | some digits => (digits, power)
    | none => i.shortest fuel (count + 1)

def decimalDigits (n : Nat) : List Char := Nat.toDigits 10 n

def exponentMark (exponent : Int) : String :=
  let digits := String.ofList (decimalDigits exponent.natAbs)
  "e" ++ (if exponent < 0 then "-" else "+") ++ (if digits.length < 2 then "0" ++ digits else digits)

/-- Lays out digits whose first one stands for `10 ^ exponent`: positional from -4 to 15. -/
def layOut (digits : List Char) (exponent : Int) : String :=
  let zeros (n : Int) : List Char := List.replicate n.toNat '0'
  if -4 ≤ exponent ∧ exponent < 0 then
    "0." ++ String.ofList (zeros (-exponent - 1) ++ digits)
  else if 0 ≤ exponent ∧ exponent < 16 then
    let whole := exponent.toNat + 1
    let fraction := digits.drop whole
    String.ofList (digits.take whole ++ zeros (whole - digits.length)) ++ "." ++
      (if fraction.isEmpty then "0" else String.ofList fraction)
  else
    let tail := digits.drop 1
    String.ofList (digits.take 1) ++ (if tail.isEmpty then "" else "." ++ String.ofList tail) ++
      exponentMark exponent

def dropTrailingZeros (digits : List Char) : List Char :=
  (digits.reverse.dropWhile (· == '0')).reverse

/-- The text of a number: `0.1`, `1e+16`, `-0.0`, `nan`, `inf`. -/
def text : Binary64 → String
  | .nan _ => "nan"
  | .infinite negative => if negative then "-inf" else "inf"
  | .finite negative mantissa exponent =>
    (if negative then "-" else "") ++
      if mantissa = 0 then "0.0"
      else
        let (n, power) := (interval mantissa exponent).shortest 20 1
        let digits := decimalDigits n
        layOut (dropTrailingZeros digits) (power + digits.length - 1)

end Binary64
end RecordQuery
