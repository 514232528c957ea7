import RecordQuery.Number.Binary64
import RecordQuery.Text.Blank
import RecordQuery.Text.Word
/-!
Numbers read from text: a decimal number with an optional fraction and exponent, and an integer.
Digits of every script count, and an underscore may stand between two digits.
-/

namespace RecordQuery.Decimal

def trim (cs : List Char) : List Char :=
  ((cs.dropWhile Text.isBlank).reverse.dropWhile Text.isBlank).reverse

/-- A leading sign, if any: whether it is a minus, and the rest. -/
def takeSign : List Char → Bool × List Char
  | '-' :: rest => (true, rest)
  | '+' :: rest => (false, rest)
  | cs => (false, cs)

/-- The number that ends here with value `value`, read on with more digits, each of which may follow
an underscore: value, count of digits, and the rest. -/
def moreDigits (value count : Nat) : List Char → Nat × Nat × List Char
  | [] => (value, count, [])
  | '_' :: c :: rest =>
    match Text.digitValue? c with
    | some d => moreDigits (10 * value + d) (count + 1) rest
    | none => (value, count, '_' :: c :: rest)
  | c :: rest =>
    match Text.digitValue? c with
    | some d => moreDigits (10 * value + d) (count + 1) rest
    | none => (value, count, c :: rest)

/-- A run of digits that starts with a digit: value, count of digits, and the rest. -/
def takeDigits : List Char → Option (Nat × Nat × List Char)
  | [] => none
  | c :: rest => (Text.digitValue? c).map fun d => moreDigits d 1 rest

def readInt? (s : String) : Option Int :=
  let (negative, rest) := takeSign (trim s.toList)
  match takeDigits rest with
  | some (n, _, []) => some (if negative then -n else n)
  | _ => none

/-- An exponent mark at the end of a number: zero when there is none. -/
def readExponent? : List Char → Option Int
  | [] => some 0
  | c :: rest =>
    if c == 'e' || c == 'E' then
      let (negative, rest) := takeSign rest
      match takeDigits rest with
      | some (n, _, []) => some (if negative then -n else n)
      | _ => none
    else none

/-- An unsigned decimal: its digits as one integer and the power of ten of the last of them. -/
def readUnsigned? (cs : List Char) : Option (Nat × Int) :=
  match takeDigits cs with
  | some (n, _, '.' :: rest) =>
    match takeDigits rest with
    | some (m, count, rest) =>
      (readExponent? rest).map fun e => (n * Nat.pow 10 count + m, e - count)
    | none => (readExponent? rest).map fun e => (n, e)
  | some (n, _, rest) => (readExponent? rest).map fun e => (n, e)
  | none =>
    match cs with
    | '.' :: rest =>
      match takeDigits rest with
      | some (m, count, rest) => (readExponent? rest).map fun e => (m, e - count)
      | none => none
    | _ => none

/-- The binary64 number that the text writes, if it writes one. A not-a-number gets `identity`. -/
def readBinary64? (s : String) (identity : Nat) : Option Binary64 :=
  let (negative, rest) := takeSign (trim s.toList)
  let word := String.ofList (rest.map Char.toLower)
  if word = "nan" then some (.nan identity)
  else if word = "inf" ∨ word = "infinity" then some (.infinite negative)
  else (readUnsigned? rest).map fun (digits, power) => .ofDecimal negative digits power

end RecordQuery.Decimal
