import RecordQuery.Text.Printable
/-!
Quoted texts and bytes.

A text is quoted with `'`, or with `"` when it holds a `'` and no `"`. The backslash, the quote in
use, tab, line feed and carriage return get a short escape, every other character that is not
printable a numeric one of two, four or eight hexadecimal digits.
-/

namespace RecordQuery.Text

/-- The last `width` hexadecimal digits of `n`. -/
def hexDigits (width n : Nat) : List Char :=
  match width with
  | 0 => []
  | width + 1 => hexDigits width (n / 16) ++ [Nat.digitChar (n % 16)]

def quoteFor (cs : List Char) : Char :=
  if cs.contains '\'' && !cs.contains '"' then '"' else '\''

def shortEscape? (quote c : Char) : Option (List Char) :=
  if c = quote ∨ c = '\\' then some ['\\', c]
  else if c = '\t' then some ['\\', 't']
  else if c = '\n' then some ['\\', 'n']
  else if c = '\r' then some ['\\', 'r']
  else none

def quotedChar (quote c : Char) : List Char :=
  match shortEscape? quote c with
  | some e => e
  | none =>
    if isPrintable c then [c]
    else if c.toNat ≤ 0xFF then '\\' :: 'x' :: hexDigits 2 c.toNat
    else if c.toNat ≤ 0xFFFF then '\\' :: 'u' :: hexDigits 4 c.toNat
    else '\\' :: 'U' :: hexDigits 8 c.toNat

def quoted (s : String) : String :=
  let cs := s.toList
  let quote := quoteFor cs
  String.ofList (quote :: (cs.flatMap (quotedChar quote) ++ [quote]))

/-- A byte as it stands inside quotes: ASCII printable bytes stand for themselves. -/
def quotedByte (quote : Char) (b : UInt8) : List Char :=
  let c := Char.ofNat b.toNat
  match shortEscape? quote c with
  | some e => e
  | none =>
    if 0x20 ≤ b.toNat ∧ b.toNat < 0x7F then [c] else '\\' :: 'x' :: hexDigits 2 b.toNat

/-- Bytes in quotes, marked by a `b` in front. -/
def quotedBytes (bytes : List UInt8) : String :=
  let quote := quoteFor (bytes.map fun b => Char.ofNat b.toNat)
  String.ofList ('b' :: quote :: (bytes.flatMap (quotedByte quote) ++ [quote]))

def ofUtf8? (bytes : List UInt8) : Option String :=
  String.fromUTF8? (ByteArray.mk bytes.toArray)

end RecordQuery.Text
