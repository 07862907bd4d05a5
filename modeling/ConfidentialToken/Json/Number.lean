import ConfidentialToken.Json.Value

/-!
The numbers of a JSON text.

A number that is not written as a natural number has no use in the library, but
one that double precision cannot hold is kept apart, since a reader that keeps
the number must refuse it. Double precision is reached in steps: the leading
digits are taken as a word, and the word, the power of ten that places it and
their product are rounded one after the other.
-/

namespace ConfidentialToken.Json

def isDigit (byte : UInt8) : Bool :=
  0x30 ≤ byte && byte ≤ 0x39

def decimalValue (digits : Bytes) : Nat :=
  digits.foldl (fun number digit => 10 * number + (digit.toNat - 0x30)) 0

/-- The number closest to a natural number among those with 53 binary digits and
zeros after them. Of two that are equally close it is the one whose last digit
is even. -/
def roundToDouble (number : Nat) : Nat :=
  let unit := Nat.pow 2 (number.log2 + 1 - 53)
  let quotient := number / unit
  let rest := number % unit
  if unit < 2 * rest ∨ (unit = 2 * rest ∧ quotient % 2 = 1) then (quotient + 1) * unit
  else quotient * unit

/-- Appends decimal digits to a number as long as it fits into a word, and
counts the digits that are left. -/
def appendDigits (number : Nat) : (digits : Bytes) → Nat × Nat
  | [] => (number, 0)
  | digit :: digits =>
      let longer := 10 * number + (digit.toNat - 0x30)
      if longer < UInt64.size then appendDigits longer digits else
        (number, digits.length + 1)

/-- The largest power of ten, by its exponent, that double precision can
hold. -/
def maxDecimalExponent : Nat := 308

/-- Whether a decimal number is beyond the range of double precision. Digits
before the point that do not fit into the word count as places; digits after the
point that do not fit are dropped. -/
def exceedsRange (whole fraction : Bytes) (exponent : Int) : Bool :=
  let (number, skipped) := appendDigits 0 whole
  let (number, dropped) := appendDigits number fraction
  let places : Int := exponent + skipped + dropped - fraction.length
  if number = 0 ∨ places < 0 then false
  else if maxDecimalExponent < places then true
  else
    let power := roundToDouble (Nat.pow 10 places.toNat)
    Nat.pow 2 1024 ≤ roundToDouble (roundToDouble number * power)

/-- The digits at the start of the bytes, at least one, with the bytes after
them. -/
def digits? (bytes : Bytes) : Option (Bytes × Bytes) :=
  let digits := bytes.takeWhile isDigit
  if digits.isEmpty then none else some (digits, bytes.dropWhile isDigit)

/-- The digits after a decimal point, none if there is no point. -/
def fraction? : Bytes → Option (Bytes × Bytes)
  | 0x2e :: rest => digits? rest
  | rest => some ([], rest)

/-- The exponent of a number, nothing inside if there is none. -/
def exponent? : Bytes → Option (Option Int × Bytes)
  | mark :: rest =>
      if mark = 0x65 ∨ mark = 0x45 then
        match rest with
        | 0x2d :: rest => (digits? rest).map fun (digits, rest) =>
            (some (-(decimalValue digits : Int)), rest)
        | 0x2b :: rest => (digits? rest).map fun (digits, rest) =>
            (some (decimalValue digits : Int), rest)
        | _ =>
            (digits? rest).map fun (digits, rest) =>
            (some (decimalValue digits : Int), rest)
      else some (none, mark :: rest)
  | [] => some (none, [])

/-- The digits before a decimal point: a zero, or digits of which the first is
not zero. -/
def whole? : Bytes → Option (Bytes × Bytes)
  | 0x30 :: rest => some ([0x30], rest)
  | bytes => digits? bytes

def readUnsigned (negative : Bool) (bytes : Bytes) : Option (Value × Bytes) := do
  let (whole, rest) ← whole? bytes
  let (fraction, rest) ← fraction? rest
  let (exponent, rest) ← exponent? rest
  let value :=
    if exceedsRange whole fraction (exponent.getD 0) then .unusable
    else if negative || !fraction.isEmpty || exponent.isSome then .otherNumber
    else .natural (decimalValue whole)
  return (value, rest)

def readNumber : Bytes → Option (Value × Bytes)
  | 0x2d :: rest => readUnsigned true rest
  | bytes => readUnsigned false bytes

end ConfidentialToken.Json
