import ConfidentialToken.Bytes

/-!
Hexadecimal text for byte strings: written in lowercase, read in either case.
-/

namespace ConfidentialToken.Hex

/-- Why a text is not the hexadecimal form of a byte string. -/
inductive Failure where
  /-- The text has an odd number of digits. -/
  | oddLength
  /-- The byte of the text at `position` is no hexadecimal digit. -/
  | invalidDigit (byte : UInt8) (position : Nat)
deriving DecidableEq

def digit (nibble : UInt8) : UInt8 :=
  if nibble < 10 then 0x30 + nibble else 0x57 + nibble

def digitValue? (byte : UInt8) : Option UInt8 :=
  if 0x30 ≤ byte ∧ byte ≤ 0x39 then some (byte - 0x30)
  else if 0x41 ≤ byte ∧ byte ≤ 0x46 then some (byte - 0x37)
  else if 0x61 ≤ byte ∧ byte ≤ 0x66 then some (byte - 0x57)
  else none

/-- Two lowercase digits for each byte, as bytes of the text. -/
def encode : Bytes → Bytes
  | [] => []
  | byte :: bytes => digit (byte >>> 4) :: digit (byte &&& 0xf) :: encode bytes

def digitChar (byte : UInt8) : Char :=
  Char.ofNat byte.toNat

def encodeText (bytes : Bytes) : String :=
  String.ofList ((encode bytes).map digitChar)

/-- Reads digits pairwise, `position` being that of the next digit in the whole
text. -/
def decodeFrom (position : Nat) : Bytes → Except Failure Bytes
  | [] => .ok []
  | [_] => .error .oddLength
  | high :: low :: digits =>
      match digitValue? high, digitValue? low with
      | none, _ => .error (.invalidDigit high position)
      | some _, none => .error (.invalidDigit low (position + 1))
      | some highValue, some lowValue =>
          match decodeFrom (position + 2) digits with
          | .ok bytes => .ok (((highValue <<< 4) ||| lowValue) :: bytes)
          | .error failure => .error failure

/-- The bytes that a text in hexadecimal denotes. An odd length is reported
before any digit. -/
def decode (digits : Bytes) : Except Failure Bytes :=
  if digits.length % 2 = 1 then .error .oddLength else decodeFrom 0 digits

/-- A byte as a quoted character, control and blank characters escaped. -/
def quoted (byte : UInt8) : String :=
  let code := byte.toNat
  let hexadecimal := String.ofList (Nat.toDigits 16 code)
  let body :=
    if code = 0 then "\\0"
    else if code = 9 then "\\t"
    else if code = 10 then "\\n"
    else if code = 13 then "\\r"
    else if code = 0x27 then "\\'"
    else if code = 0x5c then "\\\\"
    else if code < 0x20 ∨ (0x7f ≤ code ∧ code ≤ 0xa0) ∨ code = 0xad then
      "\\u\x7b" ++ hexadecimal ++ "\x7d"
    else String.singleton (Char.ofNat code)
  "'" ++ body ++ "'"

def Failure.message : Failure → String
  | .oddLength => "Odd number of digits"
  | .invalidDigit byte position =>
      "Invalid character " ++ quoted byte ++ " at position " ++ toString position

end ConfidentialToken.Hex
