import ConfidentialToken.Bytes

/-!
JSON values as the objects of the library use them, and how they are written.

Only natural numbers occur in these objects. Other values that JSON allows are
kept apart in two constructors, so that a reader can pass over them in members
that it does not know.
-/

namespace ConfidentialToken.Json

inductive Value where
  | null
  | bool (value : Bool)
  | natural (value : Nat)
  | string (text : String)
  | array (items : List Value)
  | object (members : List (String × Value))
  /-- A number that is not written as a natural number. -/
  | otherNumber
  /-- A well-formed value that has no content: a string or a key that is no
  Unicode text, or a number beyond the range of double precision. -/
  | unusable

/-- The escape of a byte in a string, or the byte itself. -/
def escapeByte (byte : UInt8) : Bytes :=
  if byte = 0x22 then Bytes.ofText "\\\""
  else if byte = 0x5c then Bytes.ofText "\\\\"
  else if 0x20 ≤ byte then [byte]
  else if byte = 0x08 then Bytes.ofText "\\b"
  else if byte = 0x09 then Bytes.ofText "\\t"
  else if byte = 0x0a then Bytes.ofText "\\n"
  else if byte = 0x0c then Bytes.ofText "\\f"
  else if byte = 0x0d then Bytes.ofText "\\r"
  else
    let low := byte &&& 0xf
    let lowDigit : UInt8 := if low < 10 then 0x30 + low else 0x57 + low
    Bytes.ofText "\\u00" ++ [(0x30 : UInt8) + (byte >>> 4), lowDigit]

def renderString (text : String) : Bytes :=
  0x22 :: ((Bytes.ofText text).flatMap escapeByte ++ [0x22])

def renderNatural (number : Nat) : Bytes :=
  (Nat.toDigits 10 number).map fun digit => UInt8.ofNat digit.toNat

mutual

/-- The compact text of a value. The two kinds of values that no object holds
have no text of their own and are written as null. -/
def Value.render : Value → Bytes
  | .null => Bytes.ofText "null"
  | .bool true => Bytes.ofText "true"
  | .bool false => Bytes.ofText "false"
  | .natural number => renderNatural number
  | .string text => renderString text
  | .array items => 0x5b :: (renderItems items ++ [0x5d])
  | .object members => 0x7b :: (renderMembers members ++ [0x7d])
  | .otherNumber => Bytes.ofText "null"
  | .unusable => Bytes.ofText "null"

/-- The texts of the items of an array, separated by commas. -/
def renderItems : List Value → Bytes
  | [] => []
  | [item] => item.render
  | item :: items => item.render ++ 0x2c :: renderItems items

def renderMembers : List (String × Value) → Bytes
  | [] => []
  | [(key, value)] => renderString key ++ 0x3a :: value.render
  | (key, value) :: members =>
      renderString key ++ 0x3a :: value.render ++ 0x2c :: renderMembers members

end

end ConfidentialToken.Json
