import ConfidentialToken.Json.Number

/-!
The tokens of a JSON text.

A string token has no text if its escapes or its bytes are not Unicode text; the
token is well-formed all the same.
-/

namespace ConfidentialToken.Json

inductive Token where
  | openObject
  | closeObject
  | openArray
  | closeArray
  | comma
  | colon
  | string (text : Option String)
  /-- A literal name or a number. -/
  | scalar (value : Value)

def isBlank (byte : UInt8) : Bool :=
  byte = 0x20 || byte = 0x09 || byte = 0x0a || byte = 0x0d

def hexDigitValue? (byte : UInt8) : Option Nat :=
  if isDigit byte then some (byte.toNat - 0x30)
  else if 0x41 ≤ byte ∧ byte ≤ 0x46 then some (byte.toNat - 0x37)
  else if 0x61 ≤ byte ∧ byte ≤ 0x66 then some (byte.toNat - 0x57)
  else none

/-- The number that four hexadecimal digits denote, with the bytes after
them. -/
def codeUnit? : Bytes → Option (Nat × Bytes)
  | a :: b :: c :: d :: rest => do
      let a ← hexDigitValue? a
      let b ← hexDigitValue? b
      let c ← hexDigitValue? c
      let d ← hexDigitValue? d
      return (((a * 16 + b) * 16 + c) * 16 + d, rest)
  | _ => none

/-- The bytes of a character that is escaped by a code unit with the bytes after
it. A code unit of a surrogate pair counts only with its partner. -/
def escapedCharacter (unit : Nat) (rest : Bytes) : Option Bytes × Bytes :=
  if unit < 0xd800 ∨ 0xdfff < unit then
    (some (Bytes.ofText (String.singleton (Char.ofNat unit))), rest)
  else if 0xdc00 ≤ unit then (none, rest)
  else
    match rest with
    | 0x5c :: 0x75 :: following =>
        match codeUnit? following with
        | some (partner, afterPair) =>
            if 0xdc00 ≤ partner ∧ partner ≤ 0xdfff then
              let code := 0x10000 + (unit - 0xd800) * 0x400 + (partner - 0xdc00)
              (some (Bytes.ofText (String.singleton (Char.ofNat code))), afterPair)
            else (none, rest)
        | none => (none, rest)
    | _ => (none, rest)

def simpleEscape? (byte : UInt8) : Option UInt8 :=
  if byte = 0x22 ∨ byte = 0x5c ∨ byte = 0x2f then some byte
  else if byte = 0x62 then some 0x08
  else if byte = 0x66 then some 0x0c
  else if byte = 0x6e then some 0x0a
  else if byte = 0x72 then some 0x0d
  else if byte = 0x74 then some 0x09
  else none

/-- Reads a string after its opening quote. `reversed` holds the bytes read so
far, the last one first, and is nothing once an escape was not Unicode. -/
def readString :
    (fuel : Nat) → Bytes → (reversed : Option Bytes) → Option (Option Bytes × Bytes)
  | 0, _, _ => none
  | _, [], _ => none
  | fuel + 1, byte :: rest, reversed =>
      if byte = 0x22 then some (reversed.map List.reverse, rest)
      else if byte = 0x5c then
        match rest with
        | [] => none
        | letter :: rest =>
            if letter = 0x75 then
              match codeUnit? rest with
              | none => none
              | some (unit, rest) =>
                  match escapedCharacter unit rest with
                  | (some bytes, rest) =>
                      readString fuel rest
                        (reversed.map fun read => bytes.reverse ++ read)
                  | (none, rest) => readString fuel rest none
            else
              match simpleEscape? letter with
              | some byte => readString fuel rest (reversed.map fun read => byte :: read)
              | none => none
      else if byte < 0x20 then none
      else readString fuel rest (reversed.map fun read => byte :: read)

def dropWord? : (word bytes : Bytes) → Option Bytes
  | [], bytes => some bytes
  | _ :: _, [] => none
  | letter :: word, byte :: bytes => if letter = byte then dropWord? word bytes else none

/-- Reads the token at the start of the bytes, which is not blank. There must be
more fuel than bytes after the first. -/
def readToken (fuel : Nat) (byte : UInt8) (rest : Bytes) : Option (Token × Bytes) :=
  if byte = 0x7b then some (.openObject, rest)
  else if byte = 0x7d then some (.closeObject, rest)
  else if byte = 0x5b then some (.openArray, rest)
  else if byte = 0x5d then some (.closeArray, rest)
  else if byte = 0x2c then some (.comma, rest)
  else if byte = 0x3a then some (.colon, rest)
  else if byte = 0x22 then
    (readString fuel rest (some [])).map fun (text, rest) =>
      (.string (text.bind Bytes.toText?), rest)
  else if byte = 0x6e then
    (dropWord? (Bytes.ofText "ull") rest).map fun rest => (.scalar .null, rest)
  else if byte = 0x74 then
    (dropWord? (Bytes.ofText "rue") rest).map fun rest => (.scalar (.bool true), rest)
  else if byte = 0x66 then
    (dropWord? (Bytes.ofText "alse") rest).map fun rest => (.scalar (.bool false), rest)
  else (readNumber (byte :: rest)).map fun (value, rest) => (.scalar value, rest)

/-- Splits a text into tokens. Each of them takes at least one byte, so fuel for
as many bytes as there are is enough, also for the strings. -/
def tokensFrom : (fuel : Nat) → Bytes → (reversed : List Token) → Option (List Token)
  | _, [], reversed => some reversed.reverse
  | 0, _ :: _, _ => none
  | fuel + 1, byte :: rest, reversed =>
      if isBlank byte then tokensFrom fuel rest reversed
      else
        match readToken (fuel + 1) byte rest with
        | some (token, rest) => tokensFrom fuel rest (token :: reversed)
        | none => none

def tokens? (bytes : Bytes) : Option (List Token) :=
  tokensFrom bytes.length bytes []

end ConfidentialToken.Json
