import ConfidentialToken.PsSignature

/-!
The table of signed digits on which range proofs by digits rest.

Every digit below the base is signed with a key whose secret part is forgotten.
Values have a fixed number of digits.
-/

namespace ConfidentialToken.DigitRange

open Json PsSignature

variable {S : Suite}

/-- The signed digits of a base, with the number of digits of a value. -/
structure Parameters (S : Suite) where
  base : UInt64
  /-- The number of digits. -/
  exponent : UInt64
  /-- The parts of a verification key for one message. -/
  keyParts : List S.G2
  keyBase : S.G2
  /-- The point behind which signatures are hidden. -/
  blindingPoint : S.G1
  /-- The signature at an index is one on the index. -/
  signatures : List (Signature S)

instance : JsonForm (Parameters S) where
  toJson parameters := .object [
    ("base", toJson parameters.base),
    ("exponent", toJson parameters.exponent),
    ("pk", toJson parameters.keyParts),
    ("q", toJson parameters.keyBase),
    ("p", toJson parameters.blindingPoint),
    ("signed_values", toJson parameters.signatures)]
  fromJson value := do
    let [base, exponent, keyParts, keyBase, blindingPoint, signatures] ← value.fields
      ["base", "exponent", "pk", "q", "p", "signed_values"] | none
    return {
      base := ← required base
      exponent := ← required exponent
      keyParts := ← required keyParts
      keyBase := ← required keyBase
      blindingPoint := ← required blindingPoint
      signatures := ← required signatures }

/-- The power of a word, if it is a word. Larger exponents than 64 give one only
for the bases zero and one. -/
def wordPower? (base : UInt64) (exponent : Nat) : Option UInt64 :=
  let power := Nat.pow base.toNat (min exponent (if base < 2 then 1 else 64))
  if power < UInt64.size then some (.ofNat power) else none

/-- Whether there are at least two digits and one place, and all values are
words. -/
def checkShape (base exponent : UInt64) : Result Unit := do
  if base < 2 ∨ exponent = 0 then
    throw (.invalidParameters
      s!"invalid membership parameters: base [{base}] and exponent [{exponent}]")
  if UInt32.size ≤ exponent.toNat ∨ wordPower? base exponent.toNat = none then
    throw (.invalidParameters
      s!"invalid membership parameters: [{base}^{exponent}] overflows 64 bits")

namespace Parameters

/-- Signs the digits of a base with a fresh key, which is forgotten. -/
def generate {R : Type} [RandomSource S R] (base exponent : UInt64) :
    Sampling R (Parameters S) := do
  checkShape base exponent
  let key ← KeyPair.generate 1
  let signatures ← (List.range base.toNat).mapM fun digit =>
    key.sign [(ScalarOperations.ofNat digit : S.Scalar)]
  return {
    base := base
    exponent := exponent
    keyParts := key.verification.parts
    keyBase := key.verification.base
    blindingPoint := ← Sampling.g1
    signatures := signatures }

/-- The largest value with the given number of digits, of which the low 32 bits
count. -/
def maxValue (parameters : Parameters S) : UInt64 :=
  match wordPower? parameters.base (parameters.exponent.toNat % UInt32.size) with
  | some power => power - 1
  | none => .ofNat (UInt64.size - 1)

/-- Whether the sizes fit together and the single bases are not the identity. -/
def validate (parameters : Parameters S) : Result Unit := do
  checkShape parameters.base parameters.exponent
  if parameters.keyParts.length ≠ 3 then
    throw (.invalidParameters <|
      "invalid membership parameters: expect [3] public keys, got " ++
      s!"[{parameters.keyParts.length}]")
  if parameters.signatures.length ≠ parameters.base.toNat then
    throw (.invalidParameters <|
      s!"invalid membership parameters: expect [{parameters.base}] signed " ++
      s!"values, got [{parameters.signatures.length}]")
  if parameters.blindingPoint = 0 ∨ parameters.keyBase = 0 then
    throw (.invalidParameters "invalid membership parameters: generator is the identity")

end Parameters

end ConfidentialToken.DigitRange
