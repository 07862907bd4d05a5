import ConfidentialToken.Json.Schema

/-!
Generators and sizes of range proofs over bits.
-/

namespace ConfidentialToken.Bulletproof

open Json

variable {S : Suite}

/-- The generators for the two vectors of a proof, two more bases, and the
sizes. -/
structure Parameters (S : Suite) where
  leftGenerators : List S.G1
  rightGenerators : List S.G1
  /-- The base for the blinding factors of vector commitments. -/
  p : S.G1
  /-- The base for inner products. -/
  q : S.G1
  bitLength : UInt64
  /-- The number of halvings that bring the vectors to length one. -/
  rounds : UInt64

instance : JsonForm (Parameters S) where
  toJson parameters := .object [
    ("left_generators", toJson parameters.leftGenerators),
    ("right_generators", toJson parameters.rightGenerators),
    ("p", toJson parameters.p),
    ("q", toJson parameters.q),
    ("bit_length", toJson parameters.bitLength),
    ("number_of_rounds", toJson parameters.rounds)]
  fromJson value := do
    let [leftGenerators, rightGenerators, p, q, bitLength, rounds] ← value.fields
      ["left_generators", "right_generators", "p", "q", "bit_length",
        "number_of_rounds"] | none
    return {
      leftGenerators := ← required leftGenerators
      rightGenerators := ← required rightGenerators
      p := ← required p
      q := ← required q
      bitLength := ← required bitLength
      rounds := ← required rounds }

namespace Parameters

def generator (name : String) : S.G1 :=
  S.hashToG1 (Bytes.ofText ("RangeProof." ++ name))

/-- The parameters for values of the given number of bits. All generators are
hashes of names, so that nobody knows how they are related. -/
def derive (bitLength : UInt64) : Result (Parameters S) :=
  let rounds := bitLength.toNat.log2
  if bitLength = 0 ∨ 64 < bitLength ∨ Nat.pow 2 rounds ≠ bitLength.toNat then
    .error (.invalidParameters <|
      s!"invalid range proof parameters: bit length [{bitLength}] must be a " ++
      "power of two in [1, 64]")
  else .ok {
    leftGenerators := (List.range bitLength.toNat).map fun index =>
      generator (toString (2 * (index + 1)))
    rightGenerators := (List.range bitLength.toNat).map fun index =>
      generator (toString (2 * (index + 1) + 1))
    p := generator "P"
    q := generator "Q"
    bitLength := bitLength
    rounds := .ofNat rounds }

/-- Whether the sizes fit together and the single bases are not the identity. -/
def validate (parameters : Parameters S) : Result Unit := do
  let invalid (reason : String) : Result Unit :=
    .error (.invalidParameters ("invalid range proof parameters: " ++ reason))
  if parameters.bitLength = 0 then invalid "bit length is zero"
  if parameters.rounds = 0 then invalid "number of rounds is zero"
  if 64 < parameters.rounds then invalid "number of rounds must be smaller or equal to 64"
  if 64 < parameters.bitLength then invalid "bit length must be smaller or equal to 64"
  if Nat.pow 2 parameters.rounds.toNat ≠ parameters.bitLength.toNat then
    invalid "bit length should be 2^number of rounds"
  if parameters.leftGenerators.length ≠ parameters.bitLength.toNat then
    invalid "length of left generators does not match bit length"
  if parameters.rightGenerators.length ≠ parameters.bitLength.toNat then
    invalid "length of right generators does not match bit length"
  if parameters.p = 0 ∨ parameters.q = 0 then invalid "generator is the identity"

def maxValue (parameters : Parameters S) : UInt64 :=
  if 64 ≤ parameters.bitLength then .ofNat (UInt64.size - 1)
  else .ofNat (Nat.pow 2 parameters.bitLength.toNat - 1)

end Parameters

end ConfidentialToken.Bulletproof
