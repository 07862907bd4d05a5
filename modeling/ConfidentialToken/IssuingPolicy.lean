import ConfidentialToken.Json.Schema
import ConfidentialToken.OneOutOfMany
import ConfidentialToken.Random.Source

/-!
The keys of the issuers that may issue without being named.

Proofs that one of them issued run over a set whose size is a power of two, so
the keys are followed by random points to which nobody has a secret key.
-/

namespace ConfidentialToken

open Json

variable {S : Suite}

/-- The keys of the anonymous issuers. -/
structure IssuingPolicy (S : Suite) where
  /-- The keys, followed by random points. -/
  keys : List S.G1
  /-- The number of keys that are not random points. -/
  issuerCount : UInt64
  /-- The binary logarithm of the length of the list. -/
  bitLength : UInt64

namespace IssuingPolicy

instance : JsonForm (IssuingPolicy S) where
  toJson policy := .object [
    ("issuers", toJson policy.keys),
    ("issuers_number", toJson policy.issuerCount),
    ("bit_length", toJson policy.bitLength)]
  fromJson value := do
    let [keys, issuerCount, bitLength] ← value.fields
      ["issuers", "issuers_number", "bit_length"] | none
    return {
      keys := ← required keys
      issuerCount := ← required issuerCount
      bitLength := ← required bitLength }

/-- The policy under which nobody issues anonymously. -/
def empty : IssuingPolicy S :=
  ⟨[], 0, 0⟩

/-- The number of bits of an index into a set that has room for `count` keys. -/
def bitsFor (count : Nat) : Nat :=
  if count ≤ 2 then 1 else (count - 1).log2 + 1

def ofKeys {R : Type} [RandomSource S R] (keys : List S.G1) :
    Sampling R (IssuingPolicy S) := do
  if keys.isEmpty then
    throw (.invalidInput "issuing policy needs at least one issuer")
  let bits := bitsFor keys.length
  let padding ← Sampling.times (Nat.pow 2 bits - keys.length) Sampling.g1
  return ⟨keys ++ padding, .ofNat keys.length, .ofNat bits⟩

def validate (policy : IssuingPolicy S) : Result Unit :=
  if OneOutOfMany.setSize? policy.bitLength ≠ some policy.keys.length then
    .error (.invalidParameters <|
      s!"issuing policy: number of issuers [{policy.keys.length}] is not " ++
      s!"2^[{policy.bitLength}]")
  else if policy.keys.length < policy.issuerCount.toNat then
    .error (.invalidParameters "issuing policy: too many declared issuers")
  else .ok ()

end IssuingPolicy

end ConfidentialToken
