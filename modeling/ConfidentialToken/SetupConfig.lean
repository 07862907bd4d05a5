import ConfidentialToken.Json.Schema

/-!
What public parameters are to be set up.
-/

namespace ConfidentialToken

open Json

inductive RangeEngine where
  /-- Inner product arguments over the bits of a value. -/
  | bulletproof
  /-- Signatures on the digits of a value. -/
  | membership
deriving DecidableEq

namespace RangeEngine

def name : RangeEngine → String
  | .bulletproof => "bulletproof"
  | .membership => "membership"

def ofName? : String → Option RangeEngine
  | "bulletproof" => some .bulletproof
  | "membership" => some .membership
  | _ => none

instance : JsonForm RangeEngine where
  toJson engine := .string engine.name
  fromJson value := value.variant?.bind ofName?

end RangeEngine

/-- The name of the scheme, under which its public parameters are
distributed. -/
def schemeLabel : String :=
  "zkatdlog"

/-- The sizes of the range proofs, and what is passed on in the parameters. -/
structure SetupConfig where
  engine : RangeEngine := .bulletproof
  /-- The number of bits of a value, for proofs over bits. -/
  bitLength : UInt64 := 64
  /-- The base of digits, for proofs over digits. -/
  base : UInt64 := 100
  /-- The number of digits of a value, for proofs over digits. -/
  exponent : UInt64 := 2
  /-- The name under which the parameters are distributed. -/
  label : String := schemeLabel
  /-- The key of the issuer of anonymous credentials. -/
  credentialKey : Bytes := []
deriving DecidableEq

namespace SetupConfig

instance : JsonForm SetupConfig where
  toJson config := .object [
    ("engine", toJson config.engine),
    ("bit_length", toJson config.bitLength),
    ("base", toJson config.base),
    ("exponent", toJson config.exponent),
    ("label", toJson config.label),
    ("idemix_issuer_pk", hex config.credentialKey)]
  fromJson value := do
    let [engine, bitLength, base, exponent, label, credentialKey] ← value.fields
      ["engine", "bit_length", "base", "exponent", "label", "idemix_issuer_pk"] | none
    return {
      engine := ← optional .bulletproof engine
      bitLength := ← optional 64 bitLength
      base := ← optional 100 base
      exponent := ← optional 2 exponent
      label := ← optional schemeLabel label
      credentialKey := ← optionalHex credentialKey }

def bulletproof (bitLength : UInt64) : SetupConfig :=
  { engine := .bulletproof, bitLength := bitLength }

def membership (base exponent : UInt64) : SetupConfig :=
  { engine := .membership, base := base, exponent := exponent }

def parse (text : Bytes) : Result SetupConfig := do
  let config : SetupConfig ← during "failed parsing setup configuration" (Json.read text)
  if config.label.isEmpty then
    throw (.invalidInput "setup configuration has an empty label")
  return config

end SetupConfig

end ConfidentialToken
