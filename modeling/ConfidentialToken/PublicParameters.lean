import ConfidentialToken.Bulletproof.Parameters
import ConfidentialToken.Bytes.Sha256
import ConfidentialToken.DigitRange.Parameters
import ConfidentialToken.Identity
import ConfidentialToken.IssuingPolicy
import ConfidentialToken.SetupConfig

/-!
Public parameters: all that is needed to produce and to check proofs.

Parameters are distributed in an envelope that bears their label. An update
gives new parameters, which have to be distributed anew.
-/

namespace ConfidentialToken

open Json

variable {S : Suite}

/-- The curves over which parameters can be generated. -/
inductive Curve where
  | bn254
deriving DecidableEq

instance : JsonForm Curve where
  toJson
    | .bn254 => .string "Bn254"
  fromJson value := do
    let "Bn254" ← value.variant? | none
    return .bn254

/-- The parameters in the form in which they are distributed. -/
structure Envelope where
  label : String
  content : Bytes
deriving DecidableEq

instance : JsonForm Envelope where
  toJson envelope := .object [
    ("Identifier", toJson envelope.label),
    ("Raw", hex envelope.content)]
  fromJson value := do
    let [label, content] ← value.fields ["Identifier", "Raw"] | none
    return { label := ← required label, content := ← requiredHex content }

structure PublicParameters (S : Suite) where
  /-- The name under which the parameters are distributed. -/
  label : String
  curve : Curve
  /-- The bases for types, for values and for blinding factors. -/
  pedersen : List S.G1
  /-- Present if values are proved over bits. -/
  bulletproof : Option (Bulletproof.Parameters S)
  /-- Present if values are proved over digits. -/
  membership : Option (DigitRange.Parameters S)
  /-- The key of the issuer of anonymous credentials. -/
  credentialKey : Bytes
  /-- The auditor, the empty identity if there is none. -/
  auditor : Identity
  /-- The issuers that are named when they issue; if there are none, anybody
  may. -/
  issuers : List Identity
  policy : IssuingPolicy S
  /-- The largest value of a token. -/
  maxToken : UInt64
  /-- The number of bits of a quantity. -/
  precision : UInt64

namespace PublicParameters

instance : JsonForm (PublicParameters S) where
  toJson parameters := .object [
    ("curve", toJson parameters.curve),
    ("pedersen_generators", toJson parameters.pedersen),
    ("range_proof_params", toJson parameters.bulletproof),
    ("membership_params", toJson parameters.membership),
    ("idemix_issuer_pk", hex parameters.credentialKey),
    ("auditor", toJson parameters.auditor),
    ("issuer_ids", toJson parameters.issuers),
    ("issuing_policy", toJson parameters.policy),
    ("max_token", toJson parameters.maxToken),
    ("quantity_precision", toJson parameters.precision)]
  fromJson value := do
    let [curve, pedersen, bulletproof, membership, credentialKey, auditor, issuers,
      policy, maxToken, precision] ← value.fields
      ["curve", "pedersen_generators", "range_proof_params", "membership_params",
        "idemix_issuer_pk", "auditor", "issuer_ids", "issuing_policy", "max_token",
        "quantity_precision"] | none
    return {
      label := ""
      curve := ← required curve
      pedersen := ← required pedersen
      bulletproof := ← optional none bulletproof
      membership := ← optional none membership
      credentialKey := ← optionalHex credentialKey
      auditor := ← optional ⟨[]⟩ auditor
      issuers := ← optional [] issuers
      policy := ← optional .empty policy
      maxToken := ← required maxToken
      precision := ← required precision }

def defaultPrecision : UInt64 :=
  64

/-- The largest value that the range proofs can cover. -/
def computeMaxToken (parameters : PublicParameters S) : UInt64 :=
  match parameters.membership, parameters.bulletproof with
  | some digits, _ => digits.maxValue
  | none, some bits => bits.maxValue
  | none, none => 0

def setup {R : Type} [RandomSource S R] (config : SetupConfig) :
    Sampling R (PublicParameters S) := do
  let pedersen ← Sampling.times 3 Sampling.g1
  let (bulletproof, membership) ← match config.engine with
    | .bulletproof => do
        let bits ← during "failed to generate range-proof parameters"
          (Bulletproof.Parameters.derive config.bitLength)
        pure (some bits, none)
    | .membership => do
        let digits ← Sampling.during "failed to generate membership parameters"
          (DigitRange.Parameters.generate config.base config.exponent)
        pure (none, some digits)
  let parameters : PublicParameters S := {
    label := config.label
    curve := .bn254
    pedersen := pedersen
    bulletproof := bulletproof
    membership := membership
    credentialKey := config.credentialKey
    auditor := ⟨[]⟩
    issuers := []
    policy := .empty
    maxToken := 0
    precision := defaultPrecision }
  return { parameters with maxToken := parameters.computeMaxToken }

def engine (parameters : PublicParameters S) : RangeEngine :=
  if parameters.membership.isSome then .membership else .bulletproof

def requireBulletproof (parameters : PublicParameters S) :
    Result (Bulletproof.Parameters S) :=
  match parameters.bulletproof with
  | some bits => .ok bits
  | none => .error (.invalidParameters "nil range proof parameters")

def requireMembership (parameters : PublicParameters S) :
    Result (DigitRange.Parameters S) :=
  match parameters.membership with
  | some digits => .ok digits
  | none => .error (.invalidParameters "nil membership parameters")

def auditors (parameters : PublicParameters S) : List Identity :=
  if parameters.auditor.isNone then [] else [parameters.auditor]

def withAuditor (parameters : PublicParameters S) (auditor : Identity) :
    PublicParameters S :=
  { parameters with auditor := auditor }

def withIssuer (parameters : PublicParameters S) (issuer : Identity) :
    PublicParameters S :=
  { parameters with issuers := parameters.issuers ++ [issuer] }

def withPolicy {R : Type} [RandomSource S R] (parameters : PublicParameters S)
    (keys : List S.G1) : Sampling R (PublicParameters S) := do
  return { parameters with policy := ← IssuingPolicy.ofKeys keys }

def serialize (parameters : PublicParameters S) : Bytes :=
  Json.write { label := parameters.label, content := Json.write parameters : Envelope }

/-- The parameters in an envelope that must bear a label. -/
def deserialize (text : Bytes) (label : String) : Result (PublicParameters S) := do
  let envelope : Envelope ← during "failed parsing public parameters" (Json.read text)
  if envelope.label ≠ label then
    throw (.invalidParameters
      s!"invalid identifier, expecting [{label}], got [{envelope.label}]")
  let parameters : PublicParameters S ← during "failed unmarshalling public parameters"
    (Json.read envelope.content)
  return { parameters with label := envelope.label }

def hash (parameters : PublicParameters S) : Bytes :=
  Sha256.digest parameters.serialize

/-- Whether exactly one construction of range proofs is configured, and it is
valid. -/
def validateEngine (parameters : PublicParameters S) : Result Unit :=
  match parameters.bulletproof, parameters.membership with
  | some bits, none => bits.validate
  | none, some digits => digits.validate
  | none, none => .error (.invalidParameters "nil range proof parameters")
  | some _, some _ =>
      .error (.invalidParameters "more than one range proof engine configured")

def validate (parameters : PublicParameters S) : Result Unit := do
  if parameters.pedersen.length ≠ 3 then
    throw (.invalidParameters
      s!"invalid pedersen generators: expect [3], got [{parameters.pedersen.length}]")
  if 0 ∈ parameters.pedersen then
    throw (.invalidParameters "invalid pedersen generators: generator is the identity")
  parameters.validateEngine
  if parameters.precision ≠ defaultPrecision then
    throw (.invalidParameters <|
      s!"quantity precision should be [{defaultPrecision}] instead it is " ++
      s!"[{parameters.precision}]")
  if parameters.computeMaxToken ≠ parameters.maxToken then
    throw (.invalidParameters
      s!"invalid max token, [{parameters.computeMaxToken}]!=[{parameters.maxToken}]")
  if !parameters.policy.keys.isEmpty then
    parameters.policy.validate

end PublicParameters

end ConfidentialToken
