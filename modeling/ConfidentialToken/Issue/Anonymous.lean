import ConfidentialToken.OneOutOfMany
import ConfidentialToken.PublicParameters
import ConfidentialToken.Schnorr
import ConfidentialToken.Token

/-!
Issuers that sign without being named.

An issuer with secret key `x` acts under a pseudonym, a commitment to `x` over
the base of its public key. A signature proves that the pseudonym and one of the
keys of the policy differ by a commitment to zero, and that the signer can open
the pseudonym and the commitment to the type.
-/

namespace ConfidentialToken.AnonymousIssuer

open Json

variable {S : Suite}

/-- The failure for parameters that do not have three generators. -/
def invalidGenerators : Error :=
  .invalidParameters "invalid pedersen generators"

structure Key (S : Suite) where
  secret : S.Scalar
  point : S.G1

def Key.ofSecret (parameters : PublicParameters S) (secret : S.Scalar) : Result (Key S) :=
  match parameters.pedersen with
  | [] => .error invalidGenerators
  | base :: _ => .ok ⟨secret, secret • base⟩

def Key.generate {R : Type} [RandomSource S R] (parameters : PublicParameters S) :
    Sampling R (Key S) := do
  Key.ofSecret parameters (← Sampling.scalar)

/-- The proof that a signer can open the pseudonym and the commitment to the
type. -/
structure TypeProof (S : Suite) where
  challenge : S.Scalar
  /-- The responses for the opening of the pseudonym. -/
  pseudonym : List S.Scalar
  /-- The responses for the opening of the commitment to the type. -/
  commitmentToType : List S.Scalar

instance : JsonForm (TypeProof S) where
  toJson proof := .object [
    ("challenge", toJson proof.challenge),
    ("nym", toJson proof.pseudonym),
    ("commitment_to_type", toJson proof.commitmentToType)]
  fromJson value := do
    let [challenge, pseudonym, commitmentToType] ← value.fields
      ["challenge", "nym", "commitment_to_type"] | none
    return {
      challenge := ← required challenge
      pseudonym := ← required pseudonym
      commitmentToType := ← required commitmentToType }

structure Signature (S : Suite) where
  authorization : OneOutOfMany.Proof S
  typeProof : TypeProof S

instance : JsonForm (Signature S) where
  toJson signature := .object [
    ("authorization_correctness", toJson signature.authorization),
    ("type_correctness", toJson signature.typeProof)]
  fromJson value := do
    let [authorization, typeProof] ← value.fields
      ["authorization_correctness", "type_correctness"] | none
    return {
      authorization := ← required authorization
      typeProof := ← required typeProof }

def Signature.deserialize (text : Bytes) : Result (Signature S) :=
  during "failed to unmarshal anonymous issuer signature" (Json.read text)

/-- The identity of an issuer that acts under a pseudonym. -/
def identity (pseudonym : S.G1) : Identity :=
  ⟨encode pseudonym⟩

def pseudonym (identity : Identity) : Result S.G1 :=
  during "failed to unmarshal issuer pseudonym" (decodeElement identity.bytes)

structure VerificationKey (S : Suite) where
  pseudonym : S.G1
  commitmentToType : S.G1
  /-- The keys of the policy, random points included. -/
  keys : List S.G1
  bitLength : UInt64
  /-- The base for secret keys and types. -/
  g : S.G1
  /-- The base for blinding factors. -/
  h : S.G1

namespace VerificationKey

/-- The key for a pseudonym and a commitment to a type under the policy of
public parameters. -/
def ofParameters (parameters : PublicParameters S) (pseudonym commitmentToType : S.G1) :
    Result (VerificationKey S) := do
  let policy := parameters.policy
  if policy.keys.isEmpty then
    throw (.invalidParameters "no anonymous issuers are authorized")
  policy.validate
  let [g, _, h] := parameters.pedersen | throw invalidGenerators
  return {
    pseudonym := pseudonym
    commitmentToType := commitmentToType
    keys := policy.keys
    bitLength := policy.bitLength
    g := g
    h := h }

/-- The statement that the pseudonym and one of the keys differ by a commitment
to zero. -/
def authorization (key : VerificationKey S) (message : Bytes) :
    OneOutOfMany.Statement S where
  commitments := key.keys.map (key.pseudonym - ·)
  message := message
  pedersen := [key.g, key.h]
  bitLength := key.bitLength

/-- The bytes whose hash is the challenge of the proof of openings. -/
def transcript (key : VerificationKey S) (first : S.G1 × S.G1) (message : Bytes) :
    Bytes :=
  encode key.g ++ encode key.h ++ encode key.pseudonym ++ encode key.commitmentToType ++
    encode first.1 ++ encode first.2 ++ message

def challenge (key : VerificationKey S) (first : S.G1 × S.G1) (message : Bytes) :
    S.Scalar :=
  S.hashToScalar (key.transcript first message)

/-- The first messages of the prover to which the responses of a proof of
openings belong. -/
def recompute (key : VerificationKey S) (proof : TypeProof S) : S.G1 × S.G1 :=
  (Schnorr.firstMessage [key.g, key.h] key.pseudonym proof.pseudonym proof.challenge,
   Schnorr.firstMessage [key.g, key.h] key.commitmentToType proof.commitmentToType
     proof.challenge)

def verifyType (key : VerificationKey S) (message : Bytes) (proof : TypeProof S) :
    Result Unit :=
  if proof.pseudonym.length ≠ 2 ∨ proof.commitmentToType.length ≠ 2 then
    .error (.invalidInput "type correctness proof not well formed")
  else if key.challenge (key.recompute proof) message ≠ proof.challenge then
    .error (.invalidProof "invalid type correctness proof")
  else .ok ()

def verify (key : VerificationKey S) (message : Bytes) (signature : Signature S) :
    Result Unit := do
  during "anonymous issuer is not authorized"
    ((key.authorization message).verify signature.authorization)
  key.verifyType message signature.typeProof

def verifier (key : VerificationKey S) : Verifier := fun message text => do
  key.verify message (← Signature.deserialize text)

end VerificationKey

/-- An issuer under a pseudonym, with what is hidden in it and in the commitment
to the type. -/
structure SigningKey (S : Suite) where
  key : Key S
  /-- The index of the public key in the policy. -/
  index : UInt64
  pseudonymBlinding : S.Scalar
  tokenType : S.Scalar
  typeBlinding : S.Scalar
  verification : VerificationKey S

namespace SigningKey

/-- The index of a key among the issuers of a policy. -/
def indexOf (policy : IssuingPolicy S) (key : Key S) : Result UInt64 :=
  match (policy.keys.take policy.issuerCount.toNat).findIdx? (· = key.point) with
  | some index => .ok (.ofNat index)
  | none => .error (.identity "issuer key is not part of the issuing policy")

/-- An issuer under the pseudonym with a given blinding factor. -/
def ofBlinding (parameters : PublicParameters S) (key : Key S) (tokenType : String)
    (typeCommitment : TypeCommitment S) (blinding : S.Scalar) :
    Result (SigningKey S) := do
  let index ← indexOf parameters.policy key
  let [g, _, h] := parameters.pedersen | throw invalidGenerators
  let verification ← VerificationKey.ofParameters parameters
    (key.secret • g + blinding • h) typeCommitment.commitment
  return {
    key := key
    index := index
    pseudonymBlinding := blinding
    tokenType := typeScalar tokenType
    typeBlinding := typeCommitment.blindingFactor
    verification := verification }

def generate {R : Type} [RandomSource S R] (parameters : PublicParameters S)
    (key : Key S) (tokenType : String) (typeCommitment : TypeCommitment S) :
    Sampling R (SigningKey S) := do
  ofBlinding parameters key tokenType typeCommitment (← Sampling.scalar)

def identity (signer : SigningKey S) : Identity :=
  AnonymousIssuer.identity signer.verification.pseudonym

/-- The proof of openings with given random scalars, two for each opening. -/
def proveType (signer : SigningKey S) (message : Bytes)
    (pseudonymRandomness typeRandomness : List S.Scalar) : TypeProof S :=
  let key := signer.verification
  let challenge := key.challenge
    (linearCombination [key.g, key.h] pseudonymRandomness,
     linearCombination [key.g, key.h] typeRandomness) message
  { challenge := challenge
    pseudonym := Schnorr.respond challenge [signer.key.secret, signer.pseudonymBlinding]
      pseudonymRandomness
    commitmentToType := Schnorr.respond challenge [signer.tokenType, signer.typeBlinding]
      typeRandomness }

def sign {R : Type} [RandomSource S R] (signer : SigningKey S) (message : Bytes) :
    Sampling R (Signature S) := do
  let authorization ← Sampling.during "failed to prove issuer authorization"
    (OneOutOfMany.prove (signer.verification.authorization message)
      ⟨signer.index, signer.pseudonymBlinding⟩)
  let pseudonymRandomness ← Sampling.scalars 2
  let typeRandomness ← Sampling.scalars 2
  return {
    authorization := authorization
    typeProof := signer.proveType message pseudonymRandomness typeRandomness }

/-- The issuer as a signer that draws from a given source. -/
def signer {R : Type} [RandomSource S R] (signer : SigningKey S) (source : R) :
    Signer where
  sign message := (signer.sign message source).map fun (signature, _) =>
    Json.write signature
  identity := .ok signer.identity

end SigningKey

end ConfidentialToken.AnonymousIssuer
