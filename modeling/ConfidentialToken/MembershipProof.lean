import ConfidentialToken.Schnorr
import ConfidentialToken.SignatureKnowledge
import ConfidentialToken.Suite

/-!
Membership proofs: a commitment to a value over two bases hides a value for
which the prover knows a signature. With signatures on the elements of a set,
the value belongs to the set.
-/

namespace ConfidentialToken.MembershipProof

open Json PsSignature SignatureKnowledge

variable {S : Suite}

structure Proof (S : Suite) where
  challenge : S.Scalar
  signature : Signature S
  value : S.Scalar
  commitmentBlinding : S.Scalar
  signatureBlinding : S.Scalar
  hash : S.Scalar
  commitment : S.G1

instance : JsonForm (Proof S) where
  toJson proof := .object [
    ("challenge", toJson proof.challenge),
    ("signature", toJson proof.signature),
    ("value", toJson proof.value),
    ("com_blinding_factor", toJson proof.commitmentBlinding),
    ("sig_blinding_factor", toJson proof.signatureBlinding),
    ("hash", toJson proof.hash),
    ("commitment", toJson proof.commitment)]
  fromJson json := do
    let [challenge, signature, value, commitmentBlinding, signatureBlinding, hash,
      commitment] ←
      json.fields ["challenge", "signature", "value", "com_blinding_factor",
        "sig_blinding_factor", "hash", "commitment"] | none
    return {
      challenge := ← required challenge
      signature := ← required signature
      value := ← required value
      commitmentBlinding := ← required commitmentBlinding
      signatureBlinding := ← required signatureBlinding
      hash := ← required hash
      commitment := ← required commitment }

structure Statement (S : Suite) where
  parameters : Parameters S
  /-- The base for the value and the blinding base. -/
  pedersen : List S.G1
  commitment : S.G1

structure FirstMessages (S : Suite) where
  commitment : S.G1
  signature : S.Gt

namespace Statement

/-- Whether the parameters have the sizes for one message. -/
def checkSizes (statement : Statement S) : Result Unit := do
  if statement.parameters.keyParts.length ≠ 3 then
    throw (.invalidInput <|
      "membership proof requires a PS public key of length 3, got " ++
      s!"[{statement.parameters.keyParts.length}]")
  if statement.pedersen.length ≠ 2 then
    throw (.invalidInput <|
      "membership proof requires 2 Pedersen parameters, got " ++
      s!"[{statement.pedersen.length}]")

def transcript (statement : Statement S) (signature : Signature S)
    (first : FirstMessages S) : Bytes :=
  Transcript.encodeAll statement.pedersen ++ encode statement.commitment ++
    encode first.commitment ++ encode statement.parameters.blindingPoint ++
    Transcript.encodeAll statement.parameters.keyParts ++
    encode statement.parameters.keyBase ++ encode first.signature ++ encode signature.r ++
    encode signature.s

/-- The challenge for a randomized signature and first messages. -/
def challenge (statement : Statement S) (signature : Signature S)
    (first : FirstMessages S) : S.Scalar :=
  S.hashToScalar (statement.transcript signature first)

def recompute (statement : Statement S) (proof : Proof S) : Result (FirstMessages S) := do
  let signature ← statement.parameters.recompute {
    challenge := proof.challenge
    signature := proof.signature
    messages := [proof.value]
    hash := proof.hash
    blindingFactor := proof.signatureBlinding }
  let commitment ← Schnorr.recompute statement.pedersen {
    statement := statement.commitment
    responses := [proof.value, proof.commitmentBlinding]
    challenge := proof.challenge }
  return { commitment, signature }

def verify (statement : Statement S) (proof : Proof S) : Result Unit := do
  statement.checkSizes
  if proof.commitment ≠ statement.commitment then
    throw (.invalidProof "invalid membership proof")
  let first ← statement.recompute proof
  if statement.challenge proof.signature first ≠ proof.challenge then
    throw (.invalidProof "invalid membership proof")

end Statement

structure Witness (S : Suite) where
  signature : Signature S
  value : S.Scalar
  commitmentBlinding : S.Scalar

structure Randomness (S : Suite) where
  signatureBlinding : S.Scalar
  signatureFactor : S.Scalar
  value : S.Scalar
  hash : S.Scalar
  signatureBlindingResponse : S.Scalar
  commitmentBlinding : S.Scalar

def sample {R : Type} [RandomSource S R] : Sampling R (Randomness S) := do
  let signatureBlinding ← Sampling.scalar
  let signatureFactor ← Sampling.scalar
  let value ← Sampling.scalar
  let hash ← Sampling.scalar
  let signatureBlindingResponse ← Sampling.scalar
  let commitmentBlinding ← Sampling.scalar
  return { signatureBlinding, signatureFactor, value, hash, signatureBlindingResponse,
           commitmentBlinding }

def proveWith (statement : Statement S) (witness : Witness S)
    (randomness : Randomness S) : Result (Proof S) := do
  let parameters := statement.parameters
  let signature := obfuscateWith witness.signature parameters.blindingPoint
    randomness.signatureBlinding randomness.signatureFactor
  let commitment ← Pedersen.commit [randomness.value, randomness.commitmentBlinding]
    statement.pedersen
  let first : FirstMessages S := {
    commitment := commitment
    signature := parameters.linearSide signature.r [randomness.value] randomness.hash
      randomness.signatureBlindingResponse }
  let challenge := statement.challenge signature first
  let respond (secret blinding : S.Scalar) : S.Scalar := blinding + challenge * secret
  return {
    challenge := challenge
    signature := signature
    value := respond witness.value randomness.value
    commitmentBlinding := respond witness.commitmentBlinding randomness.commitmentBlinding
    hash := respond (hashMessages [witness.value]) randomness.hash
    signatureBlinding :=
      respond randomness.signatureBlinding randomness.signatureBlindingResponse
    commitment := statement.commitment }

def prove {R : Type} [RandomSource S R] (statement : Statement S) (witness : Witness S) :
    Sampling R (Proof S) := do
  statement.checkSizes
  let randomness ← sample
  proveWith statement witness randomness

end ConfidentialToken.MembershipProof
