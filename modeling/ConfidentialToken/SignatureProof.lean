import ConfidentialToken.Schnorr
import ConfidentialToken.SignatureKnowledge
import ConfidentialToken.Suite

/-!
Proofs of knowledge of a signature on messages some of which are disclosed.

The hidden messages are bound to a Pedersen commitment. The disclosed ones enter
the equation of the signature as fixed values.
-/

namespace ConfidentialToken.SignatureProof

open Json PsSignature SignatureKnowledge

variable {S : Suite}

structure Proof (S : Suite) where
  challenge : S.Scalar
  hidden : List S.Scalar
  hash : S.Scalar
  signature : Signature S
  signatureBlinding : S.Scalar
  commitmentBlinding : S.Scalar
  commitment : S.G1

instance : JsonForm (Proof S) where
  toJson proof := .object [
    ("challenge", toJson proof.challenge),
    ("hidden", toJson proof.hidden),
    ("hash", toJson proof.hash),
    ("signature", toJson proof.signature),
    ("sig_blinding_factor", toJson proof.signatureBlinding),
    ("com_blinding_factor", toJson proof.commitmentBlinding),
    ("commitment", toJson proof.commitment)]
  fromJson value := do
    let [challenge, hidden, hash, signature, signatureBlinding, commitmentBlinding,
      commitment] ←
      value.fields ["challenge", "hidden", "hash", "signature", "sig_blinding_factor",
        "com_blinding_factor", "commitment"] | none
    return {
      challenge := ← required challenge
      hidden := ← required hidden
      hash := ← required hash
      signature := ← required signature
      signatureBlinding := ← required signatureBlinding
      commitmentBlinding := ← required commitmentBlinding
      commitment := ← required commitment }

structure Statement (S : Suite) where
  parameters : Parameters S
  hiddenIndices : List UInt64
  disclosedIndices : List UInt64
  disclosed : List S.Scalar
  /-- A base for each hidden message, then the blinding base. -/
  pedersen : List S.G1
  commitment : S.G1

structure FirstMessages (S : Suite) where
  commitment : S.G1
  signature : S.Gt

/-- The failure for an index that belongs to no message. -/
def indexOutOfBounds (index : UInt64) : Error :=
  .invalidInput s!"message index [{index}] out of bounds"

/-- Writes values at indices of a list, the last of equal indices winning. -/
def place {α : Type} (messages : List α) : List (UInt64 × α) → Result (List α)
  | [] => .ok messages
  | (index, value) :: rest =>
      if index.toNat < messages.length then place (messages.set index.toNat value) rest
      else .error (indexOutOfBounds index)

namespace Statement

def transcript (statement : Statement S) (signature : Signature S)
    (first : FirstMessages S) : Bytes :=
  Transcript.encodeAll statement.pedersen ++ encode statement.commitment ++
    encode first.commitment ++ encode statement.parameters.blindingPoint ++
    Transcript.encodeAll statement.parameters.keyParts ++
    encode statement.parameters.keyBase ++ encode first.signature ++ encode signature.r ++
    encode signature.s

/-- The challenge for a randomized signature and first messages. -/
def challenge (statement : Statement S) (signature : Signature S)
    (first : FirstMessages S) : S.Scalar :=
  S.hashToScalar (statement.transcript signature first)

/-- The responses for all messages in order: those of the proof for the hidden
ones, and the challenge times the message for the disclosed ones. -/
def messageResponses (statement : Statement S) (proof : Proof S) :
    Result (List S.Scalar) := do
  let messages := List.replicate (statement.parameters.keyParts.length - 2) (0 : S.Scalar)
  let messages ← place messages (statement.hiddenIndices.zip proof.hidden)
  place messages (statement.disclosedIndices.zip
    (statement.disclosed.map fun message => message * proof.challenge))

def recompute (statement : Statement S) (proof : Proof S) : Result (FirstMessages S) := do
  if proof.hidden.length + statement.disclosed.length ≠
    statement.parameters.keyParts.length - 2 ∨
      proof.hidden.length ≠ statement.hiddenIndices.length ∨
      statement.disclosed.length ≠ statement.disclosedIndices.length then
    throw (.invalidInput
      "length of signature public key does not match number of signed messages")
  let commitment ← Schnorr.recompute statement.pedersen {
    statement := statement.commitment
    responses := proof.hidden ++ [proof.commitmentBlinding]
    challenge := proof.challenge }
  let messages ← statement.messageResponses proof
  let signature ← during "failed to verify signature proof" <|
    statement.parameters.recompute {
    challenge := proof.challenge
    signature := proof.signature
    messages := messages
    hash := proof.hash
    blindingFactor := proof.signatureBlinding }
  return { commitment, signature }

def verify (statement : Statement S) (proof : Proof S) : Result Unit := do
  if proof.commitment ≠ statement.commitment then
    throw (.invalidProof "invalid signature proof")
  let first ← statement.recompute proof
  if statement.challenge proof.signature first ≠ proof.challenge then
    throw (.invalidProof "invalid signature proof")

end Statement

structure Witness (S : Suite) where
  hidden : List S.Scalar
  hash : S.Scalar
  signature : Signature S
  commitmentBlinding : S.Scalar

structure Randomness (S : Suite) where
  signatureBlinding : S.Scalar
  signatureFactor : S.Scalar
  hidden : List S.Scalar
  hash : S.Scalar
  commitmentBlinding : S.Scalar
  signatureBlindingResponse : S.Scalar

/-- Draws the random scalars of a proof about `count` hidden messages. -/
def sample {R : Type} [RandomSource S R] (count : Nat) : Sampling R (Randomness S) := do
  let signatureBlinding ← Sampling.scalar
  let signatureFactor ← Sampling.scalar
  let hidden ← Sampling.scalars count
  let hash ← Sampling.scalar
  let commitmentBlinding ← Sampling.scalar
  let signatureBlindingResponse ← Sampling.scalar
  return { signatureBlinding, signatureFactor, hidden, hash, commitmentBlinding,
           signatureBlindingResponse }

/-- The failure of a prover whose witness does not fit the statement. -/
def checkSizes (statement : Statement S) (witness : Witness S) : Result Unit := do
  if statement.hiddenIndices.length ≠ witness.hidden.length ∨
      statement.disclosedIndices.length ≠ statement.disclosed.length then
    throw (.invalidInput "witness is not of the right size")
  if statement.pedersen.length ≠ witness.hidden.length + 1 then
    throw (.invalidInput "size of witness does not match length of Pedersen parameters")
  if statement.parameters.keyParts.length ≠
      witness.hidden.length + statement.disclosed.length + 2 then
    throw (.invalidInput
      "size of signature public key does not match the size of the witness")

/-- The parts of a key for the hidden messages. Indices are words, so the one
after the last word is the first. -/
def hiddenParts (statement : Statement S) : Result (List S.G2) :=
  statement.hiddenIndices.mapM fun index =>
    match statement.parameters.keyParts[(index + 1).toNat]? with
    | some part => .ok part
    | none => .error (indexOutOfBounds index)

def proveWith (statement : Statement S) (witness : Witness S)
    (randomness : Randomness S) : Result (Proof S) := do
  let parameters := statement.parameters
  let signature := obfuscateWith witness.signature parameters.blindingPoint
    randomness.signatureBlinding randomness.signatureFactor
  let commitment ← Pedersen.commit (randomness.hidden ++ [randomness.commitmentBlinding])
    statement.pedersen
  let parts ← hiddenParts statement
  let keyValue := randomness.hash • parameters.keyParts.getLastD 0 +
    linearCombination parts randomness.hidden
  let first : FirstMessages S := {
    commitment := commitment
    signature := S.pairingSum [
      (signature.r, keyValue),
      (randomness.signatureBlindingResponse • parameters.blindingPoint,
        parameters.keyBase)] }
  let challenge := statement.challenge signature first
  let respond (secret blinding : S.Scalar) : S.Scalar := blinding + challenge * secret
  return {
    challenge := challenge
    hidden := Schnorr.respond challenge witness.hidden randomness.hidden
    commitmentBlinding := respond witness.commitmentBlinding randomness.commitmentBlinding
    signatureBlinding :=
      respond randomness.signatureBlinding randomness.signatureBlindingResponse
    hash := respond witness.hash randomness.hash
    signature := signature
    commitment := statement.commitment }

/-- Proves knowledge of a signature on the disclosed and the hidden messages. -/
def prove {R : Type} [RandomSource S R] (statement : Statement S) (witness : Witness S) :
    Sampling R (Proof S) := do
  checkSizes statement witness
  let randomness ← sample witness.hidden.length
  proveWith statement witness randomness

end ConfidentialToken.SignatureProof
