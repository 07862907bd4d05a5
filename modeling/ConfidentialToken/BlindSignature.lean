import ConfidentialToken.ElGamal
import ConfidentialToken.PsSignature
import ConfidentialToken.Suite

/-!
Blind Pointcheval–Sanders signatures.

The recipient commits to its messages, encrypts the multiples of a point by
them, and proves that the ciphertexts and the commitment hide the same messages.
The point depends on the commitment. The signer checks the proof and answers
with an encryption of the second part of a signature, without having seen the
messages.
-/

namespace ConfidentialToken.BlindSignature

open Json ElGamal PsSignature

variable {S : Suite}

/-- Responses that show that ciphertexts and a commitment hide the same
messages. -/
structure EncryptionProof (S : Suite) where
  messages : List S.Scalar
  encryptionRandomness : List S.Scalar
  blindingFactor : S.Scalar
  challenge : S.Scalar

instance : JsonForm (EncryptionProof S) where
  toJson proof := .object [
    ("messages", toJson proof.messages),
    ("enc_randomness", toJson proof.encryptionRandomness),
    ("com_blinding_factor", toJson proof.blindingFactor),
    ("challenge", toJson proof.challenge)]
  fromJson value := do
    let [messages, encryptionRandomness, blindingFactor, challenge] ← value.fields
      ["messages", "enc_randomness", "com_blinding_factor", "challenge"] | none
    return {
      messages := ← required messages
      encryptionRandomness := ← required encryptionRandomness
      blindingFactor := ← required blindingFactor
      challenge := ← required challenge }

/-- What a recipient sends to a signer. -/
structure Request (S : Suite) where
  commitment : S.G1
  ciphertexts : List (Ciphertext S)
  /-- The JSON text of an encryption proof. -/
  proof : Bytes
  encryptionKey : PublicKey S

instance : JsonForm (Request S) where
  toJson request := .object [
    ("commitment", toJson request.commitment),
    ("ciphertexts", toJson request.ciphertexts),
    ("proof", hex request.proof),
    ("enc_pk", toJson request.encryptionKey)]
  fromJson value := do
    let [commitment, ciphertexts, proof, encryptionKey] ← value.fields
      ["commitment", "ciphertexts", "proof", "enc_pk"] | none
    return {
      commitment := ← required commitment
      ciphertexts := ← required ciphertexts
      proof := ← proof.bind ofHex
      encryptionKey := ← required encryptionKey }

structure Response (S : Suite) where
  hash : S.Scalar
  ciphertext : Ciphertext S

instance : JsonForm (Response S) where
  toJson response := .object [
    ("hash", toJson response.hash),
    ("ciphertext", toJson response.ciphertext)]
  fromJson value := do
    let [hash, ciphertext] ← value.fields ["hash", "ciphertext"] | none
    return { hash := ← required hash, ciphertext := ← required ciphertext }

/-- The point whose multiples by the messages are encrypted. -/
def signaturePoint (commitment : S.G1) : S.G1 :=
  S.hashToG1 (encode commitment)

/-- What an encryption proof is about. -/
structure Statement (S : Suite) where
  /-- A base for each message, then the blinding base. -/
  pedersen : List S.G1
  commitment : S.G1
  ciphertexts : List (Ciphertext S)
  encryptionKey : PublicKey S

/-- The first messages of an encryption proof. -/
structure FirstMessages (S : Suite) where
  c1 : List S.G1
  c2 : List S.G1
  commitment : S.G1

namespace Statement

def transcript (statement : Statement S) (first : FirstMessages S) : Bytes :=
  Transcript.encodeAll statement.pedersen ++ encode statement.encryptionKey.generator ++
    encode statement.encryptionKey.multiple ++
    (statement.ciphertexts.flatMap fun ciphertext =>
      encode ciphertext.c1 ++ encode ciphertext.c2) ++
    encode statement.commitment ++ Transcript.encodeAll first.c1 ++
    Transcript.encodeAll first.c2 ++ encode first.commitment

def challenge (statement : Statement S) (first : FirstMessages S) : S.Scalar :=
  S.hashToScalar (statement.transcript first)

/-- The first messages to which the responses of a proof belong. -/
def recompute (statement : Statement S) (proof : EncryptionProof S) : FirstMessages S :=
  let point := signaturePoint statement.commitment
  let key := statement.encryptionKey
  { c1 := List.zipWith
      (fun (ciphertext : Ciphertext S) randomness =>
        randomness • key.generator - proof.challenge • ciphertext.c1)
      statement.ciphertexts proof.encryptionRandomness
    c2 := List.zipWith
      (fun (ciphertext : Ciphertext S) (responses : S.Scalar × S.Scalar) =>
        responses.2 • key.multiple + responses.1 • point -
          proof.challenge • ciphertext.c2)
      statement.ciphertexts (proof.messages.zip proof.encryptionRandomness)
    commitment :=
      linearCombination statement.pedersen (proof.messages ++ [proof.blindingFactor]) -
        proof.challenge • statement.commitment }

def verify (statement : Statement S) (text : Bytes) : Result Unit := do
  if statement.pedersen.isEmpty then
    throw (.invalidInput "failed to verify encryption proof: missing Pedersen parameters")
  let count := statement.pedersen.length - 1
  if statement.ciphertexts.length ≠ count then
    throw (.invalidInput <|
      "failed to verify encryption proof: number of ciphertexts is different " ++
      s!"from [{count}]")
  let some (proof : EncryptionProof S) := Json.read? text
    | throw (.serialization "failed to unmarshal encryption proof")
  if proof.messages.length ≠ count ∨ proof.encryptionRandomness.length ≠ count then
    throw (.invalidInput
      s!"failed to verify encryption proof: number of proofs is different from [{count}]")
  if statement.challenge (statement.recompute proof) ≠ proof.challenge then
    throw (.invalidProof "verification of encryption correctness failed")

end Statement

/-- The party that wants a signature on its messages. -/
structure Recipient (S : Suite) where
  messages : List S.Scalar
  blindingFactor : S.Scalar
  commitment : S.G1
  encryptionKey : SecretKey S
  /-- A base for each message, then the blinding base. -/
  pedersen : List S.G1
  signatureKey : VerificationKey S

/-- The random scalars of an encryption proof. -/
structure ProofRandomness (S : Suite) where
  blindingFactor : S.Scalar
  messages : List S.Scalar
  encryption : List S.Scalar

namespace Recipient

/-- Draws the random scalars of an encryption proof. -/
def sample {R : Type} [RandomSource S R] (count : Nat) :
    Sampling R (ProofRandomness S) := do
  let blindingFactor ← Sampling.scalar
  let messages ← Sampling.scalars count
  let encryption ← Sampling.scalars count
  return { blindingFactor, messages, encryption }

def statement (recipient : Recipient S) (ciphertexts : List (Ciphertext S)) :
    Statement S where
  pedersen := recipient.pedersen
  commitment := recipient.commitment
  ciphertexts := ciphertexts
  encryptionKey := recipient.encryptionKey.publicKey

def firstMessages (recipient : Recipient S) (randomness : ProofRandomness S) :
    FirstMessages S :=
  let point := signaturePoint recipient.commitment
  let key := recipient.encryptionKey.publicKey
  { c1 := randomness.encryption.map fun r => r • key.generator
    c2 := List.zipWith (fun message r => message • point + r • key.multiple)
      randomness.messages randomness.encryption
    commitment := linearCombination recipient.pedersen
      (randomness.messages ++ [randomness.blindingFactor]) }

/-- The proof about ciphertexts that were made with `encryptionRandomness`. -/
def proveWith (recipient : Recipient S) (ciphertexts : List (Ciphertext S))
    (encryptionRandomness : List S.Scalar) (randomness : ProofRandomness S) :
    EncryptionProof S :=
  let challenge :=
    (recipient.statement ciphertexts).challenge (recipient.firstMessages randomness)
  { messages := List.zipWith (fun r message => r + challenge * message)
      randomness.messages recipient.messages
    encryptionRandomness := List.zipWith (fun r secret => r + challenge * secret)
      randomness.encryption encryptionRandomness
    blindingFactor := randomness.blindingFactor + challenge * recipient.blindingFactor
    challenge := challenge }

/-- Encrypts the messages and proves that the commitment hides the same ones. -/
def request {R : Type} [RandomSource S R] (recipient : Recipient S) :
    Sampling R (Request S) := do
  let point := signaturePoint recipient.commitment
  let key := recipient.encryptionKey.publicKey
  let encrypted ← recipient.messages.mapM fun message => key.encrypt (message • point)
  let ciphertexts := encrypted.map Prod.fst
  let encryptionRandomness := encrypted.map Prod.snd
  if recipient.messages.length + 1 ≠ recipient.pedersen.length then
    throw (.context "failed to generate blind signature request"
      (.invalidInput "cannot generate encryption proof"))
  let randomness ← sample recipient.messages.length
  let proof := recipient.proveWith ciphertexts encryptionRandomness randomness
  return {
    commitment := recipient.commitment
    ciphertexts := ciphertexts
    proof := Json.write proof
    encryptionKey := key }

/-- Decrypts an answer and checks the signature in it. -/
def signature (recipient : Recipient S) (response : Response S) :
    Result (Signature S) := do
  let signature : Signature S :=
    ⟨signaturePoint recipient.commitment,
      recipient.encryptionKey.decrypt response.ciphertext⟩
  recipient.signatureKey.verifyWithHash recipient.messages response.hash signature
  return signature

end Recipient

/-- The ciphertext that encrypts the value of a secret key at the encrypted
messages. -/
def evaluateEncrypted (secret : List S.Scalar) (point : S.G1)
    (ciphertexts : List (Ciphertext S)) (hash : S.Scalar) : Ciphertext S :=
  { c1 := linearCombination (ciphertexts.map Ciphertext.c1) secret.tail
    c2 :=
      secret.headD 0 • point +
      linearCombination (ciphertexts.map Ciphertext.c2) secret.tail +
      (hash * secret.getLastD 0) • point }

def sign (key : KeyPair S) (pedersen : List S.G1) (request : Request S) :
    Result (Response S) := do
  let count := key.secret.length - 2
  if request.ciphertexts.length ≠ count then
    throw (.invalidInput <|
      "number of ciphertexts in blind signature request does not match number " ++
      s!"of public keys: expect [{count}], got [{request.ciphertexts.length}]")
  let statement : Statement S := {
    pedersen := pedersen
    commitment := request.commitment
    ciphertexts := request.ciphertexts
    encryptionKey := request.encryptionKey }
  statement.verify request.proof
  let hash := S.hashToScalar request.proof
  return {
    hash := hash
    ciphertext := evaluateEncrypted key.secret (signaturePoint request.commitment)
      request.ciphertexts hash }

end ConfidentialToken.BlindSignature
