import ConfidentialToken.Arithmetic
import ConfidentialToken.Json.Schema
import ConfidentialToken.Random.Source

/-!
Pointcheval–Sanders signatures on lists of scalars.

A key for `n` messages has `n + 2` parts: a constant part, one part for each
message, and one for a hash of all messages. A signature `(R, T)` satisfies `T =
e R`, where the exponent `e` is the value of the secret key at the messages and
their hash.
-/

namespace ConfidentialToken.PsSignature

open Json

variable {S : Suite}

/-- The value of a key at messages and their hash: the constant part, the parts
for the messages times the messages, and the last part times the hash. -/
def keyValue {F G : Type} [Zero G] [Add G] [SMul F G] (key : List G) (messages : List F)
    (hash : F) : G :=
  key.headD 0 + linearCombination key.tail messages + hash • key.getLastD 0

def hashMessages (messages : List S.Scalar) : S.Scalar :=
  S.hashToScalar (messages.flatMap fun message =>
    Bytes.bigEndian 32 (ScalarOperations.toNat message))

structure Signature (S : Suite) where
  r : S.G1
  s : S.G1

instance : JsonForm (Signature S) where
  toJson signature := .object [("r", toJson signature.r), ("s", toJson signature.s)]
  fromJson value := do
    let [r, s] ← value.fields ["r", "s"] | none
    return { r := ← required r, s := ← required s }

/-- Both parts of a signature multiplied by the same factor. -/
def Signature.scale (signature : Signature S) (factor : S.Scalar) : Signature S :=
  ⟨factor • signature.r, factor • signature.s⟩

/-- A signature on the same messages that cannot be linked to the given one. -/
def Signature.randomize {R : Type} [RandomSource S R] (signature : Signature S) :
    Sampling R (Signature S) := do
  return signature.scale (← Sampling.scalar)

/-- A key for the verification of signatures. -/
structure VerificationKey (S : Suite) where
  parts : List S.G2
  base : S.G2

instance : JsonForm (VerificationKey S) where
  toJson key := .object [("pk", toJson key.parts), ("q", toJson key.base)]
  fromJson value := do
    let [parts, base] ← value.fields ["pk", "q"] | none
    return { parts := ← required parts, base := ← required base }

namespace VerificationKey

def messageCount (key : VerificationKey S) : Nat :=
  key.parts.length - 2

/-- Whether a signature on the messages satisfies the pairing equation with the
given hash. -/
def verifyWithHash (key : VerificationKey S) (messages : List S.Scalar) (hash : S.Scalar)
    (signature : Signature S) : Result Unit :=
  if key.parts.length < 2 ∨ messages.length ≠ key.parts.length - 2 then
    .error (.invalidInput <|
      s!"PS signature cannot be verified: expect [{key.messageCount}] messages, " ++
      s!"got [{messages.length}]")
  else if signature.r = 0 then .error (.invalidProof "invalid signature")
  else if S.pairingSum
      [(signature.r, keyValue key.parts messages hash), (-signature.s, key.base)] ≠ 0 then
    .error (.invalidProof "invalid signature")
  else .ok ()

def verify (key : VerificationKey S) (messages : List S.Scalar)
    (signature : Signature S) : Result Unit :=
  key.verifyWithHash messages (hashMessages messages) signature

end VerificationKey

/-- A secret key with the key for verification. -/
structure KeyPair (S : Suite) where
  secret : List S.Scalar
  verification : VerificationKey S

namespace KeyPair

def ofSecret (base : S.G2) (secret : List S.Scalar) : KeyPair S :=
  ⟨secret, ⟨secret.map fun part => part • base, base⟩⟩

def generate {R : Type} [RandomSource S R] (count : Nat) : Sampling R (KeyPair S) := do
  let base ← Sampling.g2
  let secret ← Sampling.scalars (count + 2)
  return ofSecret base secret

/-- A key pair with given parts, which must be at least two and as many secret
as public ones. -/
def ofParts (secret : List S.Scalar) (parts : List S.G2) (base : S.G2) :
    Result (KeyPair S) :=
  if secret.length ≠ parts.length ∨ secret.length < 2 then
    .error (.invalidInput <|
      s!"invalid PS key pair: [{secret.length}] secret keys and [{parts.length}] " ++
      "public keys")
  else .ok ⟨secret, ⟨parts, base⟩⟩

def signWith (key : KeyPair S) (messages : List S.Scalar) (r : S.G1) : Signature S :=
  ⟨r, keyValue key.secret messages (hashMessages messages) • r⟩

def sign {R : Type} [RandomSource S R] (key : KeyPair S) (messages : List S.Scalar) :
    Sampling R (Signature S) := do
  if messages.length ≠ key.secret.length - 2 then
    throw (.invalidInput <|
      s!"PS signature cannot be generated: expect [{key.secret.length - 2}] " ++
      s!"messages, got [{messages.length}]")
  return key.signWith messages (← Sampling.g1)

end KeyPair

end ConfidentialToken.PsSignature
