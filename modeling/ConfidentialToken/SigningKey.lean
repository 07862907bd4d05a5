import ConfidentialToken.HashLock
import ConfidentialToken.Random.Source
import ConfidentialToken.Suite

/-!
Signing keys and the identities that stand for them.

A signature is a Schnorr signature whose nonce is the hash of the secret key and
the message. The identity of a key is a typed identity around the encoded public
key, and it is its own audit information.
-/

namespace ConfidentialToken

open Json

variable {S : Suite}

structure KeySignature (S : Suite) where
  challenge : S.Scalar
  response : S.Scalar

instance : JsonForm (KeySignature S) where
  toJson signature := .object [
    ("challenge", toJson signature.challenge),
    ("response", toJson signature.response)]
  fromJson value := do
    let [challenge, response] ← value.fields ["challenge", "response"] | none
    return { challenge := ← required challenge, response := ← required response }

/-- A key for the verification of signatures. -/
structure PublicKey (S : Suite) where
  point : S.G1

namespace PublicKey

variable (S) in
def base : S.G1 :=
  S.hashToG1 (Bytes.ofText "zkatdlog.identity.generator")

def transcript (key : PublicKey S) (firstMessage : S.G1) (message : Bytes) : Bytes :=
  encode key.point ++ encode firstMessage ++ message

def challenge (key : PublicKey S) (firstMessage : S.G1) (message : Bytes) : S.Scalar :=
  S.hashToScalar (key.transcript firstMessage message)

/-- The first message of the signer to which a signature belongs. -/
def recompute (key : PublicKey S) (signature : KeySignature S) : S.G1 :=
  signature.response • base S - signature.challenge • key.point

def accepts (key : PublicKey S) (message : Bytes) (signature : KeySignature S) : Bool :=
  key.challenge (key.recompute signature) message = signature.challenge

def verifier (key : PublicKey S) : Verifier := fun message text => do
  let signature :
    KeySignature S ← during "failed unmarshalling signature" (Json.read text)
  if !key.accepts message signature then
    throw (.identity "invalid signature")

def identity (key : PublicKey S) : Identity :=
  TypedIdentity.serialize ⟨publicKeyScheme, encode key.point⟩

end PublicKey

structure SigningKey (S : Suite) where
  secret : S.Scalar

namespace SigningKey

def generate {R : Type} [RandomSource S R] : Sampling R (SigningKey S) :=
  return ⟨← Sampling.scalar⟩

def publicKey (key : SigningKey S) : PublicKey S :=
  ⟨key.secret • PublicKey.base S⟩

def identity (key : SigningKey S) : Identity :=
  key.publicKey.identity

def nonce (key : SigningKey S) (message : Bytes) : S.Scalar :=
  S.hashToScalar (encode key.secret ++ message)

def signWith (key : SigningKey S) (nonce : S.Scalar) (message : Bytes) : KeySignature S :=
  let challenge := key.publicKey.challenge (nonce • PublicKey.base S) message
  ⟨challenge, nonce + challenge * key.secret⟩

def sign (key : SigningKey S) (message : Bytes) : KeySignature S :=
  key.signWith (key.nonce message) message

def signer (key : SigningKey S) : Signer where
  sign message := .ok (Json.write (key.sign message))
  identity := .ok key.identity

end SigningKey

def equalityMatcher (expected : Bytes) : Matcher := fun identity =>
  if expected = identity then .ok ()
  else .error (.identity "identity does not match the audit info")

namespace PublicKey

variable (S) in
def ofIdentity (identity : Bytes) : Result (PublicKey S) := do
  match ← IdentityKind.resolve identity with
  | .publicKey key =>
      return ⟨← during "failed deserializing public key" (decodeElement key)⟩
  | .credential _ => throw (.identity "idemix identities are not supported")
  | .walletLabel label =>
      throw (.identity s!"cannot get verifier for wallet label [{label}]")

variable (S) in
/-- The verifier of the owner of a token: of a public key, or of a script
between two of them. -/
def ownerVerifier (now : UInt64) (owner : Identity) : Result Verifier := do
  match ← HashLock.Script.ofOwner owner.bytes with
  | some script =>
      let sender ← during
        "failed to unmarshal the identity of the sender in the htlc script"
        (ofIdentity S script.sender.bytes)
      let recipient ← during
        "failed to unmarshal the identity of the recipient in the htlc script"
        (ofIdentity S script.recipient.bytes)
      return script.verifier sender.verifier recipient.verifier now
  | none => return (← ofIdentity S owner.bytes).verifier

variable (S) in
/-- The verifiers that identities stand for at a time. -/
def deserializer (now : UInt64) : Deserializer where
  owner := ownerVerifier S now
  issuer identity := return (← ofIdentity S identity.bytes).verifier
  auditor identity := return (← ofIdentity S identity.bytes).verifier

end PublicKey

/-- The matcher that audit information stands for: of a script if it names two
parties, of one identity otherwise. -/
def ownerMatcher : MatcherDeserializer := fun info =>
  match (Json.read? info : Option HashLock.AuditInfo) with
  | some parties =>
      .ok (HashLock.scriptMatcher (equalityMatcher parties.sender)
        (equalityMatcher parties.recipient))
  | none => .ok (equalityMatcher info)

end ConfidentialToken
