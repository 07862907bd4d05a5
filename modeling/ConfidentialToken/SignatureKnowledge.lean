import ConfidentialToken.PsSignature

/-!
Proofs of knowledge of a Pointcheval–Sanders signature.

The prover randomizes its signature `(R, T)` and adds a random multiple of a
point to `T`. That the result comes from a signature is an equation in the
target group, linear in the messages, the hash and the factor of the point; its
opening is proven as with Schnorr's proofs.
-/

namespace ConfidentialToken.SignatureKnowledge

open Json PsSignature

variable {S : Suite}

/-- The public data of the equation: the blinding point and the parts of a
verification key. -/
structure Parameters (S : Suite) where
  blindingPoint : S.G1
  keyBase : S.G2
  keyParts : List S.G2

instance : JsonForm (Parameters S) where
  toJson parameters := .object [
    ("p", toJson parameters.blindingPoint),
    ("q", toJson parameters.keyBase),
    ("pk", toJson parameters.keyParts)]
  fromJson value := do
    let [blindingPoint, keyBase, keyParts] ← value.fields ["p", "q", "pk"] | none
    return {
      blindingPoint := ← required blindingPoint
      keyBase := ← required keyBase
      keyParts := ← required keyParts }

structure Responses (S : Suite) where
  challenge : S.Scalar
  signature : Signature S
  messages : List S.Scalar
  hash : S.Scalar
  blindingFactor : S.Scalar

namespace Parameters

/-- The part of a key value that depends on the messages and their hash. -/
def messagePart (parameters : Parameters S) (messages : List S.Scalar)
    (hash : S.Scalar) : S.G2 :=
  hash • parameters.keyParts.getLastD 0 +
    linearCombination parameters.keyParts.tail messages

/-- The value of the linear side of the equation for the first part `r` of a
signature. -/
def linearSide (parameters : Parameters S) (r : S.G1) (messages : List S.Scalar)
    (hash blindingFactor : S.Scalar) : S.Gt :=
  S.pairingSum [
    (r, parameters.messagePart messages hash),
    (blindingFactor • parameters.blindingPoint, parameters.keyBase)]

/-- The value of the other side of the equation, which depends on the signature
only. -/
def statement (parameters : Parameters S) (signature : Signature S) : S.Gt :=
  S.pairingSum [
    (signature.s, parameters.keyBase),
    (-signature.r, parameters.keyParts.headD 0)]

/-- The first message of the prover to which responses belong. -/
def firstMessage (parameters : Parameters S) (responses : Responses S) : S.Gt :=
  parameters.linearSide responses.signature.r responses.messages responses.hash
      responses.blindingFactor -
    responses.challenge • parameters.statement responses.signature

def recompute (parameters : Parameters S) (responses : Responses S) : Result S.Gt :=
  if parameters.keyParts.length < 2 ∨
      responses.messages.length ≠ parameters.keyParts.length - 2 then
    .error (.invalidInput <|
      "length of signature public key does not match number of signed messages: " ++
      s!"expect [{parameters.keyParts.length - 2}], got [{responses.messages.length}]")
  else .ok (parameters.firstMessage responses)

end Parameters

/-- The signature multiplied by `factor`, its second part hidden behind a
multiple of a point. -/
def obfuscateWith (signature : Signature S) (blindingPoint : S.G1)
    (blindingFactor factor : S.Scalar) : Signature S :=
  let scaled := signature.scale factor
  ⟨scaled.r, scaled.s + blindingFactor • blindingPoint⟩

end ConfidentialToken.SignatureKnowledge
