import ConfidentialToken.Identity
import ConfidentialToken.KeyedData
import ConfidentialToken.Token

/-!
The action that issues tokens.
-/

namespace ConfidentialToken

open Json

variable {S : Suite}

structure IssueAction (S : Suite) where
  issuer : Identity
  outputs : List (Token S)
  proof : Bytes
  anonymous : Bool
  /-- What is published with the issue. -/
  metadata : KeyedData

namespace IssueAction

instance : JsonForm (IssueAction S) where
  toJson action := .object [
    ("issuer", toJson action.issuer),
    ("outputs", toJson action.outputs),
    ("proof", hex action.proof),
    ("anonymous", toJson action.anonymous),
    ("metadata", toJson action.metadata)]
  fromJson value := do
    let [issuer, outputs, proof, anonymous, metadata] ← value.fields
      ["issuer", "outputs", "proof", "anonymous", "metadata"] | none
    return {
      issuer := ← required issuer
      outputs := ← required outputs
      proof := ← requiredHex proof
      anonymous := ← optional false anonymous
      metadata := ← optional .empty metadata }

def serialize (action : IssueAction S) : Bytes :=
  Json.write action

def deserialize (text : Bytes) : Result (IssueAction S) :=
  during "failed to unmarshal issue action" (Json.read text)

def commitments (action : IssueAction S) : List S.G1 :=
  action.outputs.map Token.commitment

/-- Whether there is an issuer, and there are tokens, each with an owner. -/
def validate (action : IssueAction S) : Result Unit :=
  if action.issuer.isNone then .error (.invalidInput "issuer is not set")
  else if action.outputs.isEmpty then .error (.invalidInput "no outputs in issue action")
  else if action.outputs.any Token.isRedeemed then
    .error (.invalidInput "issued tokens must have an owner")
  else .ok ()

def ofParts (issuer : Identity) (commitments : List S.G1) (owners : List Bytes)
    (proof : Bytes) (anonymous : Bool) : Result (IssueAction S) :=
  if owners.length ≠ commitments.length then
    .error (.invalidInput "number of owners does not match number of tokens")
  else .ok {
    issuer := issuer
    outputs := List.zipWith Token.mk owners commitments
    proof := proof
    anonymous := anonymous
    metadata := .empty }

end IssueAction

end ConfidentialToken
