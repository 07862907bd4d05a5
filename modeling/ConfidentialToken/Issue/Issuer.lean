import ConfidentialToken.Issue.Action
import ConfidentialToken.Issue.Proof
import ConfidentialToken.Request

/-!
Issuers: who creates tokens of a type, and signs for it.
-/

namespace ConfidentialToken

variable {S : Suite}

structure Issuer (S : Suite) where
  tokenType : String
  signer : Signer
  parameters : PublicParameters S

namespace Issuer

/-- Issues tokens with the given values and owners, with respect to a commitment
to the type. The openings are for the owners. -/
def issueWith {R : Type} [RandomSource S R] (issuer : Issuer S) (values : List UInt64)
    (owners : List Bytes) (anonymous : Bool) (typeCommitment : TypeCommitment S) :
    Sampling R (IssueAction S × List (Metadata S)) := do
  if owners.any List.isEmpty then
    throw (.invalidInput "all recipients should be defined")
  let (tokens, openings) ← Sampling.during "failed to generate tokens"
    (Opening.createTokens issuer.parameters.pedersen issuer.tokenType values)
  let statement : Issue.Statement S := ⟨issuer.parameters, tokens, anonymous⟩
  let proof ← statement.prove openings typeCommitment
  let identity ← issuer.signer.identity
  let action ← IssueAction.ofParts identity tokens owners (Json.write proof) anonymous
  return (action, List.zipWith
    (fun opening owner => opening.toMetadata owner identity.bytes) openings owners)

def issue {R : Type} [RandomSource S R] (issuer : Issuer S) (values : List UInt64)
    (owners : List Bytes) : Sampling R (IssueAction S × List (Metadata S)) := do
  let typeCommitment ← TypeCommitment.sample issuer.parameters.pedersen issuer.tokenType
  issuer.issueWith values owners false typeCommitment

/-- Issues tokens with the type hidden in the commitment for which the issuer
signs. -/
def issueAnonymously {R : Type} [RandomSource S R] (issuer : Issuer S)
    (values : List UInt64) (owners : List Bytes) (typeCommitment : TypeCommitment S) :
    Sampling R (IssueAction S × List (Metadata S)) :=
  issuer.issueWith values owners true typeCommitment

def sign (issuer : Issuer S) (request : Bytes) (transaction : String) : Result Bytes :=
  during "failed to sign issue" (issuer.signer.sign (request ++ Bytes.ofText transaction))

/-- The request with one issue, signed under a transaction identifier. -/
def request (issuer : Issuer S) (action : IssueAction S) (transaction : String) :
    Result TokenRequest := do
  let request := TokenRequest.empty.addIssue action
  let signature ← issuer.sign request.unsignedBytes transaction
  return { request with signatures := [signature] }

end Issuer

end ConfidentialToken
