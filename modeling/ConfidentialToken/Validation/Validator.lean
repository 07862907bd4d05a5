import ConfidentialToken.Request
import ConfidentialToken.Validation.Actions

/-!
Validation of requests: what a ledger does before it accepts one.

The auditor's signature comes first, if there is an auditor, then the issues and
then the transfers, each with its signatures. A single failure rejects the whole
request.
-/

namespace ConfidentialToken

variable {S : Suite}

inductive Action (S : Suite) where
  | issue (action : IssueAction S)
  | transfer (action : TransferAction S)
  /-- What a signature makes known. -/
  | signature (data : KeyedData)

/-- The key under which the preimage of a claim is made known. -/
def claimPreimageKey : String :=
  "claimPreimage"

def Action.ofSignature? (signature : Bytes) : Option (Action S) := do
  let claim : HashLock.ClaimSignature ← Json.read? signature
  if claim.preimage.isEmpty ∨ claim.recipientSignature.isEmpty then none
  else some (.signature (.ofList [(claimPreimageKey, claim.preimage)]))

/-- What accepts and rejects requests under public parameters. -/
structure Validator (S : Suite) where
  parameters : PublicParameters S
  deserializer : Deserializer

namespace Validator

/-- The validator under public parameters, which must be valid. -/
def ofParameters (parameters : PublicParameters S) (deserializer : Deserializer) :
    Result (Validator S) := do
  parameters.validate
  return { parameters, deserializer }

/-- Takes the signature of the auditor, if there is one. -/
def checkAuditor (validator : Validator S) (message : Bytes) : Checking Unit := do
  let auditor := validator.parameters.auditor
  if auditor.isNone then return
  match validator.deserializer.auditor auditor with
  | .error _ => throw (.identity "failed to deserialize auditor's public key")
  | .ok verifier =>
      let _ ← Checking.nextSignature message verifier

/-- All checks of a request, in order. It gives the actions of the request. -/
def checkRequest (validator : Validator S) (ledger : Ledger) (now : UInt64)
    (binding : String) (request : TokenRequest) :
    Checking (List (IssueAction S) × List (TransferAction S)) := do
  let message := request.messageToSign binding
  Checking.during s!"failed to verifier auditor's signature [{binding}]"
    (validator.checkAuditor message)
  let issues ← (during s!"failed to retrieve issue actions [{binding}]"
    (request.issues.mapM IssueAction.deserialize) : Result (List (IssueAction S)))
  let transfers ← (during s!"failed to retrieve transfer actions [{binding}]"
    (request.transfers.mapM TransferAction.deserialize) :
      Result (List (TransferAction S)))
  issues.forM fun action =>
    Checking.during s!"failed to verify issuers' signatures [{binding}]"
      (action.check validator.parameters validator.deserializer message)
  transfers.forM fun action =>
    Checking.during s!"failed to verify senders' signatures [{binding}]"
      (action.check validator.parameters ledger validator.deserializer message now)
  return (issues, transfers)

/-- The signatures of a request, in the order in which they are asked for. -/
def signaturesOf (validator : Validator S) (request : TokenRequest) : List Bytes :=
  if validator.parameters.auditor.isNone then request.signatures
  else request.auditorSignatures ++ request.signatures

/-- What a request does, if it is accepted at a time. -/
def verify (validator : Validator S) (ledger : Ledger) (now : UInt64) (binding : String)
    (text : Bytes) : Result (List (Action S)) := do
  if text.isEmpty then
    throw (.invalidInput "empty token request")
  let request ← TokenRequest.deserialize text
  let signatures := validator.signaturesOf request
  let (outcome, _) := (validator.checkRequest ledger now binding request).run signatures
  let (issues, transfers) ← outcome
  return issues.map .issue ++ transfers.map .transfer ++
    signatures.filterMap Action.ofSignature?

end Validator

end ConfidentialToken
