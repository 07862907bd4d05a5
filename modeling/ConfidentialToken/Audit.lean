import ConfidentialToken.HashLock
import ConfidentialToken.Request
import ConfidentialToken.Request.Metadata

/-!
Auditing: an auditor opens the created tokens of a request, matches all owners
against their audit information, and endorses the request only if this succeeds.
-/

namespace ConfidentialToken

open Json

variable {S : Suite}

/-- The opening of a token as it is disclosed to an auditor. -/
structure DisclosedOpening (S : Suite) where
  tokenType : String
  value : S.Scalar
  blindingFactor : S.Scalar

/-- A token with what an auditor is told about it. Inputs were opened when they
were created, so only their owners are looked at. -/
structure AuditableToken (S : Suite) where
  token : Token S
  opening : Option (DisclosedOpening S)
  ownerInfo : Bytes

namespace AuditableToken

def ofOutput (token : Token S) (opening ownerInfo : Bytes) :
    Result (AuditableToken S) := do
  let metadata : Metadata S ← Metadata.deserialize opening
  return {
    token := token
    opening := some ⟨metadata.tokenType, metadata.value, metadata.blindingFactor⟩
    ownerInfo := ownerInfo }

/-- A created token of an issue, which may not leave the system at once. -/
def ofIssued (token : Token S) (opening ownerInfo : Bytes) : Result (AuditableToken S) :=
  if token.isRedeemed then .error (.audit "issue cannot redeem tokens")
  else ofOutput token opening ownerInfo

def ofInput (token : Token S) (ownerInfo : Bytes) : AuditableToken S :=
  ⟨token, none, ownerInfo⟩

def ofIssue (action : Bytes) (metadata : IssueMetadata) :
    Result (List (AuditableToken S)) := do
  let action ← IssueAction.deserialize action
  let count := action.outputs.length
  if count ≠ metadata.auditInfos.length ∨ count ≠ metadata.openings.length then
    throw (.audit "number of output does not match number of provided metadata")
  (action.outputs.zip (metadata.openings.zip metadata.auditInfos)).mapM
    fun (token, opening, ownerInfo) => ofIssued token opening ownerInfo

def ofIssues (actions : List Bytes) (metadata : List IssueMetadata) :
    Result (List (List (AuditableToken S))) := do
  if actions.length ≠ metadata.length then
    throw (.audit "number of issues does not match number of provided metadata")
  (actions.zip metadata).mapM fun (action, metadata) => ofIssue action metadata

def ofTransfer (action : Bytes) (metadata : TransferMetadata) (inputs : List (Token S)) :
    Result (List (AuditableToken S) × List (AuditableToken S)) := do
  if metadata.senderAuditInfos.length ≠ inputs.length then
    throw (.audit <|
      "number of inputs does not match the number of senders " ++
      s!"[{metadata.senderAuditInfos.length}]!=[{inputs.length}]")
  let action ← TransferAction.deserialize action
  let count := action.outputs.length
  if count ≠ metadata.receiverAuditInfos.length then
    throw (.audit "number of outputs does not match the number of receivers")
  if count ≠ metadata.outputAuditInfos.length then
    throw (.audit "number of outputs does not match the number of output audit info")
  if count ≠ metadata.openings.length then
    throw (.audit "number of outputs does not match the number of output metadata")
  let outputs ←
    (action.outputs.zip (metadata.openings.zip metadata.outputAuditInfos)).mapM
    fun (token, opening, ownerInfo) => ofOutput token opening ownerInfo
  return (List.zipWith ofInput inputs metadata.senderAuditInfos, outputs)

/-- The spent and the created tokens of several transfers. -/
def ofTransfers (actions : List Bytes) (metadata : List TransferMetadata)
    (inputs : List (List (Token S))) :
    Result (List (List (AuditableToken S)) × List (List (AuditableToken S))) := do
  if actions.length ≠ metadata.length then
    throw (.audit "number of transfers does not match the number of provided metadata")
  if inputs.length ≠ metadata.length then
    throw (.audit "number of inputs does not match the number of provided metadata")
  let transfers ← (actions.zip (metadata.zip inputs)).mapM
    fun (action, metadata, inputs) => ofTransfer action metadata inputs
  return (transfers.map Prod.fst, transfers.map Prod.snd)

def inspectParty (matchers : MatcherDeserializer) (index : Nat) (party : Identity)
    (info : Bytes) : Result Unit := do
  let text := Hex.encodeText info
  let matcher ← during s!"failed to unmarshal audit info from script party [{text}]"
    (matchers info)
  match matcher party.bytes with
  | .ok _ => return
  | .error failure =>
      let reason := failure.message
      throw (.audit <|
        s!"token at index [{index}] does not match the provided opening " ++
        s!"[{text}]: {reason}")

/-- Matches both parties of the script that owns a token. -/
def inspectScript (matchers : MatcherDeserializer) (index : Nat)
    (token : AuditableToken S) : Result Unit := do
  let some script ← HashLock.Script.ofOwner token.token.owner
    | throw (.audit s!"input owner at index [{index}] cannot be unmarshalled")
  let info : HashLock.AuditInfo ← during "failed to unmarshal script info"
    (Json.read token.ownerInfo)
  inspectParty matchers index script.sender info.sender
  inspectParty matchers index script.recipient info.recipient

/-- Matches the owner of a token against its audit information. -/
def inspectOwner (matchers : MatcherDeserializer) (index : Nat)
    (token : AuditableToken S) : Result Unit := do
  if token.token.isRedeemed then
    throw (.audit
      s!"token at index [{index}] is a redeem token, cannot inspect ownership")
  if token.ownerInfo.isEmpty then
    throw (.audit s!"failed to inspect owner at index [{index}]: owner info is nil")
  match (Json.read? token.token.owner : Option TypedIdentity) with
  | none => throw (.audit s!"owner at index [{index}] cannot be unwrapped")
  | some owner =>
      if owner.scheme = publicKeyScheme ∨ owner.scheme = credentialScheme then
        let matcher ← during s!"failed to get owner matcher for output [{index}]"
          (matchers token.ownerInfo)
        match matcher token.token.owner with
        | .ok _ => return
        | .error failure =>
            let reason := failure.message
            throw (.audit
              s!"owner at index [{index}] does not match the provided opening: {reason}")
      else if owner.scheme = scriptScheme then inspectScript matchers index token
      else throw (.audit s!"identity type [{owner.scheme}] not recognized")

end AuditableToken

structure Auditor (S : Suite) where
  matchers : MatcherDeserializer
  signer : Signer
  /-- The bases for type, value and blinding factor of tokens. -/
  generators : List S.G1

namespace Auditor

/-- Opens a created token, and matches its owner unless it leaves the system. -/
def inspectOutput (auditor : Auditor S) (index : Nat) (output : AuditableToken S) :
    Result Unit := do
  if auditor.generators.length ≠ 3 then
    throw (.invalidParameters "length of Pedersen basis != 3")
  let some opening := output.opening
    | throw (.audit s!"invalid output at index [{index}]")
  let commitment ← commitToken auditor.generators opening.tokenType opening.value
    opening.blindingFactor
  if commitment ≠ output.token.commitment then
    throw (.audit s!"output at index [{index}] does not match the provided opening")
  if !output.token.isRedeemed then
    during s!"failed inspecting output at index [{index}]"
      (output.inspectOwner auditor.matchers index)

def inspectOutputs (auditor : Auditor S) (outputs : List (AuditableToken S)) :
    Result Unit :=
  outputs.zipIdx.forM fun (output, index) =>
    during s!"failed inspecting output [{index}]" (auditor.inspectOutput index output)

/-- Matches the owners of the spent tokens of an action. -/
def inspectInputs (auditor : Auditor S) (inputs : List (AuditableToken S)) :
    Result Unit :=
  inputs.zipIdx.forM fun (input, index) =>
    if input.token.isRedeemed then .ok ()
    else during s!"failed inspecting input at index [{index}]"
      (input.inspectOwner auditor.matchers index)

def checkIssues (auditor : Auditor S) (outputs : List (List (AuditableToken S)))
    (transaction : String) : Result Unit :=
  outputs.zipIdx.forM fun (issued, place) =>
    during s!"audit of {place} th issue in tx [{transaction}] failed"
      (auditor.inspectOutputs issued)

def checkTransfers (auditor : Auditor S) (inputs outputs : List (List (AuditableToken S)))
    (transaction : String) : Result Unit := do
  outputs.zipIdx.forM fun (created, place) =>
    during s!"audit of {place} th transfer in tx [{transaction}] failed"
      (auditor.inspectOutputs created)
  inputs.zipIdx.forM fun (spent, place) =>
    during s!"audit of {place} th transfer in tx [{transaction}] failed"
      (auditor.inspectInputs spent)

/-- Checks a request against its metadata and the spent tokens of its
transfers. -/
def check (auditor : Auditor S) (request : TokenRequest) (metadata : RequestMetadata)
    (inputs : List (List (Token S))) (transaction : String) : Result Unit := do
  let issued ← during s!"failed getting audit info for issues for [{transaction}]"
    (AuditableToken.ofIssues request.issues metadata.issues)
  during s!"failed checking issues for [{transaction}]"
    (auditor.checkIssues issued transaction)
  let (spent, created) ←
    during s!"failed getting audit info for transfers for [{transaction}]"
    (AuditableToken.ofTransfers request.transfers metadata.transfers inputs)
  during s!"failed checking transfers [{transaction}]"
    (auditor.checkTransfers spent created transaction)

def endorse (auditor : Auditor S) (request : TokenRequest) (transaction : String) :
    Result Bytes :=
  during s!"audit of tx [{transaction}] failed"
    (auditor.signer.sign (request.messageToSign transaction))

end Auditor

end ConfidentialToken
