import ConfidentialToken.Identity
import ConfidentialToken.KeyedData
import ConfidentialToken.Token

/-!
What accompanies a request outside the ledger: the openings of its tokens, and
what an auditor needs to know about their owners.
-/

namespace ConfidentialToken

open Json

structure IssueMetadata where
  issuer : Identity
  /-- The bytes of the issued tokens. -/
  outputs : List Bytes
  /-- The bytes of the openings of the issued tokens. -/
  openings : List Bytes
  receivers : List Identity
  /-- The audit information of the receivers. -/
  auditInfos : List Bytes
deriving DecidableEq

instance : JsonForm IssueMetadata where
  toJson metadata := .object [
    ("issuer", toJson metadata.issuer),
    ("outputs", hexList metadata.outputs),
    ("outputs_metadata", hexList metadata.openings),
    ("receivers", toJson metadata.receivers),
    ("receivers_audit_infos", hexList metadata.auditInfos)]
  fromJson value := do
    let [issuer, outputs, openings, receivers, auditInfos] ← value.fields
      ["issuer", "outputs", "outputs_metadata", "receivers", "receivers_audit_infos"]
        | none
    return {
      issuer := ← required issuer
      outputs := ← optionalHexList outputs
      openings := ← optionalHexList openings
      receivers := ← optional [] receivers
      auditInfos := ← optionalHexList auditInfos }

structure TransferMetadata where
  ids : List TokenId
  senders : List Identity
  /-- The audit information of the senders. -/
  senderAuditInfos : List Bytes
  /-- The bytes of the created tokens. -/
  outputs : List Bytes
  /-- The bytes of the openings of the created tokens. -/
  openings : List Bytes
  /-- The audit information of the owners of the created tokens. -/
  outputAuditInfos : List Bytes
  receivers : List Identity
  receiverAuditInfos : List Bytes
  /-- Which of the receivers are senders. -/
  receiverIsSender : List Bool
deriving DecidableEq

instance : JsonForm TransferMetadata where
  toJson metadata := .object [
    ("token_ids", toJson metadata.ids),
    ("senders", toJson metadata.senders),
    ("sender_audit_infos", hexList metadata.senderAuditInfos),
    ("outputs", hexList metadata.outputs),
    ("outputs_metadata", hexList metadata.openings),
    ("output_audit_infos", hexList metadata.outputAuditInfos),
    ("receivers", toJson metadata.receivers),
    ("receiver_audit_infos", hexList metadata.receiverAuditInfos),
    ("receiver_is_sender", toJson metadata.receiverIsSender)]
  fromJson value := do
    let [ids, senders, senderAuditInfos, outputs, openings, outputAuditInfos, receivers,
      receiverAuditInfos, receiverIsSender] ← value.fields
      ["token_ids", "senders", "sender_audit_infos", "outputs", "outputs_metadata",
        "output_audit_infos", "receivers", "receiver_audit_infos", "receiver_is_sender"]
          | none
    return {
      ids := ← optional [] ids
      senders := ← optional [] senders
      senderAuditInfos := ← optionalHexList senderAuditInfos
      outputs := ← optionalHexList outputs
      openings := ← optionalHexList openings
      outputAuditInfos := ← optionalHexList outputAuditInfos
      receivers := ← optional [] receivers
      receiverAuditInfos := ← optionalHexList receiverAuditInfos
      receiverIsSender := ← optional [] receiverIsSender }

structure RequestMetadata where
  issues : List IssueMetadata
  transfers : List TransferMetadata
  /-- What an application attaches. -/
  application : KeyedData

namespace RequestMetadata

instance : JsonForm RequestMetadata where
  toJson metadata := .object [
    ("issues", toJson metadata.issues),
    ("transfers", toJson metadata.transfers),
    ("application", toJson metadata.application)]
  fromJson value := do
    let [issues, transfers, application] ← value.fields
      ["issues", "transfers", "application"] | none
    return {
      issues := ← optional [] issues
      transfers := ← optional [] transfers
      application := ← optional .empty application }

def deserialize (text : Bytes) : Result RequestMetadata :=
  during "failed to unmarshal token request metadata" (Json.read text)

/-- The created tokens, issued ones first, with their openings. -/
def openedOutputs (metadata : RequestMetadata) : List (Bytes × Bytes) :=
  metadata.issues.flatMap (fun issue => issue.outputs.zip issue.openings) ++
    metadata.transfers.flatMap fun transfer => transfer.outputs.zip transfer.openings

/-- The opening of the first created token with the given bytes. -/
def opening? (metadata : RequestMetadata) (token : Bytes) : Option Bytes :=
  (metadata.openedOutputs.find? fun output => output.1 = token).map Prod.snd

end RequestMetadata

end ConfidentialToken
