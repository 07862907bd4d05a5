import ConfidentialToken.Issue.Action
import ConfidentialToken.Transfer.Action

/-!
Requests: the actions of a transaction with the signatures on them.

Everybody signs the same bytes, the request without its signatures followed by a
text that binds it to a transaction.
-/

namespace ConfidentialToken

open Json

variable {S : Suite}

structure TokenRequest where
  /-- The bytes of issues. -/
  issues : List Bytes
  /-- The bytes of transfers. -/
  transfers : List Bytes
  /-- The signatures of the issuers, then of the owners of the inputs, in the
  order of actions. -/
  signatures : List Bytes
  auditorSignatures : List Bytes
deriving DecidableEq

namespace TokenRequest

instance : JsonForm TokenRequest where
  toJson request := .object [
    ("issues", hexList request.issues),
    ("transfers", hexList request.transfers),
    ("signatures", hexList request.signatures),
    ("auditor_signatures", hexList request.auditorSignatures)]
  fromJson value := do
    let [issues, transfers, signatures, auditorSignatures] ← value.fields
      ["issues", "transfers", "signatures", "auditor_signatures"] | none
    return {
      issues := ← optionalHexList issues
      transfers := ← optionalHexList transfers
      signatures := ← optionalHexList signatures
      auditorSignatures := ← optionalHexList auditorSignatures }

def empty : TokenRequest :=
  ⟨[], [], [], []⟩

def serialize (request : TokenRequest) : Bytes :=
  Json.write request

def deserialize (text : Bytes) : Result TokenRequest :=
  during "failed to unmarshal token request" (Json.read text)

def isEmpty (request : TokenRequest) : Bool :=
  request.issues.isEmpty && request.transfers.isEmpty

def addIssue (request : TokenRequest) (action : IssueAction S) : TokenRequest :=
  { request with issues := request.issues ++ [action.serialize] }

def addTransfer (request : TokenRequest) (action : TransferAction S) : TokenRequest :=
  { request with transfers := request.transfers ++ [action.serialize] }

def unsignedBytes (request : TokenRequest) : Bytes :=
  serialize { request with signatures := [], auditorSignatures := [] }

/-- What is signed, for a text that identifies the transaction. -/
def messageToSign (request : TokenRequest) (binding : String) : Bytes :=
  request.unsignedBytes ++ Bytes.ofText binding

end TokenRequest

end ConfidentialToken
