import ConfidentialToken.Proofs.Validation.Completeness
import ConfidentialToken.Proofs.Validation.Signatures

/-!
The endorsement of a request by an auditor.

If the parameters name an auditor, the signatures of both fields of a request
are taken as one list. The first is the auditor's, and those of the parties
follow in the order of the actions. In which field a signature stands makes no
difference.
-/

namespace ConfidentialToken

variable {S : Suite}

namespace Validator

/-- Those who sign for actions: the issuers, and then the owners of the spent
tokens. -/
def parties (actions : List (Action S)) : List (Principal S) :=
  (Action.issues actions).map .issuer ++ (Action.transfers actions).flatMap owners

/-- Every one of some principals consents with the signature at the same
place. -/
def SignedInOrder (validator : Validator S) (now : UInt64) (message : Bytes)
    (principals : List (Principal S)) (signatures : List Bytes) : Prop :=
  ∀ (index : Nat) (principal : Principal S), principals[index]? = some principal →
    ∃ signature, signatures[index]? = some signature ∧
      validator.Consents now message principal signature

theorem principals_eq_cons {validator : Validator S}
    (audited : validator.parameters.auditor.isNone = false) (actions : List (Action S)) :
    validator.principals (Action.issues actions) (Action.transfers actions) =
      .auditor validator.parameters.auditor :: parties actions := by
  simp [principals, auditors, parties, audited]

theorem signaturesOf_of_audited {validator : Validator S}
    (audited : validator.parameters.auditor.isNone = false) (request : TokenRequest) :
    validator.signaturesOf request = request.auditorSignatures ++ request.signatures := by
  simp [signaturesOf, audited]

namespace Accepts

variable {validator : Validator S} {ledger : Ledger} {now : UInt64} {binding : String}
  {request : TokenRequest} {actions : List (Action S)}

theorem signedInOrder (accepts : validator.Accepts ledger now binding request actions) :
    validator.SignedInOrder now (request.messageToSign binding)
      (validator.principals (Action.issues actions) (Action.transfers actions))
      (validator.signaturesOf request) := by
  intro index principal placed
  obtain ⟨signature, found, used⟩ := accepts.exists_consumed placed
  exact ⟨signature, found, accepts.consents _ used⟩

theorem exists_endorsement
    (accepts : validator.Accepts ledger now binding request actions)
    (audited : validator.parameters.auditor.isNone = false) :
    ∃ endorsement rest, request.auditorSignatures ++ request.signatures =
      endorsement :: rest ∧
      Signed (validator.deserializer.auditor validator.parameters.auditor)
        (request.messageToSign binding) endorsement ∧
      validator.SignedInOrder now (request.messageToSign binding)
        (parties actions) rest := by
  have inOrder := accepts.signedInOrder
  rw [principals_eq_cons audited, signaturesOf_of_audited audited] at inOrder
  obtain ⟨endorsement, first, signed, -⟩ := inOrder 0 _ rfl
  obtain ⟨rest, same⟩ := List.head?_eq_some_iff.mp (List.head?_eq_getElem? ▸ first)
  refine ⟨endorsement, rest, same, signed, fun index party placed => ?_⟩
  rw [same] at inOrder
  exact inOrder (index + 1) party placed

theorem verify_moved (accepts : validator.Accepts ledger now binding request actions)
    (audited : validator.parameters.auditor.isNone = false) (other : TokenRequest)
    (issues : other.issues = request.issues)
    (transfers : other.transfers = request.transfers)
    (order : other.auditorSignatures ++ other.signatures =
      request.auditorSignatures ++ request.signatures) :
    validator.verify ledger now binding other.serialize = .ok actions := by
  have same : validator.signaturesOf other = validator.signaturesOf request ++ [] := by
    rw [signaturesOf_of_audited audited, signaturesOf_of_audited audited, order,
      List.append_nil]
  rw [accepts.verify_resigned other issues transfers same, List.filterMap_nil,
    List.append_nil]

end Accepts

/-- With an auditor, an accepted request begins with a signature of the auditor,
which the signatures of the parties follow in order. The auditor's own field is
served first, and if it holds exactly one signature, then this is the auditor's
and the other field holds those of the parties. -/
theorem endorsed_by_auditor {parameters : PublicParameters S}
    {deserializer : Deserializer} {validator : Validator S} {ledger : Ledger}
    {now : UInt64} {binding : String} {text : Bytes} {actions : List (Action S)}
    (configured : ofParameters parameters deserializer = .ok validator)
    (audited : parameters.auditor.isNone = false)
    (accepted : validator.verify ledger now binding text = .ok actions) :
    ∃ request, TokenRequest.deserialize text = .ok request ∧
      ∃ endorsement rest, request.auditorSignatures ++ request.signatures =
        endorsement :: rest ∧
        Signed (deserializer.auditor parameters.auditor) (request.messageToSign binding)
          endorsement ∧
        validator.SignedInOrder now (request.messageToSign binding)
          (parties actions) rest ∧
        (request.auditorSignatures ≠ [] →
          request.auditorSignatures.head? = some endorsement) ∧
        (request.auditorSignatures.length = 1 →
          validator.SignedInOrder now (request.messageToSign binding) (parties actions)
            request.signatures) := by
  obtain ⟨-, rfl⟩ := ofParameters_eq_ok.mp configured
  obtain ⟨-, request, parsed, accepts⟩ := verify_eq_ok_iff_accepts.mp accepted
  obtain ⟨endorsement, rest, split, signed, inOrder⟩ := accepts.exists_endorsement audited
  refine ⟨request, parsed, endorsement, rest, split, signed, inOrder, fun present => ?_,
    fun single => ?_⟩
  · rw [← List.head?_append_of_ne_nil _ present, split, List.head?_cons]
  · obtain ⟨first, only⟩ := List.length_eq_one_iff.mp single
    rw [only, List.singleton_append] at split
    rwa [(List.cons.inj split).2]

end Validator

namespace Batch.Sample

open Bn254

/-- The endorsed request of the honest parties is signed by the auditor and then
by the parties. -/
theorem sample_endorsed : ∃ request endorsement rest,
    parameters.auditor.isNone = false ∧
    batch.request (some auditor) "tx1" = .ok request ∧
    request.auditorSignatures ++ request.signatures = endorsement :: rest ∧
    Signed ((PublicKey.deserializer exponentSuite 0).auditor parameters.auditor)
      (request.messageToSign "tx1") endorsement ∧
    (parameters.validator 0).SignedInOrder 0 (request.messageToSign "tx1")
      (Validator.parties [.issue issue.1, .issue anonymousIssue.1, .transfer transfer.1])
      rest := by
  obtain ⟨request, made, accepted⟩ := honest.accepted produced.certified audited "tx1"
  have present : parameters.auditor.isNone = false := by decide +kernel
  obtain ⟨_, parsed, endorsement, rest, split, signed, inOrder, -⟩ :=
    Validator.endorsed_by_auditor configured present accepted
  cases request.deserialize_serialize.symm.trans parsed
  exact ⟨request, endorsement, rest, present, made, split, signed, inOrder⟩

/-- The auditor's signature can stand among those of the parties, with the
auditor's field empty. -/
theorem endorsement_among_parties :
    Validator.ofParameters parameters (PublicKey.deserializer exponentSuite 0) =
      .ok (parameters.validator 0) ∧
    parameters.auditor.isNone = false ∧
    ∃ request, batch.request (some auditor) "tx1" = .ok request ∧
      (parameters.validator 0).verify ledger 0 "tx1"
          { request with
            auditorSignatures := []
            signatures := request.auditorSignatures ++ request.signatures }.serialize =
        .ok [.issue issue.1, .issue anonymousIssue.1, .transfer transfer.1] := by
  obtain ⟨request, made, accepted⟩ := honest.accepted produced.certified audited "tx1"
  obtain ⟨-, _, parsed, accepts⟩ := Validator.verify_eq_ok_iff_accepts.mp accepted
  cases request.deserialize_serialize.symm.trans parsed
  have present : parameters.auditor.isNone = false := by decide +kernel
  refine ⟨configured, present, request, made, ?_⟩
  exact accepts.verify_moved present { request with
    auditorSignatures := []
    signatures := request.auditorSignatures ++ request.signatures } rfl rfl rfl

end Batch.Sample

end ConfidentialToken
