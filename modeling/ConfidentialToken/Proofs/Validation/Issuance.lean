import ConfidentialToken.Proofs.Validation.Completeness

/-!
Who can issue.

An accepted issue has been signed by a named issuer, or anonymously under the
policy. Names are only looked up where there is a list of them: without one,
everybody can issue by name, even if a policy says who may issue anonymously.
-/

namespace ConfidentialToken

variable {S : Suite}

namespace Action

def issue? : Action S → Option (IssueAction S)
  | .issue action => some action
  | _ => none

def issues (actions : List (Action S)) : List (IssueAction S) :=
  actions.filterMap issue?

theorem issues_actionsOf (validator : Validator S) (request : TokenRequest)
    (created : List (IssueAction S)) (transfers : List (TransferAction S)) :
    issues (validator.actionsOf request created transfers) = created := by
  have fromIssues : (created.map Action.issue).filterMap issue? = created := by
    rw [List.filterMap_map]
    exact List.filterMap_some
  have fromTransfers : (transfers.map Action.transfer).filterMap issue? = [] := by
    simp [List.filterMap_eq_nil_iff, issue?]
  have fromSignatures :
      ((validator.signaturesOf request).filterMap ofSignature?).filterMap issue? =
        ([] : List (IssueAction S)) := by
    rw [List.filterMap_eq_nil_iff]
    intro action membership
    obtain ⟨signature, -, read⟩ := List.mem_filterMap.mp membership
    obtain ⟨data, rfl⟩ := ofSignature?_eq_some read
    rfl
  rw [issues, Validator.actionsOf, List.filterMap_append, List.filterMap_append,
    fromIssues, fromTransfers, fromSignatures, List.append_nil, List.append_nil]

end Action

namespace IssueAction

/-- The named issuer is listed, if there is a list, and has signed. -/
structure SignedByName (action : IssueAction S) (parameters : PublicParameters S)
    (deserializer : Deserializer) (message signature : Bytes) : Prop where
  named : action.anonymous = false
  listed : parameters.issuers = [] ∨ action.issuer ∈ parameters.issuers
  signed : Signed (deserializer.issuer action.issuer) message signature

/-- There is a policy, and the signature is one under it for the pseudonym of
the issuer and the commitment to the type in the proof of the issue. -/
structure SignedAnonymously (action : IssueAction S) (parameters : PublicParameters S)
    (message signature : Bytes) : Prop where
  anonymous : action.anonymous = true
  policy : parameters.policy.keys ≠ [] ∧ parameters.policy.validate = .ok ()
  signed : ∃ proof pseudonym key, Issue.Proof.deserialize action.proof = .ok proof ∧
    AnonymousIssuer.pseudonym action.issuer = .ok pseudonym ∧
    AnonymousIssuer.VerificationKey.ofParameters parameters pseudonym
      proof.wellFormedness.commitmentToType = .ok key ∧
    key.verifier message signature = .ok ()

theorem policy_of_ofParameters {parameters : PublicParameters S}
    {pseudonym commitment : S.G1} {key : AnonymousIssuer.VerificationKey S}
    (made : AnonymousIssuer.VerificationKey.ofParameters parameters pseudonym commitment =
      .ok key) :
    parameters.policy.keys ≠ [] ∧ parameters.policy.validate = .ok () := by
  simp only [AnonymousIssuer.VerificationKey.ofParameters, guard_eq_ok, bind_eq_ok,
    List.isEmpty_iff] at made
  obtain ⟨nonempty, ⟨⟩, valid, -⟩ := made
  exact ⟨nonempty, valid⟩

/-- Whoever has signed a valid issue was entitled to. -/
theorem authorized_of_signed {action : IssueAction S} {parameters : PublicParameters S}
    {deserializer : Deserializer} {message signature : Bytes}
    (valid : action.Valid parameters)
    (signed : Signed (action.principalVerifier parameters deserializer) message
      signature) :
    action.SignedByName parameters deserializer message signature ∨
      action.SignedAnonymously parameters message signature := by
  cases anonymous : action.anonymous with
  | false =>
      left
      rw [principalVerifier, anonymous, if_neg Bool.false_ne_true] at signed
      exact ⟨anonymous, valid.listed anonymous, signed⟩
  | true =>
      right
      obtain ⟨verify, found, verified⟩ := signed
      rw [principalVerifier, anonymous, if_pos rfl] at found
      obtain ⟨proof, read, found⟩ := bind_eq_ok.mp found
      obtain ⟨pseudonym, decoded, found⟩ := bind_eq_ok.mp found
      obtain ⟨key, made, found⟩ := bind_eq_ok.mp found
      cases pure_eq_ok.mp found
      exact ⟨anonymous, policy_of_ofParameters made, proof, pseudonym, key, read,
        decoded, made, verified⟩

end IssueAction

namespace Validator

/-- The issues of an accepted request are signed in order, each by a named
issuer or under the policy. -/
theorem issues_authorized {parameters : PublicParameters S}
    {deserializer : Deserializer} {validator : Validator S} {ledger : Ledger}
    {now : UInt64} {binding : String} {text : Bytes} {actions : List (Action S)}
    (configured : ofParameters parameters deserializer = .ok validator)
    (accepted : validator.verify ledger now binding text = .ok actions) :
    ∃ request before signatures after, TokenRequest.deserialize text = .ok request ∧
      List.Forall₂ (fun bytes issue => IssueAction.deserialize bytes = .ok issue)
        request.issues (Action.issues actions) ∧
      validator.signaturesOf request = before ++ signatures ++ after ∧
      before.length = parameters.auditors.length ∧
      List.Forall₂ (fun issue signature =>
          issue.SignedByName parameters deserializer (request.messageToSign binding)
            signature ∨
          issue.SignedAnonymously parameters (request.messageToSign binding) signature)
        (Action.issues actions) signatures ∧
      (parameters.issuers ≠ [] → ∀ issue ∈ Action.issues actions,
        issue.issuer ∈ parameters.issuers ∨
          issue.anonymous = true ∧ parameters.policy.keys ≠ []) := by
  obtain ⟨_, -, made⟩ := bind_eq_ok.mp configured
  cases pure_eq_ok.mp made
  obtain ⟨request, issues, transfers, -, parsed, sound,
      ⟨block, rest, split, consents⟩, rfl⟩ :=
    verify_eq_ok.mp accepted
  -- The principals are the auditor, the issuers and the owners, in this order.
  rw [principals, forall₂_append] at consents
  obtain ⟨front, owners, rfl, consents, -⟩ := consents
  rw [forall₂_append] at consents
  obtain ⟨before, signatures, rfl, auditorConsents, issuersConsent⟩ := consents
  have count : before.length = parameters.auditors.length := by
    rw [← auditorConsents.length_eq, auditors, PublicParameters.auditors]
    cases parameters.auditor.isNone <;> rfl
  have authorized : List.Forall₂ (fun issue signature =>
      issue.SignedByName parameters deserializer (request.messageToSign binding)
        signature ∨
        issue.SignedAnonymously parameters (request.messageToSign binding) signature)
      issues signatures := by
    rw [List.forall₂_map_left_iff] at issuersConsent
    apply List.forall₂_iff_zip.mpr
    refine ⟨issuersConsent.length_eq, fun {issue signature} paired => ?_⟩
    have consent := List.forall₂_zip issuersConsent paired
    exact IssueAction.authorized_of_signed
      (sound.issuesValid issue (List.of_mem_zip paired).1) consent.1
  rw [Action.issues_actionsOf]
  refine ⟨request, before, signatures, owners ++ rest, parsed, sound.issuesParsed, ?_,
    count, authorized, ?_⟩
  · rw [split, List.append_assoc]
  · intro listed issue membership
    obtain ⟨signature, -, signed⟩ := exists_of_forall₂ authorized membership
    rcases signed with byName | anonymously
    · exact .inl (byName.listed.resolve_left listed)
    · exact .inr ⟨anonymously.anonymous, anonymously.policy.1⟩

end Validator

namespace Batch.Sample

open Bn254

/-- Of two accepted issues one has been signed by name and the other
anonymously. -/
theorem sample_authorized :
    Validator.ofParameters parameters (PublicKey.deserializer exponentSuite 0) =
      .ok (parameters.validator 0) ∧
    ∃ text, (parameters.validator 0).verify ledger 0 "tx1" text =
        .ok [.issue issue.1, .issue anonymousIssue.1, .transfer transfer.1] ∧
      ∃ message signature otherSignature,
        issue.1.SignedByName parameters (PublicKey.deserializer exponentSuite 0) message
          signature ∧
        anonymousIssue.1.SignedAnonymously parameters message otherSignature := by
  obtain ⟨request, -, accepted⟩ := honest.accepted produced.certified audited "tx1"
  obtain ⟨read, before, signatures, after, -, -, -, -, authorized, -⟩ :=
    Validator.issues_authorized configured accepted
  refine ⟨configured, _, accepted, read.messageToSign "tx1", ?_⟩
  cases authorized with
  | @cons _ signature _ _ first rest =>
      cases rest with
      | @cons _ otherSignature _ _ second _ =>
          refine ⟨signature, otherSignature, first.resolve_right ?_,
            second.resolve_left ?_⟩
          · intro anonymously
            exact absurd anonymously.anonymous (by decide +kernel)
          · intro byName
            exact absurd byName.named (by decide +kernel)

/-- The parameters with the key of an anonymous issuer and without a list of
names. -/
def policyParameters : PublicParameters exponentSuite :=
  Sampling.valueFrom (base.withPolicy [5]) (⟨1⟩ : Counter) (by decide +kernel)

theorem policyParameters_certified : policyParameters.Certified :=
  (PublicParameters.Produced.withPolicy (R := Counter)
    (.setup (Sampling.gives_valueFrom _ _ _))
    (Sampling.gives_valueFrom _ _ _)).certified

theorem policyParameters_configured :
    Validator.ofParameters policyParameters (PublicKey.deserializer exponentSuite 0) =
      .ok (policyParameters.validator 0) :=
  bind_eq_ok.mpr ⟨(), toOption_eq_some.mp (by decide +kernel), rfl⟩

def outsider : Issuer exponentSuite :=
  ⟨"ABC", ownerKey.signer, policyParameters⟩

def outsiderIssue : IssueAction exponentSuite × List (Metadata exponentSuite) :=
  Sampling.valueFrom (outsider.issue [1] [[1]]) (⟨1⟩ : Counter) (by decide +kernel)

def outsiderBatch : Batch exponentSuite where
  issues := [(outsider, outsiderIssue.1)]
  transfers := []

theorem outsiderBatch_accepted :
    ∃ request, outsiderBatch.request none "tx1" = .ok request ∧
      (policyParameters.validator 0).verify ledger 0 "tx1" request.serialize =
        .ok [.issue outsiderIssue.1] := by
  have issues : outsider.Issues Counter outsiderIssue.1 :=
    .named rfl (by decide) (.inl rfl) (Sampling.gives_valueFrom _ _ _)
  have honest : outsiderBatch.Honest Counter policyParameters ledger 0 := {
    issued := by
      simp only [outsiderBatch, List.forall_mem_singleton]
      exact ⟨rfl, issues⟩
    sent := by simp [outsiderBatch] }
  have unaudited : policyParameters.AuditedBy none := rfl
  exact honest.accepted policyParameters_certified unaudited "tx1"

/-- With a policy, but without a list of names, somebody who is in neither can
issue. -/
theorem outsider_accepted :
    Validator.ofParameters policyParameters (PublicKey.deserializer exponentSuite 0) =
      .ok (policyParameters.validator 0) ∧
    policyParameters.policy.keys ≠ [] ∧
    (∃ request, (policyParameters.validator 0).verify ledger 0 "tx1" request =
        .ok [.issue outsiderIssue.1]) ∧
    ¬ (outsiderIssue.1.anonymous = false ∧
        outsiderIssue.1.issuer ∈ policyParameters.issuers ∨
      outsiderIssue.1.anonymous = true) := by
  obtain ⟨request, -, accepted⟩ := outsiderBatch_accepted
  have byName : outsiderIssue.1.anonymous = false := by decide +kernel
  have unlisted : policyParameters.issuers = [] := rfl
  refine ⟨policyParameters_configured, by decide +kernel, ⟨_, accepted⟩, ?_⟩
  simp [byName, unlisted]

end Batch.Sample

end ConfidentialToken
