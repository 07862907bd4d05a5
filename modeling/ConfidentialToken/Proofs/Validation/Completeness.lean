import ConfidentialToken.Proofs.Validation.Honest
import ConfidentialToken.Proofs.PublicParameters
import ConfidentialToken.Proofs.Bn254.Exponents
import ConfidentialToken.Audit

/-!
Honest requests are accepted.

A request gathers the actions of many parties. Every one of them signs the same
bytes, and it is shown that their signatures come in the order in which the
validator asks for them.
-/

namespace ConfidentialToken

variable {S : Suite} {R : Type} [RandomSource S R]

/-- Issuers and senders with the actions that they have made, in the order of
the request. -/
structure Batch (S : Suite) where
  issues : List (Issuer S × IssueAction S)
  transfers : List (Sender S × TransferAction S)

namespace Batch

def issueActions (batch : Batch S) : List (IssueAction S) :=
  batch.issues.map Prod.snd

def transferActions (batch : Batch S) : List (TransferAction S) :=
  batch.transfers.map Prod.snd

/-- The request with the endorsements of auditors and the signatures of the
parties. -/
def signedBy (batch : Batch S) (endorsements signatures : List Bytes) : TokenRequest where
  issues := batch.issueActions.map IssueAction.serialize
  transfers := batch.transferActions.map TransferAction.serialize
  signatures := signatures
  auditorSignatures := endorsements

def unsigned (batch : Batch S) : TokenRequest :=
  batch.signedBy [] []

/-- The signatures of all parties under a transaction identifier, in the order
of the actions. -/
def sign (batch : Batch S) (transaction : String) : Result (List Bytes) := do
  let request := batch.unsigned.unsignedBytes
  let issued ← batch.issues.mapM fun (issuer, _) => issuer.sign request transaction
  let sent ← batch.transfers.mapM fun (sender, _) => sender.sign request transaction
  return issued ++ sent.flatten

/-- The signed request with the endorsement of an auditor, if there is one. -/
def request (batch : Batch S) (auditor : Option (Auditor S)) (transaction : String) :
    Result TokenRequest := do
  let signatures ← batch.sign transaction
  match auditor with
  | none => return batch.signedBy [] signatures
  | some auditor =>
      let endorsement ← auditor.endorse (batch.signedBy [] signatures) transaction
      return batch.signedBy [endorsement] signatures

/-- An issuer's own request is that of a batch with a single issue. -/
theorem request_issue (issuer : Issuer S) (action : IssueAction S)
    (transaction : String) :
    request ⟨[(issuer, action)], []⟩ none transaction =
      issuer.request action transaction := by
  have same : unsigned ⟨[(issuer, action)], []⟩ = TokenRequest.empty.addIssue action :=
    rfl
  simp only [request, sign, List.mapM_cons, List.mapM_nil, same, bind_assoc, pure_bind,
    Issuer.request]
  rfl

theorem request_transfer (sender : Sender S) (action : TransferAction S)
    (transaction : String) :
    request ⟨[], [(sender, action)]⟩ none transaction =
      sender.request action transaction := by
  have same : unsigned ⟨[], [(sender, action)]⟩ = TokenRequest.empty.addTransfer action :=
    rfl
  simp only [request, sign, List.mapM_cons, List.mapM_nil, same, bind_assoc, pure_bind,
    Sender.request, List.flatten_cons, List.flatten_nil, List.append_nil, List.nil_append]
  rfl

variable (R) in
/-- All parties are honest, under common parameters. -/
structure Honest (batch : Batch S) (parameters : PublicParameters S) (ledger : Ledger)
    (now : UInt64) : Prop where
  issued : ∀ item ∈ batch.issues, item.1.parameters = parameters ∧ item.1.Issues R item.2
  sent : ∀ item ∈ batch.transfers, item.1.parameters = parameters ∧
    item.1.Sends R ledger now item.2

variable [LawfulPairing S] [FaithfulEncoding S.Scalar] [FaithfulEncoding S.G1]

/-- All parties can sign, and their signatures come in the order in which they
are asked for. -/
theorem Honest.exists_signatures {batch : Batch S} {parameters : PublicParameters S}
    {ledger : Ledger} {now : UInt64} (honest : batch.Honest R parameters ledger now)
    (certified : parameters.Certified) (transaction : String) :
    ∃ signatures, batch.sign transaction = .ok signatures ∧
      List.Forall₂
        ((parameters.validator now).Signs now (batch.unsigned.messageToSign transaction))
        (batch.issueActions.map .issuer ++ batch.transferActions.flatMap Validator.owners)
        signatures := by
  set message := batch.unsigned.messageToSign transaction
  have issuers : ∀ item ∈ batch.issues, ∃ signature,
      item.1.sign batch.unsigned.unsignedBytes transaction = .ok signature ∧
        (parameters.validator now).Signs now message (.issuer item.2) signature := by
    intro item membership
    obtain ⟨rfl, issues⟩ := honest.issued item membership
    exact (issues.valid_and_signs certified now).2 _ transaction
  have senders : ∀ item ∈ batch.transfers, ∃ signatures,
      item.1.sign batch.unsigned.unsignedBytes transaction = .ok signatures ∧
        List.Forall₂ ((parameters.validator now).Signs now message)
          (Validator.owners item.2) signatures := by
    intro item membership
    obtain ⟨rfl, sends⟩ := honest.sent item membership
    exact (sends.valid_and_signs certified).2 _ transaction
  obtain ⟨issued, issuersSign, byIssuers⟩ := exists_mapM_eq_ok issuers
  obtain ⟨sent, sendersSign, bySenders⟩ := exists_mapM_eq_ok senders
  refine ⟨issued ++ sent.flatten, ?_, ?_⟩
  · simp only [sign, bind_eq_ok]
    exact ⟨issued, issuersSign, sent, sendersSign, rfl⟩
  · apply List.rel_append
    · rwa [issueActions, List.map_map, List.forall₂_map_left_iff]
    · rw [transferActions, List.flatMap_map, List.flatMap]
      exact List.rel_flatten (List.forall₂_map_left_iff.mpr bySenders)

end Batch

/-- Who endorses requests: the auditor that the parameters name, and nobody if
they name none. -/
def PublicParameters.AuditedBy (parameters : PublicParameters S) :
    Option (Auditor S) → Prop
  | none => parameters.auditor.isNone = true
  | some auditor => ∃ key : SigningKey S, auditor.signer = key.signer ∧
      parameters.auditor = key.identity

variable [LawfulPairing S] [FaithfulEncoding S.Scalar] [FaithfulEncoding S.G1]

theorem PublicParameters.AuditedBy.exists_request {parameters : PublicParameters S}
    {auditor : Option (Auditor S)} (audited : parameters.AuditedBy auditor) (now : UInt64)
    {batch : Batch S} {transaction : String} {signatures : List Bytes}
    (signed : batch.sign transaction = .ok signatures) :
    ∃ endorsements,
      batch.request auditor transaction = .ok (batch.signedBy endorsements signatures) ∧
      (parameters.validator now).signaturesOf
        (batch.signedBy endorsements signatures) = endorsements ++ signatures ∧
      List.Forall₂
        ((parameters.validator now).Signs now (batch.unsigned.messageToSign transaction))
        (parameters.validator now).auditors endorsements := by
  cases auditor with
  | none =>
      have absent : parameters.auditor.isNone = true := audited
      refine ⟨[], bind_eq_ok.mpr ⟨signatures, signed, rfl⟩, ?_, ?_⟩
      · simp [Validator.signaturesOf, Batch.signedBy, absent]
      · simp [Validator.auditors, absent]
  | some auditor =>
      obtain ⟨key, signs, named⟩ := audited
      have present : parameters.auditor.isNone = false := by
        rw [named]
        exact List.isEmpty_eq_false_iff.mpr key.publicKey.identity_ne_nil
      obtain ⟨endorsement, given, accepted, silent⟩ :=
        key.exists_signature (batch.unsigned.messageToSign transaction)
      refine ⟨[endorsement], bind_eq_ok.mpr ⟨signatures, signed,
        bind_eq_ok.mpr ⟨endorsement, ?_, rfl⟩⟩, ?_, ?_⟩
      · rw [Auditor.endorse, signs]
        exact during_eq_ok.mpr given
      · simp [Validator.signaturesOf, Batch.signedBy, present]
      · rw [Validator.auditors, if_neg (by simp [present]), named]
        refine .cons ⟨⟨⟨key.publicKey.verifier, ?_, accepted⟩, trivial⟩, silent⟩ .nil
        exact bind_eq_ok.mpr ⟨_, key.publicKey.ofIdentity_identity, rfl⟩

/-- The request of honest parties is accepted, and does what their actions
say. -/
theorem Batch.Honest.accepted {batch : Batch S} {parameters : PublicParameters S}
    {ledger : Ledger} {now : UInt64} {auditor : Option (Auditor S)}
    (honest : batch.Honest R parameters ledger now) (certified : parameters.Certified)
    (audited : parameters.AuditedBy auditor) (transaction : String) :
    ∃ request, batch.request auditor transaction = .ok request ∧
      (parameters.validator now).verify ledger now transaction request.serialize =
        .ok (batch.issueActions.map .issue ++ batch.transferActions.map .transfer) := by
  obtain ⟨signatures, signed, inOrder⟩ := honest.exists_signatures certified transaction
  obtain ⟨endorsements, made, split, endorsed⟩ := audited.exists_request now signed
  have given := List.rel_append endorsed inOrder
  obtain ⟨consents, silent⟩ := forall₂_and.mp given
  refine ⟨_, made, Validator.verify_eq_ok.mpr ⟨batch.signedBy endorsements signatures,
    batch.issueActions, batch.transferActions, Json.write_ne_nil _, ?_, ⟨?_, ?_, ?_, ?_⟩,
    ⟨endorsements ++ signatures, [], ?_, ?_⟩, ?_⟩⟩
  · simp [TokenRequest.deserialize, TokenRequest.serialize]
  · simp [Batch.signedBy, IssueAction.deserialize, IssueAction.serialize,
      List.forall₂_same]
  · simp [Batch.signedBy, TransferAction.deserialize, TransferAction.serialize,
      List.forall₂_same]
  · intro action membership
    obtain ⟨item, among, rfl⟩ := List.mem_map.mp membership
    obtain ⟨rfl, issues⟩ := honest.issued item among
    exact (issues.valid_and_signs certified now).1
  · intro action membership
    obtain ⟨item, among, rfl⟩ := List.mem_map.mp membership
    obtain ⟨rfl, sends⟩ := honest.sent item among
    exact (sends.valid_and_signs certified).1
  · rw [split, List.append_nil]
  · rw [Validator.principals, List.append_assoc]
    exact consents
  -- No signature of an honest party is a claim, so that the actions are all
  -- that is done.
  · rw [Validator.actionsOf, split, List.filterMap_eq_nil_iff.mpr, List.append_nil]
    intro signature membership
    obtain ⟨principal, -, none⟩ := exists_of_forall₂ silent.flip membership
    exact none

namespace Validator

/-- Under parameters that are set up, updated and valid, the request of honest
issuers and senders, endorsed by the auditor if there is one, is accepted. -/
theorem accepts_honest {parameters : PublicParameters S} {validator : Validator S}
    {ledger : Ledger} {now : UInt64} {batch : Batch S} {auditor : Option (Auditor S)}
    (produced : parameters.Produced R)
    (configured : ofParameters parameters (PublicKey.deserializer S now) = .ok validator)
    (honest : batch.Honest R parameters ledger now)
    (audited : parameters.AuditedBy auditor) (transaction : String) :
    ∃ request, batch.request auditor transaction = .ok request ∧
      validator.verify ledger now transaction request.serialize =
        .ok (batch.issueActions.map .issue ++ batch.transferActions.map .transfer) := by
  obtain ⟨_, -, made⟩ := bind_eq_ok.mp configured
  cases pure_eq_ok.mp made
  exact honest.accepted produced.certified audited transaction

end Validator

namespace Batch.Sample

open Bn254

def issuerKey : SigningKey exponentSuite := ⟨7⟩

def ownerKey : SigningKey exponentSuite := ⟨8⟩

def auditorKey : SigningKey exponentSuite := ⟨9⟩

def script : HashLock.Script where
  sender := ⟨[1]⟩
  recipient := ⟨[2]⟩
  deadline := 10
  lock := ⟨[3], .sha256, .raw⟩

/-- Parameters for values of one digit below two. -/
def base : PublicParameters exponentSuite :=
  Sampling.valueFrom (PublicParameters.setup (.membership 2 1)) (⟨1⟩ : Counter)
    (by decide +kernel)

theorem base_certified : base.Certified :=
  PublicParameters.certified_of_setup (Sampling.gives_valueFrom _ _ _)

/-- The parameters with a named issuer, an auditor and the key of an anonymous
issuer. -/
def parameters : PublicParameters exponentSuite :=
  Sampling.valueFrom
    (((base.withIssuer issuerKey.identity).withAuditor auditorKey.identity).withPolicy
      [5])
    (⟨1⟩ : Counter) (by decide +kernel)

theorem produced : parameters.Produced Counter :=
  .withPolicy (.withAuditor (.withIssuer (.setup (Sampling.gives_valueFrom _ _ _)) _) _)
    (Sampling.gives_valueFrom _ _ _)

theorem configured :
    Validator.ofParameters parameters (PublicKey.deserializer exponentSuite 0) =
      .ok (parameters.validator 0) :=
  bind_eq_ok.mpr ⟨(), toOption_eq_some.mp (by decide +kernel), rfl⟩

def issuer : Issuer exponentSuite :=
  ⟨"ABC", issuerKey.signer, parameters⟩

def issue : IssueAction exponentSuite × List (Metadata exponentSuite) :=
  Sampling.valueFrom (issuer.issue [1] [[1]]) (⟨1⟩ : Counter) (by decide +kernel)

theorem issuer_issues : issuer.Issues Counter issue.1 := by
  have listed : parameters.issuers = [issuerKey.identity] := by rfl
  exact .named rfl (by decide) (.inr (by simp [issuer, listed]))
    (Sampling.gives_valueFrom _ _ _)

def anonymousKey : AnonymousIssuer.Key exponentSuite :=
  (AnonymousIssuer.Key.ofSecret parameters 5).toOption.get (by decide +kernel)

def typeCommitment : TypeCommitment exponentSuite :=
  (TypeCommitment.ofBlinding parameters.pedersen "ABC" 3).toOption.get (by decide +kernel)

def anonymousSigner : AnonymousIssuer.SigningKey exponentSuite :=
  Sampling.valueFrom
    (AnonymousIssuer.SigningKey.generate parameters anonymousKey "ABC" typeCommitment)
    (⟨1⟩ : Counter) (by decide +kernel)

def anonymousIssuer : Issuer exponentSuite :=
  ⟨"ABC", anonymousSigner.signer (⟨1⟩ : Counter), parameters⟩

def anonymousIssue : IssueAction exponentSuite × List (Metadata exponentSuite) :=
  Sampling.valueFrom (anonymousIssuer.issueAnonymously [1] [[1]] typeCommitment)
    (⟨1⟩ : Counter) (by decide +kernel)

theorem anonymousIssuer_issues : anonymousIssuer.Issues Counter anonymousIssue.1 :=
  .anonymous (eq_ok_get _) (eq_ok_get _) (Sampling.gives_valueFrom _ _ _) rfl
    (Sampling.gives_valueFrom _ _ _)

def input : Spendable exponentSuite where
  signer := ownerKey.signer
  token :=
    { owner := ownerKey.identity.bytes
      commitment :=
        (commitToken parameters.pedersen "ABC" 1 4).toOption.get (by decide +kernel) }
  id := ⟨"tx0", 0⟩
  opening := ⟨"ABC", 1, 4, [], []⟩

def ledger : Ledger := fun _ =>
  .ok (Json.write input.token)

def sender : Sender exponentSuite :=
  ⟨input, [], parameters⟩

def transfer : TransferAction exponentSuite × List (Metadata exponentSuite) :=
  Sampling.valueFrom
    (sender.transfer [1, 0, 0] [[], ownerKey.identity.bytes, script.toIdentity.bytes])
    (⟨1⟩ : Counter) (by decide +kernel)

theorem sender_sends : sender.Sends Counter ledger 0 transfer.1 where
  onLedger := by
    have read : Token.deserialize (Json.write input.token) = .ok input.token := by
      simp [Token.deserialize]
    simp only [Sender.inputs, sender, List.forall_mem_singleton]
    exact ⟨_, rfl, Json.write_ne_nil _, read⟩
  owned := by
    simp only [Sender.inputs, sender, List.forall_mem_singleton]
    exact ⟨ownerKey, rfl, rfl⟩
  opened := by
    simp only [Sender.inputs, sender, List.forall_mem_singleton]
    exact eq_ok_get (by decide +kernel)
  made := by
    refine ⟨[1, 0, 0], [[], ownerKey.identity.bytes, script.toIdentity.bytes], _, by simp,
      by decide +kernel, ?_, Sampling.gives_valueFrom _ _ _⟩
    simp only [List.mem_cons, List.not_mem_nil, or_false, forall_eq_or_imp, forall_eq]
    exact ⟨.redeem, .key ownerKey.publicKey,
      .script (toOption_eq_some.mp (by decide +kernel))⟩

def batch : Batch exponentSuite where
  issues := [(issuer, issue.1), (anonymousIssuer, anonymousIssue.1)]
  transfers := [(sender, transfer.1)]

theorem honest : batch.Honest Counter parameters ledger 0 where
  issued := by
    simp only [batch, List.mem_cons, List.not_mem_nil, or_false, forall_eq_or_imp,
      forall_eq]
    exact ⟨⟨rfl, issuer_issues⟩, rfl, anonymousIssuer_issues⟩
  sent := by
    simp only [batch, List.forall_mem_singleton]
    exact ⟨rfl, sender_sends⟩

def auditor : Auditor exponentSuite where
  matchers := ownerMatcher
  signer := auditorKey.signer
  generators := parameters.pedersen

theorem audited : parameters.AuditedBy (some auditor) :=
  ⟨auditorKey, rfl, rfl⟩

/-- Issues by name and anonymously and a transfer are accepted in one endorsed
request. -/
theorem sample_honest :
    parameters.Produced Counter ∧
    Validator.ofParameters parameters (PublicKey.deserializer exponentSuite 0) =
      .ok (parameters.validator 0) ∧
    batch.Honest Counter parameters ledger 0 ∧
    parameters.AuditedBy (some auditor) ∧
    ∃ request, batch.request (some auditor) "tx1" = .ok request ∧
      (parameters.validator 0).verify ledger 0 "tx1" request.serialize =
        .ok [.issue issue.1, .issue anonymousIssue.1, .transfer transfer.1] := by
  refine ⟨produced, configured, honest, audited, ?_⟩
  exact Validator.accepts_honest produced configured honest audited "tx1"

end Batch.Sample

end ConfidentialToken
