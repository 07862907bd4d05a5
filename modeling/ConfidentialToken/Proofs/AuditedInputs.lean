import ConfidentialToken.Proofs.Audit
import ConfidentialToken.Proofs.Validation.Completeness
import ConfidentialToken.Proofs.Validation.Signatures
import ConfidentialToken.Proofs.Validation.SpentInputs

/-!
Whose owners an auditor inspects.

An auditor does not look into the inputs of a transfer. It inspects the owners
of tokens that its caller has taken from the ledger, and counts them against the
audit information only. A request that passes on the same ledger embeds the
tokens of the ledger, so that the tokens that were inspected are those that are
spent exactly if the caller has taken the right ones.
-/

namespace ConfidentialToken

variable {S : Suite}

/-- Tokens, in one list for each transfer, that a ledger has under the inputs of
the transfer. -/
def Ledger.HoldsInputs (ledger : Ledger) (transfers : List (TransferAction S))
    (supplied : List (List (Token S))) : Prop :=
  List.Forall₂ (fun transfer tokens => List.Forall₂ ledger.Holds transfer.inputs tokens)
    transfers supplied

theorem Ledger.HoldsInputs.unique {ledger : Ledger}
    {transfers : List (TransferAction S)} {supplied others : List (List (Token S))}
    (holds : ledger.HoldsInputs transfers supplied)
    (holdsOthers : ledger.HoldsInputs transfers others) : supplied = others := by
  have oneToken : Relator.RightUnique (ledger.Holds (S := S)) :=
    fun _ _ _ held heldOther => held.unique heldOther
  have oneList : Relator.RightUnique fun (transfer : TransferAction S) tokens =>
      List.Forall₂ ledger.Holds transfer.inputs tokens :=
    fun _ _ _ held heldOther => oneToken.forall₂ held heldOther
  exact oneList.forall₂ holds holdsOthers

/-- The valid transfers of a request embed the tokens of the ledger. -/
theorem Validator.Sound.holdsInputs {validator : Validator S} {ledger : Ledger}
    {now : UInt64} {request : TokenRequest} {issues : List (IssueAction S)}
    {transfers : List (TransferAction S)}
    (sound : validator.Sound ledger now request issues transfers) :
    ledger.HoldsInputs transfers (transfers.map TransferAction.inputTokens) := by
  rw [Ledger.HoldsInputs, List.forall₂_map_right_iff, List.forall₂_same]
  intro transfer membership
  exact (sound.transfersValid transfer membership).onLedger

namespace Auditor

/-- Tokens, in one list for each transfer, come with as many audit information
of the senders, each of which describes the owner of the token at its place. -/
def Inspects (auditor : Auditor S) (metadata : List TransferMetadata)
    (supplied : List (List (Token S))) : Prop :=
  List.Forall₂ (fun disclosed tokens =>
    List.Forall₂ auditor.KnowsOwner tokens disclosed.senderAuditInfos) metadata supplied

/-- An audit is one of the issues and one of the transfers. -/
theorem check_eq_ok {auditor : Auditor S} {request : TokenRequest}
    {metadata : RequestMetadata} {supplied : List (List (Token S))}
    {transaction : String} :
    auditor.check request metadata supplied transaction = .ok () ↔
      (∃ issued, AuditableToken.ofIssues request.issues metadata.issues = .ok issued ∧
        auditor.checkIssues issued transaction = .ok ()) ∧
      ∃ audited, AuditableToken.ofTransfers request.transfers metadata.transfers
        supplied =
          .ok audited ∧
        auditor.checkTransfers audited.1 audited.2 transaction = .ok () := by
  simp only [check, bind_eq_ok, during_eq_ok]
  constructor
  · rintro ⟨issued, issues, ⟨⟩, issuesPass, transfers⟩
    exact ⟨⟨issued, issues, issuesPass⟩, transfers⟩
  · rintro ⟨⟨issued, issues, issuesPass⟩, transfers⟩
    exact ⟨issued, issues, (), issuesPass, transfers⟩

theorem PassesTransfer.forall₂_knowsOwner {auditor : Auditor S}
    {metadata : TransferMetadata} {tokens : List (Token S)} {action : TransferAction S}
    (passes : auditor.PassesTransfer metadata tokens action) :
    List.Forall₂ auditor.KnowsOwner tokens metadata.senderAuditInfos := by
  have each : ∀ pair ∈ tokens.zip metadata.senderAuditInfos,
      auditor.KnowsOwner pair.1 pair.2 :=
    forall_mem_zip.mpr passes.inputs
  apply List.forall₂_iff_zip.mpr
  exact ⟨passes.senderAuditInfos, fun {token info} paired => each (token, info) paired⟩

theorem inspects_of_check {auditor : Auditor S} {request : TokenRequest}
    {metadata : RequestMetadata} {supplied : List (List (Token S))} {transaction : String}
    (passed : auditor.check request metadata supplied transaction = .ok ()) :
    supplied.length = request.transfers.length ∧
      auditor.Inspects metadata.transfers supplied := by
  obtain ⟨described, given, each⟩ := transfers_pass_iff.mp (check_eq_ok.mp passed).2
  refine ⟨given.trans described.symm, List.forall₂_iff_get.mpr ⟨given.symm, ?_⟩⟩
  intro index bound otherBound
  obtain ⟨action, -, passes⟩ := each index _ _ _
    (List.getElem?_eq_getElem (described ▸ bound)) (List.getElem?_eq_getElem bound)
    (List.getElem?_eq_getElem otherBound)
  exact passes.forall₂_knowsOwner

/-- An auditor who passes a request has inspected the owners of all tokens that
it was given, in one list for each transfer. Where an accepted request carries
out the same transfers, the tokens that it was given are the spent ones, in
number, order and content, exactly if they are those of the ledger under the
inputs; then it has inspected the owner of every spent token. -/
theorem owners_of_spent_inspected {auditor : Auditor S} {request : TokenRequest}
    {metadata : RequestMetadata} {supplied : List (List (Token S))} {transaction : String}
    (passed : auditor.check request metadata supplied transaction = .ok ()) :
    supplied.length = request.transfers.length ∧
    auditor.Inspects metadata.transfers supplied ∧
    ∀ (validator : Validator S) (ledger : Ledger) (now : UInt64) (binding : String)
      (text : Bytes) (submitted : TokenRequest) (actions : List (Action S)),
      TokenRequest.deserialize text = .ok submitted →
      submitted.transfers = request.transfers →
      validator.verify ledger now binding text = .ok actions →
      List.Forall₂ (fun bytes transfer => TransferAction.deserialize bytes = .ok transfer)
        request.transfers (Action.transfers actions) ∧
      (ledger.HoldsInputs (Action.transfers actions) supplied ↔
        supplied = (Action.transfers actions).map TransferAction.inputTokens) ∧
      (ledger.HoldsInputs (Action.transfers actions) supplied →
        auditor.Inspects metadata.transfers
          ((Action.transfers actions).map TransferAction.inputTokens)) := by
  obtain ⟨lists, inspects⟩ := inspects_of_check passed
  refine ⟨lists, inspects, ?_⟩
  intro validator ledger now binding text submitted actions read same accepted
  obtain ⟨_, issues, transfers, -, parsed, sound, -, rfl⟩ :=
    Validator.verify_eq_ok.mp accepted
  cases read.symm.trans parsed
  rw [Action.transfers_actionsOf]
  have embedded := sound.holdsInputs
  refine ⟨same ▸ sound.transfersParsed, ⟨fun holds => holds.unique embedded, ?_⟩, ?_⟩
  · rintro rfl
    exact embedded
  · intro holds
    exact holds.unique embedded ▸ inspects

end Auditor

/-- The identity of a key is its own audit information. -/
theorem PublicKey.describesOwner_identity (key : PublicKey S) :
    DescribesOwner ownerMatcher key.identity.bytes key.identity.bytes := by
  have noScript : (Json.read? key.identity.bytes : Option HashLock.AuditInfo) = none := by
    have other :
      (Json.toJson (TypedIdentity.mk publicKeyScheme (encode key.point))).fields
        ["sender", "recipient"] = some [none, none] := rfl
    simp [identity, TypedIdentity.serialize, Json.read?_write_eq, Json.fromJson, other,
      Json.requiredHex]
  refine .party _ (TypedIdentity.read?_serialize _) (.inl rfl)
    ⟨equalityMatcher key.identity.bytes, ?_, ?_⟩
  · simp [ownerMatcher, noScript]
  · simp [equalityMatcher]

namespace Batch.Sample

open Bn254

/-- A transfer that takes the whole value of a token out of the system. -/
def redemption : TransferAction exponentSuite × List (Metadata exponentSuite) :=
  Sampling.valueFrom (sender.transfer [1] [[]]) (⟨1⟩ : Counter) (by decide +kernel)

theorem redemption_gives :
    Sampling.Gives (R := Counter) (sender.transfer [1] [[]]) redemption :=
  Sampling.gives_valueFrom _ _ _

theorem redemption_sends : sender.Sends Counter ledger 0 redemption.1 := by
  obtain ⟨onLedger, owned, opened, -⟩ := sender_sends
  refine ⟨onLedger, owned, opened, [1], [[]], redemption.2,
    List.cons_ne_nil _ _, by decide +kernel, ?_, redemption_gives⟩
  simpa using OutputOwner.redeem

def redeeming : Batch exponentSuite :=
  ⟨[], [(sender, redemption.1)]⟩

theorem redeeming_honest : redeeming.Honest Counter parameters ledger 0 where
  issued := by simp [redeeming]
  sent := by
    simp only [redeeming, List.forall_mem_singleton]
    exact ⟨rfl, redemption_sends⟩

/-- What an auditor is told, with some audit information on the spent tokens. -/
def disclosed (senderAuditInfos : List Bytes) : RequestMetadata where
  issues := []
  transfers := [{
    ids := redemption.1.inputs
    senders := [ownerKey.identity]
    senderAuditInfos := senderAuditInfos
    outputs := redemption.1.outputs.map Json.write
    openings := redemption.2.map Json.write
    outputAuditInfos := [[]]
    receivers := [⟨[]⟩]
    receiverAuditInfos := [[]]
    receiverIsSender := [false] }]
  application := .empty

theorem redemption_read :
    TransferAction.deserialize redemption.1.serialize = .ok redemption.1 := by
  simp [TransferAction.deserialize, TransferAction.serialize]

/-- What leaves the system is opened, and has no owner of whom anything could be
known. -/
theorem redemption_outputs_accepted {index : Nat} {token : Token exponentSuite}
    {metadata : Metadata exponentSuite} {info : Bytes}
    (atToken : redemption.1.outputs[index]? = some token)
    (atMetadata : redemption.2[index]? = some metadata) :
    auditor.Accepts token (Json.write metadata) info := by
  have opened : ∀ pair ∈ redemption.1.outputs.zip redemption.2, pair.1.owner = [] ∧
      linearCombination auditor.generators
        [typeScalar pair.2.tokenType, pair.2.value, pair.2.blindingFactor] =
          pair.1.commitment := by
    decide +kernel
  obtain ⟨unowned, opens⟩ :=
    forall_mem_zip.mp opened index token metadata atToken atMetadata
  have read : Metadata.deserialize (Json.write metadata) = .ok metadata := by
    simp [Metadata.deserialize]
  exact ⟨⟨metadata, read, rfl, opens⟩, fun owned => absurd unowned owned⟩

theorem redemption_passes {infos : List Bytes} {tokens : List (Token exponentSuite)}
    (inspects : List.Forall₂ auditor.KnowsOwner tokens infos) :
    ∀ transfer ∈ (disclosed infos).transfers,
      auditor.PassesTransfer transfer tokens redemption.1 := by
  have created : redemption.1.outputs.length = 1 ∧ redemption.2.length = 1 := by
    decide +kernel
  refine List.forall_mem_singleton.mpr
    ⟨inspects.length_eq, created.1, created.1, ?_, ?_, ?_⟩
  · rw [List.length_map, created.1, created.2]
  · intro index token info atToken atInfo
    exact forall_mem_zip.mp (fun pair paired => List.forall₂_zip inspects paired) index
      token info atToken atInfo
  · intro index token opening info atToken atOpening _
    obtain ⟨metadata, atMetadata, rfl⟩ := Option.map_eq_some_iff.mp
      (List.getElem?_map.symm.trans atOpening)
    exact redemption_outputs_accepted atToken atMetadata

/-- The redemption passes with any tokens whose owners are known. -/
theorem redeeming_passes {infos : List Bytes} {tokens : List (Token exponentSuite)}
    (inspects : List.Forall₂ auditor.KnowsOwner tokens infos)
    (endorsements signatures : List Bytes) :
    auditor.check (redeeming.signedBy endorsements signatures) (disclosed infos)
      [tokens] "tx1" =
      .ok () := by
  refine Auditor.check_eq_ok.mpr ⟨Auditor.issues_pass_iff.mpr ⟨rfl, by simp [disclosed]⟩,
    Auditor.transfers_pass_iff.mpr ⟨rfl, rfl, ?_⟩⟩
  intro index bytes transfer supplied atBytes atTransfer atTokens
  cases List.mem_singleton.mp (List.mem_of_getElem? atBytes)
  cases List.mem_singleton.mp (List.mem_of_getElem? atTokens)
  exact ⟨_, redemption_read,
    redemption_passes inspects transfer (List.mem_of_getElem? atTransfer)⟩

theorem redeeming_accepted : ∃ endorsements signatures,
    redeeming.request (some auditor) "tx1" =
      .ok (redeeming.signedBy endorsements signatures) ∧
    (parameters.validator 0).verify ledger 0 "tx1"
        (redeeming.signedBy endorsements signatures).serialize =
          .ok [.transfer redemption.1] := by
  obtain ⟨request, made, accepted⟩ :=
    redeeming_honest.accepted produced.certified audited "tx1"
  obtain ⟨signatures, -, endorsed⟩ := bind_eq_ok.mp made
  obtain ⟨endorsement, -, gathered⟩ := bind_eq_ok.mp endorsed
  cases pure_eq_ok.mp gathered
  exact ⟨_, _, made, accepted⟩

/-- A token leaves the system in an endorsed request that is accepted, although
no owner was inspected. -/
theorem redeemed_without_inspection :
    Validator.ofParameters parameters (PublicKey.deserializer exponentSuite 0) =
      .ok (parameters.validator 0) ∧
    ∃ request, redeeming.request (some auditor) "tx1" = .ok request ∧
      auditor.check request (disclosed []) [[]] "tx1" = .ok () ∧
      (parameters.validator 0).verify ledger 0 "tx1" request.serialize =
        .ok [.transfer redemption.1] ∧
      request.transfers = [redemption.1.serialize] ∧
      TransferAction.deserialize redemption.1.serialize = .ok redemption.1 ∧
      redemption.1.inputTokens = [input.token] ∧ input.token.owner ≠ [] := by
  obtain ⟨endorsements, signatures, made, accepted⟩ := redeeming_accepted
  exact ⟨configured, _, made, redeeming_passes .nil _ _, accepted, rfl, redemption_read,
    by decide +kernel, ownerKey.publicKey.identity_ne_nil⟩

/-- With the token of the ledger the owner of the redeemed token is
inspected. -/
theorem redeemed_after_inspection :
    ∃ request, auditor.check request (disclosed [ownerKey.identity.bytes])
      [[input.token]] "tx1" =
        .ok () ∧
      (parameters.validator 0).verify ledger 0 "tx1" request.serialize =
        .ok [.transfer redemption.1] ∧
      ledger.HoldsInputs [redemption.1] [[input.token]] ∧
      [[input.token]] = [redemption.1.inputTokens] ∧
      auditor.KnowsOwner input.token ownerKey.identity.bytes := by
  obtain ⟨endorsements, signatures, -, accepted⟩ := redeeming_accepted
  have known : auditor.KnowsOwner input.token ownerKey.identity.bytes := fun nonempty =>
    ⟨nonempty, ownerKey.publicKey.describesOwner_identity⟩
  have passed := redeeming_passes (.cons known .nil) endorsements signatures
  obtain ⟨-, inspects, each⟩ := Auditor.owners_of_spent_inspected passed
  obtain ⟨-, spent, -⟩ :=
    each _ _ _ _ _ _ _ (TokenRequest.deserialize_serialize _) rfl accepted
  have embedded : [[input.token]] = [redemption.1.inputTokens] := by
    decide +kernel
  exact ⟨_, passed, accepted, spent.mpr embedded, embedded, known⟩

end Batch.Sample

end ConfidentialToken
