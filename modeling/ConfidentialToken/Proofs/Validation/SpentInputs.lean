import ConfidentialToken.Proofs.Bn254.Encoding
import ConfidentialToken.Proofs.Bn254.Exponents
import ConfidentialToken.Proofs.Json.Elementwise
import ConfidentialToken.Proofs.Validation.Acceptance

/-!
What an accepted request spends.

Every input of an accepted request is on the ledger, and the proof of a transfer
counts the token of each input. The ledger is the same for all of them, so that
nothing keeps a request from spending one token twice: its inputs are distinct
exactly if they could be taken off the ledger one after the other.
-/

namespace ConfidentialToken

open Json (LawfulForm RoundTrips)

variable {S : Suite}

/-- A ledger from which the token under an identifier has been taken off. -/
def Ledger.without (ledger : Ledger) (spent : TokenId) : Ledger := fun id =>
  if id = spent then .ok [] else ledger id

/-- Tokens can be taken off a ledger one after the other. -/
def Ledger.Spends (ledger : Ledger) : List (TokenId × Token S) → Prop
  | [] => True
  | (id, token) :: rest => ledger.Holds id token ∧ (ledger.without id).Spends rest

namespace Ledger

theorem Holds.unique {ledger : Ledger} {id : TokenId} {token other : Token S}
    (holds : ledger.Holds id token) (holdsOther : ledger.Holds id other) :
    token = other := by
  obtain ⟨bytes, found, -, read⟩ := holds
  obtain ⟨otherBytes, otherFound, -, otherRead⟩ := holdsOther
  cases found.symm.trans otherFound
  cases read.symm.trans otherRead
  rfl

theorem holds_without {ledger : Ledger} {spent id : TokenId} {token : Token S} :
    (ledger.without spent).Holds id token ↔ id ≠ spent ∧ ledger.Holds id token := by
  by_cases same : id = spent
  · simp [Holds, without, same]
  · simp [Holds, without, same]

/-- Tokens can be taken off a ledger one after the other exactly if each is on
the ledger and none is spent twice. -/
theorem spends_iff {ledger : Ledger} {spent : List (TokenId × Token S)} :
    ledger.Spends spent ↔
      (∀ input ∈ spent, ledger.Holds input.1 input.2) ∧ (spent.map Prod.fst).Nodup := by
  induction spent generalizing ledger with
  | nil => simp [Spends]
  | cons input rest inductionHypothesis =>
      obtain ⟨id, token⟩ := input
      simp only [Spends, inductionHypothesis, holds_without, List.map_cons,
        List.nodup_cons, List.mem_cons, forall_eq_or_imp, List.mem_map]
      constructor
      · rintro ⟨holds, others, distinct⟩
        refine ⟨⟨holds, fun input membership => (others input membership).2⟩, ?_,
          distinct⟩
        rintro ⟨input, membership, same⟩
        exact (others input membership).1 same
      · rintro ⟨⟨holds, others⟩, fresh, distinct⟩
        exact ⟨holds, fun input membership =>
          ⟨fun same => fresh ⟨input, membership, same⟩, others input membership⟩,
            distinct⟩

end Ledger

namespace Action

def transfer? : Action S → Option (TransferAction S)
  | .transfer action => some action
  | _ => none

def transfers (actions : List (Action S)) : List (TransferAction S) :=
  actions.filterMap transfer?

/-- The identifiers of the inputs of all transfers among actions. -/
def spentIds (actions : List (Action S)) : List TokenId :=
  (transfers actions).flatMap TransferAction.inputs

/-- The inputs of all transfers among actions, each with the token that its
proof counts. -/
def spent (actions : List (Action S)) : List (TokenId × Token S) :=
  (transfers actions).flatMap fun transfer => transfer.inputs.zip transfer.inputTokens

/-- The transfers that an accepted request carries out are its own. -/
theorem transfers_actionsOf (validator : Validator S) (request : TokenRequest)
    (issues : List (IssueAction S)) (moved : List (TransferAction S)) :
    transfers (validator.actionsOf request issues moved) = moved := by
  have fromIssues : (issues.map Action.issue).filterMap transfer? = [] := by
    simp [List.filterMap_eq_nil_iff, transfer?]
  have fromTransfers : (moved.map Action.transfer).filterMap transfer? = moved := by
    rw [List.filterMap_map]
    exact List.filterMap_some
  have fromSignatures :
      ((validator.signaturesOf request).filterMap ofSignature?).filterMap transfer? =
        ([] : List (TransferAction S)) := by
    rw [List.filterMap_eq_nil_iff]
    intro action membership
    obtain ⟨signature, -, read⟩ := List.mem_filterMap.mp membership
    obtain ⟨data, rfl⟩ := ofSignature?_eq_some read
    rfl
  rw [transfers, Validator.actionsOf, List.filterMap_append, List.filterMap_append,
    fromIssues, fromTransfers, fromSignatures, List.nil_append, List.append_nil]

/-- Where every input has a token, the inputs with their tokens have the
identifiers of the inputs. -/
theorem map_fst_spent {actions : List (Action S)}
    (lengths : ∀ transfer ∈ transfers actions,
      transfer.inputs.length = transfer.inputTokens.length) :
    (spent actions).map Prod.fst = spentIds actions := by
  rw [spent, spentIds, List.map_flatMap]
  apply List.flatMap_congr
  intro transfer membership
  exact List.map_fst_zip (Nat.le_of_eq (lengths transfer membership))

end Action

namespace Validator

/-- In an accepted request every input has the token that the ledger has under
its identifier, and the proof of its transfer counts that token once for every
input. The identifiers of all inputs are distinct exactly if the tokens can be
taken off the ledger one after the other, which is not checked. -/
theorem inputs_distinct_iff_spends {validator : Validator S} {ledger : Ledger}
    {now : UInt64} {binding : String} {text : Bytes} {actions : List (Action S)}
    (accepted : validator.verify ledger now binding text = .ok actions) :
    (∃ request, TokenRequest.deserialize text = .ok request ∧
      List.Forall₂ (fun bytes transfer => TransferAction.deserialize bytes = .ok transfer)
        request.transfers (Action.transfers actions)) ∧
    (∀ transfer ∈ Action.transfers actions,
      List.Forall₂ ledger.Holds transfer.inputs transfer.inputTokens ∧
      Transfer.Statement.verify
        ⟨validator.parameters, transfer.inputCommitments, transfer.outputCommitments⟩
        transfer.proof = .ok ()) ∧
    (∀ id token other,
      (id, token) ∈ Action.spent actions → (id, other) ∈ Action.spent actions →
      token = other) ∧
    ((Action.spentIds actions).Nodup ↔ ledger.Spends (Action.spent actions)) := by
  obtain ⟨request, issues, transfers, -, parsed, sound, -, rfl⟩ :=
    verify_eq_ok.mp accepted
  have valid (transfer : TransferAction S)
      (membership : transfer ∈
        Action.transfers (validator.actionsOf request issues transfers)) :
      transfer.Valid validator.parameters ledger now :=
    sound.transfersValid transfer
      (Action.transfers_actionsOf validator request issues transfers ▸ membership)
  have holds (input : TokenId × Token S)
      (membership : input ∈ Action.spent (validator.actionsOf request issues transfers)) :
      ledger.Holds input.1 input.2 := by
    obtain ⟨transfer, among, paired⟩ := List.mem_flatMap.mp membership
    exact List.forall₂_zip (valid transfer among).onLedger paired
  refine ⟨⟨request, parsed, ?_⟩, fun transfer membership =>
    ⟨(valid transfer membership).onLedger, (valid transfer membership).proof⟩, ?_, ?_⟩
  · rw [Action.transfers_actionsOf]
    exact sound.transfersParsed
  · intro id token other spent spentOther
    exact (holds _ spent).unique (holds _ spentOther)
  · rw [Ledger.spends_iff, Action.map_fst_spent fun transfer membership =>
      (valid transfer membership).onLedger.length_eq]
    exact ⟨fun distinct => ⟨holds, distinct⟩, fun both => both.2⟩

def sampleParameters : PublicParameters Bn254.exponentSuite where
  label := "zkatdlog"
  curve := .bn254
  pedersen := [2, 3, 5]
  bulletproof := some {
    leftGenerators := [7, 11]
    rightGenerators := [13, 17]
    p := 19
    q := 23
    bitLength := 2
    rounds := 1 }
  membership := none
  credentialKey := []
  auditor := ⟨[]⟩
  issuers := []
  policy := .empty
  maxToken := 3
  precision := 64

theorem sampleParameters_valid : sampleParameters.validate = .ok () :=
  toOption_eq_some.mp (by decide +kernel)

def sampleDeserializer : Deserializer where
  owner _ := .ok fun _ _ => .ok ()
  issuer _ := .ok fun _ _ => .ok ()
  auditor _ := .ok fun _ _ => .ok ()

def sampleValidator : Validator Bn254.exponentSuite where
  parameters := sampleParameters
  deserializer := sampleDeserializer

def sampleToken (owner : Bytes) : Token Bn254.exponentSuite where
  owner := owner
  commitment :=
    13788678127724015647861496589164928655758501171342359901695660022499715215702

def sampleTypeAndSum : Transfer.TypeAndSum.Proof Bn254.exponentSuite where
  commitmentToType :=
    13788678127724015647861496589164928655758501171342359901695660022499715215676
  inputBlinding :=
    [2658311474915662308773209880500429620205032289365280961294610021515896152730]
  inputValues :=
    [12273277173377468765509807812878852354376698344890657652496407104045852324181]
  tokenType :=
    10693282851260930439849681664886452326999888937839668102186488459172795153571
  typeBlinding :=
    21068227234981865457037921599818708151770079806701267440039220677584674638967
  sumBlinding := 29
  challenge :=
    6136638586688734382754903906439426177188349172445328826248203552022926162081

def sampleProof : Transfer.Proof Bn254.exponentSuite where
  conservation := .typeAndSum sampleTypeAndSum
  rangeCorrectness := none

def sampleTransfer : TransferAction Bn254.exponentSuite where
  inputs := [⟨"tx0", 0⟩]
  inputTokens := [sampleToken [1]]
  outputs := [sampleToken []]
  proof := Json.write sampleProof
  metadata := .empty

def sampleRequest : TokenRequest where
  issues := []
  transfers := [sampleTransfer.serialize, sampleTransfer.serialize]
  signatures := [[], []]
  auditorSignatures := []

def sampleLedger : Ledger := fun id =>
  .ok (if id = ⟨"tx0", 0⟩ then Json.write (sampleToken [1]) else [])

theorem sampleToken_roundTrips (owner : Bytes) : RoundTrips (sampleToken owner) :=
  LawfulForm.roundTrips _

theorem sampleProof_roundTrips : RoundTrips sampleProof :=
  LawfulForm.roundTrips _

theorem sampleTransfer_roundTrips : RoundTrips sampleTransfer :=
  LawfulForm.roundTrips _

theorem sampleTransfer_valid : sampleTransfer.Valid sampleParameters sampleLedger 0 where
  shape := rfl
  onLedger := by
    have read :
        Token.deserialize (Json.write (sampleToken [1])) = .ok (sampleToken [1]) := by
      simp [Token.deserialize, (sampleToken_roundTrips [1]).read_write]
    have present : Json.write (sampleToken [1]) ≠ [] := by
      simp [Json.write, Json.toJson, Json.Value.render]
    exact .cons ⟨_, rfl, present, read⟩ .nil
  proof := by
    have checked : Transfer.Statement.verifyProof
        ⟨sampleParameters, sampleTransfer.inputCommitments,
          sampleTransfer.outputCommitments⟩
        sampleProof = .ok () :=
      toOption_eq_some.mp (by decide +kernel)
    have read : Transfer.Proof.deserialize sampleTransfer.proof = .ok sampleProof := by
      simp [Transfer.Proof.deserialize, sampleTransfer, sampleProof_roundTrips.read_write]
    exact bind_eq_ok.mpr ⟨sampleProof, read, checked⟩
  owners := by simp [sampleTransfer, sampleToken, Token.HasValidOwner]

theorem sampleRequest_accepted :
    sampleValidator.verify sampleLedger 0 "tx1" sampleRequest.serialize =
      .ok [.transfer sampleTransfer, .transfer sampleTransfer] := by
  have nonempty : sampleRequest.serialize ≠ [] := by
    simp [TokenRequest.serialize, Json.write, Json.toJson, Json.Value.render]
  have parsed : TokenRequest.deserialize sampleRequest.serialize = .ok sampleRequest := by
    simp [TokenRequest.deserialize, TokenRequest.serialize,
      sampleRequest.roundTrips.read_write]
  have read :
      TransferAction.deserialize sampleTransfer.serialize = .ok sampleTransfer := by
    simp [TransferAction.deserialize, TransferAction.serialize,
      sampleTransfer_roundTrips.read_write]
  have consents : sampleValidator.Consents 0 (sampleRequest.messageToSign "tx1")
      (.owner sampleTransfer (sampleToken [1])) [] :=
    ⟨⟨_, rfl, rfl⟩, .inl rfl⟩
  have sound : sampleValidator.Sound sampleLedger 0 sampleRequest []
      [sampleTransfer, sampleTransfer] := {
    issuesParsed := .nil
    transfersParsed := .cons read (.cons read .nil)
    issuesValid := by simp
    transfersValid := by simp [sampleTransfer_valid, sampleValidator] }
  exact verify_eq_ok.mpr ⟨sampleRequest, [], [sampleTransfer, sampleTransfer], nonempty,
    parsed, sound, ⟨[[], []], [], rfl, .cons consents (.cons consents .nil)⟩, rfl⟩

/-- A request that spends one token twice is accepted. -/
theorem sample_spent_twice :
    ofParameters sampleParameters sampleDeserializer = .ok sampleValidator ∧
    Action.spentIds [Action.transfer sampleTransfer, .transfer sampleTransfer] =
      [⟨"tx0", 0⟩, ⟨"tx0", 0⟩] ∧
    sampleValidator.verify sampleLedger 0 "tx1" sampleRequest.serialize =
      .ok [.transfer sampleTransfer, .transfer sampleTransfer] ∧
    ¬ sampleLedger.Spends
      (Action.spent [Action.transfer sampleTransfer, .transfer sampleTransfer]) := by
  have valid :
      ofParameters sampleParameters sampleDeserializer = .ok sampleValidator := by
    simp [ofParameters, sampleParameters_valid, sampleValidator]
  refine ⟨valid, rfl, sampleRequest_accepted, fun spends => ?_⟩
  have distinct := (inputs_distinct_iff_spends sampleRequest_accepted).2.2.2.mpr spends
  exact absurd distinct (by decide)

end Validator

end ConfidentialToken
