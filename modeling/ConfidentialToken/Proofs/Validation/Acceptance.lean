import ConfidentialToken.Proofs.Validation.Actions
import ConfidentialToken.Validation.Validator

/-!
When a request is accepted.

The validator walks through a request and uses up its signatures one after the
other. Acceptance is stated here without that walk: the principals of a request
are listed in order, and the signature at an index is the one of the principal
at that index. No signature is skipped and none is used twice.
-/

namespace ConfidentialToken

variable {S : Suite}

inductive Principal (S : Suite) where
  | auditor (identity : Identity)
  | issuer (action : IssueAction S)
  /-- The owner of a token that a transfer spends. -/
  | owner (action : TransferAction S) (token : Token S)

namespace Principal

def verifier (principal : Principal S) (parameters : PublicParameters S)
    (deserializer : Deserializer) : Result Verifier :=
  match principal with
  | .auditor identity => deserializer.auditor identity
  | .issuer action => action.principalVerifier parameters deserializer
  | .owner _ token => deserializer.owner ⟨token.owner⟩

/-- A signature of an owner respects the script that locks the token, if there
is one. -/
def RespectsScript (principal : Principal S) (now : UInt64) (signature : Bytes) : Prop :=
  match principal with
  | .owner action token => action.RespectsScript now token signature
  | _ => True

end Principal

theorem Action.ofSignature?_eq_some {signature : Bytes} {action : Action S}
    (read : ofSignature? signature = some action) : ∃ data, action = .signature data := by
  simp only [ofSignature?, Option.bind_eq_bind, Option.bind_eq_some_iff] at read
  obtain ⟨claim, -, made⟩ := read
  split at made
  · cases made
  · cases made
    exact ⟨_, rfl⟩

namespace Validator

theorem ofParameters_eq_ok {parameters : PublicParameters S} {deserializer : Deserializer}
    {validator : Validator S} :
    ofParameters parameters deserializer = .ok validator ↔
      parameters.validate = .ok () ∧ validator = ⟨parameters, deserializer⟩ := by
  rw [ofParameters, bind_eq_ok]
  constructor
  · rintro ⟨⟨⟩, valid, made⟩
    exact ⟨valid, (pure_eq_ok.mp made).symm⟩
  · rintro ⟨valid, rfl⟩
    exact ⟨(), valid, rfl⟩

def auditors (validator : Validator S) : List (Principal S) :=
  if validator.parameters.auditor.isNone then [] else
    [.auditor validator.parameters.auditor]

/-- The owners of the tokens that a transfer spends, input by input. -/
def owners (action : TransferAction S) : List (Principal S) :=
  action.inputTokens.map (.owner action)

/-- The principals of a request, in the order of their signatures: the auditor,
the issuer of each issue, and the owner of each input of each transfer. -/
def principals (validator : Validator S) (issues : List (IssueAction S))
    (transfers : List (TransferAction S)) : List (Principal S) :=
  validator.auditors ++ issues.map .issuer ++ transfers.flatMap owners

/-- A principal has signed a message, and respects a script that locks its
token. -/
def Consents (validator : Validator S) (now : UInt64) (message : Bytes)
    (principal : Principal S) (signature : Bytes) : Prop :=
  Signed (principal.verifier validator.parameters validator.deserializer) message
    signature ∧
    principal.RespectsScript now signature

/-- The actions of a request can be read, and each is valid. -/
structure Sound (validator : Validator S) (ledger : Ledger) (now : UInt64)
    (request : TokenRequest) (issues : List (IssueAction S))
    (transfers : List (TransferAction S)) : Prop where
  issuesParsed :
    List.Forall₂ (fun bytes issue => IssueAction.deserialize bytes = .ok issue)
      request.issues issues
  transfersParsed : List.Forall₂
    (fun bytes transfer => TransferAction.deserialize bytes = .ok transfer)
    request.transfers transfers
  issuesValid : ∀ issue ∈ issues, issue.Valid validator.parameters
  transfersValid : ∀ transfer ∈ transfers, transfer.Valid validator.parameters ledger now

/-- What makes a text an acceptable request with the given actions. -/
structure Acceptable (validator : Validator S) (ledger : Ledger) (now : UInt64)
    (binding : String) (text : Bytes) (request : TokenRequest)
    (issues : List (IssueAction S)) (transfers : List (TransferAction S)) : Prop
    extends Sound validator ledger now request issues transfers where
  nonempty : text ≠ []
  parsed : TokenRequest.deserialize text = .ok request
  enoughSignatures : (validator.principals issues transfers).length ≤
    (validator.signaturesOf request).length
  /-- The verifier of each principal accepts the signature at the same index,
  and where a script locks the spent token, that signature respects it. -/
  signed : ∀ (index : Nat) (principal : Principal S) (signature : Bytes),
    (validator.principals issues transfers)[index]? = some principal →
    (validator.signaturesOf request)[index]? = some signature →
    validator.Consents now (request.messageToSign binding) principal signature

/-- What an accepted request does: its issues, its transfers, and what its
signatures make known. -/
def actionsOf (validator : Validator S) (request : TokenRequest)
    (issues : List (IssueAction S)) (transfers : List (TransferAction S)) :
    List (Action S) :=
  issues.map .issue ++ transfers.map .transfer ++
    (validator.signaturesOf request).filterMap Action.ofSignature?

theorem takes_checkAuditor (validator : Validator S) (now : UInt64) (message : Bytes) :
    (validator.checkAuditor message).Takes fun _ block =>
      List.Forall₂ (validator.Consents now message) validator.auditors block := by
  cases absent : validator.parameters.auditor.isNone with
  | true =>
      simp only [checkAuditor, auditors, absent, if_true]
      apply (Checking.takes_pure ()).congr
      simp
  | false =>
      simp only [checkAuditor, auditors, absent, Bool.false_eq_true, if_false]
      have consents (block : List Bytes) : List.Forall₂ (validator.Consents now message)
          [.auditor validator.parameters.auditor] block ↔ ∃ signature,
          block = [signature] ∧
            Signed (validator.deserializer.auditor validator.parameters.auditor) message
              signature := by
        simp [List.forall₂_cons_left_iff, Consents, Principal.verifier,
          Principal.RespectsScript, and_comm]
      simp only [consents]
      cases found : validator.deserializer.auditor validator.parameters.auditor with
      | error failure =>
          apply (Checking.takes_throw _).congr
          simp [Signed]
      | ok verify =>
          apply ((Checking.takes_nextSignature message verify).bind
            fun _ => Checking.takes_pure ()).congr
          rintro ⟨⟩ block
          constructor
          · rintro ⟨signature, _, _, rfl, ⟨rfl, verified⟩, -, rfl⟩
            exact ⟨signature, rfl, verify, rfl, verified⟩
          · rintro ⟨signature, rfl, _, same, verified⟩
            cases same
            exact ⟨signature, [signature], [], rfl, ⟨rfl, verified⟩, rfl, rfl⟩

theorem takes_issues (validator : Validator S) (now : UInt64) (message : Bytes)
    (activity : String) (issues : List (IssueAction S)) :
    Checking.Takes (issues.forM fun action => Checking.during activity
      (action.check validator.parameters validator.deserializer message)) fun _ block =>
        (∀ issue ∈ issues, issue.Valid validator.parameters) ∧
        List.Forall₂ (validator.Consents now message) (issues.map .issuer) block := by
  apply (Checking.takes_forM (fun action => (action.takes_check validator.parameters
    validator.deserializer message).during activity) issues).congr
  intro _ block
  induction issues generalizing block with
  | nil => simp
  | cons issue issues inductionHypothesis =>
      simp only [List.forall₂_cons_left_iff, List.map_cons, List.mem_cons,
        forall_eq_or_imp]
      constructor
      · rintro ⟨_, rfl, _, blocks, ⟨signature, rfl, valid, signed⟩, related, rfl⟩
        obtain ⟨validRest, rest⟩ := (inductionHypothesis _).mp ⟨blocks, rfl, related⟩
        exact ⟨⟨valid, validRest⟩, signature, blocks.flatten, ⟨signed, trivial⟩,
          rest, rfl⟩
      · rintro ⟨⟨valid, validRest⟩, signature, _, ⟨signed, -⟩, rest, rfl⟩
        obtain ⟨blocks, rfl, related⟩ := (inductionHypothesis _).mpr ⟨validRest, rest⟩
        exact ⟨[signature] :: blocks, rfl, [signature], blocks,
          ⟨signature, rfl, valid, signed⟩, related, rfl⟩

theorem takes_transfers (validator : Validator S) (ledger : Ledger) (now : UInt64)
    (message : Bytes) (activity : String) (transfers : List (TransferAction S)) :
    Checking.Takes (transfers.forM fun action => Checking.during activity
      (action.check validator.parameters ledger validator.deserializer message now))
          fun _ block =>
        (∀ transfer ∈ transfers, transfer.Valid validator.parameters ledger now) ∧
        List.Forall₂ (validator.Consents now message)
          (transfers.flatMap owners) block := by
  apply (Checking.takes_forM
    (fun action => (action.takes_check validator.parameters ledger
    validator.deserializer message now).during activity) transfers).congr
  intro _ block
  induction transfers generalizing block with
  | nil => simp
  | cons transfer transfers inductionHypothesis =>
      simp only [List.forall₂_cons_left_iff, List.flatMap_cons, forall₂_append,
        List.mem_cons, forall_eq_or_imp]
      constructor
      · rintro ⟨_, rfl, front, blocks, ⟨valid, consents⟩, related, rfl⟩
        obtain ⟨validRest, rest⟩ := (inductionHypothesis _).mp ⟨blocks, rfl, related⟩
        exact ⟨⟨valid, validRest⟩, front, blocks.flatten, rfl,
          List.forall₂_map_left_iff.mpr consents, rest⟩
      · rintro ⟨⟨valid, validRest⟩, front, _, rfl, consents, rest⟩
        obtain ⟨blocks, rfl, related⟩ := (inductionHypothesis _).mpr ⟨validRest, rest⟩
        exact ⟨front :: blocks, rfl, front, blocks,
          ⟨valid, List.forall₂_map_left_iff.mp consents⟩, related, rfl⟩

theorem takes_checkRequest (validator : Validator S) (ledger : Ledger) (now : UInt64)
    (binding : String) (request : TokenRequest) :
    (validator.checkRequest ledger now binding request).Takes fun actions block =>
      validator.Sound ledger now request actions.1 actions.2 ∧
      List.Forall₂ (validator.Consents now (request.messageToSign binding))
        (validator.principals actions.1 actions.2) block := by
  have auditor :=
    (validator.takes_checkAuditor now (request.messageToSign binding)).during
      s!"failed to verifier auditor's signature [{binding}]"
  refine Checking.Takes.congr (auditor.bind fun _ => (Checking.takes_lift _).bind
    fun issues => (Checking.takes_lift _).bind fun transfers =>
      (validator.takes_issues now _ _ issues).bind fun _ =>
        (validator.takes_transfers ledger now _ _ transfers).bind fun _ =>
          Checking.takes_pure (issues, transfers)) ?_
  rintro ⟨issues, transfers⟩ block
  simp only [during_eq_ok, mapM_eq_ok, principals, forall₂_append]
  constructor
  · rintro ⟨⟨⟩, auditorBlock, _, rfl, auditorConsents, _, _, _, rfl,
      ⟨issuesParsed, rfl⟩, _, _, _, rfl, ⟨transfersParsed, rfl⟩, _, issueBlock, _, rfl,
      ⟨issuesValid, issuersConsent⟩, _, transferBlock, _, rfl,
      ⟨transfersValid, ownersConsent⟩, equal, rfl⟩
    cases equal
    refine ⟨⟨issuesParsed, transfersParsed, issuesValid, transfersValid⟩,
      auditorBlock ++ issueBlock, transferBlock, by simp, ?_, ownersConsent⟩
    exact ⟨auditorBlock, issueBlock, rfl, auditorConsents, issuersConsent⟩
  · rintro ⟨⟨issuesParsed, transfersParsed, issuesValid, transfersValid⟩, _,
      transferBlock, rfl,
      ⟨auditorBlock, issueBlock, rfl, auditorConsents, issuersConsent⟩, ownersConsent⟩
    exact ⟨(), auditorBlock, _, List.append_assoc _ _ _, auditorConsents, issues, [], _,
      rfl, ⟨issuesParsed, rfl⟩, transfers, [], _, rfl, ⟨transfersParsed, rfl⟩, (),
      issueBlock, _, rfl, ⟨issuesValid, issuersConsent⟩, (), transferBlock, [],
      (List.append_nil _).symm, ⟨transfersValid, ownersConsent⟩, rfl, rfl⟩

/-- The steps of a verification: a request is read, its actions are checked
against its signatures, and what it does is put together. -/
theorem verify_eq (validator : Validator S) (ledger : Ledger) (now : UInt64)
    (binding : String) (text : Bytes) :
    validator.verify ledger now binding text = (do
      if text.isEmpty then
        throw (.invalidInput "empty token request")
      let request ← TokenRequest.deserialize text
      let actions ← ((validator.checkRequest ledger now binding request).answer
        (validator.signaturesOf request)).1
      return validator.actionsOf request actions.1 actions.2) :=
  rfl

theorem verify_eq_ok {validator : Validator S} {ledger : Ledger} {now : UInt64}
    {binding : String} {text : Bytes} {actions : List (Action S)} :
    validator.verify ledger now binding text = .ok actions ↔
      ∃ request issues transfers,
        text ≠ [] ∧ TokenRequest.deserialize text = .ok request ∧
        validator.Sound ledger now request issues transfers ∧
        (∃ block rest, validator.signaturesOf request = block ++ rest ∧
          List.Forall₂ (validator.Consents now (request.messageToSign binding))
            (validator.principals issues transfers) block) ∧
        actions = validator.actionsOf request issues transfers := by
  rw [verify_eq]
  simp only [guard_eq_ok, bind_eq_ok, pure_eq_ok, List.isEmpty_iff, Prod.exists,
    (validator.takes_checkRequest ledger now binding _).outcome_eq_ok]
  constructor
  · rintro ⟨nonempty, request, parsed, issues, transfers,
      ⟨block, rest, split, sound, consents⟩, rfl⟩
    exact ⟨request, issues, transfers, nonempty, parsed, sound,
      ⟨block, rest, split, consents⟩, rfl⟩
  · rintro ⟨request, issues, transfers, nonempty, parsed, sound,
      ⟨block, rest, split, consents⟩, rfl⟩
    exact ⟨nonempty, request, parsed, issues, transfers,
      ⟨block, rest, split, sound, consents⟩, rfl⟩

/-- A request is accepted exactly if it is acceptable, and then it does what its
actions say. -/
theorem accepts_iff_acceptable (validator : Validator S) (ledger : Ledger) (now : UInt64)
    (binding : String) (text : Bytes) (actions : List (Action S)) :
    validator.verify ledger now binding text = .ok actions ↔
      ∃ request issues transfers,
        validator.Acceptable ledger now binding text request issues transfers ∧
        actions = validator.actionsOf request issues transfers := by
  rw [verify_eq_ok]
  refine exists_congr fun request => exists_congr fun issues =>
    exists_congr fun transfers => ?_
  rw [exists_block_forall₂_iff]
  constructor
  · rintro ⟨nonempty, parsed, sound, ⟨enough, signed⟩, result⟩
    exact ⟨{ sound with nonempty, parsed, enoughSignatures := enough, signed }, result⟩
  · rintro ⟨acceptable, result⟩
    exact ⟨acceptable.nonempty, acceptable.parsed, acceptable.toSound,
      ⟨acceptable.enoughSignatures, acceptable.signed⟩, result⟩

end Validator

end ConfidentialToken
