import ConfidentialToken.Proofs.Trapping.ActionProofs
import ConfidentialToken.Proofs.Trapping.Issuers
import ConfidentialToken.Validation.Validator

/-!
The validation of requests does not trap.

A validator gives an outcome for every text, whatever the actions, proofs and
signatures in it are. The public parameters need not even be valid: every
verifier makes sure of the lengths of what it reads itself.
-/

namespace ConfidentialToken

open Trapping

variable {S : Suite} {α β γ : Type}

/-- A check that takes signatures, and that may trap. -/
abbrev TrappingChecking := ExceptT Error (StateT (List Bytes) Option)

namespace TrappingChecking

/-- The check that gives the outcome of another one. -/
def done (check : Checking α) : TrappingChecking α :=
  fun signatures => some (check signatures)

/-- The check that takes no signatures. -/
def ofTrapping (computation : Trapping α) : TrappingChecking α := fun signatures =>
  computation.run.map fun outcome => (outcome, signatures)

/-- The outcome of a computation, which is no failure of the check. -/
def attempt (computation : Trapping α) : TrappingChecking (Result α) := fun signatures =>
  computation.run.map fun outcome => (.ok outcome, signatures)

/-- Adds to a failure what was being done when it occurred. -/
def during (activity : String) (check : TrappingChecking α) : TrappingChecking α :=
  fun signatures => (check signatures).map fun (outcome, rest) =>
    (ConfidentialToken.during activity outcome, rest)

/-- Takes the next signature, which must be one on the message. -/
def nextSignature (message : Bytes) (verifier : TrappingVerifier) : TrappingChecking Bytes
  | [] => some (.error (.identity "invalid state, insufficient number of signatures"), [])
  | signature :: rest => (verifier message signature).run.map fun outcome =>
      (outcome.map fun _ => signature, rest)

theorem during_eq_done (activity : String) {check : TrappingChecking α}
    {plain : Checking α} (inner : check = done plain) :
    during activity check = done (Checking.during activity plain) := by
  rw [inner]
  rfl

theorem nextSignature_eq (message : Bytes) (verifier : Verifier) :
    nextSignature message verifier.total =
      done (Checking.nextSignature message verifier) := by
  funext signatures
  cases signatures <;> rfl

/-- Two checks in a row give an outcome if both do. -/
theorem bind_eq_done {check : TrappingChecking α} {plain : Checking α}
    {next : α → TrappingChecking β} {rest : α → Checking β} (first : check = done plain)
    (second : ∀ value, next value = done (rest value)) :
    check >>= next = done (plain >>= rest) := by
  rw [first, funext second]
  funext signatures
  have opened : (done plain >>= fun value => done (rest value)) signatures =
      ExceptT.bindCont (fun value => done (rest value)) (plain signatures).1
        (plain signatures).2 := rfl
  have plainly : (plain >>= rest) signatures =
      ExceptT.bindCont rest (plain signatures).1 (plain signatures).2 := rfl
  rw [opened, done, plainly]
  cases (plain signatures).1 <;> rfl

/-- As `bind_eq_done` after a step that takes no signatures, whose value the
machine may represent differently. -/
theorem ofTrapping_bind_eq_done {represent : γ → α} {step : Trapping α}
    {outcome : Result γ} {next : α → TrappingChecking β} {rest : γ → Checking β}
    (first : step = Trapping.done (outcome.map represent))
    (second : ∀ value, next (represent value) = done (rest value)) :
    ofTrapping step >>= next = done (liftM outcome >>= rest) := by
  subst first
  cases outcome with
  | ok value => exact second value
  | error failure => rfl

theorem attempt_bind_eq_done {step : Trapping α} {outcome : Result α}
    {next : Result α → TrappingChecking β} {rest : Checking β}
    (first : step = Trapping.done outcome) (second : next outcome = done rest) :
    attempt step >>= next = done rest := by
  subst first
  exact second

theorem mapM_eq_done {body : α → TrappingChecking β} {check : α → Checking β}
    (each : ∀ item, body item = done (check item)) (list : List α) :
    list.mapM body = done (list.mapM check) := by
  induction list with
  | nil => rfl
  | cons first rest inductionHypothesis =>
      rw [List.mapM_cons, List.mapM_cons]
      exact bind_eq_done (each first) fun _ =>
        bind_eq_done inductionHypothesis fun _ => rfl

theorem forM_eq_done {body : α → TrappingChecking Unit} {check : α → Checking Unit}
    (each : ∀ item, body item = done (check item)) (list : List α) :
    list.forM body = done (list.forM check) := by
  induction list with
  | nil => rfl
  | cons first rest inductionHypothesis =>
      exact bind_eq_done (each first) fun _ => inductionHypothesis

end TrappingChecking

namespace IssueAction

variable {machine : TrappingDeserializer} {deserializer : Deserializer}

/-- `namedVerifier`, with the deserializer of the machine. -/
def namedVerifierTrapping (action : IssueAction S) (parameters : PublicParameters S)
    (machine : TrappingDeserializer) : Trapping TrappingVerifier := do
  if !parameters.issuers.isEmpty && !decide (action.issuer ∈ parameters.issuers) then
    throw (.identity s!"issuer [{action.issuer.text}] is not in issuers")
  Trapping.during s!"failed getting verifier for [{action.issuer.text}]"
    (machine.issuer action.issuer)

/-- `anonymousVerifier`, reading the generators by their index. -/
def anonymousVerifierTrapping (action : IssueAction S) (parameters : PublicParameters S)
    (commitmentToType : S.G1) : Trapping TrappingVerifier := do
  let pseudonym ← done (AnonymousIssuer.pseudonym action.issuer)
  let key ← AnonymousIssuer.VerificationKey.ofParametersTrapping parameters pseudonym
    commitmentToType
  return key.verifierTrapping

/-- `issuerVerifier`, reading all lists by their index. -/
def issuerVerifierTrapping (action : IssueAction S) (parameters : PublicParameters S)
    (machine : TrappingDeserializer) : Trapping TrappingVerifier := do
  done action.validate
  let proof ← done (Issue.Proof.deserialize action.proof)
  let statement : Issue.Statement S := ⟨parameters, action.commitments, action.anonymous⟩
  Trapping.during "failed to verify issue action" (statement.verifyProofTrapping proof)
  if action.anonymous then
    action.anonymousVerifierTrapping parameters proof.wellFormedness.commitmentToType
  else action.namedVerifierTrapping parameters machine

/-- `check`, reading all lists by their index. -/
def checkTrapping (action : IssueAction S) (parameters : PublicParameters S)
    (machine : TrappingDeserializer) (message : Bytes) : TrappingChecking Unit := do
  let verifier ←
    TrappingChecking.ofTrapping (action.issuerVerifierTrapping parameters machine)
  let _ ← TrappingChecking.during "failed verifying signature"
    (TrappingChecking.nextSignature message verifier)

theorem namedVerifierTrapping_eq (follows : machine.Follows deserializer)
    (action : IssueAction S) (parameters : PublicParameters S) :
    action.namedVerifierTrapping parameters machine =
      done ((action.namedVerifier parameters deserializer).map Verifier.total) := by
  unfold namedVerifierTrapping namedVerifier
  split
  · rfl
  · exact during_eq_done_map _ (follows.issuer action.issuer)

theorem anonymousVerifierTrapping_eq (action : IssueAction S)
    (parameters : PublicParameters S) (commitmentToType : S.G1) :
    action.anonymousVerifierTrapping parameters commitmentToType =
      done ((action.anonymousVerifier parameters commitmentToType).map
        Verifier.total) := by
  refine bind_eq_done_map rfl fun pseudonym _ => bind_eq_done_map
    (AnonymousIssuer.VerificationKey.ofParametersTrapping_eq parameters pseudonym
      commitmentToType)
    fun key _ => ?_
  rw [key.verifierTrapping_total]
  rfl

theorem issuerVerifierTrapping_eq (follows : machine.Follows deserializer)
    (action : IssueAction S) (parameters : PublicParameters S) :
    action.issuerVerifierTrapping parameters machine =
      done ((action.issuerVerifier parameters deserializer).map Verifier.total) := by
  refine bind_eq_done_map rfl fun _ _ => bind_eq_done_map rfl fun proof _ =>
    bind_eq_done_map (during_eq_done _ (Issue.Statement.verifyProofTrapping_eq _ proof))
      fun _ _ => ?_
  split
  · exact action.anonymousVerifierTrapping_eq parameters
      proof.wellFormedness.commitmentToType
  · exact action.namedVerifierTrapping_eq follows parameters

theorem checkTrapping_eq (follows : machine.Follows deserializer) (action : IssueAction S)
    (parameters : PublicParameters S) (message : Bytes) :
    action.checkTrapping parameters machine message =
      TrappingChecking.done (action.check parameters deserializer message) :=
  TrappingChecking.ofTrapping_bind_eq_done
    (action.issuerVerifierTrapping_eq follows parameters)
    fun verifier => TrappingChecking.bind_eq_done
      (TrappingChecking.during_eq_done _
        (TrappingChecking.nextSignature_eq message verifier))
      fun _ => rfl

end IssueAction

namespace TransferAction

variable {machine : TrappingDeserializer} {deserializer : Deserializer}

/-- `checkInput`, with the deserializer of the machine. -/
def checkInputTrapping (ledger : Ledger) (machine : TrappingDeserializer)
    (message : Bytes) (place : Nat) (id : TokenId) (embedded : Token S) :
    TrappingChecking (Token S × Bytes) := do
  let token ← TrappingChecking.ofTrapping (done (ledger.lookUp id embedded))
  let owner : Identity := ⟨token.owner⟩
  let verifier ← TrappingChecking.ofTrapping
    (Trapping.during s!"failed deserializing owner [{place}][{id.text}][{owner.text}]"
      (machine.owner owner))
  let signature ← TrappingChecking.during
    s!"failed signature verification [{place}][{id.text}][{owner.text}]"
    (TrappingChecking.nextSignature message verifier)
  return (token, signature)

/-- `checkSignatures`, with the deserializer of the machine. -/
def checkSignaturesTrapping (action : TransferAction S) (ledger : Ledger)
    (machine : TrappingDeserializer) (message : Bytes) :
    TrappingChecking (SpentTokens S) := do
  let spent ← (action.inputs.zip action.inputTokens).zipIdx.mapM
    fun ((id, embedded), place) =>
      checkInputTrapping ledger machine message place id embedded
  return ⟨spent.map Prod.fst, spent.map Prod.snd⟩

/-- `checkScript`, reading the output by its index. -/
def checkScriptTrapping (action : TransferAction S) (spent : SpentTokens S) (now : UInt64)
    (input : Token S) (place : Nat) : Trapping Unit := do
  let script ← done (HashLock.Script.ofOwner input.owner)
  if script.isNone then return
  if spent.tokens.length ≠ 1 ∨ action.outputs.length ≠ 1 then
    throw (.invalidInput
      "invalid transfer action: an htlc script only transfers the ownership of a token")
  let output ← item action.outputs 0
  let (script, operation) ← done (ConfidentialToken.during
    "failed to verify transfer from htlc script"
    (HashLock.verifyOwner input.owner output.owner now))
  let some signature := spent.signatures[place]?
    | throw (.identity s!"missing signature for input [{place}]")
  done (ConfidentialToken.during "failed to check htlc metadata"
    (script.checkMetadata operation action signature))

/-- `checkScripts`, reading the output by its index. -/
def checkScriptsTrapping (action : TransferAction S) (spent : SpentTokens S)
    (now : UInt64) : Trapping Unit :=
  spent.tokens.zipIdx.forM fun (input, place) =>
    action.checkScriptTrapping spent now input place

/-- `check`, reading all lists by their index. -/
def checkTrapping (action : TransferAction S) (parameters : PublicParameters S)
    (ledger : Ledger) (machine : TrappingDeserializer) (message : Bytes)
    (now : UInt64) : TrappingChecking Unit := do
  let step {α : Type} (check : TrappingChecking α) : TrappingChecking α :=
    TrappingChecking.during "failed to verify transfer action" check
  TrappingChecking.ofTrapping (done action.validate)
  let spent ← step (action.checkSignaturesTrapping ledger machine message)
  let statement : Transfer.Statement S :=
    ⟨parameters, spent.tokens.map Token.commitment, action.outputCommitments⟩
  step (TrappingChecking.ofTrapping (statement.verifyTrapping action.proof))
  step (TrappingChecking.ofTrapping (action.checkScriptsTrapping spent now))
  step (TrappingChecking.ofTrapping (done (action.checkOwners now)))

theorem checkInputTrapping_eq (follows : machine.Follows deserializer) (ledger : Ledger)
    (message : Bytes) (place : Nat) (id : TokenId) (embedded : Token S) :
    checkInputTrapping ledger machine message place id embedded =
      TrappingChecking.done
        (checkInput ledger deserializer message place id embedded) := by
  refine TrappingChecking.bind_eq_done rfl fun token =>
    TrappingChecking.ofTrapping_bind_eq_done
    (during_eq_done_map _ (follows.owner ⟨token.owner⟩)) fun verifier => ?_
  exact TrappingChecking.bind_eq_done
    (TrappingChecking.during_eq_done _
      (TrappingChecking.nextSignature_eq message verifier))
    fun _ => rfl

theorem checkSignaturesTrapping_eq (follows : machine.Follows deserializer)
    (action : TransferAction S) (ledger : Ledger) (message : Bytes) :
    action.checkSignaturesTrapping ledger machine message =
      TrappingChecking.done (action.checkSignatures ledger deserializer message) :=
  TrappingChecking.bind_eq_done
    (TrappingChecking.mapM_eq_done
      (fun ((id, embedded), place) =>
        checkInputTrapping_eq follows ledger message place id embedded) _)
    fun _ => rfl

theorem checkScriptTrapping_eq (action : TransferAction S) (spent : SpentTokens S)
    (now : UInt64) (input : Token S) (place : Nat) :
    action.checkScriptTrapping spent now input place =
      done (action.checkScript spent now input place) := by
  refine bind_eq_done rfl fun script _ => ?_
  cases script with
  | none => rfl
  | some script =>
      change (if spent.tokens.length ≠ 1 ∨ action.outputs.length ≠ 1 then _ else _) = _
      rcases spent.tokens with _ | ⟨_, _ | _⟩ <;> rcases action.outputs with _
        | ⟨output, _ | _⟩
      case cons.nil.cons.nil =>
        rw [if_neg (by simp)]
        change item [output] 0 >>= _ = done (ConfidentialToken.during _
          (HashLock.verifyOwner input.owner output.owner now) >>= _)
        refine item_eq_done Nat.zero_lt_one <| bind_eq_done rfl fun opened _ => ?_
        obtain ⟨script, operation⟩ := opened
        cases spent.signatures[place]? <;> rfl
      all_goals rfl

theorem checkScriptsTrapping_eq (action : TransferAction S) (spent : SpentTokens S)
    (now : UInt64) :
    action.checkScriptsTrapping spent now = done (action.checkScripts spent now) :=
  forM_eq_done fun (input, place) _ => action.checkScriptTrapping_eq spent now input place

theorem checkTrapping_eq (follows : machine.Follows deserializer)
    (action : TransferAction S) (parameters : PublicParameters S) (ledger : Ledger)
    (message : Bytes) (now : UInt64) :
    action.checkTrapping parameters ledger machine message now =
      TrappingChecking.done
        (action.check parameters ledger deserializer message now) := by
  refine TrappingChecking.bind_eq_done rfl fun _ => TrappingChecking.bind_eq_done
    (TrappingChecking.during_eq_done _
      (action.checkSignaturesTrapping_eq follows ledger message))
    fun spent => ?_
  have proof := Transfer.Statement.verifyTrapping_eq
    ⟨parameters, spent.tokens.map Token.commitment, action.outputCommitments⟩ action.proof
  refine TrappingChecking.bind_eq_done
    (TrappingChecking.during_eq_done _ (congrArg TrappingChecking.ofTrapping proof))
    fun _ =>
    TrappingChecking.bind_eq_done (TrappingChecking.during_eq_done _
      (congrArg TrappingChecking.ofTrapping (action.checkScriptsTrapping_eq spent now)))
      fun _ => rfl

end TransferAction

/-- What accepts and rejects requests under public parameters, on a machine that
may trap. -/
structure TrappingValidator (S : Suite) where
  parameters : PublicParameters S
  deserializer : TrappingDeserializer

namespace TrappingValidator

/-- Takes the signature of the auditor, if there is one. -/
def checkAuditor (validator : TrappingValidator S) (message : Bytes) :
    TrappingChecking Unit := do
  let auditor := validator.parameters.auditor
  if auditor.isNone then return
  match ← TrappingChecking.attempt (validator.deserializer.auditor auditor) with
  | .error _ => throw (.identity "failed to deserialize auditor's public key")
  | .ok verifier =>
      let _ ← TrappingChecking.nextSignature message verifier

/-- All checks of a request, in order. It gives the actions of the request. -/
def checkRequest (validator : TrappingValidator S) (ledger : Ledger) (now : UInt64)
    (binding : String) (request : TokenRequest) :
    TrappingChecking (List (IssueAction S) × List (TransferAction S)) := do
  let message := request.messageToSign binding
  TrappingChecking.during s!"failed to verifier auditor's signature [{binding}]"
    (validator.checkAuditor message)
  let issues ← TrappingChecking.ofTrapping (done (ConfidentialToken.during
    s!"failed to retrieve issue actions [{binding}]"
    (request.issues.mapM IssueAction.deserialize)))
  let transfers ← TrappingChecking.ofTrapping (done (ConfidentialToken.during
    s!"failed to retrieve transfer actions [{binding}]"
    (request.transfers.mapM TransferAction.deserialize)))
  issues.forM fun action =>
    TrappingChecking.during s!"failed to verify issuers' signatures [{binding}]"
      (action.checkTrapping validator.parameters validator.deserializer message)
  transfers.forM fun action =>
    TrappingChecking.during s!"failed to verify senders' signatures [{binding}]"
      (action.checkTrapping validator.parameters ledger validator.deserializer
        message now)
  return (issues, transfers)

/-- What a request does, if it is accepted at a time. -/
def verify (validator : TrappingValidator S) (ledger : Ledger) (now : UInt64)
    (binding : String) (text : Bytes) : Trapping (List (Action S)) := do
  if text.isEmpty then
    throw (.invalidInput "empty token request")
  let request ← done (TokenRequest.deserialize text)
  let signatures :=
    if validator.parameters.auditor.isNone then request.signatures
    else request.auditorSignatures ++ request.signatures
  let (issues, transfers) ← ExceptT.mk
    ((validator.checkRequest ledger now binding request signatures).map Prod.fst)
  return issues.map .issue ++ transfers.map .transfer ++
    signatures.filterMap Action.ofSignature?

variable {machine : TrappingDeserializer} {deserializer : Deserializer}

theorem checkAuditor_eq (follows : machine.Follows deserializer)
    (parameters : PublicParameters S) (message : Bytes) :
    checkAuditor ⟨parameters, machine⟩ message =
      TrappingChecking.done
        (Validator.checkAuditor ⟨parameters, deserializer⟩ message) := by
  unfold checkAuditor Validator.checkAuditor
  dsimp only
  split
  · rfl
  · refine TrappingChecking.attempt_bind_eq_done (follows.auditor parameters.auditor) ?_
    cases deserializer.auditor parameters.auditor with
    | error failure => rfl
    | ok verifier =>
        exact TrappingChecking.bind_eq_done
          (TrappingChecking.nextSignature_eq message verifier)
          fun _ => rfl

theorem checkRequest_eq (follows : machine.Follows deserializer)
    (parameters : PublicParameters S) (ledger : Ledger) (now : UInt64)
    (binding : String) (request : TokenRequest) :
    checkRequest ⟨parameters, machine⟩ ledger now binding request =
      TrappingChecking.done
        (Validator.checkRequest ⟨parameters, deserializer⟩ ledger now binding
          request) := by
  refine TrappingChecking.bind_eq_done
    (TrappingChecking.during_eq_done _ (checkAuditor_eq follows parameters _)) fun _ =>
    TrappingChecking.bind_eq_done rfl fun issues =>
    TrappingChecking.bind_eq_done rfl fun transfers =>
    TrappingChecking.bind_eq_done
      (TrappingChecking.forM_eq_done (fun action => ?_) issues)
      fun _ => TrappingChecking.bind_eq_done
        (TrappingChecking.forM_eq_done (fun action => ?_) transfers) fun _ => rfl
  · exact TrappingChecking.during_eq_done _ (action.checkTrapping_eq follows parameters _)
  · exact TrappingChecking.during_eq_done _
      (action.checkTrapping_eq follows parameters ledger _ now)

/-- Where no verifier traps, the validation of a request gives an outcome. -/
theorem verify_eq (follows : machine.Follows deserializer)
    (parameters : PublicParameters S) (ledger : Ledger) (now : UInt64)
    (binding : String) (text : Bytes) :
    verify ⟨parameters, machine⟩ ledger now binding text =
      done (Validator.verify ⟨parameters, deserializer⟩ ledger now binding text) := by
  refine guard_eq_done fun _ => bind_eq_done rfl fun request _ =>
    bind_eq_done ?_ fun _ _ => rfl
  rw [checkRequest_eq follows]
  rfl

end TrappingValidator

/-- Whatever the public parameters, the ledger, the time, the binding and the
text are: validation, with the verifiers of signing keys, gives an outcome and
does not trap. -/
theorem Validator.verify_never_traps (parameters : PublicParameters Bn254.suite)
    (ledger : Ledger) (now : UInt64) (binding : String) (text : Bytes) :
    TrappingValidator.verify
        ⟨parameters, PublicKey.deserializerTrapping (S := Bn254.suite)
          Bn254.hashToG1Trapping now⟩
        ledger now binding text =
      done (Validator.verify ⟨parameters, PublicKey.deserializer Bn254.suite now⟩
        ledger now binding text) := by
  have follows : (PublicKey.deserializerTrapping (S := Bn254.suite) Bn254.hashToG1Trapping
      now).Follows (PublicKey.deserializer Bn254.suite now) := by
    apply PublicKey.deserializerTrapping_follows
    exact Bn254.hashToG1Trapping_eq
  exact TrappingValidator.verify_eq follows parameters ledger now binding text

end ConfidentialToken
