import ConfidentialToken.Proofs.HashLock
import ConfidentialToken.Proofs.Validation.Signatures

/-!
What becomes of locked tokens.

A token that a script owns is spent alone and becomes one token. Before the
deadline it passes to the recipient, whose signature reveals a preimage of the
lock, and the preimage is published with the transfer. From the deadline on it
goes back to the sender, who has signed.
-/

namespace ConfidentialToken

variable {S : Suite}

namespace HashLock.Script

/-- A transfer gives a locked token to the recipient in time: the recipient has
signed the message together with a preimage of the lock, which the transfer
publishes. -/
structure Claimed (script : Script) (transfer : TransferAction S) (now : UInt64)
    (message signature : Bytes) : Prop where
  early : now < script.deadline
  recipient : transfer.outputs.map Token.owner = [script.recipient.bytes]
  revealed : ∃ claim key, ClaimSignature.deserialize signature = .ok claim ∧
    PublicKey.ofIdentity S script.recipient.bytes = .ok key ∧
    key.verifier (message ++ claim.preimage) claim.recipientSignature = .ok () ∧
    claim.preimage ≠ [] ∧ script.lock.image claim.preimage = script.lock.hash ∧
    transfer.metadata.find? (claimKey (script.lock.image claim.preimage)) =
      some claim.preimage

/-- A transfer gives a locked token back to the sender, who has signed the
message. -/
structure Reclaimed (script : Script) (transfer : TransferAction S) (now : UInt64)
    (message signature : Bytes) : Prop where
  late : script.deadline ≤ now
  sender : transfer.outputs.map Token.owner = [script.sender.bytes]
  signed : ∃ key, PublicKey.ofIdentity S script.sender.bytes = .ok key ∧
    key.verifier message signature = .ok ()

end HashLock.Script

open HashLock

/-- Bytes that have to be read as a script are one, if they are the owner of a
spent token. -/
theorem TransferAction.RespectsScript.exists_script {transfer : TransferAction S}
    {now : UInt64} {token : Token S} {signature : Bytes}
    (respects : transfer.RespectsScript now token signature)
    (locked : isScript token.owner = true) :
    transfer.inputTokens = [token] ∧
      ∃ script, Script.ofOwner token.owner = .ok (some script) := by
  rcases respects with free | ⟨script, _, found, alone, -⟩
  · rw [Script.ofOwner_eq_ok_none, locked] at free
    cases free
  · exact ⟨alone, script, found⟩

/-- What the verifier of a script and the rules of scripts accept together. -/
theorem TransferAction.RespectsScript.claimed_or_reclaimed {transfer : TransferAction S}
    {now : UInt64} {token : Token S} {message signature : Bytes} {script : Script}
    (respects : transfer.RespectsScript now token signature)
    (locked : Script.ofOwner token.owner = .ok (some script))
    (signed : Signed (PublicKey.ownerVerifier S now ⟨token.owner⟩) message signature) :
    script.Claimed transfer now message signature ∨
      script.Reclaimed transfer now message signature := by
  obtain ⟨verify, found, verified⟩ := signed
  rcases PublicKey.ownerVerifier_eq_ok.mp found with
    ⟨_, sender, recipient, same, senderKey, recipientKey, rfl⟩ | ⟨free, -⟩
  case inr =>
    cases locked.symm.trans free
  cases locked.symm.trans same
  rcases respects with free | ⟨_, output, same, -, outputs, party⟩
  · cases locked.symm.trans free
  cases locked.symm.trans same
  have owners : transfer.outputs.map Token.owner = [output.owner] := by
    rw [outputs, List.map_singleton]
  rcases Script.verifier_eq_ok.mp verified with
    ⟨claims, claim, read, verifiedClaim, opens⟩ | ⟨reclaims, verifiedMessage⟩
  · rcases party with ⟨-, recipient, published⟩ | ⟨reclaims, -⟩
    · obtain ⟨_, sameRead, nonempty, -, entry⟩ := published
      cases read.symm.trans sameRead
      exact .inl ⟨Script.operation_eq_claim.mp claims, recipient ▸ owners, claim, _, read,
        recipientKey, verifiedClaim, nonempty, opens, entry⟩
    · cases claims.symm.trans reclaims
  · rcases party with ⟨claims, -⟩ | ⟨-, sender⟩
    · cases reclaims.symm.trans claims
    · exact .inr ⟨Script.operation_eq_reclaim.mp reclaims, sender ▸ owners, _, senderKey,
        verifiedMessage⟩

namespace Validator

/-- The owner of every spent token is among the principals. -/
theorem owner_mem_principals (validator : Validator S) {issues : List (IssueAction S)}
    {transfers : List (TransferAction S)} {transfer : TransferAction S} {token : Token S}
    (among : transfer ∈ transfers) (spent : token ∈ transfer.inputTokens) :
    Principal.owner transfer token ∈ validator.principals issues transfers :=
  List.mem_append_right _
    (List.mem_flatMap.mpr ⟨transfer, among, List.mem_map_of_mem spent⟩)

/-- A transfer of an accepted request that spends a token owned by a script
spends nothing else and has one output. With the signature that was used up for
the token it is either a claim before the deadline, for which the preimage is
revealed and published, or the sender takes the token back from the deadline
on. -/
theorem locked_tokens_pass {parameters : PublicParameters S} {validator : Validator S}
    {ledger : Ledger} {now : UInt64} {binding : String} {text : Bytes}
    {actions : List (Action S)}
    (configured : ofParameters parameters (PublicKey.deserializer S now) = .ok validator)
    (accepted : validator.verify ledger now binding text = .ok actions) :
    ∃ request, TokenRequest.deserialize text = .ok request ∧
      ∀ transfer ∈ Action.transfers actions, ∀ id ∈ transfer.inputs, ∀ token : Token S,
        ledger.Holds id token → isScript token.owner = true →
        transfer.inputs = [id] ∧ transfer.outputs.length = 1 ∧
        ∃ script, Script.ofOwner token.owner = .ok (some script) ∧
          (∃ signature, (.owner transfer token, signature) ∈
            validator.consumed request actions) ∧
          ∀ signature, (.owner transfer token, signature) ∈
            validator.consumed request actions →
            script.Claimed transfer now (request.messageToSign binding) signature ∨
            script.Reclaimed transfer now (request.messageToSign binding) signature := by
  obtain ⟨-, rfl⟩ := ofParameters_eq_ok.mp configured
  obtain ⟨-, request, parsed, accepts⟩ := verify_eq_ok_iff_accepts.mp accepted
  refine ⟨request, parsed, fun transfer among id listed token holds locked => ?_⟩
  have onLedger := (accepts.sound.transfersValid transfer among).onLedger
  obtain ⟨other, spent, holdsOther⟩ := exists_of_forall₂ onLedger listed
  cases holds.unique holdsOther
  obtain ⟨signature, used⟩ :=
    accepts.exists_signature_of_mem (owner_mem_principals _ among spent)
  obtain ⟨alone, script, found⟩ := (accepts.owner_consents used).2.exists_script locked
  have passes (other : Bytes)
      (usedOther : (.owner transfer token, other) ∈ consumed _ request actions) :=
    (accepts.owner_consents usedOther).2.claimed_or_reclaimed found
      (accepts.owner_consents usedOther).1
  have single : transfer.inputs = [id] := by
    have count := onLedger.length_eq
    rw [alone] at count
    obtain ⟨first, only⟩ := List.length_eq_one_iff.mp count
    rw [only, List.mem_singleton] at listed
    rw [only, listed]
  have outputs : transfer.outputs.length = 1 := by
    rw [← List.length_map (f := Token.owner)]
    rcases passes signature used with claimed | reclaimed
    · rw [claimed.recipient, List.length_singleton]
    · rw [reclaimed.sender, List.length_singleton]
  exact ⟨single, outputs, script, found, ⟨signature, used⟩, passes⟩

end Validator

namespace HashLock.Sample

open Bn254 Batch.Sample

def preimage : Bytes :=
  Bytes.ofText "open sesame"

theorem preimage_ne_nil : preimage ≠ [] := by
  decide +kernel

def script : Script where
  sender := issuerKey.identity
  recipient := ownerKey.identity
  deadline := 10
  lock := .ofPreimage preimage

/-- A token that is locked for the owner of a key who knows the preimage. -/
def locked : Spendable exponentSuite where
  signer := claimSigner ownerKey.signer preimage
  token :=
    { owner := script.toIdentity.bytes
      commitment :=
        (commitToken base.pedersen "ABC" 1 4).toOption.get (by decide +kernel) }
  id := ⟨"tx0", 0⟩
  opening := ⟨"ABC", 1, 4, [], []⟩

def ledger : Ledger := fun _ =>
  .ok (Json.write locked.token)

theorem ledger_holds : ledger.Holds locked.id locked.token :=
  ⟨_, rfl, Json.write_ne_nil _, by simp [Token.deserialize]⟩

def claimer : Sender exponentSuite :=
  ⟨locked, [], base⟩

def secret : TransferAction exponentSuite × List (Metadata exponentSuite) :=
  Sampling.valueFrom (claimer.transfer [1] [ownerKey.identity.bytes]) (⟨1⟩ : Counter)
    (by decide +kernel)

/-- The transfer to the recipient together with the preimage. -/
def claim : TransferAction exponentSuite :=
  { secret.1 with metadata := .ofList [(claimKey script.lock.hash, preimage)] }

theorem claimer_makes : claimer.Makes [ownerKey.identity.bytes] secret.1 := by
  refine (Sender.makes_of_transfer base_certified ?_ (by decide +kernel)
    (Sampling.gives_valueFrom (claimer.transfer [1] [ownerKey.identity.bytes])
      (⟨1⟩ : Counter) (by decide +kernel))).2
  simp only [Sender.inputs, claimer, List.forall_mem_singleton]
  exact eq_ok_get (by decide +kernel)

theorem claim_valid : claim.Valid base ledger 0 := by
  have valid : secret.1.Valid base ledger 0 := by
    refine claimer_makes.valid (by simp) ?_ ?_
    · simp only [Sender.inputs, claimer, List.forall_mem_singleton]
      exact ledger_holds
    · intro output membership
      have among := List.mem_map_of_mem (f := Token.owner) membership
      rw [claimer_makes.owners, List.mem_singleton] at among
      exact OutputOwner.hasValidOwner (S := exponentSuite)
        (among ▸ OutputOwner.key ownerKey.publicKey)
  exact ⟨valid.shape, valid.onLedger, valid.proof, valid.owners⟩

theorem configured :
    Validator.ofParameters base (PublicKey.deserializer exponentSuite 0) =
      .ok (base.validator 0) :=
  Validator.ofParameters_eq_ok.mpr ⟨toOption_eq_some.mp (by decide +kernel), rfl⟩

def request (signature : Bytes) : TokenRequest :=
  ⟨[], [claim.serialize], [signature], []⟩

/-- A claim in time is accepted, and its preimage is made known. -/
theorem claim_accepted : ∃ signature,
    (base.validator 0).verify ledger 0 "tx1" (request signature).serialize =
      .ok [.transfer claim, .signature (Action.revelation preimage)] := by
  have sends : script.sender = issuerKey.identity := rfl
  have receives : script.recipient = ownerKey.identity := rfl
  have opens : script.lock.image preimage = script.lock.hash := rfl
  have early : 0 < script.deadline := by decide
  obtain ⟨signature, recipientSignature, -, nonempty, read, signed⟩ :=
    Script.exists_claim sends receives opens early ((request []).messageToSign "tx1")
  have entry :
      claim.metadata.find? (claimKey (script.lock.image preimage)) = some preimage := by
    decide +kernel
  have published : claim.Publishes script signature :=
    ⟨_, read, preimage_ne_nil, nonempty, entry⟩
  have consents : (base.validator 0).Consents 0 ((request signature).messageToSign "tx1")
      (.owner claim locked.token) signature := by
    exact ⟨signed, .inr ⟨script, _, script.ofOwner_toIdentity, rfl, rfl,
      .inl ⟨rfl, rfl, published⟩⟩⟩
  have known : ClaimSignature.revealed? signature = some preimage :=
    ClaimSignature.revealed?_eq_some read preimage_ne_nil nonempty
  have unaudited : base.auditor.isNone = true := rfl
  refine ⟨signature, Validator.verify_eq_ok.mpr ⟨request signature, [], [claim],
    Json.write_ne_nil _, (request signature).deserialize_serialize, ⟨?_, ?_, ?_, ?_⟩,
    ⟨[signature], [], rfl, ?_⟩, ?_⟩⟩
  · exact .nil
  · simp [request, TransferAction.deserialize, TransferAction.serialize]
  · simp
  · simpa using claim_valid
  · exact .cons consents .nil
  · simp [Validator.actionsOf, Validator.signaturesOf, request, Action.ofSignature?_eq,
      Action.report?, known, unaudited]

/-- The locked token of the sample passes to the recipient. -/
theorem locked_passes : ∃ request : TokenRequest, ∃ signature,
    isScript locked.token.owner = true ∧ ledger.Holds locked.id locked.token ∧
      script.Claimed claim 0 (request.messageToSign "tx1") signature := by
  obtain ⟨_, accepted⟩ := claim_accepted
  have held : isScript locked.token.owner = true :=
    Script.isScript_of_ofOwner script.ofOwner_toIdentity
  have among : claim ∈ Action.transfers
      [.transfer claim, .signature (Action.revelation preimage)] :=
    List.mem_filterMap.mpr ⟨_, List.mem_cons_self, rfl⟩
  have listed : locked.id ∈ claim.inputs := by
    simp [claim, claimer_makes.inputs, Sender.inputs, claimer]
  obtain ⟨request, -, passes⟩ := Validator.locked_tokens_pass configured accepted
  obtain ⟨-, -, found, same, ⟨signature, used⟩, passes⟩ :=
    passes claim among locked.id listed locked.token ledger_holds held
  have unlocks : found = script :=
    Option.some.inj (Except.ok.inj (same.symm.trans script.ofOwner_toIdentity))
  subst unlocks
  refine ⟨request, signature, held, ledger_holds, ?_⟩
  rcases passes signature used with claimed | reclaimed
  · exact claimed
  · exact absurd reclaimed.late (by decide)

end HashLock.Sample

end ConfidentialToken
