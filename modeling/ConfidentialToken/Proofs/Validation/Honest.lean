import ConfidentialToken.Proofs.Issue.Anonymous
import ConfidentialToken.Proofs.Issue.Completeness
import ConfidentialToken.Proofs.Transfer.Sender
import ConfidentialToken.Proofs.Validation.Acceptance

/-!
What honest parties have to give to a request.

Issuers and senders make actions and sign for them. Each action is valid and
each signature is accepted, whatever else is in the request.
-/

namespace ConfidentialToken

variable {S : Suite}

/-- The owners that an honest sender gives to outputs: nobody, a key, or a
script that can be used. -/
inductive OutputOwner (S : Suite) (now : UInt64) : Bytes → Prop
  | redeem : OutputOwner S now []
  | key (key : PublicKey S) : OutputOwner S now key.identity.bytes
  | script {script : HashLock.Script} (valid : script.validate now = .ok ()) :
      OutputOwner S now script.toIdentity.bytes

theorem OutputOwner.hasValidOwner {now : UInt64} {token : Token S}
    (owner : OutputOwner S now token.owner) : token.HasValidOwner now := by
  unfold Token.HasValidOwner
  generalize token.owner = bytes at owner ⊢
  cases owner with
  | redeem => exact .inl rfl
  | key key =>
      refine .inr (.inr ⟨key.ofOwner_identity, _, key.resolve_identity, fun label => ?_⟩)
      exact IdentityKind.noConfusion
  | @script script valid => exact .inr (.inl ⟨script, script.ofOwner_toIdentity, valid⟩)

variable (R : Type) [RandomSource S R]

/-- An honest issue: by name, with a key that is listed if there is a list, or
anonymously, with the key of an authorized issuer over the same type and
commitment to the type. -/
inductive Issuer.Issues (issuer : Issuer S) (action : IssueAction S) : Prop
  | named {key : SigningKey S} {values : List UInt64} {owners : List Bytes}
      {openings : List (Metadata S)} (signs : issuer.signer = key.signer)
      (typed : issuer.tokenType ≠ "")
      (listed : issuer.parameters.issuers = [] ∨ key.identity ∈ issuer.parameters.issuers)
      (gives : Sampling.Gives (R := R) (issuer.issue values owners) (action, openings))
  | anonymous {secret blinding : S.Scalar} {key : AnonymousIssuer.Key S}
      {typeCommitment : TypeCommitment S} {signer : AnonymousIssuer.SigningKey S}
      {source : R} {values : List UInt64} {owners : List Bytes}
      {openings : List (Metadata S)}
      (own : AnonymousIssuer.Key.ofSecret issuer.parameters secret = .ok key)
      (committed : TypeCommitment.ofBlinding issuer.parameters.pedersen issuer.tokenType
        blinding = .ok typeCommitment)
      (generated : Sampling.Gives (R := R) (AnonymousIssuer.SigningKey.generate
        issuer.parameters key issuer.tokenType typeCommitment) signer)
      (signs : issuer.signer = signer.signer source)
      (gives : Sampling.Gives (R := R)
        (issuer.issueAnonymously values owners typeCommitment) (action, openings))

/-- An honest transfer of tokens that are on the ledger and that keys own, with
their openings, to outputs of the same total value. -/
structure Sender.Sends (sender : Sender S) (ledger : Ledger) (now : UInt64)
    (action : TransferAction S) : Prop where
  onLedger : ∀ input ∈ sender.inputs, ledger.Holds input.id input.token
  owned : ∀ input ∈ sender.inputs, ∃ key : SigningKey S,
    input.signer = key.signer ∧ input.token.owner = key.identity.bytes
  opened : ∀ input ∈ sender.inputs, sender.Opened input
  made : ∃ values owners openings, values ≠ [] ∧
    (sender.inputs.map fun input => ScalarOperations.toNat input.opening.value).sum =
      (values.map UInt64.toNat).sum ∧
    (∀ owner ∈ owners, OutputOwner S now owner) ∧
    Sampling.Gives (R := R) (sender.transfer values owners) (action, openings)

variable {R}

/-- The validator to which identities are those of keys. -/
abbrev PublicParameters.validator (parameters : PublicParameters S) (now : UInt64) :
    Validator S :=
  ⟨parameters, PublicKey.deserializer S now⟩

namespace Validator

/-- A signature with which a principal consents, and which makes nothing
known. -/
def Signs (validator : Validator S) (now : UInt64) (message : Bytes)
    (principal : Principal S) (signature : Bytes) : Prop :=
  validator.Consents now message principal signature ∧
    (Action.ofSignature? signature : Option (Action S)) = none

end Validator

variable [FaithfulEncoding S.G1]

namespace Issuer

theorem Makes.verifier_of_named {issuer : Issuer S} {typeCommitment : TypeCommitment S}
    {action : IssueAction S} {key : SigningKey S}
    (makes : issuer.Makes false typeCommitment action)
    (identity : action.issuer = key.identity) (now : UInt64) :
    action.principalVerifier issuer.parameters (PublicKey.deserializer S now) =
      .ok key.publicKey.verifier := by
  rw [IssueAction.principalVerifier, makes.mode, if_neg Bool.false_ne_true, identity]
  exact bind_eq_ok.mpr ⟨_, key.publicKey.ofIdentity_identity, rfl⟩

variable [FaithfulEncoding S.Scalar]

theorem Makes.verifier_of_anonymous {issuer : Issuer S}
    {typeCommitment : TypeCommitment S} {action : IssueAction S}
    {signer : AnonymousIssuer.SigningKey S}
    (makes : issuer.Makes true typeCommitment action)
    (entitled : signer.Entitled issuer.parameters typeCommitment.commitment)
    (identity : action.issuer = signer.identity) (deserializer : Deserializer) :
    action.principalVerifier issuer.parameters deserializer =
      .ok signer.verification.verifier := by
  obtain ⟨proof, written, -, same⟩ := makes.proof
  have read : Issue.Proof.deserialize action.proof = .ok proof := by
    simp [Issue.Proof.deserialize, written]
  have pseudonym : AnonymousIssuer.pseudonym action.issuer =
      .ok signer.verification.pseudonym := by
    rw [identity]
    exact during_eq_ok.mpr (FaithfulEncoding.decode_encode signer.verification.pseudonym)
  rw [IssueAction.principalVerifier, makes.mode, if_pos rfl]
  refine bind_eq_ok.mpr ⟨proof, read, bind_eq_ok.mpr ⟨_, pseudonym, ?_⟩⟩
  exact bind_eq_ok.mpr ⟨_, same ▸ entitled.verification, rfl⟩

omit [FaithfulEncoding S.G1] [FaithfulEncoding S.Scalar] in
theorem exists_signs {issuer : Issuer S} {action : IssueAction S} {signer : Signer}
    {verifier : Verifier} {now : UInt64} (signs : issuer.signer = signer)
    (resolves : action.principalVerifier issuer.parameters
      (PublicKey.deserializer S now) = .ok verifier)
    (succeeds : ∀ message, ∃ signature, signer.sign message = .ok signature ∧
      verifier message signature = .ok () ∧
      (Action.ofSignature? signature : Option (Action S)) = none)
    (request : Bytes) (transaction : String) :
    ∃ signature, issuer.sign request transaction = .ok signature ∧
      (issuer.parameters.validator now).Signs now (request ++ Bytes.ofText transaction)
        (.issuer action) signature := by
  obtain ⟨signature, given, accepted, silent⟩ :=
    succeeds (request ++ Bytes.ofText transaction)
  refine ⟨signature, ?_, ⟨⟨_, resolves, accepted⟩, trivial⟩, silent⟩
  rw [sign, signs]
  exact during_eq_ok.mpr given

variable [BilinearPairing S]

/-- An honest issue is valid, and the issuer can sign for it. -/
theorem Issues.valid_and_signs {issuer : Issuer S} {action : IssueAction S}
    (issues : issuer.Issues R action) (certified : issuer.parameters.Certified)
    (now : UInt64) :
    action.Valid issuer.parameters ∧ ∀ request transaction, ∃ signature,
      issuer.sign request transaction = .ok signature ∧
      (issuer.parameters.validator now).Signs now (request ++ Bytes.ofText transaction)
        (.issuer action) signature := by
  cases issues with
  | @named key values owners openings signs typed listed gives =>
      obtain ⟨typeCommitment, sampled, gives⟩ := gives.bind
      have makes := makes_of_issueWith certified (TypeCommitment.opens_of_sample sampled)
        (fun _ => typed) gives
      have known := makes.identity
      rw [signs] at known
      have identity : action.issuer = key.identity := (Except.ok.inj known).symm
      constructor
      · apply makes.valid
        · exact identity ▸ key.publicKey.identity_ne_nil
        · exact fun _ => identity ▸ listed
      · exact exists_signs signs (makes.verifier_of_named identity now)
          key.exists_signature
  | @anonymous secret blinding key typeCommitment signer source values owners openings
      own committed generated signs gives =>
      obtain ⟨-, form⟩ := ite_error_eq_ok.mp committed
      have typeOpens :
          typeCommitment.Opens issuer.parameters.pedersen issuer.tokenType := by
        cases form
        rfl
      have entitled :=
        AnonymousIssuer.SigningKey.entitled_of_generate own typeOpens generated
      have makes := makes_of_issueWith certified typeOpens
        (absurd · (Ne.symm Bool.false_ne_true)) gives
      have known := makes.identity
      rw [signs] at known
      have identity : action.issuer = signer.identity := (Except.ok.inj known).symm
      constructor
      · apply makes.valid
        · exact identity ▸ FaithfulEncoding.encode_ne_nil signer.verification.pseudonym
        · exact (absurd · (Ne.symm Bool.false_ne_true))
      · exact exists_signs signs (makes.verifier_of_anonymous entitled identity _)
          (AnonymousIssuer.SigningKey.exists_signature entitled source)

end Issuer

variable [BilinearPairing S] [FaithfulEncoding S.Scalar]

theorem Sender.Sends.valid_and_signs {sender : Sender S} {ledger : Ledger} {now : UInt64}
    {action : TransferAction S} (sends : sender.Sends R ledger now action)
    (certified : sender.parameters.Certified) :
    action.Valid sender.parameters ledger now ∧ ∀ request transaction, ∃ signatures,
      sender.sign request transaction = .ok signatures ∧
      List.Forall₂ ((sender.parameters.validator now).Signs now
        (request ++ Bytes.ofText transaction)) (Validator.owners action) signatures := by
  obtain ⟨values, owners, openings, nonempty, balanced, recipients, gives⟩ := sends.made
  obtain ⟨lengths, makes⟩ := makes_of_transfer certified sends.opened balanced gives
  constructor
  · apply makes.valid ?_ sends.onLedger
    · intro output membership
      have among := List.mem_map_of_mem (f := Token.owner) membership
      rw [makes.owners] at among
      exact (recipients _ among).hasValidOwner
    · rintro rfl
      exact nonempty (List.length_eq_zero_iff.mp lengths)
  · intro request transaction
    rw [Validator.owners, makes.inputTokens, List.map_map]
    simp only [List.forall₂_map_left_iff]
    apply exists_mapM_eq_ok
    intro input membership
    obtain ⟨key, signs, owner⟩ := sends.owned input membership
    obtain ⟨signature, given, accepted, silent⟩ :=
      key.exists_signature (request ++ Bytes.ofText transaction)
    refine ⟨signature, ?_, ⟨⟨key.publicKey.verifier, ?_, accepted⟩, .inl ?_⟩, silent⟩
    · rw [signs]
      exact during_eq_ok.mpr given
    · change PublicKey.ownerVerifier S now ⟨input.token.owner⟩ = _
      rw [owner]
      exact key.publicKey.ownerVerifier_identity now
    · rw [owner]
      exact key.publicKey.ofOwner_identity

end ConfidentialToken
