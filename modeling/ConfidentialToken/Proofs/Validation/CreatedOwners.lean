import ConfidentialToken.Proofs.Validation.Locks

/-!
Who owns the tokens that an accepted request creates.

A token can be spent only if its owner has a verifier. Whether it has one does
not depend on the time: the owner names a key, or is a script between two
parties that name keys. What is checked when a transfer creates a token is less.
It admits credentials, for which there is no verifier, and keys and parties of
scripts that are no points. What a transfer leaves with the owner of a spent
token, or takes out of a script, has a verifier for good.
-/

namespace ConfidentialToken

open HashLock

namespace IdentityKind

/-- The typed identity that refers to something on the ledger. -/
def typed? : IdentityKind → Option TypedIdentity
  | .publicKey key => some ⟨publicKeyScheme, key⟩
  | .credential content => some ⟨credentialScheme, content⟩
  | .walletLabel _ => none

theorem resolve_eq_ok {text : Bytes} {kind : IdentityKind} {typed : TypedIdentity}
    (form : kind.typed? = some typed) :
    resolve text = .ok kind ↔ Json.read? text = some typed := by
  have distinct : credentialScheme ≠ publicKeyScheme := by decide
  constructor
  · intro resolved
    unfold resolve at resolved
    split at resolved
    case h_1 found read =>
      rw [read, ← form]
      split at resolved
      case isTrue key =>
        cases resolved
        rw [typed?, ← key]
      case isFalse =>
        split at resolved
        case isTrue credential =>
          cases resolved
          rw [typed?, ← credential]
        case isFalse => cases resolved
    -- What is no typed identity refers to a name at most, which has no typed
    -- form.
    case h_2 =>
      split at resolved
      · cases resolved
        cases form
      · cases resolved
  · intro read
    cases kind with
    | publicKey key =>
        cases form
        simp [resolve, read]
    | credential content =>
        cases form
        simp [resolve, read, distinct]
    | walletLabel label => cases form

end IdentityKind

namespace HashLock.Script

/-- A typed identity of another scheme is no script. -/
theorem ofOwner_of_scheme_ne {owner : Bytes} {typed : TypedIdentity}
    (read : Json.read? owner = some typed) (other : typed.scheme ≠ scriptScheme) :
    ofOwner owner = .ok none := by
  simp [ofOwner, read, other]

theorem validate_eq_ok {script : Script} {now : UInt64} :
    script.validate now = .ok () ↔
      script.sender.bytes ≠ [] ∧ script.recipient.bytes ≠ [] ∧
      now ≤ script.deadline ∧ script.lock.hash ≠ [] := by
  simp only [validate, Lock.validate, Identity.isNone, ite_error_eq_ok, List.isEmpty_iff,
    UInt64.not_lt, and_true, ne_eq]

end HashLock.Script

variable {S : Suite}

namespace PublicKey

variable (S) in
/-- An identity is that of a key whose content is a point. -/
def Names (identity : Bytes) : Prop :=
  ∃ content, Json.read? identity = some (TypedIdentity.mk publicKeyScheme content) ∧
    ∃ point : S.G1, decodeElement content = .ok point

variable (S) in
/-- The owner of a token can be asked for signatures at a time. -/
def HasVerifier (now : UInt64) (owner : Bytes) : Prop :=
  ∃ verify, ownerVerifier S now ⟨owner⟩ = .ok verify

theorem names_iff {identity : Bytes} :
    Names S identity ↔ ∃ key, ofIdentity S identity = .ok key := by
  simp only [ofIdentity_eq_ok]
  constructor
  · rintro ⟨content, read, point, decoded⟩
    exact ⟨⟨point⟩, content, (IdentityKind.resolve_eq_ok rfl).mpr read, decoded⟩
  · rintro ⟨key, content, resolved, decoded⟩
    exact ⟨content, (IdentityKind.resolve_eq_ok rfl).mp resolved, key.point, decoded⟩

theorem Names.ofOwner_eq_none {identity : Bytes} (names : Names S identity) :
    Script.ofOwner identity = .ok none := by
  obtain ⟨content, read, -⟩ := names
  have other : publicKeyScheme ≠ scriptScheme := by decide
  exact Script.ofOwner_of_scheme_ne read other

/-- Who has a verifier has it at all times. -/
theorem hasVerifier_iff {now : UInt64} {owner : Bytes} :
    HasVerifier S now owner ↔ Names S owner ∨ ∃ script,
      Script.ofOwner owner = .ok (some script) ∧
        Names S script.sender.bytes ∧ Names S script.recipient.bytes := by
  constructor
  · rintro ⟨verify, found⟩
    rcases ownerVerifier_eq_ok.mp found with
      ⟨script, sender, recipient, read, senderKey, recipientKey, -⟩ | ⟨-, key, named, -⟩
    · exact .inr ⟨script, read, names_iff.mpr ⟨sender, senderKey⟩,
        names_iff.mpr ⟨recipient, recipientKey⟩⟩
    · exact .inl (names_iff.mpr ⟨key, named⟩)
  · rintro (names | ⟨script, read, sender, recipient⟩)
    · obtain ⟨key, named⟩ := names_iff.mp names
      exact ⟨_, ownerVerifier_eq_ok.mpr (.inr ⟨names.ofOwner_eq_none, key, named, rfl⟩)⟩
    · obtain ⟨senderKey, sends⟩ := names_iff.mp sender
      obtain ⟨recipientKey, receives⟩ := names_iff.mp recipient
      exact ⟨_, ownerVerifier_eq_ok.mpr
        (.inl ⟨script, senderKey, recipientKey, read, sends, receives, rfl⟩)⟩

theorem HasVerifier.always {now : UInt64} {owner : Bytes}
    (verifiable : HasVerifier S now owner) (later : UInt64) :
    HasVerifier S later owner :=
  hasVerifier_iff.mpr (hasVerifier_iff.mp verifiable)

theorem Names.hasVerifier {identity : Bytes} (names : Names S identity) (now : UInt64) :
    HasVerifier S now identity :=
  hasVerifier_iff.mpr (.inl names)

/-- The only owners without a script that have a verifier are those that name a
key. -/
theorem hasVerifier_iff_of_ofOwner_eq_none {now : UInt64} {owner : Bytes}
    (free : Script.ofOwner owner = .ok none) :
    HasVerifier S now owner ↔ Names S owner := by
  rw [hasVerifier_iff, free]
  simp

theorem hasVerifier_iff_of_ofOwner_eq_some {now : UInt64} {owner : Bytes}
    {script : Script} (read : Script.ofOwner owner = .ok (some script)) :
    HasVerifier S now owner ↔
      Names S script.sender.bytes ∧ Names S script.recipient.bytes := by
  rw [hasVerifier_iff, read]
  constructor
  · rintro (names | ⟨_, same, parties⟩)
    · cases read.symm.trans names.ofOwner_eq_none
    · cases same
      exact parties
  · exact fun parties => .inr ⟨script, rfl, parties⟩

end PublicKey

variable (S) in
/-- The owners whom a transfer can give to the tokens that it creates, each with
the condition under which there is a verifier for the owner later on. -/
inductive CreatedOwner (now : UInt64) (owner : Bytes) : Prop
  | key {content : Bytes}
      (read : Json.read? owner = some (TypedIdentity.mk publicKeyScheme content))
      (verifiable : ∀ later, PublicKey.HasVerifier S later owner ↔
        ∃ point : S.G1, decodeElement content = .ok point)
  | credential {content : Bytes}
      (read : Json.read? owner = some (TypedIdentity.mk credentialScheme content))
      (unverifiable : ∀ later, ¬ PublicKey.HasVerifier S later owner)
  | script {script : Script} (read : Script.ofOwner owner = .ok (some script))
      (sender : script.sender.bytes ≠ []) (recipient : script.recipient.bytes ≠ [])
      (inTime : now ≤ script.deadline) (lock : script.lock.hash ≠ [])
      (verifiable : ∀ later, PublicKey.HasVerifier S later owner ↔
        PublicKey.Names S script.sender.bytes ∧ PublicKey.Names S script.recipient.bytes)

theorem Token.HasValidOwner.createdOwner {token : Token S} {now : UInt64}
    (owned : token.HasValidOwner now) (kept : token.isRedeemed = false) :
    CreatedOwner S now token.owner := by
  rcases owned with redeemed | ⟨script, read, valid⟩ | ⟨free, kind, resolved, owner⟩
  · simp [isRedeemed, redeemed] at kept
  · obtain ⟨sender, recipient, inTime, lock⟩ := Script.validate_eq_ok.mp valid
    exact .script read sender recipient inTime lock
      fun later => PublicKey.hasVerifier_iff_of_ofOwner_eq_some read
  · cases kind with
    | publicKey content =>
        have read := (IdentityKind.resolve_eq_ok rfl).mp resolved
        refine .key read fun later => ?_
        simp [PublicKey.hasVerifier_iff_of_ofOwner_eq_none free, PublicKey.Names, read]
    | credential content =>
        have distinct : credentialScheme ≠ publicKeyScheme := by decide
        have read := (IdentityKind.resolve_eq_ok rfl).mp resolved
        refine .credential read fun later => ?_
        simp [PublicKey.hasVerifier_iff_of_ofOwner_eq_none free, PublicKey.Names, read,
          distinct]
    | walletLabel label => exact absurd rfl (owner label)

/-- What is taken out of a script goes to a party that names a key. -/
theorem TransferAction.RespectsScript.names_of_mem_outputs {transfer : TransferAction S}
    {now : UInt64} {token output : Token S} {message signature : Bytes}
    (respects : transfer.RespectsScript now token signature)
    (signed : Signed (PublicKey.ownerVerifier S now ⟨token.owner⟩) message signature)
    (locked : isScript token.owner = true) (created : output ∈ transfer.outputs) :
    PublicKey.Names S output.owner := by
  obtain ⟨-, script, read⟩ := respects.exists_script locked
  have among := List.mem_map_of_mem (f := Token.owner) created
  rcases respects.claimed_or_reclaimed read signed with claimed | reclaimed
  · obtain ⟨_, key, -, named, -⟩ := claimed.revealed
    rw [claimed.recipient, List.mem_singleton] at among
    exact among ▸ PublicKey.names_iff.mpr ⟨key, named⟩
  · obtain ⟨key, named, -⟩ := reclaimed.signed
    rw [reclaimed.sender, List.mem_singleton] at among
    exact among ▸ PublicKey.names_iff.mpr ⟨key, named⟩

theorem IssueAction.isRedeemed_of_validate {issue : IssueAction S} {output : Token S}
    (valid : issue.validate = .ok ()) (created : output ∈ issue.outputs) :
    output.isRedeemed = false := by
  simp only [validate, ite_error_eq_ok, List.any_eq_true, not_exists, not_and,
    Bool.not_eq_true] at valid
  exact valid.2.2.1 output created

namespace Validator

/-- In an accepted request no issued token is without an owner. A token that a
transfer creates and that does not leave the system is owned by a key, a
credential or a script that can still be used, and has a verifier under the
conditions of its kind; it has one at all times if it stays with the owner of a
spent token or comes out of a script. -/
theorem created_owners {parameters : PublicParameters S} {validator : Validator S}
    {ledger : Ledger} {now : UInt64} {binding : String} {text : Bytes}
    {actions : List (Action S)}
    (configured : ofParameters parameters (PublicKey.deserializer S now) = .ok validator)
    (accepted : validator.verify ledger now binding text = .ok actions) :
    (∀ issue ∈ Action.issues actions, ∀ output ∈ issue.outputs,
      output.isRedeemed = false ∧ ∀ later, PublicKey.HasVerifier S later output.owner ↔
        PublicKey.Names S output.owner ∨ ∃ script,
          Script.ofOwner output.owner = .ok (some script) ∧
            PublicKey.Names S script.sender.bytes ∧
            PublicKey.Names S script.recipient.bytes) ∧
    ∀ transfer ∈ Action.transfers actions, ∀ output ∈ transfer.outputs,
      output.isRedeemed = false →
        CreatedOwner S now output.owner ∧
        ∀ token ∈ transfer.inputTokens,
          output.owner = token.owner ∨ isScript token.owner = true →
            ∀ later, PublicKey.HasVerifier S later output.owner := by
  obtain ⟨-, rfl⟩ := ofParameters_eq_ok.mp configured
  obtain ⟨-, request, -, accepts⟩ := verify_eq_ok_iff_accepts.mp accepted
  constructor
  · intro issue among output created
    exact ⟨IssueAction.isRedeemed_of_validate
      (accepts.sound.issuesValid issue among).shape created, fun later =>
      PublicKey.hasVerifier_iff⟩
  · intro transfer among output created kept
    refine ⟨((accepts.sound.transfersValid transfer among).owners output
      created).createdOwner kept, ?_⟩
    intro token spent stays later
    obtain ⟨signature, used⟩ :=
      accepts.exists_signature_of_mem (owner_mem_principals _ among spent)
    obtain ⟨signed, respects⟩ := accepts.owner_consents used
    rcases stays with same | locked
    · obtain ⟨verify, found, -⟩ := signed
      rw [same]
      exact PublicKey.HasVerifier.always ⟨verify, found⟩ later
    · exact (respects.names_of_mem_outputs signed locked created).hasVerifier later

end Validator

namespace HashLock.Sample

open Bn254 Batch.Sample

/-- What the recipient of the sample claims has a verifier for good. -/
theorem claimed_verifiable : ∃ signature,
    (base.validator 0).verify ledger 0 "tx1" (request signature).serialize =
        .ok [.transfer claim, .signature (Action.revelation preimage)] ∧
      ∀ output ∈ claim.outputs, output.isRedeemed = false ∧
        CreatedOwner exponentSuite 0 output.owner ∧
        ∀ later, PublicKey.HasVerifier exponentSuite later output.owner := by
  obtain ⟨signature, accepted⟩ := claim_accepted
  refine ⟨signature, accepted, fun output created => ?_⟩
  have among : claim ∈ Action.transfers
      [.transfer claim, .signature (Action.revelation preimage)] :=
    List.mem_filterMap.mpr ⟨_, List.mem_cons_self, rfl⟩
  have spent : locked.token ∈ claim.inputTokens := by
    simp [claim, claimer_makes.inputTokens, Sender.inputs, claimer]
  have held : isScript locked.token.owner = true :=
    Script.isScript_of_ofOwner script.ofOwner_toIdentity
  have kept : output.isRedeemed = false := by
    have owner := List.mem_map_of_mem (f := Token.owner) created
    rw [claim, claimer_makes.owners, List.mem_singleton] at owner
    have nonempty : ownerKey.identity.bytes ≠ [] := ownerKey.publicKey.identity_ne_nil
    simp [Token.isRedeemed, owner, nonempty]
  obtain ⟨-, transfers⟩ := Validator.created_owners configured accepted
  obtain ⟨owner, verifiable⟩ := transfers claim among output created kept
  exact ⟨kept, owner, verifiable locked.token spent (.inr held)⟩

end HashLock.Sample

namespace Batch.Sample

open Bn254

/-- The sender of a token that goes to the owner of a credential. -/
def stranding : Sender exponentSuite :=
  ⟨input, [], base⟩

def credential : TypedIdentity :=
  ⟨credentialScheme, [1]⟩

def stranded : TransferAction exponentSuite × List (Metadata exponentSuite) :=
  Sampling.valueFrom (stranding.transfer [1] [credential.serialize.bytes]) (⟨1⟩ : Counter)
    (by decide +kernel)

theorem stranding_makes : stranding.Makes [credential.serialize.bytes] stranded.1 := by
  refine (Sender.makes_of_transfer base_certified ?_ (by decide +kernel)
    (Sampling.gives_valueFrom (stranding.transfer [1] [credential.serialize.bytes])
      (⟨1⟩ : Counter) (by decide +kernel))).2
  simp only [Sender.inputs, stranding, List.forall_mem_singleton]
  exact eq_ok_get (by decide +kernel)

theorem credential_resolves :
    IdentityKind.resolve credential.serialize.bytes =
      .ok (.credential credential.content) :=
  (IdentityKind.resolve_eq_ok rfl).mpr credential.read?_serialize

theorem credential_free : Script.ofOwner credential.serialize.bytes = .ok none :=
  Script.ofOwner_of_scheme_ne credential.read?_serialize (by decide)

theorem stranded_valid : stranded.1.Valid base ledger 0 := by
  refine stranding_makes.valid (by simp) ?_ ?_
  · simp only [Sender.inputs, stranding, List.forall_mem_singleton]
    exact ⟨_, rfl, Json.write_ne_nil _, by simp [Token.deserialize]⟩
  · intro output created
    have owner := List.mem_map_of_mem (f := Token.owner) created
    rw [stranding_makes.owners, List.mem_singleton] at owner
    refine .inr (.inr ⟨owner ▸ credential_free, _, owner ▸ credential_resolves, ?_⟩)
    exact fun label => IdentityKind.noConfusion

theorem stranded_accepted : ∃ request,
    (base.validator 0).verify ledger 0 "tx1" request = .ok [.transfer stranded.1] := by
  obtain ⟨signature, -, verified, silent⟩ := ownerKey.exists_signature
    ((⟨[], [stranded.1.serialize], [], []⟩ : TokenRequest).messageToSign "tx1")
  set request : TokenRequest := ⟨[], [stranded.1.serialize], [signature], []⟩
  have consents : (base.validator 0).Consents 0 (request.messageToSign "tx1")
      (.owner stranded.1 input.token) signature :=
    ⟨⟨_, ownerKey.publicKey.ownerVerifier_identity 0, verified⟩,
      .inl ownerKey.publicKey.ofOwner_identity⟩
  have unaudited : base.auditor.isNone = true := rfl
  refine ⟨_, Validator.verify_eq_ok.mpr ⟨request, [], [stranded.1], Json.write_ne_nil _,
    request.deserialize_serialize, ⟨.nil, ?_, ?_, ?_⟩, ⟨[signature], [], rfl, ?_⟩, ?_⟩⟩
  · simp [request, TransferAction.deserialize, TransferAction.serialize]
  · simp
  · simpa using stranded_valid
  · exact .cons consents .nil
  · simp [Validator.actionsOf, Validator.signaturesOf, request, silent]

/-- A token that goes to the owner of a credential is accepted, and has no
verifier ever after. -/
theorem credential_stranded :
    Validator.ofParameters base (PublicKey.deserializer exponentSuite 0) =
      .ok (base.validator 0) ∧
    (∃ request,
      (base.validator 0).verify ledger 0 "tx1" request = .ok [.transfer stranded.1]) ∧
    ∃ output ∈ stranded.1.outputs, output.isRedeemed = false ∧
      ∀ later, ¬ PublicKey.HasVerifier exponentSuite later output.owner := by
  have owners := stranding_makes.owners
  obtain ⟨output, only, owner⟩ := List.map_eq_singleton_iff.mp owners
  refine ⟨HashLock.Sample.configured, stranded_accepted, output, ?_, ?_, fun later => ?_⟩
  · rw [only]
    exact List.mem_cons_self
  · simp [Token.isRedeemed, owner, TypedIdentity.serialize, Json.write_ne_nil]
  · have other : credential.scheme ≠ publicKeyScheme := by decide
    rw [owner, PublicKey.hasVerifier_iff_of_ofOwner_eq_none credential_free]
    rintro ⟨content, read, -⟩
    have same := Option.some.inj (credential.read?_serialize.symm.trans read)
    exact other (congrArg TypedIdentity.scheme same)

end Batch.Sample

end ConfidentialToken
