import ConfidentialToken.Proofs.HashLock
import ConfidentialToken.Proofs.Json.Strings
import ConfidentialToken.Proofs.Validation.Completeness
import ConfidentialToken.Proofs.Validation.Signatures

/-!
Requests are bound to transactions.

Whoever verifies a signature hashes the signed message in one piece, and
compares the hash with a scalar that the signature contains. A signature on two
messages therefore gives two byte strings with the same hash. All signatures of
a request do so if it is accepted for two transactions.
-/

namespace ConfidentialToken

variable {S : Suite}

/-- A message is hashed between bytes that do not depend on it, and its hash is
the challenge, which does not depend on it either. -/
def MeetsChallenge (challenged : Bytes → Result (Bytes × S.Scalar)) (message : Bytes) :
    Prop :=
  ∃ front back challenge, S.hashToScalar (front ++ message ++ back) = challenge ∧
    ∀ other, challenged other = .ok (front ++ other ++ back, challenge)

namespace MeetsChallenge

variable {challenged : Bytes → Result (Bytes × S.Scalar)} {message : Bytes}

theorem imp {wider : Bytes → Result (Bytes × S.Scalar)}
    (meets : MeetsChallenge challenged message)
    (implies : ∀ other value, challenged other = .ok value → wider other = .ok value) :
    MeetsChallenge wider message := by
  obtain ⟨front, back, challenge, hashes, same⟩ := meets
  exact ⟨front, back, challenge, hashes, fun other => implies other _ (same other)⟩

theorem append {suffix : Bytes} (meets : MeetsChallenge challenged (message ++ suffix)) :
    MeetsChallenge (fun other => challenged (other ++ suffix)) message := by
  obtain ⟨front, back, challenge, hashes, same⟩ := meets
  refine ⟨front, suffix ++ back, challenge, ?_, fun other => ?_⟩
  · rw [← hashes, List.append_assoc, List.append_assoc, List.append_assoc]
  · simp only [same, List.append_assoc]

/-- Two messages that meet the challenge give a collision of the hash
function. -/
theorem collides {other : Bytes} (meets : MeetsChallenge challenged message)
    (meetsOther : MeetsChallenge challenged other) (different : message ≠ other) :
    ∃ bytes otherBytes challenge, challenged message = .ok (bytes, challenge) ∧
      challenged other = .ok (otherBytes, challenge) ∧ bytes ≠ otherBytes ∧
      S.hashToScalar bytes = S.hashToScalar otherBytes := by
  obtain ⟨front, back, challenge, hashes, same⟩ := meets
  obtain ⟨otherFront, otherBack, otherChallenge, hashesOther, sameOther⟩ := meetsOther
  obtain ⟨bytes, challenges⟩ :=
    Prod.mk.inj (Except.ok.inj ((same other).symm.trans (sameOther other)))
  refine ⟨_, _, challenge, same message, same other, fun equal => different ?_, ?_⟩
  · exact List.append_cancel_left (List.append_cancel_right equal)
  · rw [hashes, bytes, hashesOther, challenges]

end MeetsChallenge

/-- What is hashed to verify the signature of a key, and the scalar that the
hash has to be. -/
def PublicKey.challenged (key : PublicKey S) (message text : Bytes) :
    Result (Bytes × S.Scalar) := do
  let signature : KeySignature S ← Json.read text
  return (key.transcript (key.recompute signature) message, signature.challenge)

theorem PublicKey.meetsChallenge {key : PublicKey S} {message text : Bytes}
    (verified : key.verifier message text = .ok ()) :
    MeetsChallenge (key.challenged · text) message := by
  simp only [verifier, bind_eq_ok, during_eq_ok, ite_throw_eq_ok, Bool.not_eq_true',
    Bool.not_eq_false, pure_eq_ok, and_true] at verified
  obtain ⟨signature, read, accepted⟩ := verified
  have hashes := of_decide_eq_true accepted
  refine ⟨encode key.point ++ encode (key.recompute signature), [], signature.challenge,
    ?_, fun other => bind_eq_ok.mpr ⟨signature, read, ?_⟩⟩
  · rw [List.append_nil]
    exact hashes
  · rw [List.append_nil]
    rfl

namespace AnonymousIssuer.VerificationKey

/-- What is hashed to verify the proof of openings in a signature. The proof of
authorization contains no challenge. -/
def challenged (key : VerificationKey S) (message text : Bytes) :
    Result (Bytes × S.Scalar) := do
  let signature ← Signature.deserialize text
  return (key.transcript (key.recompute signature.typeProof) message,
    signature.typeProof.challenge)

theorem meetsChallenge {key : VerificationKey S} {message text : Bytes}
    (verified : key.verifier message text = .ok ()) :
    MeetsChallenge (key.challenged · text) message := by
  obtain ⟨signature, read, verified⟩ := bind_eq_ok.mp verified
  obtain ⟨⟨⟩, -, typed⟩ := bind_eq_ok.mp verified
  obtain ⟨-, typed⟩ := ite_error_eq_ok.mp typed
  obtain ⟨hashes, -⟩ := ite_error_eq_ok.mp typed
  set first := key.recompute signature.typeProof
  refine ⟨encode key.g ++ encode key.h ++ encode key.pseudonym ++
    encode key.commitmentToType ++ encode first.1 ++ encode first.2, [],
    signature.typeProof.challenge, ?_, fun other =>
    bind_eq_ok.mpr ⟨signature, read, ?_⟩⟩
  · rw [List.append_nil]
    exact not_not.mp hashes
  · rw [List.append_nil]
    rfl

end AnonymousIssuer.VerificationKey

namespace HashLock.Script

/-- What is hashed to verify a claim of the recipient or a signature of the
sender. -/
def challenged (script : Script) (sender recipient : PublicKey S) (now : UInt64)
    (message text : Bytes) : Result (Bytes × S.Scalar) :=
  match script.operation now with
  | .claim => do
      let claim ← ClaimSignature.deserialize text
      recipient.challenged (ClaimSignature.signedMessage message claim.preimage)
        claim.recipientSignature
  | .reclaim => sender.challenged message text

theorem meetsChallenge {script : Script} {sender recipient : PublicKey S} {now : UInt64}
    {message text : Bytes}
    (verified : script.verifier sender.verifier recipient.verifier now message text =
      .ok ()) :
    MeetsChallenge (script.challenged sender recipient now · text) message := by
  rcases verifier_eq_ok.mp verified with
    ⟨claims, claim, read, verifiedClaim, -⟩ | ⟨reclaims, verifiedMessage⟩
  · refine (PublicKey.meetsChallenge verifiedClaim).append.imp fun _ _ meets => ?_
    rw [challenged, claims]
    exact bind_eq_ok.mpr ⟨claim, read, meets⟩
  · refine (PublicKey.meetsChallenge verifiedMessage).imp fun _ _ meets => ?_
    rw [challenged, reclaims]
    exact meets

end HashLock.Script

/-- What is hashed to verify the signature of an owner. -/
def PublicKey.ownerChallenged (now : UInt64) (owner message text : Bytes) :
    Result (Bytes × S.Scalar) := do
  match ← HashLock.Script.ofOwner owner with
  | some script =>
      let sender ← ofIdentity S script.sender.bytes
      let recipient ← ofIdentity S script.recipient.bytes
      script.challenged sender recipient now message text
  | none => (← ofIdentity S owner).challenged message text

theorem PublicKey.meetsChallenge_of_owner {now : UInt64} {owner message text : Bytes}
    (signed : Signed (ownerVerifier S now ⟨owner⟩) message text) :
    MeetsChallenge (S := S) (ownerChallenged now owner · text) message := by
  obtain ⟨verify, found, verified⟩ := signed
  rcases ownerVerifier_eq_ok.mp found with
    ⟨script, sender, recipient, locked, senderKey, recipientKey, rfl⟩
      | ⟨free, key, read, rfl⟩
  · exact (HashLock.Script.meetsChallenge verified).imp fun _ _ given =>
      bind_eq_ok.mpr ⟨_, locked, bind_eq_ok.mpr ⟨sender, senderKey,
        bind_eq_ok.mpr ⟨recipient, recipientKey, given⟩⟩⟩
  · exact (meetsChallenge verified).imp fun _ _ given =>
      bind_eq_ok.mpr ⟨_, free, bind_eq_ok.mpr ⟨key, read, given⟩⟩

/-- What is hashed to verify the signature of an issuer, who is named or
anonymous. -/
def IssueAction.challenged (action : IssueAction S) (parameters : PublicParameters S)
    (message text : Bytes) : Result (Bytes × S.Scalar) :=
  if action.anonymous then do
    let proof ← Issue.Proof.deserialize action.proof
    let pseudonym ← AnonymousIssuer.pseudonym action.issuer
    let key ← AnonymousIssuer.VerificationKey.ofParameters parameters pseudonym
      proof.wellFormedness.commitmentToType
    key.challenged message text
  else do
    (← PublicKey.ofIdentity S action.issuer.bytes).challenged message text

theorem IssueAction.meetsChallenge {action : IssueAction S}
    {parameters : PublicParameters S} {now : UInt64} {message text : Bytes}
    (signed :
      Signed (action.principalVerifier parameters (PublicKey.deserializer S now)) message
        text) :
    MeetsChallenge (action.challenged parameters · text) message := by
  obtain ⟨verify, found, verified⟩ := signed
  cases anonymous : action.anonymous with
  | true =>
      rw [principalVerifier, anonymous, if_pos rfl] at found
      obtain ⟨proof, read, found⟩ := bind_eq_ok.mp found
      obtain ⟨pseudonym, known, found⟩ := bind_eq_ok.mp found
      obtain ⟨key, given, made⟩ := bind_eq_ok.mp found
      cases pure_eq_ok.mp made
      refine (AnonymousIssuer.VerificationKey.meetsChallenge verified).imp fun _ _
        meets => ?_
      rw [challenged, anonymous, if_pos rfl]
      exact bind_eq_ok.mpr ⟨proof, read, bind_eq_ok.mpr ⟨pseudonym, known,
        bind_eq_ok.mpr ⟨key, given, meets⟩⟩⟩
  | false =>
      rw [principalVerifier, anonymous, if_neg Bool.false_ne_true] at found
      obtain ⟨key, read, made⟩ := bind_eq_ok.mp found
      cases pure_eq_ok.mp made
      refine (PublicKey.meetsChallenge verified).imp fun _ _ meets => ?_
      rw [challenged, anonymous, if_neg Bool.false_ne_true]
      exact bind_eq_ok.mpr ⟨key, read, meets⟩

/-- What is hashed to verify the signature of a principal, and the scalar that
the hash must be. -/
def Principal.challenged (principal : Principal S) (parameters : PublicParameters S)
    (now : UInt64) (message text : Bytes) : Result (Bytes × S.Scalar) :=
  match principal with
  | .auditor identity =>
      do (← PublicKey.ofIdentity S identity.bytes).challenged message text
  | .issuer action => action.challenged parameters message text
  | .owner _ token => PublicKey.ownerChallenged now token.owner message text

theorem Principal.meetsChallenge {principal : Principal S}
    {parameters : PublicParameters S} {now : UInt64} {message text : Bytes}
    (signed : Signed (principal.verifier parameters (PublicKey.deserializer S now))
      message text) :
    MeetsChallenge (principal.challenged parameters now · text) message := by
  cases principal with
  | auditor identity =>
      obtain ⟨verify, found, verified⟩ := signed
      obtain ⟨key, read, made⟩ := bind_eq_ok.mp found
      cases pure_eq_ok.mp made
      exact (PublicKey.meetsChallenge verified).imp fun _ _ meets =>
        bind_eq_ok.mpr ⟨key, read, meets⟩
  | issuer action => exact IssueAction.meetsChallenge signed
  | owner transfer token => exact PublicKey.meetsChallenge_of_owner signed

theorem TokenRequest.messageToSign_inj {request : TokenRequest} {binding other : String} :
    request.messageToSign binding = request.messageToSign other ↔ binding = other := by
  rw [messageToSign, messageToSign, List.append_cancel_left_eq, Bytes.ofText_inj]

namespace Validator

/-- Somebody has to sign a request that has an action, or any request if there
is an auditor. -/
theorem Accepts.consumed_ne_nil {validator : Validator S} {ledger : Ledger} {now : UInt64}
    {binding : String} {request : TokenRequest} {actions : List (Action S)}
    (accepts : validator.Accepts ledger now binding request actions)
    (signs : request.isEmpty = false ∨ validator.parameters.auditor.isNone = false) :
    validator.consumed request actions ≠ [] := by
  intro empty
  have nobody := accepts.principals
  rw [empty, List.map_nil, Validator.principals, eq_comm, List.append_eq_nil_iff,
    List.append_eq_nil_iff, List.map_eq_nil_iff, List.flatMap_eq_nil_iff] at nobody
  obtain ⟨⟨unaudited, noIssues⟩, noOwners⟩ := nobody
  have noTransfers : Action.transfers actions = [] := by
    refine List.eq_nil_iff_forall_not_mem.mpr fun transfer among => ?_
    obtain ⟨some, count, -⟩ :=
      TransferAction.validate_eq_ok.mp (accepts.sound.transfersValid transfer among).shape
    rw [List.map_eq_nil_iff.mp (noOwners transfer among), List.length_nil,
      List.length_eq_zero_iff] at count
    exact some count
  rcases signs with acts | audited
  · have issues := accepts.sound.issuesParsed
    have transfers := accepts.sound.transfersParsed
    rw [noIssues, List.forall₂_nil_right_iff] at issues
    rw [noTransfers, List.forall₂_nil_right_iff] at transfers
    rw [TokenRequest.isEmpty, issues, transfers] at acts
    cases acts
  · rw [auditors, audited] at unaudited
    cases unaudited

/-- A request that is accepted for one transaction is rejected for every other
one, or else each of its signatures gives two byte strings with the same
hash. -/
theorem bound_to_transaction {parameters : PublicParameters S} {validator : Validator S}
    {ledger : Ledger} {now : UInt64} {binding other : String} {text : Bytes}
    {request : TokenRequest} {actions : List (Action S)}
    (configured : ofParameters parameters (PublicKey.deserializer S now) = .ok validator)
    (parsed : TokenRequest.deserialize text = .ok request)
    (signs : request.isEmpty = false ∨ parameters.auditor.isNone = false)
    (different : binding ≠ other)
    (accepted : validator.verify ledger now binding text = .ok actions) :
    (∃ failure, validator.verify ledger now other text = .error failure) ∨
      validator.consumed request actions ≠ [] ∧
      ∀ use ∈ validator.consumed request actions, ∃ bytes otherBytes challenge,
        use.1.challenged parameters now (request.messageToSign binding) use.2 =
          .ok (bytes, challenge) ∧
        use.1.challenged parameters now (request.messageToSign other) use.2 =
          .ok (otherBytes, challenge) ∧
        bytes ≠ otherBytes ∧ S.hashToScalar bytes = S.hashToScalar otherBytes := by
  obtain ⟨-, rfl⟩ := ofParameters_eq_ok.mp configured
  obtain ⟨-, _, sameParsed, accepts⟩ := verify_eq_ok_iff_accepts.mp accepted
  cases parsed.symm.trans sameParsed
  cases acceptedOther : verify _ ledger now other text with
  | error failure => exact .inl ⟨failure, rfl⟩
  | ok otherActions =>
      obtain ⟨-, _, sameParsed, acceptsOther⟩ := verify_eq_ok_iff_accepts.mp acceptedOther
      cases parsed.symm.trans sameParsed
      cases accepts.actions_unique acceptsOther
      refine .inr ⟨accepts.consumed_ne_nil signs, fun use used => ?_⟩
      have meets := Principal.meetsChallenge (accepts.consents use used).1
      have meetsOther := Principal.meetsChallenge (acceptsOther.consents use used).1
      exact meets.collides meetsOther (different ∘ TokenRequest.messageToSign_inj.mp)

end Validator

namespace Batch.Sample

open Bn254

/-- The endorsed request of the honest parties, signed for one transaction, is
rejected for the next one unless the hash function collides on what its first
signature hashes. -/
theorem sample_bound : ∃ request, batch.request (some auditor) "tx1" = .ok request ∧
    ((∃ failure, (parameters.validator 0).verify ledger 0 "tx2" request.serialize =
        .error failure) ∨
      ∃ (principal : Principal exponentSuite) (signature : Bytes),
        ∃ bytes otherBytes challenge,
        principal.challenged parameters 0 (request.messageToSign "tx1") signature =
          .ok (bytes, challenge) ∧
        principal.challenged parameters 0 (request.messageToSign "tx2") signature =
          .ok (otherBytes, challenge) ∧
        bytes ≠ otherBytes ∧
        exponentSuite.hashToScalar bytes = exponentSuite.hashToScalar otherBytes) := by
  obtain ⟨request, made, accepted⟩ := honest.accepted produced.certified audited "tx1"
  have present : parameters.auditor.isNone = false := by decide +kernel
  refine ⟨request, made, ?_⟩
  rcases Validator.bound_to_transaction configured request.deserialize_serialize
    (.inr present)
    (by decide : "tx1" ≠ "tx2") accepted with rejected | ⟨nonempty, collides⟩
  · exact .inl rejected
  · obtain ⟨⟨principal, signature⟩, used⟩ := List.exists_mem_of_ne_nil _ nonempty
    exact .inr ⟨principal, signature, collides _ used⟩

end Batch.Sample

end ConfidentialToken
