import ConfidentialToken.Proofs.SigningKey
import ConfidentialToken.Proofs.Validation.Actions

/-!
Who can spend a locked token.

Until the deadline it is the recipient, with a signature that reveals a preimage
of the lock, and from then on it is the sender. What a signature reveals is made
known.
-/

namespace ConfidentialToken

namespace HashLock

/-- An owner is either no script, or bytes that have to be read as one. -/
theorem Script.ofOwner_eq_ok_none {owner : Bytes} :
    Script.ofOwner owner = .ok none ↔ isScript owner = false := by
  unfold Script.ofOwner isScript
  cases Json.read? owner (α := TypedIdentity) with
  | none => simp
  | some typed =>
      by_cases scheme : typed.scheme = scriptScheme
      · simp [scheme]
      · simp [scheme]

namespace Script

theorem isScript_of_ofOwner {owner : Bytes} {script : Script}
    (found : ofOwner owner = .ok (some script)) : isScript owner = true := by
  rw [← Bool.not_eq_false, ← ofOwner_eq_ok_none, found]
  nofun

theorem operation_eq_claim {script : Script} {now : UInt64} :
    script.operation now = .claim ↔ now < script.deadline := by
  unfold operation
  split <;> simp_all

theorem operation_eq_reclaim {script : Script} {now : UInt64} :
    script.operation now = .reclaim ↔ script.deadline ≤ now := by
  unfold operation
  split <;> simp_all [UInt64.not_lt]

/-- What the verifier of a script accepts at a time. -/
theorem verifier_eq_ok {script : Script} {sender recipient : Verifier} {now : UInt64}
    {message signature : Bytes} :
    script.verifier sender recipient now message signature = .ok () ↔
      (script.operation now = .claim ∧ ∃ claim,
        ClaimSignature.deserialize signature = .ok claim ∧
        recipient (ClaimSignature.signedMessage message claim.preimage)
          claim.recipientSignature = .ok () ∧
        script.lock.image claim.preimage = script.lock.hash) ∨
      (script.operation now = .reclaim ∧ sender message signature = .ok ()) := by
  unfold verifier
  cases script.operation now with
  | claim =>
      simp only [bind_eq_ok, during_eq_ok, ite_throw_eq_ok, ne_eq, not_not, pure_eq_ok,
        and_true, true_and, reduceCtorEq, false_and, or_false]
      constructor
      · rintro ⟨claim, read, ⟨⟩, verified, opens⟩
        exact ⟨claim, read, verified, opens⟩
      · rintro ⟨claim, read, verified, opens⟩
        exact ⟨claim, read, (), verified, opens⟩
  | reclaim => simp

end Script

end HashLock

variable {S : Suite}

namespace HashLock.ClaimSignature

theorem deserialize_eq_ok {text : Bytes} {claim : ClaimSignature} :
    deserialize text = .ok claim ↔ Json.read? text = some claim := by
  unfold deserialize Json.read
  cases Json.read? text (α := ClaimSignature) <;> simp

/-- The preimage that a text reveals if it reads as a claim. -/
def revealed? (text : Bytes) : Option Bytes := do
  let claim : ClaimSignature ← Json.read? text
  if claim.preimage.isEmpty ∨ claim.recipientSignature.isEmpty then none else
    some claim.preimage

theorem revealed?_eq_some {text : Bytes} {claim : ClaimSignature}
    (read : deserialize text = .ok claim) (preimage : claim.preimage ≠ [])
    (signed : claim.recipientSignature ≠ []) : revealed? text = some claim.preimage := by
  simp [revealed?, deserialize_eq_ok.mp read, preimage, signed]

end HashLock.ClaimSignature

namespace Action

open HashLock

/-- How a preimage is made known. -/
def revelation (preimage : Bytes) : KeyedData :=
  .ofList [(claimPreimageKey, preimage)]

/-- What is reported of a signature. -/
def report? (signature : Bytes) : Option KeyedData :=
  (ClaimSignature.revealed? signature).map revelation

theorem report?_eq_none {signature : Bytes} :
    report? signature = none ↔ ClaimSignature.revealed? signature = none :=
  Option.map_eq_none_iff

theorem ofSignature?_eq (text : Bytes) :
    ofSignature? text = (report? text).map (.signature : KeyedData → Action S) := by
  unfold ofSignature? report? ClaimSignature.revealed?
  cases Json.read? text (α := ClaimSignature) with
  | none => rfl
  | some claim =>
      by_cases empty : claim.preimage = [] ∨ claim.recipientSignature = []
      · simp [empty]
      · simp [empty, revelation]

end Action

/-- The verifier of an owner is that of a script between two keys, or that of a
key. -/
theorem PublicKey.ownerVerifier_eq_ok {now : UInt64} {owner : Identity}
    {verify : Verifier} :
    ownerVerifier S now owner = .ok verify ↔
      (∃ script sender recipient,
        HashLock.Script.ofOwner owner.bytes = .ok (some script) ∧
        ofIdentity S script.sender.bytes = .ok sender ∧
        ofIdentity S script.recipient.bytes = .ok recipient ∧
        script.verifier sender.verifier recipient.verifier now = verify) ∨
      (HashLock.Script.ofOwner owner.bytes = .ok none ∧
        ∃ key, ofIdentity S owner.bytes = .ok key ∧ key.verifier = verify) := by
  unfold ownerVerifier
  cases HashLock.Script.ofOwner owner.bytes with
  | error failure => simp
  | ok script =>
      cases script with
      | none => simp
      | some script => simp

namespace HashLock

open Json

instance : LawfulForm ClaimSignature where
  roundTrips claim := {
    plain := .object (by simp [plain_hex])
    back := by
      have fields : (toJson claim).fields ["recipient_signature", "preimage"] =
          some [some (hex claim.recipientSignature), some (hex claim.preimage)] :=
        fields_object rfl (by decide)
      simp [fromJson, fields, requiredHex_hex] }

/-- A script between two keys is resolved to its verifier. -/
theorem Script.ownerVerifier_toIdentity [FaithfulEncoding S.G1] {script : Script}
    {sender recipient : SigningKey S} (sends : script.sender = sender.identity)
    (receives : script.recipient = recipient.identity) (now : UInt64) :
    PublicKey.ownerVerifier S now script.toIdentity =
      .ok (script.verifier sender.publicKey.verifier
        recipient.publicKey.verifier now) := by
  refine PublicKey.ownerVerifier_eq_ok.mpr (.inl ⟨script, _, _, script.ofOwner_toIdentity,
    ?_, ?_, rfl⟩)
  · rw [sends]
    exact sender.publicKey.ofIdentity_identity
  · rw [receives]
    exact recipient.publicKey.ofIdentity_identity

/-- A recipient who knows a preimage of the lock can claim the token until the
deadline. -/
theorem Script.exists_claim [LawfulG1 S] [FaithfulEncoding S.Scalar]
    [FaithfulEncoding S.G1] {script : Script} {sender recipient : SigningKey S}
    (sends : script.sender = sender.identity)
    (receives : script.recipient = recipient.identity) {preimage : Bytes}
    (opens : script.lock.image preimage = script.lock.hash) {now : UInt64}
    (early : now < script.deadline) (message : Bytes) :
    ∃ signature recipientSignature,
      (claimSigner recipient.signer preimage).sign message = .ok signature ∧
      recipientSignature ≠ [] ∧
      ClaimSignature.deserialize signature = .ok ⟨recipientSignature, preimage⟩ ∧
      Signed (PublicKey.ownerVerifier S now script.toIdentity) message signature := by
  set signed := write (recipient.sign (ClaimSignature.signedMessage message preimage))
  have read : ClaimSignature.deserialize (write (ClaimSignature.mk signed preimage)) =
      .ok ⟨signed, preimage⟩ := by
    simp [ClaimSignature.deserialize]
  refine ⟨_, signed, rfl, write_ne_nil _, read, _,
    ownerVerifier_toIdentity sends receives now, ?_⟩
  exact Script.verifier_eq_ok.mpr (.inl ⟨Script.operation_eq_claim.mpr early, _, read,
    recipient.verifier_sign _, opens⟩)

end HashLock

end ConfidentialToken
