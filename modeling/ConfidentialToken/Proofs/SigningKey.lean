import ConfidentialToken.Proofs.Schnorr.Completeness
import ConfidentialToken.Proofs.Json.Elementwise
import ConfidentialToken.Proofs.Outcome
import ConfidentialToken.Validation.Validator

/-!
Signatures of keys are accepted under the identities of the keys.
-/

namespace ConfidentialToken

open Json

variable {S : Suite}

theorem TypedIdentity.read?_serialize (typed : TypedIdentity) :
    read? typed.serialize.bytes = some typed :=
  read?_write typed

/-- What is written without the fields of a claim makes nothing known. -/
theorem Action.ofSignature?_write_eq_none {α : Type} [JsonForm α] [LawfulForm α]
    (value : α)
    (fields : (toJson value).fields ["recipient_signature", "preimage"] =
      some [none, none]) :
    (Action.ofSignature? (write value) : Option (Action S)) = none := by
  have noClaim : (read? (write value) : Option HashLock.ClaimSignature) = none := by
    simp [read?_write_eq, fromJson, fields, requiredHex]
  simp [Action.ofSignature?, noClaim]

namespace PublicKey

theorem resolve_identity (key : PublicKey S) :
    IdentityKind.resolve key.identity.bytes = .ok (.publicKey (encode key.point)) := by
  simp [IdentityKind.resolve, identity, TypedIdentity.read?_serialize]

theorem identity_ne_nil (key : PublicKey S) : key.identity.bytes ≠ [] :=
  write_ne_nil (TypedIdentity.mk publicKeyScheme (encode key.point))

/-- The identity of a key is no script. -/
theorem ofOwner_identity (key : PublicKey S) :
    HashLock.Script.ofOwner key.identity.bytes = .ok none := by
  have other : publicKeyScheme ≠ scriptScheme := by decide
  simp [HashLock.Script.ofOwner, identity, TypedIdentity.read?_serialize, other]

/-- An identity stands for a key if it is resolved to bytes that the point is
decoded from. -/
theorem ofIdentity_eq_ok {identity : Bytes} {key : PublicKey S} :
    ofIdentity S identity = .ok key ↔
      ∃ content, IdentityKind.resolve identity = .ok (.publicKey content) ∧
        decodeElement content = .ok key.point := by
  rw [ofIdentity, bind_eq_ok]
  constructor
  · rintro ⟨kind, resolved, read⟩
    cases kind with
    | publicKey content =>
        simp only [bind_eq_ok, during_eq_ok, pure_eq_ok] at read
        obtain ⟨point, decoded, rfl⟩ := read
        exact ⟨content, resolved, decoded⟩
    | credential _ => exact absurd read throw_ne_ok
    | walletLabel _ => exact absurd read throw_ne_ok
  · rintro ⟨content, resolved, decoded⟩
    exact ⟨_, resolved, by simp [decoded]⟩

theorem ofIdentity_identity [FaithfulEncoding S.G1] (key : PublicKey S) :
    ofIdentity S key.identity.bytes = .ok key :=
  ofIdentity_eq_ok.mpr ⟨_, key.resolve_identity, FaithfulEncoding.decode_encode key.point⟩

theorem ownerVerifier_identity [FaithfulEncoding S.G1] (key : PublicKey S)
    (now : UInt64) : ownerVerifier S now key.identity = .ok key.verifier := by
  simp [ownerVerifier, ofOwner_identity, ofIdentity_identity]

end PublicKey

theorem HashLock.Script.ofOwner_toIdentity (script : HashLock.Script) :
    ofOwner script.toIdentity.bytes = .ok (some script) := by
  simp [ofOwner, toIdentity, TypedIdentity.read?_serialize]

namespace SigningKey

/-- The signatures of a key satisfy the equation of its public key, whatever the
nonce. -/
theorem accepts_signWith [LawfulG1 S] (key : SigningKey S) (nonce : S.Scalar)
    (message : Bytes) :
    key.publicKey.accepts message (key.signWith nonce message) = true := by
  have recomputed : key.publicKey.recompute (key.signWith nonce message) =
      nonce • PublicKey.base S := by
    rw [PublicKey.recompute, signWith, publicKey]
    module
  rw [PublicKey.accepts, recomputed]
  exact decide_eq_true rfl

variable [FaithfulEncoding S.Scalar]

theorem verifier_sign [LawfulG1 S] (key : SigningKey S) (message : Bytes) :
    key.publicKey.verifier message (write (key.sign message)) = .ok () := by
  simp [PublicKey.verifier, sign, accepts_signWith]

/-- The signature of a key makes nothing known. -/
theorem ofSignature?_write (signature : KeySignature S) :
    (Action.ofSignature? (write signature) : Option (Action S)) = none :=
  Action.ofSignature?_write_eq_none signature rfl

/-- A key signs every message, and its signature is accepted and makes nothing
known. -/
theorem exists_signature [LawfulG1 S] (key : SigningKey S) (message : Bytes) :
    ∃ signature, key.signer.sign message = .ok signature ∧
      key.publicKey.verifier message signature = .ok () ∧
      (Action.ofSignature? signature : Option (Action S)) = none :=
  ⟨_, rfl, key.verifier_sign message, ofSignature?_write _⟩

end SigningKey

end ConfidentialToken
