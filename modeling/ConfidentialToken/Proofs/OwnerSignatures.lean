import ConfidentialToken.Proofs.Bn254.Exponents
import ConfidentialToken.Proofs.HashLock

/-!
Which signatures an owner accepts.

Who owns a token is found by reading encodings inside of encodings: a key in the
identity of a party, the identity in a script, the script in the identity of a
locked token. The verifier that comes out of this takes the signatures of the
party to whom the token belongs at the time. Claims and plain signatures cannot
stand in for one another, because no text reads as both: each lacks the fields
of the other.
-/

namespace ConfidentialToken

open Json HashLock

variable {S : Suite}

/-- What a key has signed does not read as a claim. -/
theorem HashLock.ClaimSignature.deserialize_write_keySignature_ne_ok
    [FaithfulEncoding S.Scalar] (signature : KeySignature S) (claim : ClaimSignature) :
    deserialize (write signature) ≠ .ok claim := by
  have absent : (toJson signature).fields ["recipient_signature", "preimage"] =
      some [none, none] := rfl
  rw [Ne, deserialize_eq_ok, read?_write_eq]
  simp [fromJson, absent, requiredHex]

theorem KeySignature.read?_write_claim (claim : ClaimSignature) :
    (read? (write claim) : Option (KeySignature S)) = none := by
  have absent : (toJson claim).fields ["challenge", "response"] = some [none, none] := rfl
  rw [read?_write_eq]
  simp [fromJson, absent, required]

theorem PublicKey.verifier_write_claim_ne_ok (key : PublicKey S) (message : Bytes)
    (claim : ClaimSignature) : key.verifier message (write claim) ≠ .ok () := by
  have unread : ∀ signature : KeySignature S,
      Json.read (write claim) ≠ .ok signature := by
    intro signature
    simp [Json.read, KeySignature.read?_write_claim]
  rw [PublicKey.verifier, Ne, bind_eq_ok]
  rintro ⟨signature, read, -⟩
  exact unread signature (during_eq_ok.mp read)

namespace HashLock

theorem claimSigner_sign_eq_ok {claimant : Signer} {preimage message text : Bytes} :
    (claimSigner claimant preimage).sign message = .ok text ↔
      ∃ signature, claimant.sign (ClaimSignature.signedMessage message preimage) =
        .ok signature ∧
        write (ClaimSignature.mk signature preimage) = text := by
  simp [claimSigner]

namespace Script

variable {script : Script} {sender recipient : Verifier} {now : UInt64}
  {message text : Bytes}

theorem verifier_eq_ok_of_lt (early : now < script.deadline) :
    script.verifier sender recipient now message text = .ok () ↔
      ∃ claim, ClaimSignature.deserialize text = .ok claim ∧
        recipient (ClaimSignature.signedMessage message claim.preimage)
          claim.recipientSignature = .ok () ∧
        script.lock.image claim.preimage = script.lock.hash := by
  simp [verifier_eq_ok, operation_eq_claim.mpr early]

theorem verifier_eq_ok_of_le (late : script.deadline ≤ now) :
    script.verifier sender recipient now message text = .ok () ↔
      sender message text = .ok () := by
  simp [verifier_eq_ok, operation_eq_reclaim.mpr late]

theorem verifier_write_keySignature_ne_ok [FaithfulEncoding S.Scalar]
    (early : now < script.deadline) (signature : KeySignature S) :
    script.verifier sender recipient now message (write signature) ≠ .ok () := by
  rw [Ne, verifier_eq_ok_of_lt early]
  rintro ⟨claim, read, -⟩
  exact ClaimSignature.deserialize_write_keySignature_ne_ok signature claim read

/-- A claim of a recipient whose signature is valid is decided by the preimage
alone. -/
theorem verifier_write_claim_eq_ok (early : now < script.deadline)
    {signature preimage : Bytes}
    (signed : recipient (ClaimSignature.signedMessage message preimage) signature =
      .ok ()) :
    script.verifier sender recipient now message
      (write (ClaimSignature.mk signature preimage)) =
        .ok () ↔
      script.lock.image preimage = script.lock.hash := by
  have read : ClaimSignature.deserialize (write (ClaimSignature.mk signature preimage)) =
      .ok ⟨signature, preimage⟩ :=
    ClaimSignature.deserialize_eq_ok.mpr (read?_write _)
  rw [verifier_eq_ok_of_lt early, read]
  constructor
  · rintro ⟨claim, ⟨⟩, -, opens⟩
    exact opens
  · exact fun opens => ⟨_, rfl, signed, opens⟩

end Script

end HashLock

/-- The owners that signing keys stand for resolve to verifiers of the
signatures of these keys. A key accepts what it signs. A script between two keys
accepts a claim of the recipient until the deadline exactly if the preimage
opens the lock, and no plain signature of a party; from the deadline on it
accepts the plain signatures of the sender, and no claim of anyone. -/
theorem PublicKey.ownerVerifier_accepts_signers [LawfulG1 S] [FaithfulEncoding S.Scalar]
    [FaithfulEncoding S.G1] (now : UInt64) :
    (∀ key : SigningKey S, ∃ verify, ownerVerifier S now key.identity = .ok verify ∧
      ∀ message, ∃ signature, key.signer.sign message = .ok signature ∧
        verify message signature = .ok ()) ∧
    ∀ (script : Script) (sender recipient : SigningKey S),
      script.sender = sender.identity → script.recipient = recipient.identity →
      ∃ verify, ownerVerifier S now script.toIdentity = .ok verify ∧
        (now < script.deadline →
          (∀ preimage message, ∃ claim,
            (claimSigner recipient.signer preimage).sign message = .ok claim ∧
            (verify message claim = .ok () ↔
              script.lock.image preimage = script.lock.hash)) ∧
          ∀ party ∈ [sender, recipient], ∀ signed message signature,
            party.signer.sign signed = .ok signature →
              verify message signature ≠ .ok ()) ∧
        (script.deadline ≤ now →
          (∀ message, ∃ signature, sender.signer.sign message = .ok signature ∧
            verify message signature = .ok ()) ∧
          ∀ claimant preimage signed message claim,
            (claimSigner claimant preimage).sign signed = .ok claim →
              verify message claim ≠ .ok ()) := by
  refine ⟨fun key => ⟨_, ownerVerifier_identity _ now, fun message =>
    ⟨_, rfl, key.verifier_sign message⟩⟩, ?_⟩
  intro script sender recipient sends receives
  refine ⟨_, script.ownerVerifier_toIdentity sends receives now, ?_, ?_⟩
  · intro early
    constructor
    · intro preimage message
      exact ⟨_, rfl, Script.verifier_write_claim_eq_ok early (recipient.verifier_sign _)⟩
    · rintro party - signed message _ ⟨⟩
      exact Script.verifier_write_keySignature_ne_ok early (party.sign signed)
  · intro late
    constructor
    · intro message
      exact ⟨_, rfl, (Script.verifier_eq_ok_of_le late).mpr
        (sender.verifier_sign message)⟩
    · intro claimant preimage signed message claim made
      obtain ⟨signature, -, rfl⟩ := claimSigner_sign_eq_ok.mp made
      rw [Ne, Script.verifier_eq_ok_of_le late]
      exact sender.publicKey.verifier_write_claim_ne_ok message _

namespace HashLock

def sampleSender : SigningKey Bn254.exponentSuite :=
  ⟨ScalarOperations.ofNat 7⟩

def sampleRecipient : SigningKey Bn254.exponentSuite :=
  ⟨ScalarOperations.ofNat 11⟩

/-- A script that passes from the recipient to the sender at the fifth
second. -/
def sampleScript : Script :=
  ⟨sampleSender.identity, sampleRecipient.identity, 5, .ofPreimage [1, 2, 3]⟩

end HashLock

/-- The claim of the sample is good until the deadline, and the signature of its
sender from then on. -/
theorem PublicKey.ownerVerifier_sampleScript :
    (∃ claim, (claimSigner sampleRecipient.signer [1, 2, 3]).sign [8] = .ok claim ∧
      Signed (ownerVerifier Bn254.exponentSuite 4 sampleScript.toIdentity) [8] claim ∧
      ¬ Signed (ownerVerifier Bn254.exponentSuite 5 sampleScript.toIdentity) [8] claim) ∧
    ∃ signature, sampleSender.signer.sign [8] = .ok signature ∧
      ¬ Signed (ownerVerifier Bn254.exponentSuite 4 sampleScript.toIdentity)
        [8] signature ∧
      Signed (ownerVerifier Bn254.exponentSuite 5 sampleScript.toIdentity)
        [8] signature := by
  obtain ⟨early, foundEarly, claims, -⟩ :=
    (ownerVerifier_accepts_signers (S := Bn254.exponentSuite) 4).2 sampleScript
      sampleSender sampleRecipient rfl rfl
  obtain ⟨late, foundLate, -, reclaims⟩ :=
    (ownerVerifier_accepts_signers (S := Bn254.exponentSuite) 5).2 sampleScript
      sampleSender sampleRecipient rfl rfl
  obtain ⟨accepted, refused⟩ := claims (by decide)
  obtain ⟨returned, expired⟩ := reclaims (by decide)
  obtain ⟨claim, made, decided⟩ := accepted [1, 2, 3] [8]
  obtain ⟨signature, signed, verified⟩ := returned [8]
  refine ⟨⟨claim, made, ⟨early, foundEarly, decided.mpr rfl⟩, ?_⟩,
    signature, signed, ?_, late, foundLate, verified⟩
  · rintro ⟨verify, found, taken⟩
    cases foundLate.symm.trans found
    exact expired _ _ _ _ _ made taken
  · rintro ⟨verify, found, taken⟩
    cases foundEarly.symm.trans found
    exact refused sampleSender (by simp) _ _ _ signed taken

end ConfidentialToken
