import ConfidentialToken.Bn254.Suite
import ConfidentialToken.Proofs.Trapping.Basic
import ConfidentialToken.SigningKey

/-!
The verifiers that identities stand for do not trap.

The only operation whose domain they could leave is in the hash function to
points, which reads the last byte of a digest. That function is a parameter of
the verifiers of keys.
-/

namespace ConfidentialToken

open Trapping

variable {S : Suite}

/-- A check of a signature on a message: the message comes first. -/
abbrev TrappingVerifier := Bytes → Bytes → Trapping Unit

/-- A verifier that does not trap. -/
def Verifier.total (verifier : Verifier) : TrappingVerifier := fun message signature =>
  done (verifier message signature)

/-- The verifiers that identities stand for, by the role in which they occur. -/
structure TrappingDeserializer where
  owner : Identity → Trapping TrappingVerifier
  issuer : Identity → Trapping TrappingVerifier
  auditor : Identity → Trapping TrappingVerifier

/-- Every identity stands for the same verifier, and neither finding nor running
it traps. -/
structure TrappingDeserializer.Follows (machine : TrappingDeserializer)
    (deserializer : Deserializer) : Prop where
  owner (identity : Identity) :
    machine.owner identity = done ((deserializer.owner identity).map Verifier.total)
  issuer (identity : Identity) :
    machine.issuer identity = done ((deserializer.issuer identity).map Verifier.total)
  auditor (identity : Identity) :
    machine.auditor identity = done ((deserializer.auditor identity).map Verifier.total)

/-- `HashLock.Script.verifier` for verifiers that may trap. -/
def HashLock.Script.verifierTrapping (script : HashLock.Script)
    (sender recipient : TrappingVerifier) (now : UInt64) : TrappingVerifier :=
  fun message signature =>
    match script.operation now with
    | .claim => do
        let claim ← done (ClaimSignature.deserialize signature)
        Trapping.during "failed verifying recipient signature"
          (recipient (ClaimSignature.signedMessage message claim.preimage)
            claim.recipientSignature)
        if script.lock.image claim.preimage ≠ script.lock.hash then
          throw (.identity "hash mismatch: preimage does not open the lock")
    | .reclaim => sender message signature

theorem HashLock.Script.verifierTrapping_total (script : HashLock.Script)
    (sender recipient : Verifier) (now : UInt64) :
    script.verifierTrapping sender.total recipient.total now =
      (script.verifier sender recipient now).total := by
  funext message signature
  unfold verifierTrapping Verifier.total verifier
  cases script.operation now with
  | claim =>
      exact bind_eq_done rfl fun claim _ => bind_eq_done rfl fun _ _ => check_eq_done
  | reclaim => rfl

namespace PublicKey

/-- `verifier`, with the hash function of the machine. -/
def verifierTrapping (hash : Bytes → Trapping S.G1) (key : PublicKey S) :
    TrappingVerifier :=
  fun message text => do
    let signature : KeySignature S ←
      done (ConfidentialToken.during "failed unmarshalling signature" (Json.read text))
    let base ← hash (Bytes.ofText "zkatdlog.identity.generator")
    let first := signature.response • base - signature.challenge • key.point
    if !decide (key.challenge first message = signature.challenge) then
      throw (.identity "invalid signature")

/-- `ownerVerifier`, with the hash function of the machine. -/
def ownerVerifierTrapping (hash : Bytes → Trapping S.G1) (now : UInt64)
    (owner : Identity) : Trapping TrappingVerifier := do
  match ← done (HashLock.Script.ofOwner owner.bytes) with
  | some script =>
      let sender ← done (ConfidentialToken.during
        "failed to unmarshal the identity of the sender in the htlc script"
        (ofIdentity S script.sender.bytes))
      let recipient ← done (ConfidentialToken.during
        "failed to unmarshal the identity of the recipient in the htlc script"
        (ofIdentity S script.recipient.bytes))
      return script.verifierTrapping (sender.verifierTrapping hash)
        (recipient.verifierTrapping hash) now
  | none => return (← done (ofIdentity S owner.bytes)).verifierTrapping hash

/-- `deserializer`, with the hash function of the machine. -/
def deserializerTrapping (hash : Bytes → Trapping S.G1) (now : UInt64) :
    TrappingDeserializer where
  owner := ownerVerifierTrapping hash now
  issuer identity := return (← done (ofIdentity S identity.bytes)).verifierTrapping hash
  auditor identity := return (← done (ofIdentity S identity.bytes)).verifierTrapping hash

variable {hash : Bytes → Trapping S.G1}

theorem verifierTrapping_total (hashes : ∀ text, hash text = pure (S.hashToG1 text))
    (key : PublicKey S) : key.verifierTrapping hash = key.verifier.total := by
  funext message text
  refine bind_eq_done rfl fun signature _ => ?_
  rw [hashes, pure_bind]
  exact check_eq_done

theorem ofIdentity_verifierTrapping (hashes : ∀ text, hash text = pure (S.hashToG1 text))
    (identity : Bytes) :
    (do return (← done (ofIdentity S identity)).verifierTrapping hash :
      Trapping TrappingVerifier) =
      done ((do return (← ofIdentity S identity).verifier : Result Verifier).map
        Verifier.total) := by
  refine bind_eq_done_map rfl fun key _ => ?_
  rw [verifierTrapping_total hashes]
  rfl

theorem ownerVerifierTrapping_eq (hashes : ∀ text, hash text = pure (S.hashToG1 text))
    (now : UInt64) (owner : Identity) :
    ownerVerifierTrapping hash now owner =
      done ((ownerVerifier S now owner).map Verifier.total) := by
  unfold ownerVerifierTrapping ownerVerifier
  refine bind_eq_done_map rfl fun script _ => ?_
  cases script with
  | none => exact ofIdentity_verifierTrapping hashes owner.bytes
  | some script =>
      refine bind_eq_done_map rfl fun sender _ =>
        bind_eq_done_map rfl fun recipient _ => ?_
      rw [verifierTrapping_total hashes, verifierTrapping_total hashes,
        HashLock.Script.verifierTrapping_total]
      rfl

theorem deserializerTrapping_follows (hashes : ∀ text, hash text = pure (S.hashToG1 text))
    (now : UInt64) : (deserializerTrapping hash now).Follows (deserializer S now) where
  owner := ownerVerifierTrapping_eq hashes now
  issuer identity := ofIdentity_verifierTrapping hashes identity.bytes
  auditor identity := ofIdentity_verifierTrapping hashes identity.bytes

end PublicKey

namespace Bn254

/-- `hashToG1From`, reading the last byte of a digest by its index. -/
def hashToG1FromTrapping : (attempts : Nat) → (counter : UInt64) → Bytes → Trapping G1
  | 0, _, _ => return .infinity
  | attempts + 1, counter, message => do
      let digest := Sha256.digest (message ++ Bytes.bigEndian 8 counter.toNat)
      let last ← item digest 31
      match G1.withX? (.ofNat (Bytes.ofBigEndian digest)) (last &&& 1 == 1) with
      | some point => return point
      | none => hashToG1FromTrapping attempts (counter + 1) message

/-- `hashToG1`, reading the last byte of a digest by its index. -/
def hashToG1Trapping (message : Bytes) : Trapping G1 :=
  hashToG1FromTrapping UInt64.size 0 message

theorem length_digest (message : Bytes) : (Sha256.digest message).length = 32 := by
  simp [Sha256.digest, Sha256.State.bytes]

theorem hashToG1FromTrapping_eq (attempts : Nat) (counter : UInt64) (message : Bytes) :
    hashToG1FromTrapping attempts counter message =
      pure (hashToG1From attempts counter message) := by
  induction attempts generalizing counter with
  | zero => rfl
  | succ attempts inductionHypothesis =>
      unfold hashToG1FromTrapping hashToG1From
      dsimp only
      rw [item_last (length_digest _) 0, pure_bind, List.getLastD_eq_getLast?]
      generalize G1.withX? _ _ = found
      cases found with
      | some point => rfl
      | none => exact inductionHypothesis (counter + 1)

theorem hashToG1Trapping_eq (message : Bytes) :
    hashToG1Trapping message = pure (suite.hashToG1 message) := by
  dsimp only [suite]
  rw [hashToG1Trapping, hashToG1, hashToG1FromTrapping_eq]

end Bn254

end ConfidentialToken
