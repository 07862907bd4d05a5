import ConfidentialToken.Proofs.OwnerSignatures
import ConfidentialToken.Proofs.Validation.CreatedOwners

/-!
The deadline of a script.

At every moment a locked token belongs to one party only, and the check of the
new owner and the verifier of the script agree on which. The check of created
tokens compares with the deadline in its own way: it still lets a script pass
whose deadline is this very moment, although from then on the token belongs to
the sender.
-/

namespace ConfidentialToken.HashLock

namespace Script

/-- The party to whom an operation gives a locked token. -/
def party (script : Script) : Operation → Identity
  | .claim => script.recipient
  | .reclaim => script.sender

/-- A signature with which an operation is carried out: a claim of the recipient
that opens the lock, or what the sender has signed. -/
def Authorizes (script : Script) (sender recipient : Verifier)
    (message signature : Bytes) :
    Operation → Prop
  | .claim => ∃ claim, ClaimSignature.deserialize signature = .ok claim ∧
      recipient (ClaimSignature.signedMessage message claim.preimage)
        claim.recipientSignature = .ok () ∧
      script.lock.image claim.preimage = script.lock.hash
  | .reclaim => sender message signature = .ok ()

/-- Both parties and the image of the preimage are given. -/
structure IsComplete (script : Script) : Prop where
  sender : script.sender.bytes ≠ []
  recipient : script.recipient.bytes ≠ []
  hash : script.lock.hash ≠ []

variable {script : Script} {now : UInt64}

theorem validate_eq_ok_iff_isComplete :
    script.validate now = .ok () ↔ script.IsComplete ∧ now ≤ script.deadline := by
  rw [validate_eq_ok]
  constructor
  · rintro ⟨sender, recipient, notPassed, hash⟩
    exact ⟨⟨sender, recipient, hash⟩, notPassed⟩
  · rintro ⟨⟨sender, recipient, hash⟩, notPassed⟩
    exact ⟨sender, recipient, notPassed, hash⟩

theorem verifier_eq_ok_iff_authorizes {sender recipient : Verifier}
    {message signature : Bytes} :
    script.verifier sender recipient now message signature = .ok () ↔
      script.Authorizes sender recipient message signature (script.operation now) := by
  rw [verifier_eq_ok]
  cases script.operation now with
  | claim => simp [Authorizes]
  | reclaim => simp [Authorizes]

/-- A locked token passes to the party of the operation of the moment, and to
nobody else. -/
theorem verifyOwner_eq_ok_iff_party {owner outputOwner : Bytes}
    {outcome : Script × Operation} (locked : ofOwner owner = .ok (some script)) :
    verifyOwner owner outputOwner now = .ok outcome ↔
      outcome = (script, script.operation now) ∧
        outputOwner = (script.party (script.operation now)).bytes := by
  obtain ⟨found, operation⟩ := outcome
  rw [TransferAction.verifyOwner_eq_ok, locked, Except.ok.injEq, Option.some.injEq,
    Prod.mk.injEq]
  constructor
  · rintro ⟨rfl, rfl, ⟨claims, recipient⟩ | ⟨reclaims, sender⟩⟩
    · exact ⟨⟨rfl, rfl⟩, by rw [claims, ← recipient, party]⟩
    · exact ⟨⟨rfl, rfl⟩, by rw [reclaims, ← sender, party]⟩
  · rintro ⟨⟨rfl, rfl⟩, rfl⟩
    refine ⟨rfl, rfl, ?_⟩
    cases found.operation now with
    | claim => exact .inl ⟨rfl, rfl⟩
    | reclaim => exact .inr ⟨rfl, rfl⟩

theorem claim_iff_lt_deadline {owner : Bytes}
    (locked : ofOwner owner = .ok (some script)) :
    verifyOwner owner script.recipient.bytes now = .ok (script, .claim) ↔
      now < script.deadline := by
  rw [verifyOwner_eq_ok_iff_party locked, ← operation_eq_claim]
  constructor
  · rintro ⟨same, -⟩
    exact (Prod.mk.inj same).2.symm
  · intro claims
    rw [claims]
    exact ⟨rfl, rfl⟩

theorem ofOwner_nil : ofOwner [] = .ok none := rfl

theorem checkOwner_eq_ok_iff_isComplete {S : Suite} {token : Token S}
    (locked : ofOwner token.owner = .ok (some script)) :
    token.checkOwner now = .ok () ↔ script.IsComplete ∧ now ≤ script.deadline := by
  have owned : token.owner ≠ [] := by
    intro empty
    rw [empty, ofOwner_nil] at locked
    cases locked
  rw [Token.checkOwner_eq_ok, ← validate_eq_ok_iff_isComplete]
  constructor
  · rintro (empty | ⟨found, same, valid⟩ | ⟨free, -⟩)
    · exact absurd empty owned
    · cases locked.symm.trans same
      exact valid
    · cases locked.symm.trans free
  · exact fun valid => .inr (.inl ⟨script, locked, valid⟩)

theorem reclaim_of_verifyOwner {owner outputOwner : Bytes}
    {outcome : Script × Operation} (locked : ofOwner owner = .ok (some script))
    (late : script.deadline ≤ now)
    (passes : verifyOwner owner outputOwner now = .ok outcome) :
    outcome.2 = .reclaim := by
  rw [((verifyOwner_eq_ok_iff_party locked).mp passes).1]
  exact operation_eq_reclaim.mpr late

/-- A token that a script locks passes at every moment to one party only, to the
recipient before the deadline and to the sender from then on, and signatures are
verified for this party. A token may be created for the script as long as the
deadline has not passed; it can be claimed at the moment of its creation exactly
if that is not the deadline itself, and if it is, the recipient can never claim
it. -/
theorem accepted_claimable_iff {S : Suite} (script : Script) (now : UInt64) :
    ofOwner script.toIdentity.bytes = .ok (some script) ∧
    ∀ owner, ofOwner owner = .ok (some script) →
      (script.operation now = .claim ↔ now < script.deadline) ∧
      (∀ outputOwner outcome, verifyOwner owner outputOwner now = .ok outcome ↔
        outcome = (script, script.operation now) ∧
          outputOwner = (script.party (script.operation now)).bytes) ∧
      (∀ sender recipient message signature,
        script.verifier sender recipient now message signature = .ok () ↔
          script.Authorizes sender recipient message signature (script.operation now)) ∧
      ∀ token : Token S, token.owner = owner →
        (token.checkOwner now = .ok () ↔ script.IsComplete ∧ now ≤ script.deadline) ∧
        (token.checkOwner now = .ok () →
          (verifyOwner owner script.recipient.bytes now = .ok (script, .claim) ↔
            now ≠ script.deadline) ∧
          (now = script.deadline → ∀ later, now ≤ later → ∀ outputOwner outcome,
            verifyOwner owner outputOwner later = .ok outcome →
              outcome.2 = .reclaim)) := by
  refine ⟨script.ofOwner_toIdentity, fun owner locked => ⟨operation_eq_claim,
    fun _ _ => verifyOwner_eq_ok_iff_party locked, fun _ _ _ _ =>
      verifier_eq_ok_iff_authorizes,
    ?_⟩⟩
  rintro token rfl
  refine ⟨checkOwner_eq_ok_iff_isComplete locked, fun accepted => ⟨?_, ?_⟩⟩
  · have notPassed := ((checkOwner_eq_ok_iff_isComplete locked).mp accepted).2
    rw [claim_iff_lt_deadline locked, UInt64.lt_iff_le_and_ne]
    exact and_iff_right notPassed
  · rintro rfl later after outputOwner outcome passes
    exact reclaim_of_verifyOwner locked after passes

end Script

theorem sampleScript_isComplete : sampleScript.IsComplete where
  sender := Json.write_ne_nil _
  recipient := Json.write_ne_nil _
  hash := by decide +kernel

def sampleLocked : Token Bn254.exponentSuite :=
  ⟨sampleScript.toIdentity.bytes, 0⟩

/-- A token can be created for the script of the sample at its deadline, when it
is too late to claim the token. A moment earlier it can still be claimed. -/
theorem accepted_at_deadline :
    (sampleLocked.checkOwner 5 = .ok () ∧
      verifyOwner sampleLocked.owner sampleScript.recipient.bytes 5 ≠
        .ok (sampleScript, .claim) ∧
      ∀ later, 5 ≤ later → ∀ outputOwner outcome,
        verifyOwner sampleLocked.owner outputOwner later = .ok outcome →
          outcome.2 = .reclaim) ∧
    sampleLocked.checkOwner 4 = .ok () ∧
      verifyOwner sampleLocked.owner sampleScript.recipient.bytes 4 =
        .ok (sampleScript, .claim) := by
  obtain ⟨locked, atDeadline⟩ :=
    Script.accepted_claimable_iff (S := Bn254.exponentSuite) sampleScript 5
  obtain ⟨-, before⟩ :=
    Script.accepted_claimable_iff (S := Bn254.exponentSuite) sampleScript 4
  obtain ⟨-, -, -, late⟩ := atDeadline _ locked
  obtain ⟨-, -, -, early⟩ := before _ locked
  obtain ⟨created, lost⟩ := late sampleLocked rfl
  obtain ⟨createdEarly, kept⟩ := early sampleLocked rfl
  have accepted := created.mpr ⟨sampleScript_isComplete, by decide⟩
  have acceptedEarly := createdEarly.mpr ⟨sampleScript_isComplete, by decide⟩
  refine ⟨⟨accepted, fun claimed => ?_, (lost accepted).2 rfl⟩, acceptedEarly,
    (kept acceptedEarly).1.mpr (by decide)⟩
  exact (lost accepted).1.mp claimed rfl

end ConfidentialToken.HashLock
