import ConfidentialToken.Proofs.Schnorr.Completeness
import ConfidentialToken.Proofs.SignatureKnowledge.Extraction
import ConfidentialToken.Proofs.Sampling

/-!
Honest membership proofs are accepted.

What is proven about an obfuscated signature is the equation of the signature
behind it, so that a prover only needs signatures that satisfy the equation. The
signatures of a key do.
-/

namespace ConfidentialToken

open PsSignature

variable {S : Suite}

namespace SignatureKnowledge

variable [BilinearPairing S]

/-- An obfuscated signature satisfies the equation that is proven. -/
theorem linearSide_obfuscateWith {parameters : Parameters S} {messages : List S.Scalar}
    {hash : S.Scalar} {signature : Signature S}
    (certified : parameters.key.Certifies messages hash signature)
    (blindingFactor factor : S.Scalar) :
    let obfuscated :=
      obfuscateWith signature parameters.blindingPoint blindingFactor factor
    parameters.linearSide obfuscated.r messages hash blindingFactor =
      parameters.statement obfuscated := by
  intro obfuscated
  have uncovered :
      parameters.uncover obfuscated blindingFactor = signature.scale factor := by
    simp [Parameters.uncover, obfuscated, obfuscateWith]
  have equation := parameters.pairingSum_uncover obfuscated messages hash blindingFactor
  rw [uncovered] at equation
  exact sub_eq_zero.mp (equation.symm.trans (certified.scale factor))

namespace Parameters

theorem linearSide_respond (parameters : Parameters S) (r : S.G1) (challenge : S.Scalar)
    {messages messagesBlinding : List S.Scalar}
    (lengths : messages.length = messagesBlinding.length)
    (hash hashBlinding factor factorBlinding : S.Scalar) :
    parameters.linearSide r (Schnorr.respond challenge messages messagesBlinding)
        (hashBlinding + challenge * hash) (factorBlinding + challenge * factor) =
      parameters.linearSide r messagesBlinding hashBlinding factorBlinding +
        challenge • parameters.linearSide r messages hash factor := by
  simp only [linearSide, messagePart, pairingSum_pair, add_smul, mul_smul,
    Schnorr.linearCombination_respond _ challenge lengths,
    BilinearPairing.pairing_add_right,
    BilinearPairing.pairing_add_left, BilinearPairing.pairing_smul_left,
    BilinearPairing.pairing_smul_right]
  module

end Parameters

end SignatureKnowledge

namespace MembershipProof

open SignatureKnowledge

theorem Statement.checkSizes_eq_ok {statement : Statement S} :
    statement.checkSizes = .ok () ↔
      statement.parameters.keyParts.length = 3 ∧ statement.pedersen.length = 2 := by
  simp only [checkSizes, guard_eq_ok, ite_throw_eq_ok, pure_eq_ok, ne_eq, not_not,
    and_true]

theorem Statement.verify_eq_ok {statement : Statement S} {proof : Proof S} :
    statement.verify proof = .ok () ↔
      statement.checkSizes = .ok () ∧ proof.commitment = statement.commitment ∧
      ∃ first, statement.recompute proof = .ok first ∧
        statement.challenge proof.signature first = proof.challenge := by
  simp only [verify, bind_eq_ok, guard_eq_ok, ite_throw_eq_ok, pure_eq_ok, ne_eq, not_not,
    and_true]
  constructor
  · rintro ⟨⟨⟩, sizes, rest⟩
    exact ⟨sizes, rest⟩
  · rintro ⟨sizes, rest⟩
    exact ⟨(), sizes, rest⟩

theorem Statement.succeeds_prove {R : Type} [RandomSource S R] {statement : Statement S}
    (sizes : statement.checkSizes = .ok ()) (witness : Witness S) :
    Sampling.Succeeds (R := R) (prove statement witness) := by
  have sampled : Sampling.Succeeds (R := R) (sample (S := S)) := fun _ => ⟨_, _, rfl⟩
  have two := (checkSizes_eq_ok.mp sizes).2
  refine (Sampling.succeeds_lift sizes).bind fun _ => sampled.bind fun randomness => ?_
  exact Sampling.succeeds_lift
    (bind_eq_ok.mpr ⟨_, Pedersen.commit_eq_ok.mpr ⟨two.symm, rfl⟩, rfl⟩)

variable [BilinearPairing S]

/-- A proof for a signed value behind the commitment is accepted. -/
theorem Statement.verify_proveWith {statement : Statement S} {witness : Witness S}
    {randomness : Randomness S} {proof : Proof S}
    (sizes : statement.checkSizes = .ok ())
    (opened : statement.commitment =
      linearCombination statement.pedersen [witness.value, witness.commitmentBlinding])
    (certified : statement.parameters.key.Certifies [witness.value]
      (hashMessages [witness.value]) witness.signature)
    (proved : proveWith statement witness randomness = .ok proof) :
    statement.verify proof = .ok () := by
  dsimp -zeta only [proveWith] at proved
  extract_lets parameters signature at proved
  obtain ⟨commitment, committed, proved⟩ := bind_eq_ok.mp proved
  extract_lets first challenge respond at proved
  cases pure_eq_ok.mp proved
  obtain ⟨three, two⟩ := checkSizes_eq_ok.mp sizes
  obtain ⟨-, rfl⟩ := Pedersen.commit_eq_ok.mp committed
  have signatureFirst : parameters.linearSide signature.r [witness.value]
      (hashMessages [witness.value]) randomness.signatureBlinding =
        parameters.statement signature :=
    linearSide_obfuscateWith certified _ _
  have lengths : [witness.value].length = [randomness.value].length := rfl
  have responded := parameters.linearSide_respond signature.r challenge lengths
    (hashMessages [witness.value]) randomness.hash randomness.signatureBlinding
    randomness.signatureBlindingResponse
  rw [signatureFirst] at responded
  refine verify_eq_ok.mpr ⟨sizes, rfl, first, recompute_eq_ok.mpr ⟨?_, ?_⟩, rfl⟩
  · refine SignatureKnowledge.Parameters.recompute_eq_ok.mpr ⟨?_, ?_, ?_⟩
    · rw [three]
      decide
    · rw [three]
      rfl
    · exact sub_eq_iff_eq_add.mpr responded
  · have both : [witness.value, witness.commitmentBlinding].length =
        [randomness.value, randomness.commitmentBlinding].length := rfl
    refine Schnorr.recompute_eq_ok.mpr ⟨two.symm, ?_⟩
    have restored := Schnorr.firstMessage_respond statement.pedersen challenge both
    rw [← opened] at restored
    exact restored

theorem Statement.verify_prove {R : Type} [RandomSource S R] {statement : Statement S}
    {witness : Witness S} {proof : Proof S}
    (opened : statement.commitment =
      linearCombination statement.pedersen [witness.value, witness.commitmentBlinding])
    (certified : statement.parameters.key.Certifies [witness.value]
      (hashMessages [witness.value]) witness.signature)
    (gives : Sampling.Gives (R := R) (prove statement witness) proof) :
    statement.verify proof = .ok () := by
  obtain ⟨⟨⟩, sizes, gives⟩ := gives.bind
  obtain ⟨randomness, -, gives⟩ := gives.bind
  exact verify_proveWith sizes.lift opened certified gives.lift

end MembershipProof

end ConfidentialToken
