import ConfidentialToken.Proofs.Schnorr.Completeness
import ConfidentialToken.Proofs.Schnorr.Extraction
import ConfidentialToken.Proofs.Sampling
import ConfidentialToken.Token

/-!
What commitments to types open to.
-/

namespace ConfidentialToken

variable {S : Suite}

/-- A commitment to a type is the one that its blinding factor gives. -/
def TypeCommitment.Opens (generators : List S.G1) (tokenType : String)
    (typeCommitment : TypeCommitment S) : Prop :=
  typeCommitment.commitment =
    commitType generators (typeScalar tokenType) typeCommitment.blindingFactor

theorem TypeCommitment.opens_of_sample {R : Type} [RandomSource S R]
    {generators : List S.G1} {tokenType : String} {typeCommitment : TypeCommitment S}
    (gives : Sampling.Gives (R := R) (sample generators tokenType) typeCommitment) :
    typeCommitment.Opens generators tokenType := by
  obtain ⟨factor, -, gives⟩ := gives.bind
  obtain ⟨-, form⟩ := ite_error_eq_ok.mp gives.lift
  cases form
  rfl

variable [LawfulG1 S]

theorem commitType_triple (typeBase valueBase blindingBase : S.G1)
    (tokenType blinding : S.Scalar) :
    commitType [typeBase, valueBase, blindingBase] tokenType blinding =
      tokenType • typeBase + blinding • blindingBase := by
  rw [commitType, linearCombination_triple, zero_smul, add_zero]

theorem extract_commitType (generators : List S.G1)
    (challenge otherChallenge tokenType blinding otherType otherBlinding : S.Scalar) :
    (challenge - otherChallenge)⁻¹ •
        (commitType generators tokenType blinding -
          commitType generators otherType otherBlinding) =
      commitType generators (Schnorr.extract challenge otherChallenge tokenType otherType)
        (Schnorr.extract challenge otherChallenge blinding otherBlinding) := by
  have lengths : [tokenType, 0, blinding].length = [otherType, 0, otherBlinding].length :=
    rfl
  rw [commitType, commitType, ← Schnorr.linearCombination_extractAll generators lengths]
  simp [Schnorr.extractAll, commitType, Schnorr.extract]

/-- Honest responses for a commitment to a type give back the first message. -/
theorem commitType_respond (generators : List S.G1)
    (challenge tokenType blinding typeBlinding otherBlinding : S.Scalar) :
    commitType generators (typeBlinding + challenge * tokenType)
        (otherBlinding + challenge * blinding) -
        challenge • commitType generators tokenType blinding =
      commitType generators typeBlinding otherBlinding := by
  have lengths :
    [tokenType, 0, blinding].length = [typeBlinding, 0, otherBlinding].length := rfl
  have restored := Schnorr.firstMessage_respond generators challenge lengths
  simpa [Schnorr.respond, Schnorr.firstMessage, commitType] using restored

end ConfidentialToken
