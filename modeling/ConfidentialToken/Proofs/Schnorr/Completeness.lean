import Mathlib.Tactic.Module
import ConfidentialToken.Proofs.Algebra.LinearCombination
import ConfidentialToken.Schnorr

/-!
What honest answers recompute.

The responses of a prover that knows an opening of the statement give back its
first message, so that the verifier hashes what the prover has hashed.
-/

namespace ConfidentialToken.Schnorr

variable {S : Suite}

@[simp]
theorem length_respond (challenge : S.Scalar) (witness randomness : List S.Scalar) :
    (respond challenge witness randomness).length =
      min witness.length randomness.length := by
  simp [respond]

variable [LawfulG1 S]

theorem linearCombination_respond {G : Type} [AddCommGroup G] [Module S.Scalar G]
    (bases : List G) (challenge : S.Scalar) {witness randomness : List S.Scalar}
    (lengths : witness.length = randomness.length) :
    linearCombination bases (respond challenge witness randomness) =
      linearCombination bases randomness +
        challenge • linearCombination bases witness := by
  induction witness generalizing randomness bases with
  | nil =>
      rw [List.length_eq_zero_iff.mp lengths.symm]
      simp [respond]
  | cons secret witness inductionHypothesis =>
      obtain ⟨blinding, randomness, rfl⟩ :=
        List.exists_cons_of_length_eq_add_one lengths.symm
      cases bases with
      | nil => simp
      | cons base bases =>
          have rest := inductionHypothesis bases (Nat.succ.inj lengths)
          simp only [respond] at rest
          simp only [respond, List.zipWith_cons_cons, linearCombination_cons, rest]
          module

/-- Honest responses give back the first message. -/
theorem firstMessage_respond (bases : List S.G1) (challenge : S.Scalar)
    {witness randomness : List S.Scalar} (lengths : witness.length = randomness.length) :
    firstMessage bases (linearCombination bases witness)
        (respond challenge witness randomness) challenge =
      linearCombination bases randomness := by
  rw [firstMessage, linearCombination_respond bases challenge lengths,
    add_sub_cancel_right]

/-- The randomness with which responses are given. -/
def unblind (challenge : S.Scalar) (witness responses : List S.Scalar) : List S.Scalar :=
  List.zipWith (fun secret response => response - challenge * secret) witness responses

theorem respond_eq_iff {challenge : S.Scalar}
    {witness randomness responses : List S.Scalar}
    (lengths : randomness.length = witness.length)
    (responsesLength : responses.length = witness.length) :
    respond challenge witness randomness = responses ↔
      randomness = unblind challenge witness responses := by
  induction witness generalizing randomness responses with
  | nil =>
      rw [List.length_eq_zero_iff.mp lengths, List.length_eq_zero_iff.mp responsesLength]
      exact iff_of_true rfl rfl
  | cons secret witness inductionHypothesis =>
      obtain ⟨blinding, randomness, rfl⟩ := List.exists_cons_of_length_eq_add_one lengths
      obtain ⟨response, responses, rfl⟩ :=
        List.exists_cons_of_length_eq_add_one responsesLength
      have rest :=
        inductionHypothesis (Nat.succ.inj lengths) (Nat.succ.inj responsesLength)
      simp only [respond, unblind, List.zipWith_cons_cons, List.cons.injEq] at rest ⊢
      exact and_congr eq_sub_iff_add_eq.symm rest

theorem sum_respond (challenge : S.Scalar) {witness randomness : List S.Scalar}
    (lengths : witness.length = randomness.length) :
    sum (respond challenge witness randomness) =
      sum randomness + challenge * sum witness := by
  induction witness generalizing randomness with
  | nil =>
      rw [List.length_eq_zero_iff.mp lengths.symm]
      simp [respond]
  | cons secret witness inductionHypothesis =>
      obtain ⟨blinding, randomness, rfl⟩ :=
        List.exists_cons_of_length_eq_add_one lengths.symm
      have rest := inductionHypothesis (Nat.succ.inj lengths)
      simp only [respond] at rest
      simp only [respond, List.zipWith_cons_cons, sum_cons, rest]
      ring

/-- Honest responses for commitments that share their first part give back the
first messages. -/
theorem zipWith_firstMessage_respond (bases : List S.G1)
    (challenge shared sharedBlinding : S.Scalar)
    {values blinding valueBlinding otherBlinding : List S.Scalar}
    (lengths : values.length = blinding.length)
    (valuesLength : values.length = valueBlinding.length)
    (blindingLength : blinding.length = otherBlinding.length) :
    List.zipWith (fun token (value, factor) =>
        firstMessage bases token [sharedBlinding + challenge * shared, value, factor]
          challenge)
      (List.zipWith (fun value factor =>
        linearCombination bases [shared, value, factor]) values blinding)
      ((respond challenge values valueBlinding).zip
        (respond challenge blinding otherBlinding)) =
      List.zipWith (fun value factor =>
        linearCombination bases [sharedBlinding, value, factor])
        valueBlinding otherBlinding := by
  induction values generalizing blinding valueBlinding otherBlinding with
  | nil =>
      rw [List.length_eq_zero_iff.mp valuesLength.symm]
      rfl
  | cons value values inductionHypothesis =>
      obtain ⟨factor, blinding, rfl⟩ := List.exists_cons_of_length_eq_add_one lengths.symm
      obtain ⟨first, valueBlinding, rfl⟩ :=
        List.exists_cons_of_length_eq_add_one valuesLength.symm
      obtain ⟨second, otherBlinding, rfl⟩ :=
        List.exists_cons_of_length_eq_add_one blindingLength.symm
      have same :
        [shared, value, factor].length = [sharedBlinding, first, second].length := rfl
      have rest := inductionHypothesis (Nat.succ.inj lengths) (Nat.succ.inj valuesLength)
        (Nat.succ.inj blindingLength)
      exact congrArg₂ List.cons (firstMessage_respond bases challenge same) rest

end ConfidentialToken.Schnorr
