import ConfidentialToken.Proofs.Bn254.Exponents
import ConfidentialToken.Proofs.Schnorr.Completeness
import ConfidentialToken.Proofs.Schnorr.Extraction

/-!
What answers to challenges are worth.

Whoever knows an opening answers every challenge, and the answer recomputes the
commitment to the randomness. Whoever answers two challenges on the same first
message knows an opening, which can be computed from the answers. Lists that do
not fit together are refused.
-/

namespace ConfidentialToken.Schnorr

variable {S : Suite}

theorem prove_eq_ok {witness randomness responses : List S.Scalar}
    {challenge : S.Scalar} :
    prove witness randomness challenge = .ok responses ↔
      witness.length = randomness.length ∧
        respond challenge witness randomness = responses := by
  rw [prove, ite_error_eq_ok, not_not, Except.ok.injEq]

variable [LawfulG1 S]

/-- Honest answers are accepted with the commitment to the randomness as first
message. -/
theorem recompute_respond {bases : List S.G1} {witness randomness : List S.Scalar}
    (challenge : S.Scalar) (fits : witness.length = bases.length)
    (randomnessFits : randomness.length = bases.length) :
    recompute bases ⟨linearCombination bases witness,
      respond challenge witness randomness,
        challenge⟩ =
      .ok (linearCombination bases randomness) := by
  refine recompute_eq_ok.mpr ⟨?_, ?_⟩
  · rw [length_respond, fits, randomnessFits, min_self]
  · exact firstMessage_respond bases challenge (fits.trans randomnessFits.symm)

/-- Two answers with one first message open the statement to the extracted
secrets. -/
theorem statement_eq_of_recompute {bases : List S.G1} {statement first : S.G1}
    {responses otherResponses : List S.Scalar} {challenge otherChallenge : S.Scalar}
    (distinct : challenge ≠ otherChallenge)
    (answered : recompute bases ⟨statement, responses, challenge⟩ = .ok first)
    (otherAnswered : recompute bases ⟨statement, otherResponses, otherChallenge⟩ =
      .ok first) :
    statement = linearCombination bases
      (extractAll challenge otherChallenge responses otherResponses) := by
  obtain ⟨length, same⟩ := recompute_eq_ok.mp answered
  obtain ⟨otherLength, otherSame⟩ := recompute_eq_ok.mp otherAnswered
  exact (linearCombination_eq_of_same_firstMessage distinct
    (length.trans otherLength.symm) (same.trans otherSame.symm)).symm

/-- The answer to any challenge, given with an opening of the statement,
recomputes the sum of the bases multiplied by the randomness. Of any two answers
to different challenges that recompute one point, the quotients of the
differences open the statement. Answers are refused exactly if the lengths of
the lists differ. -/
theorem answers_complete_and_sound (bases : List S.G1) :
    (∀ factors : List S.Scalar, linearCombination bases factors =
      (List.zipWith (fun base factor => factor • base) bases factors).sum) ∧
    (∀ (witness randomness : List S.Scalar) (challenge : S.Scalar),
      witness.length = bases.length → randomness.length = bases.length →
      ∃ responses, prove witness randomness challenge = .ok responses ∧
        Pedersen.commit witness bases = .ok (linearCombination bases witness) ∧
        recompute bases ⟨linearCombination bases witness, responses, challenge⟩ =
          .ok (linearCombination bases randomness)) ∧
    (∀ (statement first : S.G1) (responses otherResponses : List S.Scalar)
      (challenge otherChallenge : S.Scalar), challenge ≠ otherChallenge →
      recompute bases ⟨statement, responses, challenge⟩ = .ok first →
      recompute bases ⟨statement, otherResponses, otherChallenge⟩ = .ok first →
      statement = linearCombination bases
        (List.zipWith (fun response other =>
          (response - other) * (challenge - otherChallenge)⁻¹) responses
            otherResponses)) ∧
    (∀ (witness randomness : List S.Scalar) (challenge : S.Scalar),
      (∃ failure, prove witness randomness challenge = .error failure) ↔
        witness.length ≠ randomness.length) ∧
    ∀ proof : Proof S, (∃ failure, recompute bases proof = .error failure) ↔
      proof.responses.length ≠ bases.length := by
  refine ⟨fun factors => sum_eq_list_sum _, ?_, ?_, fun _ _ _ => ite_error_fails_iff,
    fun _ => ite_error_fails_iff⟩
  · intro witness randomness challenge fits randomnessFits
    exact ⟨_, prove_eq_ok.mpr ⟨fits.trans randomnessFits.symm, rfl⟩,
      Pedersen.commit_eq_ok.mpr ⟨fits, rfl⟩,
      recompute_respond challenge fits randomnessFits⟩
  · intro statement first responses otherResponses challenge otherChallenge distinct
      answered otherAnswered
    exact statement_eq_of_recompute distinct answered otherAnswered

namespace Sample

open Bn254

def bases : List exponentSuite.G1 := [2, 3]

def witness : List exponentSuite.Scalar := [5, 7]

def randomness : List exponentSuite.Scalar := [11, 13]

/-- Answers to the challenges 4 and 9 on the first message 61 open the statement
31. -/
theorem answers_open_statement :
    (∃ responses, prove witness randomness 4 = .ok responses ∧
      recompute bases ⟨linearCombination bases witness, responses, 4⟩ =
        .ok (linearCombination bases randomness)) ∧
    (31 : exponentSuite.G1) = linearCombination bases
      (List.zipWith (fun response other : exponentSuite.Scalar =>
        (response - other) * (4 - 9)⁻¹) [31, 41] [56, 76]) := by
  obtain ⟨-, complete, sound, -⟩ := answers_complete_and_sound bases
  constructor
  · obtain ⟨responses, proved, -, recomputed⟩ := complete witness randomness 4 rfl rfl
    exact ⟨responses, proved, recomputed⟩
  · have answered : recompute bases ⟨31, [31, 41], 4⟩ = .ok 61 :=
      toOption_eq_some.mp (by decide +kernel)
    have otherAnswered : recompute bases ⟨31, [56, 76], 9⟩ = .ok 61 :=
      toOption_eq_some.mp (by decide +kernel)
    exact sound 31 61 [31, 41] [56, 76] 4 9 (by decide +kernel) answered otherAnswered

end Sample

end ConfidentialToken.Schnorr
