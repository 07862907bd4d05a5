import Mathlib.Algebra.Module.Defs
import ConfidentialToken.Proofs.Bn254.Exponents
import ConfidentialToken.Proofs.Outcome
import ConfidentialToken.Proofs.Schnorr.Extraction
import ConfidentialToken.Transfer.WellFormedness

/-!
What a proof that a transfer is well formed guarantees.

Two proofs with one first message and different challenges give away openings of
all tokens. The response for the sum is shared by both sides, and on each side
it can only belong to the sum of the values of that side, so that both sums are
equal.
-/

namespace ConfidentialToken.Transfer.WellFormedness

open Schnorr (extract extractAll zipWith_eq_of_same_first)

variable {S : Suite}

/-- What a prover knows: the common type, and the values and blinding factors of
both sides. -/
structure Witness (S : Suite) where
  tokenType : S.Scalar
  inputValues : List S.Scalar
  inputBlinding : List S.Scalar
  outputValues : List S.Scalar
  outputBlinding : List S.Scalar

/-- The witness that follows from two proofs with one first message. -/
def Witness.ofProofs (left right : Proof S) : Witness S where
  tokenType := extract left.challenge right.challenge left.tokenType right.tokenType
  inputValues :=
    extractAll left.challenge right.challenge left.inputValues right.inputValues
  inputBlinding :=
    extractAll left.challenge right.challenge left.inputBlinding right.inputBlinding
  outputValues :=
    extractAll left.challenge right.challenge left.outputValues right.outputValues
  outputBlinding :=
    extractAll left.challenge right.challenge left.outputBlinding right.outputBlinding

/-- Values and blinding factors that open all tokens with one type. -/
structure Opens (typeBase valueBase blindingBase : S.G1) (tokenType : S.Scalar)
    (values blinding : List S.Scalar) (tokens : List S.G1) : Prop where
  valuesLength : values.length = tokens.length
  blindingLength : blinding.length = tokens.length
  commitments : List.zipWith (fun value factor =>
    tokenType • typeBase + value • valueBase + factor • blindingBase) values blinding =
      tokens

theorem Statement.recomputeSide_eq_ok {statement : Statement S}
    {tokens firstMessages : List S.G1} {values blinding : List S.Scalar}
    {proof : Proof S} :
    statement.recomputeSide tokens values blinding proof = .ok firstMessages ↔
      values.length = tokens.length ∧ blinding.length = tokens.length ∧
      List.zipWith (fun commitment token => commitment - proof.challenge • token)
        (commitSide statement.generators proof.tokenType values blinding proof.sum)
        (tokens ++ [ConfidentialToken.sum tokens]) = firstMessages := by
  rw [recomputeSide, ite_error_eq_ok, not_or, Except.ok.injEq, not_not, not_not,
    and_assoc]

theorem Statement.recompute_eq_ok {statement : Statement S} {proof : Proof S}
    {first : FirstMessages S} :
    statement.recompute proof = .ok first ↔
      statement.recomputeSide statement.inputs proof.inputValues proof.inputBlinding
        proof =
        .ok first.inputs ∧
      statement.recomputeSide statement.outputs proof.outputValues proof.outputBlinding
        proof =
        .ok first.outputs := by
  cases first
  simp [recompute]

variable {typeBase valueBase blindingBase : S.G1}

theorem length_commitSide (generators : List S.G1) (tokenType total : S.Scalar)
    {values blinding : List S.Scalar} (lengths : values.length = blinding.length) :
    (commitSide generators tokenType values blinding total).length =
      values.length + 1 := by
  simp [commitSide, lengths]

variable [LawfulG1 S]

theorem zipWith_commitSide (generators : List S.G1) (challenge otherChallenge : S.Scalar)
    (tokenType otherType total otherTotal : S.Scalar)
    {values blinding otherValues otherBlinding : List S.Scalar}
    (lengths : values.length = blinding.length)
    (valuesLength : values.length = otherValues.length)
    (blindingLength : blinding.length = otherBlinding.length) :
    List.zipWith (fun image other => (challenge - otherChallenge)⁻¹ • (image - other))
        (commitSide generators tokenType values blinding total)
        (commitSide generators otherType otherValues otherBlinding otherTotal) =
      commitSide generators (extract challenge otherChallenge tokenType otherType)
        (extractAll challenge otherChallenge values otherValues)
        (extractAll challenge otherChallenge blinding otherBlinding)
        (extract challenge otherChallenge total otherTotal) := by
  have combined (responses otherResponses : List S.Scalar)
      (equal : responses.length = otherResponses.length) :
      (challenge - otherChallenge)⁻¹ • (linearCombination generators responses -
          linearCombination generators otherResponses) =
        linearCombination generators (extractAll challenge otherChallenge responses
          otherResponses) :=
    (Schnorr.linearCombination_extractAll generators equal).symm
  unfold commitSide
  rw [List.zipWith_append (by simp [← lengths, ← valuesLength, ← blindingLength])]
  congr 1
  · apply zipWith_zipWith_zipWith
    intro value blinding otherValue otherBlinding
    exact combined [tokenType, value, blinding] [otherType, otherValue, otherBlinding] rfl
  · have count : (extractAll challenge otherChallenge values otherValues).length =
        values.length := by
      simp [valuesLength]
    rw [count, ← valuesLength, Schnorr.sum_extractAll blindingLength,
      ← Schnorr.extract_mul]
    exact congrArg (fun total => [total]) (combined [_, _, _] [_, _, _] rfl)

theorem sum_commitments (tokenType : S.Scalar) {values blinding : List S.Scalar}
    (lengths : values.length = blinding.length) :
    ConfidentialToken.sum (List.zipWith (fun value factor =>
        tokenType • typeBase + value • valueBase +
          factor • blindingBase) values blinding) =
      (tokenType * ScalarOperations.ofNat values.length) • typeBase +
        ConfidentialToken.sum values • valueBase +
        ConfidentialToken.sum blinding • blindingBase := by
  rw [sum_zipWith_commitments _ _ _ lengths, smul_smul, mul_comm]
  rfl

/-- Two proofs with one first message open the tokens of a side, and the
response for the sum belongs to the sum of the values. -/
theorem opens_of_recomputeSide {statement : Statement S}
    (generators : statement.generators = [typeBase, valueBase, blindingBase])
    (nonzero : valueBase ≠ 0) {left right : Proof S}
    (distinct : left.challenge ≠ right.challenge)
    {tokens firstMessages : List S.G1}
    {values blinding otherValues otherBlinding : List S.Scalar}
    (leftFirst : statement.recomputeSide tokens values blinding left = .ok firstMessages)
    (rightFirst : statement.recomputeSide tokens otherValues otherBlinding right =
      .ok firstMessages) :
    Opens typeBase valueBase blindingBase
        (extract left.challenge right.challenge left.tokenType right.tokenType)
        (extractAll left.challenge right.challenge values otherValues)
        (extractAll left.challenge right.challenge blinding otherBlinding) tokens ∧
      ConfidentialToken.sum
        (extractAll left.challenge right.challenge values otherValues) =
        extract left.challenge right.challenge left.sum right.sum := by
  obtain ⟨valuesLength, blindingLength, leftImage⟩ :=
    Statement.recomputeSide_eq_ok.mp leftFirst
  obtain ⟨otherValuesLength, otherBlindingLength, rightImage⟩ :=
    Statement.recomputeSide_eq_ok.mp rightFirst
  have lengths : values.length = blinding.length := valuesLength.trans blindingLength.symm
  have sameValues : values.length = otherValues.length :=
    valuesLength.trans otherValuesLength.symm
  have sameBlinding : blinding.length = otherBlinding.length :=
    blindingLength.trans otherBlindingLength.symm
  have opened := zipWith_eq_of_same_first distinct
    (by simpa [valuesLength] using length_commitSide _ _ _ lengths)
    (by simpa [otherValuesLength] using
      length_commitSide _ _ _ (otherValuesLength.trans otherBlindingLength.symm))
    (leftImage.trans rightImage.symm)
  rw [zipWith_commitSide _ _ _ _ _ _ _ lengths sameValues sameBlinding, generators,
    commitSide] at opened
  obtain ⟨commitments, total⟩ := List.append_inj' opened rfl
  simp only [linearCombination_triple, List.cons.injEq, and_true] at commitments total
  refine ⟨⟨?_, ?_, commitments⟩, ?_⟩
  · simp [← sameValues, valuesLength]
  · simp [← sameBlinding, blindingLength]
  · rw [← commitments,
      sum_commitments _ (by simp [← sameValues, ← sameBlinding, lengths])] at total
    have multiples := add_left_cancel (add_right_cancel total)
    exact (smul_left_injective S.Scalar nonzero multiples).symm

/-- Two proofs with one first message and different challenges give away
openings of all tokens with one type, and both sides have one sum. Sums of words
are equal as numbers. -/
theorem conserves_of_same_firstMessages {statement : Statement S}
    (generators : statement.generators = [typeBase, valueBase, blindingBase])
    (nonzero : valueBase ≠ 0) {left right : Proof S} {first : FirstMessages S}
    (distinct : left.challenge ≠ right.challenge)
    (leftFirst : statement.recompute left = .ok first)
    (rightFirst : statement.recompute right = .ok first) :
    let witness := Witness.ofProofs left right
    Opens typeBase valueBase blindingBase witness.tokenType witness.inputValues
        witness.inputBlinding statement.inputs ∧
      Opens typeBase valueBase blindingBase witness.tokenType witness.outputValues
        witness.outputBlinding statement.outputs ∧
      ConfidentialToken.sum witness.inputValues =
        ConfidentialToken.sum witness.outputValues ∧
      ((∀ value ∈ witness.inputValues ++ witness.outputValues,
          ScalarOperations.toNat value < 2 ^ 64) →
        statement.inputs.length < 2 ^ 64 → statement.outputs.length < 2 ^ 64 →
        (witness.inputValues.map ScalarOperations.toNat).sum =
          (witness.outputValues.map ScalarOperations.toNat).sum) := by
  intro witness
  obtain ⟨leftInputs, leftOutputs⟩ := Statement.recompute_eq_ok.mp leftFirst
  obtain ⟨rightInputs, rightOutputs⟩ := Statement.recompute_eq_ok.mp rightFirst
  obtain ⟨inputs, inputSum⟩ :=
    opens_of_recomputeSide generators nonzero distinct leftInputs rightInputs
  obtain ⟨outputs, outputSum⟩ :=
    opens_of_recomputeSide generators nonzero distinct leftOutputs rightOutputs
  have sums : ConfidentialToken.sum witness.inputValues =
      ConfidentialToken.sum witness.outputValues :=
    inputSum.trans outputSum.symm
  refine ⟨inputs, outputs, sums, ?_⟩
  intro words fewInputs fewOutputs
  have inputBound := sum_words_lt_order witness.inputValues
    (inputs.valuesLength.trans_lt fewInputs)
    (fun value membership => words value (List.mem_append_left _ membership))
  have outputBound := sum_words_lt_order witness.outputValues
    (outputs.valuesLength.trans_lt fewOutputs)
    (fun value membership => words value (List.mem_append_right _ membership))
  rw [← toNat_sum _ inputBound, ← toNat_sum _ outputBound]
  exact congrArg ScalarOperations.toNat sums

def sampleStatement : Statement Bn254.exponentSuite where
  generators := [2, 3, 5]
  inputs := [48, 51]
  outputs := [82]

def sampleProof (challenge : Bn254.Fr) : Proof Bn254.exponentSuite where
  inputValues := [13 + challenge * 7, 17 + challenge * 3]
  inputBlinding := [19 + challenge * 1, 23 + challenge * 4]
  outputValues := [29 + challenge * 10]
  outputBlinding := [31 + challenge * 6]
  tokenType := 37 + challenge * 11
  sum := 41 + challenge * 10
  challenge := challenge

theorem conserves_sample :
    let witness := Witness.ofProofs (sampleProof 2) (sampleProof 9)
    Opens (S := Bn254.exponentSuite) 2 3 5 witness.tokenType witness.inputValues
        witness.inputBlinding [48, 51] ∧
      Opens (S := Bn254.exponentSuite) 2 3 5 witness.tokenType witness.outputValues
        witness.outputBlinding [82] ∧
      ConfidentialToken.sum witness.inputValues =
        ConfidentialToken.sum witness.outputValues ∧
      (witness.inputValues.map ScalarOperations.toNat).sum =
        (witness.outputValues.map ScalarOperations.toNat).sum := by
  let first : FirstMessages Bn254.exponentSuite :=
    ⟨commitSide [2, 3, 5] 37 [13, 17] [19, 23] 41, commitSide [2, 3, 5] 37 [29] [31] 41⟩
  have leftFirst : sampleStatement.recompute (sampleProof 2) = .ok first :=
    Statement.recompute_eq_ok.mpr
      ⟨Statement.recomputeSide_eq_ok.mpr ⟨rfl, rfl, by decide +kernel⟩,
        Statement.recomputeSide_eq_ok.mpr ⟨rfl, rfl, by decide +kernel⟩⟩
  have rightFirst : sampleStatement.recompute (sampleProof 9) = .ok first :=
    Statement.recompute_eq_ok.mpr
      ⟨Statement.recomputeSide_eq_ok.mpr ⟨rfl, rfl, by decide +kernel⟩,
        Statement.recomputeSide_eq_ok.mpr ⟨rfl, rfl, by decide +kernel⟩⟩
  have generators : sampleStatement.generators = [2, 3, 5] := rfl
  obtain ⟨inputs, outputs, sums, words⟩ := conserves_of_same_firstMessages generators
    (by decide +kernel) (by decide +kernel) leftFirst rightFirst
  exact ⟨inputs, outputs, sums, words (by decide +kernel) (by decide) (by decide)⟩

end ConfidentialToken.Transfer.WellFormedness
