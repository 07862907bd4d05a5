import ConfidentialToken.Proofs.Bn254.Exponents
import ConfidentialToken.Proofs.TypeCommitment
import ConfidentialToken.Transfer.TypeAndSum

/-!
What a proof that a transfer conserves type and sum guarantees.

Two proofs with one first message and different challenges give away an opening
of the commitment to the type, and openings of what is left of the inputs
without it. The outputs are not opened one by one: only their sum is known, and
it has the value of the inputs.
-/

namespace ConfidentialToken.Transfer.TypeAndSum

open Schnorr (extract extractAll eq_of_same_first zipWith_eq_of_same_first)

variable {S : Suite}

/-- What a prover knows: the type with its blinding factor, the values of the
inputs with their blinding factors, and the blinding factor of the difference of
the sums. -/
structure Witness (S : Suite) where
  tokenType : S.Scalar
  typeBlinding : S.Scalar
  inputValues : List S.Scalar
  inputBlinding : List S.Scalar
  sumBlinding : S.Scalar

/-- The witness that follows from two proofs with one first message. -/
def Witness.ofProofs (left right : Proof S) : Witness S where
  tokenType := extract left.challenge right.challenge left.tokenType right.tokenType
  typeBlinding :=
    extract left.challenge right.challenge left.typeBlinding right.typeBlinding
  inputValues :=
    extractAll left.challenge right.challenge left.inputValues right.inputValues
  inputBlinding :=
    extractAll left.challenge right.challenge left.inputBlinding right.inputBlinding
  sumBlinding := extract left.challenge right.challenge left.sumBlinding right.sumBlinding

/-- There is a pair of responses for each input. -/
structure Proof.Fits (proof : Proof S) (statement : Statement S) : Prop where
  values : proof.inputValues.length = statement.inputs.length
  blinding : proof.inputBlinding.length = statement.inputs.length

theorem Statement.verify_eq_ok {statement : Statement S} {proof : Proof S} :
    statement.verify proof = .ok () ↔
      statement.generators.length = 3 ∧ proof.Fits statement ∧
      statement.challenge proof.commitmentToType (statement.recompute proof) =
        proof.challenge := by
  simp only [verify, guard_eq_ok, ite_throw_eq_ok, not_or, ne_eq, not_not, pure_eq_ok,
    and_true]
  constructor
  · rintro ⟨generators, ⟨values, blinding⟩, same⟩
    exact ⟨generators, ⟨values, blinding⟩, same⟩
  · rintro ⟨generators, ⟨values, blinding⟩, same⟩
    exact ⟨generators, ⟨values, blinding⟩, same⟩

/-- Values and blinding factors that open all tokens, whose type is the one of a
commitment. -/
structure OpensWith (commitmentToType valueBase blindingBase : S.G1)
    (values blinding : List S.Scalar) (tokens : List S.G1) : Prop where
  valuesLength : values.length = tokens.length
  blindingLength : blinding.length = tokens.length
  commitments : List.zipWith (fun value factor =>
    commitmentToType + value • valueBase + factor • blindingBase) values blinding = tokens

theorem recompute_inputs (statement : Statement S) {proof : Proof S} :
    (statement.recompute proof).inputs =
      List.zipWith (fun image token => image - proof.challenge • token)
        (List.zipWith (commitValue statement.generators) proof.inputValues
          proof.inputBlinding)
        (statement.inputs.map (· - proof.commitmentToType)) := by
  apply List.ext_getElem
  · simp only [Statement.recompute, Statement.headless, List.length_zipWith,
      List.length_zip, List.length_map]
    omega
  · intro index bound otherBound
    simp [Statement.recompute, Statement.headless]

variable [LawfulG1 S] {typeBase valueBase blindingBase : S.G1}

theorem commitValue_triple (value blinding : S.Scalar) :
    commitValue [typeBase, valueBase, blindingBase] value blinding =
      value • valueBase + blinding • blindingBase := by
  rw [commitValue, linearCombination_triple, zero_smul, zero_add]

theorem extract_commitValue (generators : List S.G1) (challenge otherChallenge : S.Scalar)
    (value blinding otherValue otherBlinding : S.Scalar) :
    (challenge - otherChallenge)⁻¹ •
        (commitValue generators value blinding -
          commitValue generators otherValue otherBlinding) =
      commitValue generators (extract challenge otherChallenge value otherValue)
        (extract challenge otherChallenge blinding otherBlinding) := by
  have lengths : [0, value, blinding].length = [0, otherValue, otherBlinding].length :=
    rfl
  rw [commitValue, commitValue, ← Schnorr.linearCombination_extractAll generators lengths]
  simp [extractAll, commitValue, extract]

/-- What a witness says about the tokens of a statement under a commitment to
their type: it opens the commitment and the inputs, and the outputs together
have the value of the inputs. -/
structure Witness.Explains (witness : Witness S) (typeBase valueBase blindingBase : S.G1)
    (commitmentToType : S.G1) (statement : Statement S) : Prop where
  typeOpening : commitmentToType =
    witness.tokenType • typeBase + witness.typeBlinding • blindingBase
  inputs : OpensWith commitmentToType valueBase blindingBase witness.inputValues
    witness.inputBlinding statement.inputs
  outputs : sum statement.outputs =
    (ScalarOperations.ofNat statement.outputs.length : S.Scalar) • commitmentToType +
      sum witness.inputValues • valueBase +
      (sum witness.inputBlinding - witness.sumBlinding) • blindingBase

theorem sum_map_sub (tokens : List S.G1) (shared : S.G1) :
    sum (tokens.map (· - shared)) =
      sum tokens - (ScalarOperations.ofNat tokens.length : S.Scalar) • shared := by
  induction tokens with
  | nil => simp [ofNat_eq_natCast]
  | cons token tokens inductionHypothesis =>
      rw [List.map_cons, sum_cons, inductionHypothesis]
      simp only [ofNat_eq_natCast, List.length_cons, Nat.cast_succ, sum_cons]
      module

theorem opensWith_of_same_inputs {statement : Statement S}
    (generators : statement.generators = [typeBase, valueBase, blindingBase])
    {left right : Proof S} (sameType : left.commitmentToType = right.commitmentToType)
    (distinct : left.challenge ≠ right.challenge) (leftFits : left.Fits statement)
    (rightFits : right.Fits statement)
    (same : (statement.recompute left).inputs = (statement.recompute right).inputs) :
    OpensWith left.commitmentToType valueBase blindingBase
      (extractAll left.challenge right.challenge left.inputValues right.inputValues)
      (extractAll left.challenge right.challenge left.inputBlinding right.inputBlinding)
      statement.inputs := by
  have leftCount : (List.zipWith (commitValue statement.generators) left.inputValues
      left.inputBlinding).length =
        (statement.inputs.map (· - left.commitmentToType)).length := by
    simp [leftFits.values, leftFits.blinding]
  have rightCount : (List.zipWith (commitValue statement.generators) right.inputValues
      right.inputBlinding).length =
        (statement.inputs.map (· - left.commitmentToType)).length := by
    simp [rightFits.values, rightFits.blinding]
  rw [recompute_inputs, recompute_inputs, ← sameType] at same
  have opened := zipWith_eq_of_same_first distinct leftCount rightCount same
  rw [zipWith_zipWith_zipWith (extract_commitValue statement.generators left.challenge
    right.challenge)] at opened
  refine ⟨?_, ?_, ?_⟩
  · simp [leftFits.values, rightFits.values]
  · simp [leftFits.blinding, rightFits.blinding]
  · have restored := congrArg (List.map (left.commitmentToType + ·)) opened
    simp only [List.map_zipWith, List.map_map, Function.comp_def, add_sub_cancel,
      List.map_id', generators, commitValue_triple, ← add_assoc] at restored
    exact restored

/-- Two proofs for one commitment to the type, with one first message and
different challenges, explain the tokens. -/
theorem explains_ofProofs {statement : Statement S}
    (generators : statement.generators = [typeBase, valueBase, blindingBase])
    {left right : Proof S} (sameType : left.commitmentToType = right.commitmentToType)
    (distinct : left.challenge ≠ right.challenge) (leftFits : left.Fits statement)
    (rightFits : right.Fits statement)
    (same : statement.recompute left = statement.recompute right) :
    (Witness.ofProofs left right).Explains typeBase valueBase blindingBase
      left.commitmentToType statement := by
  have inputs := opensWith_of_same_inputs generators sameType distinct leftFits rightFits
    (congrArg FirstMessages.inputs same)
  have sameTypeFirst := congrArg FirstMessages.commitmentToType same
  have sameDifference := congrArg FirstMessages.difference same
  simp only [Statement.recompute, ← sameType] at sameTypeFirst sameDifference
  have typeOpened := eq_of_same_first distinct sameTypeFirst
  have differenceOpened := eq_of_same_first distinct sameDifference
  rw [extract_commitValue, generators, commitValue_triple] at differenceOpened
  have inputSum := congrArg ConfidentialToken.sum inputs.commitments
  rw [sum_zipWith_commitments _ _ _
    (inputs.valuesLength.trans inputs.blindingLength.symm)] at inputSum
  refine ⟨?_, inputs, ?_⟩
  · rw [extract_commitType, generators, commitType_triple] at typeOpened
    exact typeOpened.symm
  · have noValue : extract left.challenge right.challenge (0 : S.Scalar) 0 = 0 := by
      rw [extract, sub_self, zero_mul]
    rw [Statement.headless, sum_map_sub, sum_map_sub, ← inputSum, inputs.valuesLength,
      noValue, zero_smul, zero_add] at differenceOpened
    simp only [Witness.ofProofs, sub_smul, differenceOpened, ofNat_eq_natCast]
    abel

theorem Witness.Explains.changed_owner {witness : Witness S} {commitmentToType : S.G1}
    {statement : Statement S} {input output : S.G1}
    (explains : witness.Explains typeBase valueBase blindingBase commitmentToType
      statement)
    (oneInput : statement.inputs = [input]) (oneOutput : statement.outputs = [output]) :
    ∃ value blinding, witness.inputValues = [value] ∧ witness.inputBlinding = [blinding] ∧
      input = witness.tokenType • typeBase + value • valueBase +
        (witness.typeBlinding + blinding) • blindingBase ∧
      output = witness.tokenType • typeBase + value • valueBase +
        (witness.typeBlinding + (blinding - witness.sumBlinding)) • blindingBase := by
  have valuesLength := explains.inputs.valuesLength
  have blindingLength := explains.inputs.blindingLength
  have commitments := explains.inputs.commitments
  have outputs := explains.outputs
  rw [oneInput] at valuesLength blindingLength commitments
  obtain ⟨value, values⟩ := List.length_eq_one_iff.mp valuesLength
  obtain ⟨blinding, blindings⟩ := List.length_eq_one_iff.mp blindingLength
  rw [values, blindings] at commitments outputs
  rw [oneOutput] at outputs
  simp only [List.zipWith_cons_cons, List.zipWith_nil_left, List.cons.injEq, and_true]
    at commitments
  refine ⟨value, blinding, values, blindings, ?_, ?_⟩
  · rw [← commitments, explains.typeOpening]
    module
  · simp only [sum_cons, sum_nil, add_zero, List.length_singleton, ofNat_eq_natCast,
      Nat.cast_one, one_smul] at outputs
    rw [outputs, explains.typeOpening]
    module

/-- Whoever also opens the outputs has conserved the value, or knows how the
bases are related. -/
theorem Witness.Explains.sums_eq_or_related {witness : Witness S}
    {commitmentToType : S.G1} {statement : Statement S}
    {outputValues outputBlinding : List S.Scalar}
    (explains : witness.Explains typeBase valueBase blindingBase commitmentToType
      statement)
    (opened : OpensWith commitmentToType valueBase blindingBase outputValues
      outputBlinding statement.outputs) :
    sum outputValues = sum witness.inputValues ∨
      sum outputValues - sum witness.inputValues ≠ 0 ∧
      (sum outputValues - sum witness.inputValues) • valueBase =
        (sum witness.inputBlinding - witness.sumBlinding - sum outputBlinding) •
          blindingBase := by
  by_cases equal : sum outputValues = sum witness.inputValues
  · exact .inl equal
  · refine .inr ⟨sub_ne_zero.mpr equal, ?_⟩
    have outputSum := congrArg ConfidentialToken.sum opened.commitments
    rw [sum_zipWith_commitments _ _ _
      (opened.valuesLength.trans opened.blindingLength.symm), explains.outputs,
      opened.valuesLength, ofNat_eq_natCast, add_assoc, add_assoc] at outputSum
    have cancelled := add_left_cancel outputSum
    rw [sub_smul, sub_smul, sub_eq_sub_iff_add_eq_add, cancelled]
    exact add_comm _ _

/-- Two proofs for one commitment to the type, with one first message and
different challenges, give away a witness: it opens the commitment to the type
and the inputs, and it knows the sum of the outputs. A token that only changes
its owner keeps its type and its value. Where the outputs are opened as well,
the values of both sides have one sum, or the bases for values and for blinding
factors are related in a known way. -/
theorem conserves_sum_of_same_firstMessages {statement : Statement S}
    (generators : statement.generators = [typeBase, valueBase, blindingBase])
    {left right : Proof S} (sameType : left.commitmentToType = right.commitmentToType)
    (distinct : left.challenge ≠ right.challenge) (leftFits : left.Fits statement)
    (rightFits : right.Fits statement)
    (same : statement.recompute left = statement.recompute right) :
    let witness := Witness.ofProofs left right
    witness.Explains typeBase valueBase blindingBase left.commitmentToType statement ∧
      (∀ input output, statement.inputs = [input] → statement.outputs = [output] →
        ∃ value blinding, witness.inputValues = [value] ∧
          witness.inputBlinding = [blinding] ∧
          input = witness.tokenType • typeBase + value • valueBase +
            (witness.typeBlinding + blinding) • blindingBase ∧
          output = witness.tokenType • typeBase + value • valueBase +
            (witness.typeBlinding + (blinding - witness.sumBlinding)) • blindingBase) ∧
      (∀ outputValues outputBlinding,
        OpensWith left.commitmentToType valueBase blindingBase outputValues outputBlinding
          statement.outputs →
        sum outputValues = sum witness.inputValues ∨
          sum outputValues - sum witness.inputValues ≠ 0 ∧
          (sum outputValues - sum witness.inputValues) • valueBase =
            (sum witness.inputBlinding - witness.sumBlinding - sum outputBlinding) •
              blindingBase) := by
  intro witness
  have explains : witness.Explains typeBase valueBase blindingBase left.commitmentToType
      statement :=
    explains_ofProofs generators sameType distinct leftFits rightFits same
  exact ⟨explains, fun _ _ => explains.changed_owner, fun _ _ =>
    explains.sums_eq_or_related⟩

def sampleStatement : Statement Bn254.exponentSuite where
  generators := [2, 3, 5]
  inputs := [53, 56]
  outputs := [87]

def sampleProof (challenge : Bn254.Fr) : Proof Bn254.exponentSuite where
  commitmentToType := 27
  inputBlinding := [19 + challenge * 1, 23 + challenge * 4]
  inputValues := [13 + challenge * 7, 17 + challenge * 3]
  tokenType := 37 + challenge * 11
  typeBlinding := 29 + challenge * 1
  sumBlinding := 31 - challenge * 1
  challenge := challenge

theorem conserves_sum_sample :
    let witness := Witness.ofProofs (sampleProof 2) (sampleProof 9)
    witness.inputValues = [7, 3] ∧
      witness.Explains (S := Bn254.exponentSuite) 2 3 5 27 sampleStatement ∧
      sum [10] = sum witness.inputValues := by
  have same : sampleStatement.recompute (sampleProof 2) =
      sampleStatement.recompute (sampleProof 9) := by
    simp only [Statement.recompute, FirstMessages.mk.injEq]
    decide +kernel
  have generators : sampleStatement.generators = [2, 3, 5] := rfl
  have sameType : (sampleProof 2).commitmentToType = (sampleProof 9).commitmentToType :=
    rfl
  obtain ⟨explains, -, sums⟩ := conserves_sum_of_same_firstMessages generators sameType
    (by decide +kernel) ⟨rfl, rfl⟩ ⟨rfl, rfl⟩ same
  refine ⟨by decide +kernel, explains, ?_⟩
  rcases sums [10] [6] ⟨rfl, rfl, by decide +kernel⟩ with equal | ⟨different, -⟩
  · exact equal
  · exact absurd (by decide +kernel) different

end ConfidentialToken.Transfer.TypeAndSum
