import ConfidentialToken.Proofs.Algebra.Vectors
import ConfidentialToken.Proofs.Transfer.Conservation
import ConfidentialToken.Proofs.Transfer.TypeAndSum
import ConfidentialToken.Proofs.Token
import ConfidentialToken.Proofs.TypeCommitment

/-!
Honest proofs of conservation are accepted.

The responses give back the first messages for every token. For the sum of a
side they do so because both sides have one sum.
-/

namespace ConfidentialToken.Transfer

variable {S : Suite}

/-- The scalars that stand for the values of openings. -/
def valuesOf (openings : List (Opening S)) : List S.Scalar :=
  openings.map fun opening => wordScalar opening.value

@[simp]
theorem length_valuesOf (openings : List (Opening S)) :
    (valuesOf openings).length = openings.length :=
  List.length_map _

namespace WellFormedness

theorem Statement.checkWitness_eq_ok {statement : Statement S} {tokenType result : String}
    {inputs outputs : List (Opening S)}
    (typed : ∀ opening ∈ inputs, opening.tokenType = tokenType)
    (checked : statement.checkWitness inputs outputs = .ok result) :
    statement.generators.length = 3 ∧ result = tokenType := by
  cases inputs with
  | nil => exact absurd checked throw_ne_ok
  | cons first inputs =>
      simp only [checkWitness, guard_eq_ok, pure_eq_ok, ne_eq, not_not] at checked
      exact ⟨checked.2.1, checked.2.2 ▸ typed first List.mem_cons_self⟩

theorem Statement.verify_eq_ok {statement : Statement S} {proof : Proof S} :
    statement.verify proof = .ok () ↔ statement.generators.length = 3 ∧
      ∃ first, statement.recompute proof = .ok first ∧
        statement.challenge first = proof.challenge := by
  simp only [verify, guard_eq_ok, bind_eq_ok, ite_throw_eq_ok, pure_eq_ok, ne_eq, not_not,
    and_true]

/-- As many scalars as there are tokens. -/
structure Randomness.Sized (randomness : Randomness S) (inputs outputs : Nat) : Prop where
  inputValues : randomness.inputValues.length = inputs
  inputBlinding : randomness.inputBlinding.length = inputs
  outputValues : randomness.outputValues.length = outputs
  outputBlinding : randomness.outputBlinding.length = outputs

theorem sample_gives {R : Type} [RandomSource S R] {inputs outputs : Nat}
    {randomness : Randomness S}
    (gives : Sampling.Gives (R := R) (sample inputs outputs) randomness) :
    randomness.Sized inputs outputs := by
  obtain ⟨tokenType, -, gives⟩ := gives.bind
  obtain ⟨inputValues, inputValuesDrawn, gives⟩ := gives.bind
  obtain ⟨inputBlinding, inputBlindingDrawn, gives⟩ := gives.bind
  obtain ⟨outputValues, outputValuesDrawn, gives⟩ := gives.bind
  obtain ⟨outputBlinding, outputBlindingDrawn, gives⟩ := gives.bind
  obtain ⟨sum, -, gives⟩ := gives.bind
  cases gives.pure
  exact ⟨inputValuesDrawn.length_times, inputBlindingDrawn.length_times,
    outputValuesDrawn.length_times, outputBlindingDrawn.length_times⟩

/-- The responses to a challenge of a prover who knows openings of a type. -/
def answer (tokenType : String) (inputs outputs : List (Opening S))
    (randomness : Randomness S) (challenge : S.Scalar) : Proof S where
  inputValues := Schnorr.respond challenge (valuesOf inputs) randomness.inputValues
  inputBlinding :=
    Schnorr.respond challenge (inputs.map Opening.blindingFactor) randomness.inputBlinding
  outputValues := Schnorr.respond challenge (valuesOf outputs) randomness.outputValues
  outputBlinding :=
    Schnorr.respond challenge (outputs.map Opening.blindingFactor)
      randomness.outputBlinding
  tokenType := randomness.tokenType + challenge * typeScalar tokenType
  sum := randomness.sum + challenge * ConfidentialToken.sum (valuesOf inputs)
  challenge := challenge

theorem Statement.proveWith_eq_ok {statement : Statement S}
    {inputs outputs : List (Opening S)} {randomness : Randomness S} {proof : Proof S} :
    statement.proveWith inputs outputs randomness = .ok proof ↔
      ∃ tokenType, statement.checkWitness inputs outputs = .ok tokenType ∧
        answer tokenType inputs outputs randomness
          (statement.challenge (statement.firstMessages randomness)) = proof := by
  simp only [proveWith, bind_eq_ok, pure_eq_ok, answer, valuesOf]

variable [LawfulG1 S]

/-- The responses for a side give back its first messages, if they answer for
the sum of the side. -/
theorem commitSide_respond {generators tokens : List S.G1} {tokenType : String}
    {openings : List (Opening S)} (three : generators.length = 3)
    (opens : OpenAll generators tokenType openings tokens)
    (challenge typeBlinding sumBlinding : S.Scalar)
    {valueBlinding otherBlinding : List S.Scalar}
    (valuesLength : valueBlinding.length = openings.length)
    (blindingLength : otherBlinding.length = openings.length) :
    List.zipWith (fun commitment token => commitment - challenge • token)
        (commitSide generators (typeBlinding + challenge * typeScalar tokenType)
          (Schnorr.respond challenge (valuesOf openings) valueBlinding)
          (Schnorr.respond challenge (openings.map Opening.blindingFactor) otherBlinding)
          (sumBlinding + challenge * ConfidentialToken.sum (valuesOf openings)))
        (tokens ++ [ConfidentialToken.sum tokens]) =
      commitSide generators typeBlinding valueBlinding otherBlinding sumBlinding := by
  obtain ⟨typeBase, valueBase, blindingBase, rfl⟩ := List.length_eq_three.mp three
  have tokensEq := opens.tokens_eq
  have counts :
    (valuesOf openings).length = (openings.map Opening.blindingFactor).length := by simp
  have count := opens.length_eq
  change tokens = List.zipWith _ (valuesOf openings) _ at tokensEq
  simp only [linearCombination_triple] at tokensEq
  rw [commitSide, commitSide, List.zipWith_append]
  · congr 1
    · obtain ⟨values, valuesEq⟩ := exists_ofFn (length_valuesOf openings)
      have factorsLength :
          (openings.map Opening.blindingFactor).length = openings.length :=
        List.length_map _
      obtain ⟨factors, factorsEq⟩ := exists_ofFn factorsLength
      obtain ⟨first, rfl⟩ := exists_ofFn valuesLength
      obtain ⟨second, rfl⟩ := exists_ofFn blindingLength
      rw [tokensEq, valuesEq, factorsEq]
      simp only [Schnorr.respond, zipWith_ofFn, linearCombination_triple]
      refine congrArg List.ofFn (funext fun index => ?_)
      module
    · rw [tokensEq, sum_commitments _ counts, Schnorr.sum_respond]
      · simp only [linearCombination_triple, List.zipWith_cons_cons,
          List.zipWith_nil_left, Schnorr.length_respond, length_valuesOf, valuesLength,
          Nat.min_self]
        congr 1
        module
      · simp [blindingLength]
  · simp [valuesLength, blindingLength, count]

/-- The responses give back the first messages, except that the difference of
the sums of both sides is left in the message for the sum of the outputs. -/
theorem Statement.recompute_answer_shifted {statement : Statement S} {tokenType : String}
    {inputs outputs : List (Opening S)} (three : statement.generators.length = 3)
    (inputsOpen : OpenAll statement.generators tokenType inputs statement.inputs)
    (outputsOpen : OpenAll statement.generators tokenType outputs statement.outputs)
    {randomness : Randomness S} (sized : randomness.Sized inputs.length outputs.length)
    (challenge : S.Scalar) :
    statement.recompute (answer tokenType inputs outputs randomness challenge) = .ok {
      inputs := (statement.firstMessages randomness).inputs
      outputs :=
        commitSide statement.generators randomness.tokenType randomness.outputValues
          randomness.outputBlinding (randomness.sum + challenge *
            (ConfidentialToken.sum (valuesOf inputs) -
              ConfidentialToken.sum (valuesOf outputs))) } := by
  have inputSide := commitSide_respond three inputsOpen challenge randomness.tokenType
    randomness.sum sized.inputValues sized.inputBlinding
  have outputSide := commitSide_respond three outputsOpen challenge randomness.tokenType
    (randomness.sum + challenge *
      (ConfidentialToken.sum (valuesOf inputs) -
        ConfidentialToken.sum (valuesOf outputs)))
    sized.outputValues sized.outputBlinding
  have response : randomness.sum + challenge *
        (ConfidentialToken.sum (valuesOf inputs) -
          ConfidentialToken.sum (valuesOf outputs)) +
      challenge * ConfidentialToken.sum (valuesOf outputs) =
        randomness.sum + challenge * ConfidentialToken.sum (valuesOf inputs) := by
    ring
  rw [response] at outputSide
  have inputCount := inputsOpen.length_eq
  have outputCount := outputsOpen.length_eq
  refine recompute_eq_ok.mpr ⟨recomputeSide_eq_ok.mpr ⟨?_, ?_, inputSide⟩,
    recomputeSide_eq_ok.mpr ⟨?_, ?_, outputSide⟩⟩
  · simp [answer, sized.inputValues, inputCount]
  · simp [answer, sized.inputBlinding, inputCount]
  · simp [answer, sized.outputValues, outputCount]
  · simp [answer, sized.outputBlinding, outputCount]

theorem Statement.recompute_answer {statement : Statement S} {tokenType : String}
    {inputs outputs : List (Opening S)} (three : statement.generators.length = 3)
    (inputsOpen : OpenAll statement.generators tokenType inputs statement.inputs)
    (outputsOpen : OpenAll statement.generators tokenType outputs statement.outputs)
    (sums : ConfidentialToken.sum (valuesOf inputs) =
      ConfidentialToken.sum (valuesOf outputs))
    {randomness : Randomness S} (sized : randomness.Sized inputs.length outputs.length)
    (challenge : S.Scalar) :
    statement.recompute (answer tokenType inputs outputs randomness challenge) =
      .ok (statement.firstMessages randomness) := by
  rw [recompute_answer_shifted three inputsOpen outputsOpen sized, sums, sub_self,
    mul_zero, add_zero]
  rfl

theorem Statement.verify_prove {R : Type} [RandomSource S R] {statement : Statement S}
    {tokenType : String} {inputs outputs : List (Opening S)} {proof : Proof S}
    (inputsOpen : OpenAll statement.generators tokenType inputs statement.inputs)
    (outputsOpen : OpenAll statement.generators tokenType outputs statement.outputs)
    (sums : ConfidentialToken.sum (valuesOf inputs) =
      ConfidentialToken.sum (valuesOf outputs))
    (gives : Sampling.Gives (R := R) (statement.prove inputs outputs) proof) :
    statement.verify proof = .ok () := by
  obtain ⟨_, -, gives⟩ := gives.bind
  obtain ⟨randomness, drawn, gives⟩ := gives.bind
  obtain ⟨_, checked, rfl⟩ := proveWith_eq_ok.mp gives.lift
  obtain ⟨three, rfl⟩ := checkWitness_eq_ok inputsOpen.typed checked
  exact verify_eq_ok.mpr ⟨three, statement.firstMessages randomness,
    recompute_answer three inputsOpen outputsOpen sums (sample_gives drawn) _, rfl⟩

end WellFormedness

namespace TypeAndSum

/-- The blinding factors that are left without the one of a commitment to the
type. -/
def blindingWithout (factor : S.Scalar) (openings : List (Opening S)) : List S.Scalar :=
  openings.map fun opening => opening.blindingFactor - factor

@[simp]
theorem length_blindingWithout (factor : S.Scalar) (openings : List (Opening S)) :
    (blindingWithout factor openings).length = openings.length :=
  List.length_map _

theorem Statement.checkWitness_eq_ok {statement : Statement S} {tokenType result : String}
    {inputs outputs : List (Opening S)}
    (typed : ∀ opening ∈ inputs, opening.tokenType = tokenType)
    (checked : statement.checkWitness inputs outputs = .ok result) :
    statement.generators.length = 3 ∧ result = tokenType := by
  cases inputs with
  | nil => exact absurd checked throw_ne_ok
  | cons first inputs =>
      simp only [checkWitness, guard_eq_ok, pure_eq_ok, ne_eq, not_not] at checked
      exact ⟨checked.1, checked.2.2 ▸ typed first List.mem_cons_self⟩

/-- As many scalars as there are inputs. -/
structure Randomness.Sized (randomness : Randomness S) (inputs : Nat) : Prop where
  inputValues : randomness.inputValues.length = inputs
  inputBlinding : randomness.inputBlinding.length = inputs

theorem sample_gives {R : Type} [RandomSource S R] {inputs : Nat}
    {randomness : Randomness S}
    (gives : Sampling.Gives (R := R) (sample inputs) randomness) :
    randomness.Sized inputs := by
  obtain ⟨tokenType, -, gives⟩ := gives.bind
  obtain ⟨typeBlinding, -, gives⟩ := gives.bind
  obtain ⟨inputValues, inputValuesDrawn, gives⟩ := gives.bind
  obtain ⟨inputBlinding, inputBlindingDrawn, gives⟩ := gives.bind
  obtain ⟨sumBlinding, -, gives⟩ := gives.bind
  cases gives.pure
  exact ⟨inputValuesDrawn.length_times, inputBlindingDrawn.length_times⟩

/-- The responses to a challenge of a prover who knows openings of a type. -/
def answer (tokenType : String) (inputs outputs : List (Opening S))
    (typeCommitment : TypeCommitment S) (randomness : Randomness S)
    (challenge : S.Scalar) : Proof S where
  commitmentToType := typeCommitment.commitment
  inputBlinding := Schnorr.respond challenge
    (blindingWithout typeCommitment.blindingFactor inputs) randomness.inputBlinding
  inputValues := Schnorr.respond challenge (valuesOf inputs) randomness.inputValues
  tokenType := randomness.tokenType + challenge * typeScalar tokenType
  typeBlinding := randomness.typeBlinding + challenge * typeCommitment.blindingFactor
  sumBlinding := randomness.sumBlinding +
    challenge * (sum (blindingWithout typeCommitment.blindingFactor inputs) -
      sum (blindingWithout typeCommitment.blindingFactor outputs))
  challenge := challenge

theorem Statement.proveWith_eq_ok {statement : Statement S}
    {inputs outputs : List (Opening S)} {typeCommitment : TypeCommitment S}
    {randomness : Randomness S} {proof : Proof S} :
    statement.proveWith inputs outputs typeCommitment randomness = .ok proof ↔
      ∃ tokenType, statement.checkWitness inputs outputs = .ok tokenType ∧
        answer tokenType inputs outputs typeCommitment randomness
          (statement.challenge typeCommitment.commitment
            (statement.firstMessages randomness)) =
            proof := by
  simp only [proveWith, bind_eq_ok, pure_eq_ok, answer, valuesOf, blindingWithout]

variable [LawfulG1 S] {typeBase valueBase blindingBase : S.G1}

theorem headless_eq {generators tokens : List S.G1} {tokenType : String}
    {openings : List (Opening S)} {typeCommitment : TypeCommitment S}
    (three : generators.length = 3) (opens : OpenAll generators tokenType openings tokens)
    (typeOpens : typeCommitment.Opens generators tokenType) :
    tokens.map (· - typeCommitment.commitment) =
      List.zipWith (commitValue generators) (valuesOf openings)
        (blindingWithout typeCommitment.blindingFactor openings) := by
  obtain ⟨typeBase, valueBase, blindingBase, rfl⟩ := List.length_eq_three.mp three
  rw [opens.tokens_eq, typeOpens, List.map_zipWith]
  simp only [valuesOf, blindingWithout, List.zipWith_map, commitType, commitValue,
    linearCombination_triple]
  congr 1
  funext opening other
  module

theorem sum_commitValue {generators : List S.G1} (three : generators.length = 3)
    {values blinding : List S.Scalar} (lengths : values.length = blinding.length) :
    sum (List.zipWith (commitValue generators) values blinding) =
      commitValue generators (sum values) (sum blinding) := by
  obtain ⟨typeBase, valueBase, blindingBase, rfl⟩ := List.length_eq_three.mp three
  have form : commitValue [typeBase, valueBase, blindingBase] =
      fun value blinding => value • valueBase + blinding • blindingBase :=
    funext₂ commitValue_triple
  have sums := sum_zipWith_commitments (0 : S.G1) valueBase blindingBase lengths
  simpa only [form, zero_add, smul_zero] using sums

theorem commitValue_respond (generators : List S.G1)
    (challenge value blinding valueBlinding otherBlinding : S.Scalar) :
    commitValue generators (valueBlinding + challenge * value)
        (otherBlinding + challenge * blinding) -
        challenge • commitValue generators value blinding =
      commitValue generators valueBlinding otherBlinding := by
  have lengths : [0, value, blinding].length = [0, valueBlinding, otherBlinding].length :=
    rfl
  have restored := Schnorr.firstMessage_respond generators challenge lengths
  simpa [Schnorr.respond, Schnorr.firstMessage, commitValue] using restored

theorem zipWith_commitValue_respond (generators : List S.G1) (challenge : S.Scalar)
    {count : Nat} {values blinding valueBlinding otherBlinding : List S.Scalar}
    (valuesLength : values.length = count) (blindingLength : blinding.length = count)
    (firstLength : valueBlinding.length = count)
    (secondLength : otherBlinding.length = count) :
    List.zipWith (fun image token => image - challenge • token)
        (List.zipWith (commitValue generators)
          (Schnorr.respond challenge values valueBlinding)
          (Schnorr.respond challenge blinding otherBlinding))
        (List.zipWith (commitValue generators) values blinding) =
      List.zipWith (commitValue generators) valueBlinding otherBlinding := by
  obtain ⟨values, rfl⟩ := exists_ofFn valuesLength
  obtain ⟨blinding, rfl⟩ := exists_ofFn blindingLength
  obtain ⟨valueBlinding, rfl⟩ := exists_ofFn firstLength
  obtain ⟨otherBlinding, rfl⟩ := exists_ofFn secondLength
  simp only [Schnorr.respond, zipWith_ofFn, commitValue_respond]

/-- The responses give back the first messages, except that the difference of
the sums of both sides is left in the message for it. -/
theorem Statement.recompute_answer_shifted {statement : Statement S}
    {tokenType : String} {inputs outputs : List (Opening S)}
    {typeCommitment : TypeCommitment S} (three : statement.generators.length = 3)
    (inputsOpen : OpenAll statement.generators tokenType inputs statement.inputs)
    (outputsOpen : OpenAll statement.generators tokenType outputs statement.outputs)
    (typeOpens : typeCommitment.Opens statement.generators tokenType)
    {randomness : Randomness S} (sized : randomness.Sized inputs.length)
    (challenge : S.Scalar) :
    statement.recompute
      (answer tokenType inputs outputs typeCommitment randomness challenge) =
      { statement.firstMessages randomness with
        difference := commitValue statement.generators
          (challenge * (sum (valuesOf outputs) - sum (valuesOf inputs)))
          randomness.sumBlinding } := by
  have inputTokens := headless_eq three inputsOpen typeOpens
  have outputTokens := headless_eq three outputsOpen typeOpens
  have inputSum := sum_commitValue three ((length_valuesOf inputs).trans
    (length_blindingWithout typeCommitment.blindingFactor inputs).symm)
  have outputSum := sum_commitValue three ((length_valuesOf outputs).trans
    (length_blindingWithout typeCommitment.blindingFactor outputs).symm)
  rw [← inputTokens] at inputSum
  rw [← outputTokens] at outputSum
  refine (FirstMessages.mk.injEq _ _ _ _ _ _).mpr ⟨?_, ?_, ?_⟩
  · refine (recompute_inputs statement).trans ?_
    exact (congrArg _ inputTokens).trans (zipWith_commitValue_respond _ _
      (length_valuesOf inputs) (length_blindingWithout _ inputs) sized.inputValues
      sized.inputBlinding)
  · have restored :=
      commitType_respond statement.generators challenge (typeScalar tokenType)
        typeCommitment.blindingFactor randomness.tokenType randomness.typeBlinding
    rw [← typeOpens] at restored
    exact restored
  · have difference : (statement.headless typeCommitment.commitment).difference =
        commitValue statement.generators (sum (valuesOf inputs) - sum (valuesOf outputs))
          (sum (blindingWithout typeCommitment.blindingFactor inputs) -
            sum (blindingWithout typeCommitment.blindingFactor outputs)) := by
      rw [headless, inputSum, outputSum]
      obtain ⟨typeBase, valueBase, blindingBase, generators⟩ :=
        List.length_eq_three.mp three
      rw [generators, commitValue_triple, commitValue_triple, commitValue_triple]
      module
    have restored := commitValue_respond statement.generators challenge
      (sum (valuesOf inputs) - sum (valuesOf outputs))
      (sum (blindingWithout typeCommitment.blindingFactor inputs) -
        sum (blindingWithout typeCommitment.blindingFactor outputs))
      (challenge * (sum (valuesOf outputs) - sum (valuesOf inputs)))
        randomness.sumBlinding
    have cancelled : challenge * (sum (valuesOf outputs) - sum (valuesOf inputs)) +
        challenge * (sum (valuesOf inputs) - sum (valuesOf outputs)) = 0 := by
      ring
    rw [cancelled, ← difference] at restored
    exact restored

theorem Statement.recompute_answer {statement : Statement S} {tokenType : String}
    {inputs outputs : List (Opening S)} {typeCommitment : TypeCommitment S}
    (three : statement.generators.length = 3)
    (inputsOpen : OpenAll statement.generators tokenType inputs statement.inputs)
    (outputsOpen : OpenAll statement.generators tokenType outputs statement.outputs)
    (typeOpens : typeCommitment.Opens statement.generators tokenType)
    (sums : sum (valuesOf inputs) = sum (valuesOf outputs)) {randomness : Randomness S}
    (sized : randomness.Sized inputs.length) (challenge : S.Scalar) :
    statement.recompute
      (answer tokenType inputs outputs typeCommitment randomness challenge) =
      statement.firstMessages randomness := by
  rw [recompute_answer_shifted three inputsOpen outputsOpen typeOpens sized, sums,
    sub_self, mul_zero]
  rfl

theorem Statement.verify_prove {R : Type} [RandomSource S R] {statement : Statement S}
    {tokenType : String} {inputs outputs : List (Opening S)}
    {typeCommitment : TypeCommitment S} {proof : Proof S}
    (inputsOpen : OpenAll statement.generators tokenType inputs statement.inputs)
    (outputsOpen : OpenAll statement.generators tokenType outputs statement.outputs)
    (typeOpens : typeCommitment.Opens statement.generators tokenType)
    (sums : sum (valuesOf inputs) = sum (valuesOf outputs))
    (gives : Sampling.Gives (R := R) (statement.prove inputs outputs typeCommitment)
      proof) :
    statement.verify proof = .ok () ∧
      proof.commitmentToType = typeCommitment.commitment := by
  obtain ⟨_, -, gives⟩ := gives.bind
  obtain ⟨randomness, drawn, gives⟩ := gives.bind
  obtain ⟨_, checked, rfl⟩ := proveWith_eq_ok.mp gives.lift
  obtain ⟨three, rfl⟩ := checkWitness_eq_ok inputsOpen.typed checked
  have sized := sample_gives drawn
  have inputCount := inputsOpen.length_eq
  refine ⟨verify_eq_ok.mpr ⟨three, ⟨?_, ?_⟩, ?_⟩, rfl⟩
  · simp [answer, sized.inputValues, inputCount]
  · simp [answer, sized.inputBlinding, inputCount]
  · exact congrArg (statement.challenge typeCommitment.commitment)
      (recompute_answer three inputsOpen outputsOpen typeOpens sums sized _)

end TypeAndSum

end ConfidentialToken.Transfer
