import ConfidentialToken.Proofs.Bn254.Exponents
import ConfidentialToken.Proofs.Transfer.Completeness

/-!
Proofs of conservation do not tell the openings.

Every proof that is accepted could have been made with any openings of the
tokens that have one type and one sum on both sides: for each of them there is
exactly one choice of the scalars that are drawn for which the prover makes this
proof. A prover refuses a transfer without inputs, for which proofs are accepted
all the same, so that there has to be an input.
-/

namespace ConfidentialToken.Transfer

open Sampling

variable {S : Suite}

/-- Openings of the tokens on both sides, of one type and with one sum. -/
structure Balanced (generators : List S.G1) (tokenType : String)
    (inputs outputs : List S.G1) (inputOpenings outputOpenings : List (Opening S)) :
    Prop where
  inputs : OpenAll generators tokenType inputOpenings inputs
  outputs : OpenAll generators tokenType outputOpenings outputs
  sums : sum (valuesOf inputOpenings) = sum (valuesOf outputOpenings)

/-- Where there is a token, an opening of it shows that there are three
bases. -/
theorem exists_first_of_openAll {generators tokens : List S.G1} {tokenType : String}
    {openings : List (Opening S)} (opens : OpenAll generators tokenType openings tokens)
    (nonempty : tokens ≠ []) :
    generators.length = 3 ∧
      ∃ first rest, openings = first :: rest ∧ first.tokenType = tokenType := by
  obtain ⟨typed, opened⟩ := opens
  cases opened with
  | nil => exact absurd rfl nonempty
  | cons first rest =>
      exact ⟨(Opening.commit_eq_ok.mp first).1, _, _, rfl, typed _ List.mem_cons_self⟩

namespace WellFormedness

/-- The scalars in the order in which they are drawn. -/
def Randomness.scalars (randomness : Randomness S) : List S.Scalar :=
  randomness.tokenType :: (randomness.inputValues ++ (randomness.inputBlinding ++
    (randomness.outputValues ++ (randomness.outputBlinding ++ [randomness.sum]))))

theorem Randomness.Sized.length_scalars {randomness : Randomness S} {inputs outputs : Nat}
    (sized : randomness.Sized inputs outputs) :
    randomness.scalars.length = 2 * inputs + 2 * outputs + 2 := by
  simp only [scalars, List.length_cons, List.length_append, sized.inputValues,
    sized.inputBlinding, sized.outputValues, sized.outputBlinding, List.length_nil]
  omega

theorem Randomness.exists_scalars_eq {inputs outputs : Nat} {scalars : List S.Scalar}
    (length : scalars.length = 2 * inputs + 2 * outputs + 2) :
    ∃ randomness : Randomness S, randomness.Sized inputs outputs ∧
      scalars = randomness.scalars := by
  have order : scalars.length = inputs + (inputs + (outputs + (outputs + 1))) + 1 := by
    omega
  obtain ⟨tokenType, _, rfl⟩ := List.exists_cons_of_length_eq_add_one order
  obtain ⟨inputValues, _, first, afterFirst, rfl⟩ :=
    exists_append_of_length (Nat.succ.inj order)
  obtain ⟨inputBlinding, _, second, afterSecond, rfl⟩ :=
    exists_append_of_length afterFirst
  obtain ⟨outputValues, _, third, afterThird, rfl⟩ := exists_append_of_length afterSecond
  obtain ⟨outputBlinding, _, fourth, afterFourth, rfl⟩ :=
    exists_append_of_length afterThird
  obtain ⟨sum, rfl⟩ := List.length_eq_one_iff.mp afterFourth
  exact ⟨⟨tokenType, inputValues, inputBlinding, outputValues, outputBlinding, sum⟩,
    ⟨first, second, third, fourth⟩, rfl⟩

theorem run_sample {inputs outputs : Nat} {randomness : Randomness S}
    (sized : randomness.Sized inputs outputs) :
    (sample inputs outputs : Sampling (Tape S) (Randomness S)) ⟨randomness.scalars⟩ =
      .ok (randomness, ⟨[]⟩) := by
  refine run_bind_eq_ok.mpr ⟨randomness.tokenType, _, rfl, ?_⟩
  exact run_scalars_bind_append sized.inputValues
    (run_scalars_bind_append sized.inputBlinding
    (run_scalars_bind_append sized.outputValues
      (run_scalars_bind_append sized.outputBlinding rfl)))

theorem run_prove_eq_ok {statement : Statement S} {inputs outputs : List (Opening S)}
    {randomness : Randomness S} (sized : randomness.Sized inputs.length outputs.length)
    {proof : Proof S} :
    (statement.prove inputs outputs : Sampling (Tape S) (Proof S)) ⟨randomness.scalars⟩ =
        .ok (proof, ⟨[]⟩) ↔
          statement.proveWith inputs outputs randomness = .ok proof := by
  refine run_checked_make_eq_ok (run_sample sized) fun made => ?_
  obtain ⟨tokenType, checked, -⟩ := Statement.proveWith_eq_ok.mp made
  exact ⟨tokenType, checked⟩

/-- The randomness with which a prover who knows openings of a type makes a
proof. -/
def Proof.randomness (tokenType : String) (inputs outputs : List (Opening S))
    (proof : Proof S) : Randomness S where
  tokenType := proof.tokenType - proof.challenge * typeScalar tokenType
  inputValues := Schnorr.unblind proof.challenge (valuesOf inputs) proof.inputValues
  inputBlinding :=
    Schnorr.unblind proof.challenge (inputs.map Opening.blindingFactor)
      proof.inputBlinding
  outputValues := Schnorr.unblind proof.challenge (valuesOf outputs) proof.outputValues
  outputBlinding :=
    Schnorr.unblind proof.challenge (outputs.map Opening.blindingFactor)
      proof.outputBlinding
  sum := proof.sum - proof.challenge * ConfidentialToken.sum (valuesOf inputs)

/-- There is a pair of responses for each token. -/
structure Proof.Sized (proof : Proof S) (inputs outputs : Nat) : Prop where
  inputValues : proof.inputValues.length = inputs
  inputBlinding : proof.inputBlinding.length = inputs
  outputValues : proof.outputValues.length = outputs
  outputBlinding : proof.outputBlinding.length = outputs

theorem Proof.sized_of_verify {statement : Statement S} {proof : Proof S}
    (accepted : statement.verify proof = .ok ()) :
    proof.Sized statement.inputs.length statement.outputs.length := by
  obtain ⟨-, _, recomputed, -⟩ := Statement.verify_eq_ok.mp accepted
  obtain ⟨inputs, outputs⟩ := Statement.recompute_eq_ok.mp recomputed
  obtain ⟨inputValues, inputBlinding, -⟩ := Statement.recomputeSide_eq_ok.mp inputs
  obtain ⟨outputValues, outputBlinding, -⟩ := Statement.recomputeSide_eq_ok.mp outputs
  exact ⟨inputValues, inputBlinding, outputValues, outputBlinding⟩

theorem Proof.Sized.randomness {tokenType : String} {inputs outputs : List (Opening S)}
    {proof : Proof S} (sized : proof.Sized inputs.length outputs.length) :
    (proof.randomness tokenType inputs outputs).Sized inputs.length outputs.length := by
  constructor <;>
    simp [Proof.randomness, Schnorr.unblind, sized.inputValues, sized.inputBlinding,
      sized.outputValues, sized.outputBlinding]

variable [LawfulG1 S]

/-- A proof consists of the responses that are given with its randomness
alone. -/
theorem answer_eq_iff {tokenType : String} {inputs outputs : List (Opening S)}
    {randomness : Randomness S} {proof : Proof S}
    (drawn : randomness.Sized inputs.length outputs.length)
    (sized : proof.Sized inputs.length outputs.length) :
    answer tokenType inputs outputs randomness proof.challenge = proof ↔
      randomness = proof.randomness tokenType inputs outputs := by
  obtain ⟨typeBlinding, inputValues, inputBlinding, outputValues, outputBlinding,
      sumBlinding⟩ :=
    randomness
  have factors (openings : List (Opening S)) :
      (openings.map Opening.blindingFactor).length = openings.length := List.length_map _
  have respondIff {witness first responses : List S.Scalar}
    (length : first.length = witness.length)
      (responsesLength : responses.length = witness.length) :
      Schnorr.respond proof.challenge witness first = responses ↔
        first = Schnorr.unblind proof.challenge witness responses :=
    Schnorr.respond_eq_iff length responsesLength
  obtain ⟨drawnInputs, drawnInputBlinding, drawnOutputs, drawnOutputBlinding⟩ := drawn
  cases proof with
  | mk inputResponses _ outputResponses _ typeResponse sumResponse challenge =>
      obtain ⟨sizedInputs, sizedInputBlinding, sizedOutputs, sizedOutputBlinding⟩ := sized
      dsimp only at *
      simp only [answer, Proof.randomness, Proof.mk.injEq, Randomness.mk.injEq, and_true]
      rw [respondIff (by simpa using drawnInputs) (by simpa using sizedInputs),
        respondIff (by simpa using drawnInputBlinding)
          (by simpa using sizedInputBlinding),
        respondIff (by simpa using drawnOutputs) (by simpa using sizedOutputs),
        respondIff (by simpa using drawnOutputBlinding)
          (by simpa using sizedOutputBlinding),
        ← eq_sub_iff_add_eq, ← eq_sub_iff_add_eq]
      tauto

theorem Statement.proveWith_eq_ok_iff_of_verify {statement : Statement S}
    {tokenType : String} {inputs outputs : List (Opening S)}
    (balanced : Balanced statement.generators tokenType statement.inputs
      statement.outputs inputs outputs)
    (checked : statement.checkWitness inputs outputs = .ok tokenType) {proof : Proof S}
    (accepted : statement.verify proof = .ok ()) {randomness : Randomness S}
    (drawn : randomness.Sized inputs.length outputs.length) :
    statement.proveWith inputs outputs randomness = .ok proof ↔
      randomness = proof.randomness tokenType inputs outputs := by
  have sized := Proof.sized_of_verify accepted
  rw [← balanced.inputs.length_eq, ← balanced.outputs.length_eq] at sized
  rw [← answer_eq_iff drawn sized, proveWith_eq_ok]
  constructor
  · rintro ⟨_, found, made⟩
    cases checked.symm.trans found
    rw [← made, answer]
    rfl
  · intro made
    obtain ⟨three, first, recomputed, hashed⟩ := verify_eq_ok.mp accepted
    have again :=
      recompute_answer three balanced.inputs balanced.outputs balanced.sums drawn
        proof.challenge
    rw [made, recomputed] at again
    cases Except.ok.inj again
    exact ⟨tokenType, checked, by rw [hashed, made]⟩

omit [LawfulG1 S] in
theorem Statement.checkWitness_of_balanced {statement : Statement S} {tokenType : String}
    {inputs outputs : List (Opening S)}
    (balanced : Balanced statement.generators tokenType statement.inputs
      statement.outputs inputs outputs) (nonempty : statement.inputs ≠ []) :
    statement.checkWitness inputs outputs = .ok tokenType := by
  obtain ⟨three, first, rest, rfl, typed⟩ :=
    exists_first_of_openAll balanced.inputs nonempty
  simp [checkWitness, three,
    typed, ← balanced.inputs.length_eq, ← balanced.outputs.length_eq]

/-- With openings of all tokens a prover makes exactly the proofs that are
accepted, each in one way. -/
theorem Statement.covers_prove {statement : Statement S} {tokenType : String}
    {inputs outputs : List (Opening S)}
    (balanced : Balanced statement.generators tokenType statement.inputs
      statement.outputs inputs outputs) (nonempty : statement.inputs ≠ []) :
    Covers S (statement.prove inputs outputs)
      (2 * statement.inputs.length + 2 * statement.outputs.length + 2)
      fun proof => statement.verify proof = .ok () := by
  have checked := checkWitness_of_balanced balanced nonempty
  rw [← balanced.inputs.length_eq, ← balanced.outputs.length_eq]
  refine Covers.of_parts Randomness.Sized.length_scalars Randomness.exists_scalars_eq
    (fun sized => run_prove_eq_ok sized) ?_ ?_
    (fun accepted sized => proveWith_eq_ok_iff_of_verify balanced checked accepted sized)
  · intro randomness sized
    have made : statement.proveWith inputs outputs randomness = .ok _ :=
      proveWith_eq_ok.mpr ⟨tokenType, checked, rfl⟩
    have gives := gives_of_run ((run_prove_eq_ok sized).mpr made)
    exact ⟨_, verify_prove balanced.inputs balanced.outputs balanced.sums gives, made⟩
  · intro proof accepted
    have sized := Proof.sized_of_verify accepted
    rw [← balanced.inputs.length_eq, ← balanced.outputs.length_eq] at sized
    exact sized.randomness

end WellFormedness

namespace TypeAndSum

/-- The scalars in the order in which they are drawn. -/
def Randomness.scalars (randomness : Randomness S) : List S.Scalar :=
  randomness.tokenType :: randomness.typeBlinding ::
    (randomness.inputValues ++ (randomness.inputBlinding ++ [randomness.sumBlinding]))

theorem Randomness.Sized.length_scalars {randomness : Randomness S} {inputs : Nat}
    (sized : randomness.Sized inputs) : randomness.scalars.length = 2 * inputs + 3 := by
  simp only [scalars, List.length_cons, List.length_append, sized.inputValues,
    sized.inputBlinding, List.length_nil]
  omega

theorem Randomness.exists_scalars_eq {inputs : Nat} {scalars : List S.Scalar}
    (length : scalars.length = 2 * inputs + 3) :
    ∃ randomness : Randomness S,
      randomness.Sized inputs ∧ scalars = randomness.scalars := by
  have order : scalars.length = inputs + (inputs + 1) + 1 + 1 := by omega
  obtain ⟨tokenType, _, rfl⟩ := List.exists_cons_of_length_eq_add_one order
  obtain ⟨typeBlinding, _, rfl⟩ :=
    List.exists_cons_of_length_eq_add_one (Nat.succ.inj order)
  have order := Nat.succ.inj (Nat.succ.inj order)
  obtain ⟨inputValues, _, first, afterFirst, rfl⟩ := exists_append_of_length order
  obtain ⟨inputBlinding, _, second, afterSecond, rfl⟩ :=
    exists_append_of_length afterFirst
  obtain ⟨sumBlinding, rfl⟩ := List.length_eq_one_iff.mp afterSecond
  exact ⟨⟨tokenType, typeBlinding, inputValues, inputBlinding, sumBlinding⟩,
    ⟨first, second⟩, rfl⟩

theorem run_sample {inputs : Nat} {randomness : Randomness S}
    (sized : randomness.Sized inputs) :
    (sample inputs : Sampling (Tape S) (Randomness S)) ⟨randomness.scalars⟩ =
      .ok (randomness, ⟨[]⟩) := by
  refine run_bind_eq_ok.mpr ⟨randomness.tokenType, _, rfl, ?_⟩
  refine run_bind_eq_ok.mpr ⟨randomness.typeBlinding, _, rfl, ?_⟩
  exact run_scalars_bind_append sized.inputValues
    (run_scalars_bind_append sized.inputBlinding rfl)

theorem run_prove_eq_ok {statement : Statement S} {inputs outputs : List (Opening S)}
    {typeCommitment : TypeCommitment S} {randomness : Randomness S}
    (sized : randomness.Sized inputs.length) {proof : Proof S} :
    (statement.prove inputs outputs typeCommitment : Sampling (Tape S) (Proof S))
          ⟨randomness.scalars⟩ = .ok (proof, ⟨[]⟩) ↔
      statement.proveWith inputs outputs typeCommitment randomness = .ok proof := by
  refine run_checked_make_eq_ok (run_sample sized) fun made => ?_
  obtain ⟨tokenType, checked, -⟩ := Statement.proveWith_eq_ok.mp made
  exact ⟨tokenType, checked⟩

/-- The randomness with which a prover who knows openings of a type makes a
proof. -/
def Proof.randomness (tokenType : String) (inputs outputs : List (Opening S))
    (typeCommitment : TypeCommitment S) (proof : Proof S) : Randomness S where
  tokenType := proof.tokenType - proof.challenge * typeScalar tokenType
  typeBlinding := proof.typeBlinding - proof.challenge * typeCommitment.blindingFactor
  inputValues := Schnorr.unblind proof.challenge (valuesOf inputs) proof.inputValues
  inputBlinding := Schnorr.unblind proof.challenge
    (blindingWithout typeCommitment.blindingFactor inputs) proof.inputBlinding
  sumBlinding := proof.sumBlinding -
    proof.challenge * (sum (blindingWithout typeCommitment.blindingFactor inputs) -
      sum (blindingWithout typeCommitment.blindingFactor outputs))

theorem Proof.Fits.sized_randomness {statement : Statement S} {tokenType : String}
    {inputs outputs : List (Opening S)} {typeCommitment : TypeCommitment S}
    {proof : Proof S} (fits : proof.Fits statement)
    (count : inputs.length = statement.inputs.length) :
    (proof.randomness tokenType inputs outputs typeCommitment).Sized inputs.length := by
  constructor <;> simp [Proof.randomness, Schnorr.unblind, fits.values, fits.blinding,
    count]

variable [LawfulG1 S]

/-- A proof consists of the responses that are given with its randomness
alone. -/
theorem answer_eq_iff {statement : Statement S} {tokenType : String}
    {inputs outputs : List (Opening S)} {typeCommitment : TypeCommitment S}
    {randomness : Randomness S} {proof : Proof S} (drawn : randomness.Sized inputs.length)
    (fits : proof.Fits statement) (count : inputs.length = statement.inputs.length)
    (same : proof.commitmentToType = typeCommitment.commitment) :
    answer tokenType inputs outputs typeCommitment randomness proof.challenge = proof ↔
      randomness = proof.randomness tokenType inputs outputs typeCommitment := by
  obtain ⟨drawnValues, drawnBlinding⟩ := drawn
  obtain ⟨fitsValues, fitsBlinding⟩ := fits
  have values : Schnorr.respond proof.challenge (valuesOf inputs) randomness.inputValues =
      proof.inputValues ↔ _ :=
    Schnorr.respond_eq_iff (by simpa using drawnValues) (by simp [fitsValues, count])
  have blinding : Schnorr.respond proof.challenge
      (blindingWithout typeCommitment.blindingFactor inputs) randomness.inputBlinding =
        proof.inputBlinding ↔ _ :=
    Schnorr.respond_eq_iff (by simpa using drawnBlinding) (by simp [fitsBlinding, count])
  obtain ⟨typeFirst, typeBlindingFirst, valuesFirst, blindingFirst, sumFirst⟩ :=
    randomness
  cases proof
  dsimp only at *
  simp only [answer, Proof.randomness, Proof.mk.injEq, Randomness.mk.injEq, same,
    values, blinding, true_and, and_true, ← eq_sub_iff_add_eq]
  tauto

theorem Statement.proveWith_eq_ok_iff_of_verify {statement : Statement S}
    {tokenType : String} {inputs outputs : List (Opening S)}
    {typeCommitment : TypeCommitment S}
    (balanced : Balanced statement.generators tokenType statement.inputs
      statement.outputs inputs outputs)
    (typeOpens : typeCommitment.Opens statement.generators tokenType)
    (checked : statement.checkWitness inputs outputs = .ok tokenType) {proof : Proof S}
    (accepted : statement.verify proof = .ok ())
    (same : proof.commitmentToType = typeCommitment.commitment)
    {randomness : Randomness S} (drawn : randomness.Sized inputs.length) :
    statement.proveWith inputs outputs typeCommitment randomness = .ok proof ↔
      randomness = proof.randomness tokenType inputs outputs typeCommitment := by
  obtain ⟨three, fits, hashed⟩ := verify_eq_ok.mp accepted
  rw [← answer_eq_iff drawn fits balanced.inputs.length_eq same, proveWith_eq_ok]
  constructor
  · rintro ⟨_, found, made⟩
    cases checked.symm.trans found
    rw [← made, answer]
    rfl
  · intro made
    have again :=
      recompute_answer three balanced.inputs balanced.outputs typeOpens balanced.sums
        drawn proof.challenge
    rw [made] at again
    rw [again, same] at hashed
    exact ⟨tokenType, checked, by rw [hashed, made]⟩

omit [LawfulG1 S] in
theorem Statement.checkWitness_of_balanced {statement : Statement S} {tokenType : String}
    {inputs outputs : List (Opening S)}
    (balanced : Balanced statement.generators tokenType statement.inputs
      statement.outputs inputs outputs) (nonempty : statement.inputs ≠ []) :
    statement.checkWitness inputs outputs = .ok tokenType := by
  obtain ⟨three, first, rest, rfl, typed⟩ :=
    exists_first_of_openAll balanced.inputs nonempty
  simp [checkWitness, three,
    typed, ← balanced.inputs.length_eq, ← balanced.outputs.length_eq]

/-- With openings of all tokens and of a commitment to their type a prover makes
exactly the proofs for this commitment that are accepted, each in one way. -/
theorem Statement.covers_prove {statement : Statement S} {tokenType : String}
    {inputs outputs : List (Opening S)} {typeCommitment : TypeCommitment S}
    (balanced : Balanced statement.generators tokenType statement.inputs
      statement.outputs inputs outputs) (nonempty : statement.inputs ≠ [])
    (typeOpens : typeCommitment.Opens statement.generators tokenType) :
    Covers S (statement.prove inputs outputs typeCommitment)
      (2 * statement.inputs.length + 3)
      fun proof => statement.verify proof = .ok () ∧
        proof.commitmentToType = typeCommitment.commitment := by
  have checked := checkWitness_of_balanced balanced nonempty
  rw [← balanced.inputs.length_eq]
  refine Covers.of_parts Randomness.Sized.length_scalars Randomness.exists_scalars_eq
    (fun sized => run_prove_eq_ok sized) ?_ ?_
    (fun accepted sized =>
      proveWith_eq_ok_iff_of_verify balanced typeOpens checked accepted.1 accepted.2
        sized)
  · intro randomness sized
    have made : statement.proveWith inputs outputs typeCommitment randomness = .ok _ :=
      proveWith_eq_ok.mpr ⟨tokenType, checked, rfl⟩
    have gives := gives_of_run ((run_prove_eq_ok sized).mpr made)
    exact ⟨_, verify_prove balanced.inputs balanced.outputs typeOpens balanced.sums
      gives, made⟩
  · rintro proof ⟨accepted, -⟩
    obtain ⟨-, fits, -⟩ := verify_eq_ok.mp accepted
    exact fits.sized_randomness balanced.inputs.length_eq

end TypeAndSum

section Hiding

variable [LawfulG1 S]

/-- Proofs of conservation for a transfer with an input do not tell the
openings. Each proof that is accepted is made with given openings for exactly
one choice of the scalars that are drawn, if a commitment to the type in the
proof is opened as well, and the proofs that are made with different openings
are distributed alike. -/
theorem conservation_proofs_hide_openings {generators inputs outputs : List S.G1}
    {tokenType : String} {inputOpenings outputOpenings : List (Opening S)}
    (nonempty : inputs ≠ [])
    (balanced : Balanced generators tokenType inputs outputs inputOpenings
      outputOpenings) :
    let clear : WellFormedness.Statement S := ⟨generators, inputs, outputs⟩
    let hidden : TypeAndSum.Statement S := ⟨generators, inputs, outputs⟩
    (∀ proof, clear.verify proof = .ok () →
      GivenOnce S (clear.prove inputOpenings outputOpenings)
        (2 * inputs.length + 2 * outputs.length + 2) proof) ∧
    (∀ typeCommitment, typeCommitment.Opens generators tokenType → ∀ proof,
      hidden.verify proof = .ok () → proof.commitmentToType = typeCommitment.commitment →
      GivenOnce S (hidden.prove inputOpenings outputOpenings typeCommitment)
        (2 * inputs.length + 3) proof) ∧
    ∀ (otherType : String) (otherInputs otherOutputs : List (Opening S)),
      Balanced generators otherType inputs outputs otherInputs otherOutputs →
      Alike S (clear.prove inputOpenings outputOpenings)
        (clear.prove otherInputs otherOutputs)
        (2 * inputs.length + 2 * outputs.length + 2) ∧
      ∀ typeCommitment otherCommitment : TypeCommitment S,
        typeCommitment.Opens generators tokenType →
          otherCommitment.Opens generators otherType →
        typeCommitment.commitment = otherCommitment.commitment →
        Alike S (hidden.prove inputOpenings outputOpenings typeCommitment)
          (hidden.prove otherInputs otherOutputs otherCommitment)
          (2 * inputs.length + 3) := by
  intro clear hidden
  have clearCovers : Covers S (clear.prove inputOpenings outputOpenings) _ _ :=
    WellFormedness.Statement.covers_prove balanced nonempty
  refine ⟨clearCovers.once, ?_, ?_⟩
  · intro typeCommitment opens proof accepted same
    have hiddenCovers :
        Covers S (hidden.prove inputOpenings outputOpenings typeCommitment) _ _ :=
      TypeAndSum.Statement.covers_prove balanced nonempty opens
    exact hiddenCovers.once proof ⟨accepted, same⟩
  · intro otherType otherInputs otherOutputs otherBalanced
    have otherCovers : Covers S (clear.prove otherInputs otherOutputs) _ _ :=
      WellFormedness.Statement.covers_prove otherBalanced nonempty
    refine ⟨clearCovers.alike otherCovers, ?_⟩
    intro typeCommitment otherCommitment opens otherOpens same
    have hiddenCovers :
        Covers S (hidden.prove inputOpenings outputOpenings typeCommitment) _ _ :=
      TypeAndSum.Statement.covers_prove balanced nonempty opens
    have otherHidden :
        Covers S (hidden.prove otherInputs otherOutputs otherCommitment) _ _ :=
      TypeAndSum.Statement.covers_prove otherBalanced nonempty otherOpens
    rw [← same] at otherHidden
    exact hiddenCovers.alike otherHidden

end Hiding

namespace Sample

open Bn254

def generators : List Fr := [2, 3, 5]

def token (opening : Opening exponentSuite) : Fr :=
  linearCombination generators
    [typeScalar opening.tokenType, wordScalar opening.value, opening.blindingFactor]

/-- Tokens of the values `7` and `3` pass to one token of the value `10`. -/
def inputs : List (Opening exponentSuite) :=
  [⟨"ABC", 7, 10⟩, ⟨"ABC", 3, 14⟩]

def outputs : List (Opening exponentSuite) :=
  [⟨"ABC", 10, 16⟩]

/-- The same tokens have the values `12` and `8`, and `20`. -/
def otherInputs : List (Opening exponentSuite) :=
  [⟨"ABC", 12, 7⟩, ⟨"ABC", 8, 11⟩]

def otherOutputs : List (Opening exponentSuite) :=
  [⟨"ABC", 20, 10⟩]

def clear : WellFormedness.Statement exponentSuite :=
  ⟨generators, inputs.map token, outputs.map token⟩

def hidden : TypeAndSum.Statement exponentSuite :=
  ⟨generators, inputs.map token, outputs.map token⟩

def typeCommitment : TypeCommitment exponentSuite where
  commitment := commitType generators (typeScalar "ABC") (6 : Fr)
  blindingFactor := 6

theorem openAll_map_token {openings : List (Opening exponentSuite)} {tokens : List Fr}
    (typed : ∀ opening ∈ openings, opening.tokenType = "ABC")
    (same : openings.map token = tokens) : OpenAll generators "ABC" openings tokens := by
  refine ⟨typed, ?_⟩
  subst same
  rw [List.forall₂_map_right_iff, List.forall₂_same]
  exact fun opening _ => Opening.commit_eq_ok.mpr ⟨rfl, rfl⟩

theorem balanced :
    Balanced generators "ABC" clear.inputs clear.outputs inputs outputs where
  inputs := openAll_map_token (by simp [inputs]) rfl
  outputs := openAll_map_token (by simp [outputs]) rfl
  sums := by decide +kernel

theorem otherBalanced :
    Balanced generators "ABC" clear.inputs clear.outputs otherInputs otherOutputs where
  inputs := openAll_map_token (by simp [otherInputs]) (by decide +kernel)
  outputs := openAll_map_token (by simp [otherOutputs]) (by decide +kernel)
  sums := by decide +kernel

/-- Proofs that are made with the first openings. -/
def clearProof : WellFormedness.Proof exponentSuite :=
  valueFrom (clear.prove inputs outputs)
    (⟨[13, 17, 19, 23, 29, 31, 37, 41]⟩ : Tape exponentSuite) (by decide +kernel)

def hiddenProof : TypeAndSum.Proof exponentSuite :=
  valueFrom (hidden.prove inputs outputs typeCommitment)
    (⟨[13, 17, 19, 23, 29, 31, 37]⟩ : Tape exponentSuite) (by decide +kernel)

/-- The proofs could have been made with the second openings, each in one
way. -/
theorem other_openings_give_proofs :
    GivenOnce exponentSuite (clear.prove otherInputs otherOutputs) 8 clearProof ∧
      GivenOnce exponentSuite (hidden.prove otherInputs otherOutputs typeCommitment) 7
        hiddenProof ∧
      Alike exponentSuite (clear.prove otherInputs otherOutputs)
        (clear.prove inputs outputs) 8 ∧
      Alike exponentSuite (hidden.prove otherInputs otherOutputs typeCommitment)
        (hidden.prove inputs outputs typeCommitment) 7 := by
  have opens : typeCommitment.Opens generators "ABC" := rfl
  have clearMade : Gives (clear.prove inputs outputs) clearProof := gives_valueFrom _ _ _
  have hiddenMade : Gives (hidden.prove inputs outputs typeCommitment) hiddenProof :=
    gives_valueFrom _ _ _
  have clearAccepted : clear.verify clearProof = .ok () :=
    WellFormedness.Statement.verify_prove balanced.inputs balanced.outputs balanced.sums
      clearMade
  have hiddenAccepted : hidden.verify hiddenProof = .ok () ∧
      hiddenProof.commitmentToType = typeCommitment.commitment :=
    TypeAndSum.Statement.verify_prove balanced.inputs balanced.outputs opens
      balanced.sums hiddenMade
  obtain ⟨clearOnce, hiddenOnce, alike⟩ :=
    conservation_proofs_hide_openings (by decide : clear.inputs ≠ []) otherBalanced
  obtain ⟨clearAlike, hiddenAlike⟩ := alike "ABC" inputs outputs balanced
  exact ⟨clearOnce clearProof clearAccepted,
    hiddenOnce typeCommitment opens hiddenProof hiddenAccepted.1 hiddenAccepted.2,
    clearAlike, hiddenAlike typeCommitment typeCommitment opens opens rfl⟩

/-- A token without a value. -/
def worthless : Opening exponentSuite :=
  ⟨"ABC", 0, 4⟩

def clearWithoutInputs : WellFormedness.Statement exponentSuite :=
  ⟨generators, [], [token worthless]⟩

def hiddenWithoutInputs : TypeAndSum.Statement exponentSuite :=
  ⟨generators, [], [token worthless]⟩

theorem balancedWithoutInputs :
    Balanced generators "ABC" clearWithoutInputs.inputs clearWithoutInputs.outputs []
      [worthless]
    where
  inputs := ⟨by simp, .nil⟩
  outputs := openAll_map_token (by simp [worthless]) rfl
  sums := by decide +kernel

/-- A proof for a transfer of nothing to a token without a value. -/
def clearProofWithoutInputs : WellFormedness.Proof exponentSuite :=
  let randomness := ⟨13, [], [], [17], [19], 23⟩
  WellFormedness.answer "ABC" [] [worthless] randomness
    (clearWithoutInputs.challenge (clearWithoutInputs.firstMessages randomness))

def hiddenProofWithoutInputs : TypeAndSum.Proof exponentSuite :=
  let randomness := ⟨13, 17, [], [], 19⟩
  TypeAndSum.answer "ABC" [] [worthless] typeCommitment randomness
    (hiddenWithoutInputs.challenge typeCommitment.commitment
      (hiddenWithoutInputs.firstMessages randomness))

/-- Where there is no input, proofs are accepted that no prover makes, as
provers ask for one. -/
theorem proofs_without_inputs_not_given :
    Balanced generators "ABC" clearWithoutInputs.inputs clearWithoutInputs.outputs []
        [worthless] ∧
      clearWithoutInputs.verify clearProofWithoutInputs = .ok () ∧
      ¬ GivenOnce exponentSuite (clearWithoutInputs.prove [] [worthless]) 4
        clearProofWithoutInputs ∧
      hiddenWithoutInputs.verify hiddenProofWithoutInputs = .ok () ∧
      hiddenProofWithoutInputs.commitmentToType = typeCommitment.commitment ∧
      ¬ GivenOnce exponentSuite
        (hiddenWithoutInputs.prove [] [worthless] typeCommitment) 3
        hiddenProofWithoutInputs := by
  obtain ⟨inputs, outputs, sums⟩ := balancedWithoutInputs
  have hiddenBalanced :
    Balanced hiddenWithoutInputs.generators "ABC" hiddenWithoutInputs.inputs
      hiddenWithoutInputs.outputs [] [worthless] := balancedWithoutInputs
  have opens : typeCommitment.Opens hiddenWithoutInputs.generators "ABC" := rfl
  refine ⟨balancedWithoutInputs, ?_, ?_, ?_, rfl, ?_⟩
  · exact WellFormedness.Statement.verify_eq_ok.mpr ⟨rfl, _,
      WellFormedness.Statement.recompute_answer rfl inputs outputs sums
        ⟨rfl, rfl, rfl, rfl⟩ _, rfl⟩
  · rintro ⟨_, ⟨-, run⟩, -⟩
    cases run
  · have recomputed : hiddenWithoutInputs.recompute hiddenProofWithoutInputs =
        hiddenWithoutInputs.firstMessages ⟨13, 17, [], [], 19⟩ :=
      TypeAndSum.Statement.recompute_answer rfl hiddenBalanced.inputs
        hiddenBalanced.outputs opens hiddenBalanced.sums ⟨rfl, rfl⟩ _
    exact TypeAndSum.Statement.verify_eq_ok.mpr ⟨rfl, ⟨rfl, rfl⟩,
      congrArg (hiddenWithoutInputs.challenge typeCommitment.commitment) recomputed⟩
  · rintro ⟨_, ⟨-, run⟩, -⟩
    cases run

end Sample

end ConfidentialToken.Transfer
