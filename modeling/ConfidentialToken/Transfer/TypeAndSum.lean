import ConfidentialToken.Random.Source
import ConfidentialToken.Schnorr
import ConfidentialToken.Suite
import ConfidentialToken.Token

/-!
Proofs that a transfer conserves type and value, on tokens without their type.

A commitment to the type is subtracted from every token. The prover shows that
what is left of each input involves the bases for values and blinding factors
only, and that the difference of the sums of both sides involves the base for
blinding factors only. What is left of the outputs is for a range proof to
cover.
-/

namespace ConfidentialToken.Transfer.TypeAndSum

open Json

variable {S : Suite}

structure Proof (S : Suite) where
  commitmentToType : S.G1
  inputBlinding : List S.Scalar
  inputValues : List S.Scalar
  tokenType : S.Scalar
  typeBlinding : S.Scalar
  /-- The response for the blinding factor of the difference of the sums. -/
  sumBlinding : S.Scalar
  challenge : S.Scalar

instance : JsonForm (Proof S) where
  toJson proof := .object [
    ("commitment_to_type", toJson proof.commitmentToType),
    ("input_blinding_factors", toJson proof.inputBlinding),
    ("input_values", toJson proof.inputValues),
    ("type", toJson proof.tokenType),
    ("type_blinding_factor", toJson proof.typeBlinding),
    ("equality_of_sum", toJson proof.sumBlinding),
    ("challenge", toJson proof.challenge)]
  fromJson value := do
    let [commitmentToType, inputBlinding, inputValues, tokenType, typeBlinding,
      sumBlinding, challenge] ← value.fields
      ["commitment_to_type", "input_blinding_factors", "input_values", "type",
        "type_blinding_factor", "equality_of_sum", "challenge"] | none
    return {
      commitmentToType := ← required commitmentToType
      inputBlinding := ← required inputBlinding
      inputValues := ← required inputValues
      tokenType := ← required tokenType
      typeBlinding := ← required typeBlinding
      sumBlinding := ← required sumBlinding
      challenge := ← required challenge }

structure Statement (S : Suite) where
  /-- The bases for type, value and blinding factor. -/
  generators : List S.G1
  inputs : List S.G1
  outputs : List S.G1

/-- The tokens of both sides without their type, and the difference of their
sums. -/
structure Headless (S : Suite) where
  inputs : List S.G1
  outputs : List S.G1
  difference : S.G1

structure FirstMessages (S : Suite) where
  inputs : List S.G1
  commitmentToType : S.G1
  difference : S.G1

/-- The commitment to a value and a blinding factor alone. -/
def commitValue (generators : List S.G1) (value blinding : S.Scalar) : S.G1 :=
  linearCombination generators [0, value, blinding]

namespace Statement

def headless (statement : Statement S) (commitmentToType : S.G1) : Headless S :=
  let inputs := statement.inputs.map (· - commitmentToType)
  let outputs := statement.outputs.map (· - commitmentToType)
  ⟨inputs, outputs, sum inputs - sum outputs⟩

def transcript (statement : Statement S) (commitmentToType : S.G1)
    (first : FirstMessages S) : Bytes :=
  let headless := statement.headless commitmentToType
  Transcript.encodeAll first.inputs ++ encode first.commitmentToType ++
    encode first.difference ++
    Transcript.encodeAll headless.inputs ++ Transcript.encodeAll headless.outputs ++
    encode commitmentToType ++ encode headless.difference

def challenge (statement : Statement S) (commitmentToType : S.G1)
    (first : FirstMessages S) : S.Scalar :=
  S.hashToScalar (statement.transcript commitmentToType first)

/-- The first messages of the prover to which the responses of a proof
belong. -/
def recompute (statement : Statement S) (proof : Proof S) : FirstMessages S :=
  let headless := statement.headless proof.commitmentToType
  let generators := statement.generators
  { inputs := List.zipWith
      (fun token (value, blinding) =>
        commitValue generators value blinding - proof.challenge • token)
      headless.inputs (proof.inputValues.zip proof.inputBlinding)
    commitmentToType := commitType generators proof.tokenType proof.typeBlinding -
      proof.challenge • proof.commitmentToType
    difference := commitValue generators 0 proof.sumBlinding -
      proof.challenge • headless.difference }

def verify (statement : Statement S) (proof : Proof S) : Result Unit := do
  if statement.generators.length ≠ 3 then
    throw (.invalidInput "invalid public parameters")
  if proof.inputValues.length ≠ statement.inputs.length ∨
      proof.inputBlinding.length ≠ statement.inputs.length then
    throw (.invalidInput "missing components in type and sum proof")
  if statement.challenge proof.commitmentToType (statement.recompute proof) ≠
      proof.challenge then
    throw (.invalidProof "invalid zero-knowledge transfer")

end Statement

structure Randomness (S : Suite) where
  tokenType : S.Scalar
  typeBlinding : S.Scalar
  inputValues : List S.Scalar
  inputBlinding : List S.Scalar
  sumBlinding : S.Scalar

def sample {R : Type} [RandomSource S R] (inputs : Nat) : Sampling R (Randomness S) := do
  let tokenType ← Sampling.scalar
  let typeBlinding ← Sampling.scalar
  let inputValues ← Sampling.scalars inputs
  let inputBlinding ← Sampling.scalars inputs
  let sumBlinding ← Sampling.scalar
  return { tokenType, typeBlinding, inputValues, inputBlinding, sumBlinding }

namespace Statement

/-- The type of the inputs, whose openings and those of the outputs must fit the
statement. -/
def checkWitness (statement : Statement S) (inputs outputs : List (Opening S)) :
    Result String := do
  let first :: _ := inputs
    | throw (.invalidInput "cannot compute transfer proof: no inputs")
  if statement.generators.length ≠ 3 then
    throw (.invalidInput "proof generation failed: invalid public parameters")
  if inputs.length ≠ statement.inputs.length ∨
      outputs.length ≠ statement.outputs.length then
    throw (.invalidInput "cannot compute transfer proof: malformed witness")
  return first.tokenType

def firstMessages (statement : Statement S) (randomness : Randomness S) :
    FirstMessages S where
  inputs := List.zipWith (commitValue statement.generators) randomness.inputValues
    randomness.inputBlinding
  commitmentToType :=
    commitType statement.generators randomness.tokenType randomness.typeBlinding
  difference := commitValue statement.generators 0 randomness.sumBlinding

def proveWith (statement : Statement S) (inputs outputs : List (Opening S))
    (typeCommitment : TypeCommitment S) (randomness : Randomness S) :
    Result (Proof S) := do
  let tokenType ← statement.checkWitness inputs outputs
  let challenge :=
    statement.challenge typeCommitment.commitment (statement.firstMessages randomness)
  let blinding (openings : List (Opening S)) : List S.Scalar :=
    openings.map fun opening => opening.blindingFactor - typeCommitment.blindingFactor
  return {
    commitmentToType := typeCommitment.commitment
    inputBlinding := Schnorr.respond challenge (blinding inputs) randomness.inputBlinding
    inputValues := Schnorr.respond challenge
      (inputs.map fun opening => wordScalar opening.value) randomness.inputValues
    tokenType := randomness.tokenType + challenge * typeScalar tokenType
    typeBlinding := randomness.typeBlinding + challenge * typeCommitment.blindingFactor
    sumBlinding := randomness.sumBlinding +
      challenge * (sum (blinding inputs) - sum (blinding outputs))
    challenge := challenge }

/-- Proves that the inputs have the given openings, and that the values of both
sides have one sum. -/
def prove {R : Type} [RandomSource S R] (statement : Statement S)
    (inputs outputs : List (Opening S)) (typeCommitment : TypeCommitment S) :
    Sampling R (Proof S) := do
  let _ ← statement.checkWitness inputs outputs
  let randomness ← sample inputs.length
  statement.proveWith inputs outputs typeCommitment randomness

end Statement

end ConfidentialToken.Transfer.TypeAndSum
