import ConfidentialToken.Random.Source
import ConfidentialToken.Schnorr
import ConfidentialToken.Suite
import ConfidentialToken.Token

/-!
Proofs that a transfer is well formed, on tokens as they are.

The prover knows the openings of all inputs and outputs, which have one type. On
each side it also proves the opening of the sum of all tokens, and the response
for the value of that sum is the same on both sides, so that the sums are equal.
-/

namespace ConfidentialToken.Transfer.WellFormedness

open Json

variable {S : Suite}

structure Proof (S : Suite) where
  inputValues : List S.Scalar
  inputBlinding : List S.Scalar
  outputValues : List S.Scalar
  outputBlinding : List S.Scalar
  tokenType : S.Scalar
  /-- The response for the sum of the values of either side. -/
  sum : S.Scalar
  challenge : S.Scalar

instance : JsonForm (Proof S) where
  toJson proof := .object [
    ("input_values", toJson proof.inputValues),
    ("input_blinding_factors", toJson proof.inputBlinding),
    ("output_values", toJson proof.outputValues),
    ("output_blinding_factors", toJson proof.outputBlinding),
    ("type", toJson proof.tokenType),
    ("sum", toJson proof.sum),
    ("challenge", toJson proof.challenge)]
  fromJson value := do
    let [inputValues, inputBlinding, outputValues, outputBlinding, tokenType, sum,
      challenge] ←
      value.fields
      ["input_values", "input_blinding_factors", "output_values",
        "output_blinding_factors", "type", "sum", "challenge"] | none
    return {
      inputValues := ← required inputValues
      inputBlinding := ← required inputBlinding
      outputValues := ← required outputValues
      outputBlinding := ← required outputBlinding
      tokenType := ← required tokenType
      sum := ← required sum
      challenge := ← required challenge }

structure Statement (S : Suite) where
  /-- The bases for type, value and blinding factor. -/
  generators : List S.G1
  inputs : List S.G1
  outputs : List S.G1

/-- The first messages of a prover for each side: one for each token, then one
for their sum. -/
structure FirstMessages (S : Suite) where
  inputs : List S.G1
  outputs : List S.G1

/-- The commitments to values of one type, followed by the commitment to their
sum. -/
def commitSide (generators : List S.G1) (tokenType : S.Scalar)
    (values blinding : List S.Scalar) (total : S.Scalar) : List S.G1 :=
  List.zipWith (fun value blinding =>
    linearCombination generators [tokenType, value, blinding])
      values blinding ++
    [linearCombination generators
      [tokenType * ScalarOperations.ofNat values.length, total,
        ConfidentialToken.sum blinding]]

namespace Statement

def transcript (statement : Statement S) (first : FirstMessages S) : Bytes :=
  Transcript.encodeAll first.inputs ++ Transcript.encodeAll first.outputs ++
    Transcript.encodeAll statement.inputs ++ Transcript.encodeAll statement.outputs

def challenge (statement : Statement S) (first : FirstMessages S) : S.Scalar :=
  S.hashToScalar (statement.transcript first)

/-- The first messages for one side to which the responses of a proof belong. -/
def recomputeSide (statement : Statement S) (tokens : List S.G1)
    (values blinding : List S.Scalar) (proof : Proof S) : Result (List S.G1) :=
  if values.length ≠ tokens.length ∨ blinding.length ≠ tokens.length then
    .error (.invalidInput "failed to parse proof")
  else .ok (List.zipWith (fun commitment token => commitment - proof.challenge • token)
    (commitSide statement.generators proof.tokenType values blinding proof.sum)
    (tokens ++ [ConfidentialToken.sum tokens]))

/-- The first messages of the prover to which the responses of a proof
belong. -/
def recompute (statement : Statement S) (proof : Proof S) : Result (FirstMessages S) := do
  let inputs ← during "invalid transfer proof"
    (statement.recomputeSide statement.inputs proof.inputValues proof.inputBlinding proof)
  let outputs ← during "invalid transfer proof"
    (statement.recomputeSide statement.outputs proof.outputValues proof.outputBlinding
      proof)
  return { inputs, outputs }

def verify (statement : Statement S) (proof : Proof S) : Result Unit := do
  if statement.generators.length ≠ 3 then
    throw (.invalidInput "invalid public parameters")
  let first ← statement.recompute proof
  if statement.challenge first ≠ proof.challenge then
    throw (.invalidProof "invalid zero-knowledge transfer")

end Statement

structure Randomness (S : Suite) where
  tokenType : S.Scalar
  inputValues : List S.Scalar
  inputBlinding : List S.Scalar
  outputValues : List S.Scalar
  outputBlinding : List S.Scalar
  sum : S.Scalar

def sample {R : Type} [RandomSource S R] (inputs outputs : Nat) :
    Sampling R (Randomness S) := do
  let tokenType ← Sampling.scalar
  let inputValues ← Sampling.scalars inputs
  let inputBlinding ← Sampling.scalars inputs
  let outputValues ← Sampling.scalars outputs
  let outputBlinding ← Sampling.scalars outputs
  let sum ← Sampling.scalar
  return { tokenType, inputValues, inputBlinding, outputValues, outputBlinding, sum }

namespace Statement

/-- The type of the inputs, whose openings and those of the outputs must fit the
statement. -/
def checkWitness (statement : Statement S) (inputs outputs : List (Opening S)) :
    Result String := do
  let first :: _ := inputs
    | throw (.invalidInput "cannot compute transfer proof: no inputs")
  if inputs.length ≠ statement.inputs.length ∨
      outputs.length ≠ statement.outputs.length then
    throw (.invalidInput "cannot compute transfer proof: malformed witness")
  if statement.generators.length ≠ 3 then
    throw (.invalidInput "proof generation failed: invalid public parameters")
  return first.tokenType

def firstMessages (statement : Statement S) (randomness : Randomness S) :
    FirstMessages S where
  inputs := commitSide statement.generators randomness.tokenType randomness.inputValues
    randomness.inputBlinding randomness.sum
  outputs := commitSide statement.generators randomness.tokenType randomness.outputValues
    randomness.outputBlinding randomness.sum

def proveWith (statement : Statement S) (inputs outputs : List (Opening S))
    (randomness : Randomness S) : Result (Proof S) := do
  let tokenType ← statement.checkWitness inputs outputs
  let challenge := statement.challenge (statement.firstMessages randomness)
  let values (openings : List (Opening S)) : List S.Scalar :=
    openings.map fun opening => wordScalar opening.value
  return {
    inputValues := Schnorr.respond challenge (values inputs) randomness.inputValues
    inputBlinding := Schnorr.respond challenge (inputs.map Opening.blindingFactor)
      randomness.inputBlinding
    outputValues := Schnorr.respond challenge (values outputs) randomness.outputValues
    outputBlinding := Schnorr.respond challenge (outputs.map Opening.blindingFactor)
      randomness.outputBlinding
    tokenType := randomness.tokenType + challenge * typeScalar tokenType
    sum := randomness.sum + challenge * ConfidentialToken.sum (values inputs)
    challenge := challenge }

/-- Proves that inputs and outputs have the given openings. -/
def prove {R : Type} [RandomSource S R] (statement : Statement S)
    (inputs outputs : List (Opening S)) : Sampling R (Proof S) := do
  let _ ← statement.checkWitness inputs outputs
  let randomness ← sample inputs.length outputs.length
  statement.proveWith inputs outputs randomness

end Statement

end ConfidentialToken.Transfer.WellFormedness
