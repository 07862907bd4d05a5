import ConfidentialToken.RangeCorrectness
import ConfidentialToken.Transfer.TypeAndSum
import ConfidentialToken.Transfer.WellFormedness

/-!
Proofs that a transfer is valid: it conserves type and value, and the values of
its outputs are in range.

Conservation is proved in the way that suits the construction of range proofs.
Where one input passes to one output the value does not change, so there is no
range proof.
-/

namespace ConfidentialToken.Transfer

open Json

variable {S : Suite}

/-- A proof that type and value are conserved. -/
inductive Conservation (S : Suite) where
  | wellFormedness (proof : WellFormedness.Proof S)
  | typeAndSum (proof : TypeAndSum.Proof S)

namespace Conservation

/-- Reads a proof inside `enclosing` other containers. -/
def ofJson (enclosing : Nat) (value : Value) : Option (Conservation S) := do
  let (kind, proof) ← value.tagged "kind" "proof" enclosing
  match kind with
  | "well_formedness" => return .wellFormedness (← fromJson proof)
  | "type_and_sum" => return .typeAndSum (← fromJson proof)
  | _ => none

instance : JsonForm (Conservation S) where
  toJson
    | .wellFormedness proof =>
        .object [("kind", .string "well_formedness"), ("proof", toJson proof)]
    | .typeAndSum proof =>
        .object [("kind", .string "type_and_sum"), ("proof", toJson proof)]
  fromJson := ofJson 0

end Conservation

structure Proof (S : Suite) where
  conservation : Conservation S
  /-- Absent where one input passes to one output. -/
  rangeCorrectness : Option (RangeCorrectness S)

instance : JsonForm (Proof S) where
  toJson proof := .object [
    ("well_formedness", toJson proof.conservation),
    ("range_correctness", toJson proof.rangeCorrectness)]
  fromJson value := do
    let [conservation, rangeCorrectness] ← value.fields
      ["well_formedness", "range_correctness"] | none
    return {
      conservation := ← conservation.bind (Conservation.ofJson 1)
      rangeCorrectness := ←
        match rangeCorrectness with
        | none | some .null => some none
        | some correctness => (RangeCorrectness.ofJson 1 correctness).map some }

def Proof.deserialize (text : Bytes) : Result (Proof S) :=
  during "invalid transfer proof" (Json.read text)

structure Statement (S : Suite) where
  parameters : PublicParameters S
  inputs : List S.G1
  outputs : List S.G1

namespace Statement

def changesOwnerOnly (statement : Statement S) : Bool :=
  statement.inputs.length = 1 && statement.outputs.length = 1

/-- What a proof on the tokens as they are is about. -/
def wellFormedness (statement : Statement S) : WellFormedness.Statement S :=
  ⟨statement.parameters.pedersen, statement.inputs, statement.outputs⟩

/-- What a proof on the tokens without their type is about. -/
def typeAndSum (statement : Statement S) : TypeAndSum.Statement S :=
  ⟨statement.parameters.pedersen, statement.inputs, statement.outputs⟩

/-- Checks a proof of conservation, and gives the commitment to the type for the
range proof. -/
def verifyConservation (statement : Statement S) (proof : Conservation S) : Result S.G1 :=
  match proof, statement.parameters.engine with
  | .wellFormedness proof, .membership => do
      during "invalid transfer proof" (statement.wellFormedness.verify proof)
      return 0
  | .typeAndSum proof, .bulletproof => do
      during "invalid transfer proof" (statement.typeAndSum.verify proof)
      return proof.commitmentToType
  | _, _ => .error (.invalidProof
      "invalid transfer proof: proof does not match the configured engine")

def verifyProof (statement : Statement S) (proof : Proof S) : Result Unit := do
  let commitmentToType ← statement.verifyConservation proof.conservation
  if !statement.changesOwnerOnly then
    let some correctness := proof.rangeCorrectness
      | throw (.invalidProof "invalid transfer proof")
    during "invalid transfer proof"
      (RangeCorrectness.verify statement.parameters statement.outputs commitmentToType
        correctness)

def verify (statement : Statement S) (text : Bytes) : Result Unit := do
  statement.verifyProof (← Proof.deserialize text)

/-- The common type of the openings, which must fit the statement. -/
def commonType (statement : Statement S) (inputs outputs : List (Opening S)) :
    Result String :=
  match inputs with
  | [] => .error (.invalidInput "invalid token witness")
  | first :: _ =>
      if inputs.length ≠ statement.inputs.length ∨
          outputs.length ≠ statement.outputs.length then
        .error (.invalidInput "invalid token witness")
      else if (inputs ++ outputs).any fun opening =>
          opening.tokenType ≠ first.tokenType then
        .error (.invalidInput
          "cannot generate transfer: please choose inputs of the same token type")
      else .ok first.tokenType

/-- Proves conservation in the way that the parameters ask for. -/
def proveConservation {R : Type} [RandomSource S R] (statement : Statement S)
    (inputs outputs : List (Opening S)) (typeCommitment : TypeCommitment S) :
    Sampling R (Conservation S) :=
  Sampling.during "failed to generate transfer proof" do
    match statement.parameters.engine with
    | .membership =>
        return .wellFormedness (← statement.wellFormedness.prove inputs outputs)
    | .bulletproof =>
        return .typeAndSum (← statement.typeAndSum.prove inputs outputs typeCommitment)

/-- Proves that inputs and outputs have the given openings, all of one type,
that both sides have one sum, and that the outputs are in range. -/
def prove {R : Type} [RandomSource S R] (statement : Statement S)
    (inputs outputs : List (Opening S)) : Sampling R (Proof S) := do
  let tokenType ← statement.commonType inputs outputs
  let typeCommitment ← TypeCommitment.sample statement.parameters.pedersen tokenType
  let conservation ← statement.proveConservation inputs outputs typeCommitment
  if statement.changesOwnerOnly then
    return { conservation, rangeCorrectness := none }
  let correctness ← Sampling.during "failed to generate range proof for transfer"
    (RangeCorrectness.prove statement.parameters statement.outputs outputs typeCommitment)
  return { conservation, rangeCorrectness := some correctness }

end Statement

end ConfidentialToken.Transfer
