import ConfidentialToken.Issue.WellFormedness
import ConfidentialToken.RangeCorrectness

/-!
Proofs that an issue is valid: its tokens are well formed, and their values are
in range.
-/

namespace ConfidentialToken.Issue

open Json

variable {S : Suite}

structure Proof (S : Suite) where
  wellFormedness : WellFormedness.Proof S
  rangeCorrectness : RangeCorrectness S

instance : JsonForm (Proof S) where
  toJson proof := .object [
    ("well_formedness", toJson proof.wellFormedness),
    ("range_correctness", toJson proof.rangeCorrectness)]
  fromJson value := do
    let [wellFormedness, rangeCorrectness] ← value.fields
      ["well_formedness", "range_correctness"] | none
    return {
      wellFormedness := ← required wellFormedness
      rangeCorrectness := ← rangeCorrectness.bind (RangeCorrectness.ofJson 1) }

def Proof.deserialize (text : Bytes) : Result (Proof S) :=
  during "failed to unmarshal issue proof" (Json.read text)

structure Statement (S : Suite) where
  parameters : PublicParameters S
  tokens : List S.G1
  anonymous : Bool

namespace Statement

/-- What the proof that the tokens are well formed is about. -/
def wellFormedness (statement : Statement S) : WellFormedness.Statement S :=
  ⟨statement.parameters.pedersen, statement.tokens, statement.anonymous⟩

def verifyProof (statement : Statement S) (proof : Proof S) : Result Unit := do
  during "invalid issue proof" (statement.wellFormedness.verify proof.wellFormedness)
  during "invalid issue proof"
    (RangeCorrectness.verify statement.parameters statement.tokens
      proof.wellFormedness.commitmentToType proof.rangeCorrectness)

def verify (statement : Statement S) (text : Bytes) : Result Unit := do
  statement.verifyProof (← Proof.deserialize text)

/-- Proves that the tokens have the given openings, all of one type and in
range. -/
def prove {R : Type} [RandomSource S R] (statement : Statement S)
    (openings : List (Opening S)) (typeCommitment : TypeCommitment S) :
    Sampling R (Proof S) := do
  if openings.isEmpty ∨ openings.length ≠ statement.tokens.length then
    throw (.invalidInput <|
      s!"cannot create issue prover: [{statement.tokens.length}] tokens, " ++
      s!"[{openings.length}] witnesses")
  let wellFormedness ← Sampling.during "failed to generate issue proof"
    (statement.wellFormedness.prove openings typeCommitment)
  let rangeCorrectness ← Sampling.during "failed to generate range proof for issue"
    (RangeCorrectness.prove statement.parameters statement.tokens openings typeCommitment)
  return { wellFormedness, rangeCorrectness }

end Statement

end ConfidentialToken.Issue
