import ConfidentialToken.Bulletproof.RangeProof
import ConfidentialToken.DigitRange.RangeProof
import ConfidentialToken.PublicParameters
import ConfidentialToken.Token

/-!
Proofs that the values of tokens are in the range of the public parameters.

The parameters decide how this is proved. Proofs over bits are about the
differences between the tokens and a commitment to their common type, which
involve the bases for values and blinding factors only.
-/

namespace ConfidentialToken

open Json

variable {S : Suite}

inductive RangeCorrectness (S : Suite) where
  | bulletproof (proofs : Bulletproof.RangeProofs S)
  | membership (proof : DigitRange.RangeProof S)

namespace RangeCorrectness

def engine : RangeCorrectness S → RangeEngine
  | .bulletproof _ => .bulletproof
  | .membership _ => .membership

/-- Reads a proof inside `enclosing` other containers. -/
def ofJson (enclosing : Nat) (value : Value) : Option (RangeCorrectness S) := do
  let (name, proof) ← value.tagged "engine" "proof" enclosing
  match ← RangeEngine.ofName? name with
  | .bulletproof => return .bulletproof (← fromJson proof)
  | .membership => return .membership (← fromJson proof)

instance : JsonForm (RangeCorrectness S) where
  toJson correctness := .object [
    ("engine", toJson correctness.engine),
    ("proof",
      match correctness with
      | .bulletproof proofs => toJson proofs
      | .membership proof => toJson proof)]
  fromJson := ofJson 0

def bitStatements (parameters : PublicParameters S) (tokens : List S.G1)
    (commitmentToType : S.G1) : Result (Bulletproof.Statements S) :=
  match parameters.pedersen with
  | [_, valueBase, blindingBase] => do
      let bits ← parameters.requireBulletproof
      return {
        commitments := tokens.map (· - commitmentToType)
        g := valueBase
        h := blindingBase
        parameters := bits }
  | _ => .error (.invalidParameters "invalid pedersen generators")

/-- The statement that a proof over digits is about. -/
def digitStatement (parameters : PublicParameters S) (tokens : List S.G1) :
    Result (DigitRange.Statement S) := do
  return {
    tokens := tokens
    generators := parameters.pedersen
    parameters := ← parameters.requireMembership }

/-- Proves that tokens with the given openings have values in range. -/
def prove {R : Type} [RandomSource S R] (parameters : PublicParameters S)
    (tokens : List S.G1) (openings : List (Opening S))
    (typeCommitment : TypeCommitment S) : Sampling R (RangeCorrectness S) := do
  if openings.length ≠ tokens.length then
    throw (.invalidInput <|
      s!"cannot compute range proof: [{tokens.length}] tokens, " ++
      s!"[{openings.length}] witnesses")
  if let some opening := openings.find? fun opening =>
      parameters.maxToken < opening.value then
    throw (.outOfRange opening.value parameters.maxToken)
  match parameters.engine with
  | .bulletproof =>
      let statements ← bitStatements parameters tokens typeCommitment.commitment
      return .bulletproof (← statements.prove (openings.map Opening.value)
        (openings.map fun opening =>
          opening.blindingFactor - typeCommitment.blindingFactor))
  | .membership =>
      let statement ← digitStatement parameters tokens
      return .membership (← statement.prove openings)

def verify (parameters : PublicParameters S) (tokens : List S.G1)
    (commitmentToType : S.G1) (proof : RangeCorrectness S) : Result Unit := do
  if proof.engine ≠ parameters.engine then
    throw (.invalidProof "range proof does not match the configured engine")
  match proof with
  | .bulletproof proofs =>
      (← bitStatements parameters tokens commitmentToType).verify proofs
  | .membership proof => (← digitStatement parameters tokens).verify proof

end RangeCorrectness

end ConfidentialToken
