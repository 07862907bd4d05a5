import ConfidentialToken.Random.Source
import ConfidentialToken.Schnorr
import ConfidentialToken.Suite
import ConfidentialToken.Token

/-!
Proofs that issued tokens are well formed.

The prover knows the openings of all tokens and of a commitment to their type,
and all of them have the same type. Where the issuer is not anonymous the type
is disclosed, and the verifier computes the response for the type.
-/

namespace ConfidentialToken.Issue.WellFormedness

open Json

variable {S : Suite}

structure Proof (S : Suite) where
  /-- The response for the type, zero if the type is disclosed. -/
  tokenType : S.Scalar
  values : List S.Scalar
  blindingFactors : List S.Scalar
  typeBlinding : S.Scalar
  /-- The type, empty if it is hidden. -/
  disclosedType : String
  commitmentToType : S.G1
  challenge : S.Scalar

instance : JsonForm (Proof S) where
  toJson proof := .object [
    ("type", toJson proof.tokenType),
    ("values", toJson proof.values),
    ("blinding_factors", toJson proof.blindingFactors),
    ("type_blinding_factor", toJson proof.typeBlinding),
    ("type_in_the_clear", toJson proof.disclosedType),
    ("commitment_to_type", toJson proof.commitmentToType),
    ("challenge", toJson proof.challenge)]
  fromJson value := do
    let [tokenType, values, blindingFactors, typeBlinding, disclosedType,
      commitmentToType, challenge] ← value.fields
      ["type", "values", "blinding_factors", "type_blinding_factor", "type_in_the_clear",
        "commitment_to_type", "challenge"] | none
    return {
      tokenType := ← required tokenType
      values := ← required values
      blindingFactors := ← required blindingFactors
      typeBlinding := ← required typeBlinding
      disclosedType := ← optional "" disclosedType
      commitmentToType := ← required commitmentToType
      challenge := ← required challenge }

structure Statement (S : Suite) where
  /-- The bases for type, value and blinding factor. -/
  generators : List S.G1
  tokens : List S.G1
  /-- Whether the issuer is anonymous, and the type hidden. -/
  anonymous : Bool

/-- The first messages of a prover: one for each token, and one for the type. -/
structure FirstMessages (S : Suite) where
  tokens : List S.G1
  commitmentToType : S.G1

namespace Statement

def transcript (statement : Statement S) (commitmentToType : S.G1)
    (first : FirstMessages S) : Bytes :=
  Transcript.encodeAll statement.generators ++ Transcript.encodeAll statement.tokens ++
    encode commitmentToType ++ Transcript.encodeAll first.tokens ++
    encode first.commitmentToType ++ [if statement.anonymous then 1 else 0]

def challenge (statement : Statement S) (commitmentToType : S.G1)
    (first : FirstMessages S) : S.Scalar :=
  S.hashToScalar (statement.transcript commitmentToType first)

def checkGenerators (statement : Statement S) : Result Unit :=
  if statement.generators.length ≠ 3 then
    .error (.invalidInput
      s!"invalid pedersen parameters: expect [3], got [{statement.generators.length}]")
  else .ok ()

def typeResponse (statement : Statement S) (proof : Proof S) : S.Scalar :=
  if statement.anonymous then proof.tokenType
  else proof.challenge * typeScalar proof.disclosedType

/-- The first messages of the prover to which the responses of a proof
belong. -/
def recompute (statement : Statement S) (proof : Proof S) : FirstMessages S :=
  let tokenType := statement.typeResponse proof
  { tokens := List.zipWith
      (fun token (value, blinding) =>
        Schnorr.firstMessage statement.generators token [tokenType, value, blinding]
          proof.challenge)
      statement.tokens (proof.values.zip proof.blindingFactors)
    commitmentToType := commitType statement.generators tokenType proof.typeBlinding -
      proof.challenge • proof.commitmentToType }

def checkShape (statement : Statement S) (proof : Proof S) : Result Unit := do
  statement.checkGenerators
  if proof.values.length ≠ statement.tokens.length ∨
      proof.blindingFactors.length ≠ statement.tokens.length then
    throw (.invalidInput
      "issue proof not well formed: number of responses does not match number of tokens")
  if !statement.anonymous && proof.disclosedType.isEmpty then
    throw (.invalidInput "non-anonymous issue must disclose the type")

def verify (statement : Statement S) (proof : Proof S) : Result Unit := do
  statement.checkShape proof
  if statement.challenge proof.commitmentToType (statement.recompute proof) ≠
      proof.challenge then
    throw (.invalidProof "invalid zero-knowledge issue")

end Statement

structure Randomness (S : Suite) where
  /-- Zero if the type is disclosed. -/
  tokenType : S.Scalar
  values : List S.Scalar
  blindingFactors : List S.Scalar
  typeBlinding : S.Scalar

def sample {R : Type} [RandomSource S R] (anonymous : Bool) (count : Nat) :
    Sampling R (Randomness S) := do
  let tokenType ← if anonymous then Sampling.scalar else pure 0
  let values ← Sampling.scalars count
  let blindingFactors ← Sampling.scalars count
  let typeBlinding ← Sampling.scalar
  return { tokenType, values, blindingFactors, typeBlinding }

namespace Statement

/-- The common type of openings, which must fit the statement. -/
def commonType (statement : Statement S) (openings : List (Opening S)) :
    Result String := do
  statement.checkGenerators
  let count := statement.tokens.length
  match openings with
  | [] =>
      throw (.invalidInput s!"cannot prove issue: [{count}] tokens, [0] witnesses")
  | first :: _ =>
      if openings.length ≠ count then
        throw (.invalidInput
          s!"cannot prove issue: [{count}] tokens, [{openings.length}] witnesses")
      if openings.any fun opening => opening.tokenType ≠ first.tokenType then
        throw (.invalidInput "issued tokens must all have the same type")
      return first.tokenType

def firstMessages (statement : Statement S) (randomness : Randomness S) :
    FirstMessages S where
  tokens := List.zipWith
    (fun value blinding =>
      linearCombination statement.generators [randomness.tokenType, value, blinding])
    randomness.values randomness.blindingFactors
  commitmentToType :=
    commitType statement.generators randomness.tokenType randomness.typeBlinding

def proveWith (statement : Statement S) (openings : List (Opening S))
    (typeCommitment : TypeCommitment S) (randomness : Randomness S) :
    Result (Proof S) := do
  let tokenType ← statement.commonType openings
  let challenge :=
    statement.challenge typeCommitment.commitment (statement.firstMessages randomness)
  return {
    tokenType :=
      if statement.anonymous then
        randomness.tokenType + challenge * typeScalar tokenType
      else 0
    values :=
      Schnorr.respond challenge (openings.map fun opening => wordScalar opening.value)
        randomness.values
    blindingFactors := Schnorr.respond challenge (openings.map Opening.blindingFactor)
      randomness.blindingFactors
    typeBlinding := randomness.typeBlinding + challenge * typeCommitment.blindingFactor
    disclosedType := if statement.anonymous then "" else tokenType
    commitmentToType := typeCommitment.commitment
    challenge := challenge }

/-- Proves that the tokens have the given openings, all of one type. -/
def prove {R : Type} [RandomSource S R] (statement : Statement S)
    (openings : List (Opening S)) (typeCommitment : TypeCommitment S) :
    Sampling R (Proof S) := do
  let _ ← statement.commonType openings
  let randomness ← sample statement.anonymous openings.length
  statement.proveWith openings typeCommitment randomness

end Statement

end ConfidentialToken.Issue.WellFormedness
