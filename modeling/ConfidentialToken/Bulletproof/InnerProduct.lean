import ConfidentialToken.Arithmetic
import ConfidentialToken.Json.Schema
import ConfidentialToken.Suite

/-!
The inner product argument.

A commitment opens to two vectors whose inner product is a public value. Each
round halves the vectors and the generators, so that a proof has one pair of
points for each round and two scalars at the end.
-/

namespace ConfidentialToken.Bulletproof.InnerProduct

open Json

variable {S : Suite}

structure Proof (S : Suite) where
  /-- What remains of the left vector. -/
  left : S.Scalar
  /-- What remains of the right vector. -/
  right : S.Scalar
  l : List S.G1
  r : List S.G1

instance : JsonForm (Proof S) where
  toJson proof := .object [
    ("left", toJson proof.left),
    ("right", toJson proof.right),
    ("l", toJson proof.l),
    ("r", toJson proof.r)]
  fromJson value := do
    let [left, right, l, r] ← value.fields ["left", "right", "l", "r"] | none
    return { left := ← required left, right := ← required right, l := ← required l
             r := ← required r }

structure Statement (S : Suite) where
  innerProduct : S.Scalar
  /-- The base for inner products. -/
  q : S.G1
  leftGenerators : List S.G1
  rightGenerators : List S.G1
  commitment : S.G1
  rounds : UInt64

/-- The number of generators for a number of rounds, of which the low 32 bits
count. -/
def generatorCount? (rounds : UInt64) : Option Nat :=
  let shift := rounds.toNat % UInt32.size
  if shift < 64 then some (Nat.pow 2 shift) else none

def invert (scalar : S.Scalar) : Result S.Scalar :=
  if scalar = 0 then .error (.invalidInput "cannot invert zero") else .ok scalar⁻¹

/-- The bytes whose hash is the challenge of a round. -/
def roundTranscript (l r : S.G1) : Bytes :=
  encode l ++ encode r

def roundChallenge (l r : S.G1) : S.Scalar :=
  S.hashToScalar (roundTranscript l r)

namespace Statement

/-- The bytes whose hash is the challenge that scales the base for inner
products. -/
def initialTranscript (statement : Statement S) : Bytes :=
  Transcript.encodeAll statement.rightGenerators ++
    Transcript.encodeAll statement.leftGenerators ++ encode statement.q ++
    encode statement.commitment ++ Transcript.separator ++ encode statement.innerProduct

/-- The challenge that scales the base for inner products. -/
def initialChallenge (statement : Statement S) : S.Scalar :=
  S.hashToScalar statement.initialTranscript

/-- Whether the generators are as many as the rounds ask for. -/
def sized (statement : Statement S) : Bool :=
  statement.leftGenerators.length = statement.rightGenerators.length &&
    generatorCount? statement.rounds = some statement.leftGenerators.length

end Statement

/-- The first half of a vector times one factor plus the second half times
another. -/
def fold {F α : Type} [Add α] [SMul F α] (vector : List α) (first second : F) : List α :=
  let half := vector.length / 2
  List.zipWith (fun a b => first • a + second • b) (vector.take half) (vector.drop half)

def foldScalars (vector : List S.Scalar) (first second : S.Scalar) : List S.Scalar :=
  let half := vector.length / 2
  List.zipWith (fun a b => first * a + second * b) (vector.take half) (vector.drop half)

/-- What a prover has at the start of a round. -/
structure Vectors (S : Suite) where
  leftGenerators : List S.G1
  rightGenerators : List S.G1
  left : List S.Scalar
  right : List S.Scalar

namespace Vectors

/-- The point that commits to the cross terms of the lower half of the left
vector. -/
def leftCross (vectors : Vectors S) (base : S.G1) : S.G1 :=
  let half := vectors.left.length / 2
  linearCombination (vectors.leftGenerators.drop half) (vectors.left.take half) +
    linearCombination (vectors.rightGenerators.take half) (vectors.right.drop half) +
    dotProduct (vectors.left.take half) (vectors.right.drop half) • base

/-- The point that commits to the cross terms of the upper half of the left
vector. -/
def rightCross (vectors : Vectors S) (base : S.G1) : S.G1 :=
  let half := vectors.left.length / 2
  linearCombination (vectors.leftGenerators.take half) (vectors.left.drop half) +
    linearCombination (vectors.rightGenerators.drop half) (vectors.right.take half) +
    dotProduct (vectors.left.drop half) (vectors.right.take half) • base

/-- The halved vectors and generators for a challenge. -/
def halve (vectors : Vectors S) (challenge inverse : S.Scalar) : Vectors S where
  leftGenerators := fold vectors.leftGenerators inverse challenge
  rightGenerators := fold vectors.rightGenerators challenge inverse
  left := foldScalars vectors.left challenge inverse
  right := foldScalars vectors.right inverse challenge

end Vectors

/-- The remaining rounds of a proof; `base` is the scaled base for inner
products. -/
def proveRounds (base : S.G1) : (rounds : Nat) → Vectors S → Result (Proof S)
  | 0, vectors =>
      match vectors.left, vectors.right with
      | left :: _, right :: _ => .ok { left := left, right := right, l := [], r := [] }
      -- Halved too often: the rounds are more than the low bits of their number
      -- say.
      | _, _ =>
          .error (.invalidInput "index out of bounds: the len is 0 but the index is 0")
  | rounds + 1, vectors => do
      let l := vectors.leftCross base
      let r := vectors.rightCross base
      let challenge := roundChallenge l r
      let inverse ← invert challenge
      let proof ← proveRounds base rounds (vectors.halve challenge inverse)
      return { proof with l := l :: proof.l, r := r :: proof.r }

/-- Proves that two vectors have the inner product of the statement. -/
def prove (statement : Statement S) (left right : List S.Scalar) : Result (Proof S) := do
  if !statement.sized || left.length ≠ statement.leftGenerators.length ||
      right.length ≠ statement.leftGenerators.length then
    throw (.invalidInput
      "cannot compute inner product argument: vector sizes do not match number of rounds")
  proveRounds (statement.initialChallenge • statement.q) statement.rounds.toNat {
    leftGenerators := statement.leftGenerators
    rightGenerators := statement.rightGenerators
    left := left
    right := right }

/-- The factors with which generators enter the folded one, for the challenges
of the rounds and their inverses. The first round decides between the two
halves. -/
def foldingFactors : List (S.Scalar × S.Scalar) → List S.Scalar
  | [] => [1]
  | (challenge, inverse) :: rest =>
      let factors := foldingFactors rest
      factors.map (inverse * ·) ++ factors.map (challenge * ·)

def verify (statement : Statement S) (proof : Proof S) : Result Unit := do
  if proof.l.length ≠ proof.r.length ∨ proof.l.length ≠ statement.rounds.toNat then
    throw (.invalidProof "invalid IPA proof")
  if !statement.sized then
    throw (.invalidInput
      "cannot verify inner product argument: generators do not match number of rounds")
  let initial := statement.initialChallenge
  let base := initial • statement.q
  let challenges := List.zipWith roundChallenge proof.l proof.r
  let inverses ← challenges.mapM invert
  let expected :=
    statement.commitment + (initial * statement.innerProduct) • statement.q +
    linearCombination proof.l (challenges.map fun x => x * x) +
    linearCombination proof.r (inverses.map fun x => x * x)
  let foldedLeft := linearCombination statement.leftGenerators
    (foldingFactors (challenges.zip inverses))
  let foldedRight := linearCombination statement.rightGenerators
    (foldingFactors (inverses.zip challenges))
  if proof.left • foldedLeft + proof.right • foldedRight +
    (proof.left * proof.right) • base ≠
      expected then
    throw (.invalidProof "invalid IPA")

end ConfidentialToken.Bulletproof.InnerProduct
