import ConfidentialToken.Arithmetic
import ConfidentialToken.Bulletproof.InnerProduct
import ConfidentialToken.Bulletproof.Parameters
import ConfidentialToken.Random.Source

/-!
Range proofs over bits.

A commitment over two bases hides a value below `2 ^ n`. The prover commits to
the bits of the value and to the bits minus one, collapses the conditions on
them with challenges into one inner product, and proves that inner product.
-/

namespace ConfidentialToken.Bulletproof

open Json

variable {S : Suite}

structure RangeProof (S : Suite) where
  /-- The commitment to the linear coefficient of the collapsed polynomial. -/
  t1 : S.G1
  /-- The commitment to its quadratic coefficient. -/
  t2 : S.G1
  tau : S.Scalar
  /-- The commitment to the bits and to the bits minus one. -/
  c : S.G1
  /-- The commitment to the vectors that blind them. -/
  d : S.G1
  delta : S.Scalar
  innerProduct : S.Scalar
  argument : InnerProduct.Proof S

instance : JsonForm (RangeProof S) where
  toJson proof := .object [
    ("t1", toJson proof.t1),
    ("t2", toJson proof.t2),
    ("tau", toJson proof.tau),
    ("c", toJson proof.c),
    ("d", toJson proof.d),
    ("delta", toJson proof.delta),
    ("inner_product", toJson proof.innerProduct),
    ("ipa", toJson proof.argument)]
  fromJson value := do
    let [t1, t2, tau, c, d, delta, innerProduct, argument] ← value.fields
      ["t1", "t2", "tau", "c", "d", "delta", "inner_product", "ipa"] | none
    return {
      t1 := ← required t1
      t2 := ← required t2
      tau := ← required tau
      c := ← required c
      d := ← required d
      delta := ← required delta
      innerProduct := ← required innerProduct
      argument := ← required argument }

structure Statement (S : Suite) where
  commitment : S.G1
  /-- The base for the value. -/
  g : S.G1
  /-- The base for the blinding factor. -/
  h : S.G1
  parameters : Parameters S

def transcriptY (c d commitment : S.G1) : Bytes :=
  encode c ++ encode d ++ encode commitment

/-- The challenge that separates the conditions on single bits. -/
def challengeY (c d commitment : S.G1) : S.Scalar :=
  S.hashToScalar (transcriptY c d commitment)

/-- The challenge that separates the kinds of conditions. -/
def challengeZ (y : S.Scalar) : S.Scalar :=
  S.hashToScalar (encode y)

def transcriptX (t1 t2 : S.G1) : Bytes :=
  encode t1 ++ encode t2

/-- The challenge at which the collapsed polynomial is evaluated. -/
def challengeX (t1 t2 : S.G1) : S.Scalar :=
  S.hashToScalar (transcriptX t1 t2)

/-- The right generators, each multiplied by the inverse of a power of `y`. -/
def scaleRight (generators : List S.G1) (powersOfY : List S.Scalar) :
    Result (List S.G1) :=
  (generators.zip powersOfY).mapM fun (generator, power) => do
    let inverse ← InnerProduct.invert power
    return inverse • generator

def commitVectors (parameters : Parameters S) (left right : List S.Scalar) : S.G1 :=
  linearCombination parameters.leftGenerators left +
    linearCombination parameters.rightGenerators right

structure Randomness (S : Suite) where
  u : List S.Scalar
  v : List S.Scalar
  rho : S.Scalar
  eta : S.Scalar
  tau1 : S.Scalar
  tau2 : S.Scalar

def sample {R : Type} [RandomSource S R] (bitLength : Nat) :
    Sampling R (Randomness S) := do
  let u ← Sampling.scalars bitLength
  let v ← Sampling.scalars bitLength
  let rho ← Sampling.scalar
  let eta ← Sampling.scalar
  let tau1 ← Sampling.scalar
  let tau2 ← Sampling.scalar
  return { u, v, rho, eta, tau1, tau2 }

namespace Statement

def proveWith (statement : Statement S) (value : UInt64) (blindingFactor : S.Scalar)
    (randomness : Randomness S) : Result (RangeProof S) := do
  let parameters := statement.parameters
  let count := parameters.bitLength.toNat
  let { u, v, rho, eta, tau1, tau2 } := randomness
  let bits : List S.Scalar := (List.range count).map fun index =>
    if bit value index then 1 else 0
  let bitsMinusOne := bits.map (· - 1)
  let c := commitVectors parameters bits bitsMinusOne + rho • parameters.p
  let d := commitVectors parameters u v + eta • parameters.p
  let y := challengeY c d statement.commitment
  let z := challengeZ y
  let powersOfY := powers y count
  let leftConstant := bits.map (· - z)
  let rightConstant :=
    List.zipWith (fun bit power => (bit + z) * power) bitsMinusOne powersOfY
  let rightLinear := List.zipWith (· * ·) v powersOfY
  let weights := (powers (1 + 1 : S.Scalar) count).map (z * z * ·)
  let t1 := dotProduct leftConstant rightLinear + dotProduct rightConstant u +
    dotProduct weights u
  let t2 := dotProduct u rightLinear
  let commitment1 := t1 • statement.g + tau1 • statement.h
  let commitment2 := t2 • statement.g + tau2 • statement.h
  let x := challengeX commitment1 commitment2
  let left := List.zipWith (fun constant linear => constant + x * linear) leftConstant u
  let right := List.zipWith (fun constant weight => constant + weight)
    (List.zipWith (fun constant linear => constant + x * linear) rightConstant
      rightLinear) weights
  let rightGenerators ← scaleRight parameters.rightGenerators powersOfY
  let argument : InnerProduct.Statement S := {
    innerProduct := dotProduct left right
    q := parameters.q
    leftGenerators := parameters.leftGenerators
    rightGenerators := rightGenerators
    commitment := linearCombination parameters.leftGenerators left +
      linearCombination rightGenerators right
    rounds := parameters.rounds }
  return {
    t1 := commitment1
    t2 := commitment2
    tau := x * tau1 + x * x * tau2 + z * z * blindingFactor
    c := c
    d := d
    delta := rho + eta * x
    innerProduct := dotProduct left right
    argument := ← InnerProduct.prove argument left right }

/-- Proves that the commitment hides a value in range. -/
def prove {R : Type} [RandomSource S R] (statement : Statement S) (value : UInt64)
    (blindingFactor : S.Scalar) : Sampling R (RangeProof S) := do
  let randomness ← sample statement.parameters.bitLength.toNat
  statement.proveWith value blindingFactor randomness

/-- The public part of the collapsed polynomial at zero. -/
def constantTerm (z : S.Scalar) (powersOfY powersOfTwo : List S.Scalar) : S.Scalar :=
  (z - z * z) * sum powersOfY - z * z * z * sum powersOfTwo

def argument (statement : Statement S) (proof : RangeProof S) :
    Result (InnerProduct.Statement S) :=
  do
  let parameters := statement.parameters
  let count := parameters.bitLength.toNat
  let x := challengeX proof.t1 proof.t2
  let y := challengeY proof.c proof.d statement.commitment
  let z := challengeZ y
  let powersOfY := powers y count
  let powersOfTwo := powers (1 + 1 : S.Scalar) count
  let rightGenerators ← scaleRight parameters.rightGenerators powersOfY
  let weights :=
    List.zipWith (fun power two => z * power + z * z * two) powersOfY powersOfTwo
  return {
    innerProduct := proof.innerProduct
    q := parameters.q
    leftGenerators := parameters.leftGenerators
    rightGenerators := rightGenerators
    commitment := proof.c + x • proof.d - proof.delta • parameters.p -
      z • sum parameters.leftGenerators + linearCombination rightGenerators weights
    rounds := parameters.rounds }

def verify (statement : Statement S) (proof : RangeProof S) : Result Unit := do
  let parameters := statement.parameters
  let count := parameters.bitLength.toNat
  if parameters.leftGenerators.length ≠ count ∨
      parameters.rightGenerators.length ≠ count then
    throw (.invalidInput "range proof generators do not match bit length")
  let x := challengeX proof.t1 proof.t2
  let y := challengeY proof.c proof.d statement.commitment
  let z := challengeZ y
  let constant := constantTerm z (powers y count) (powers (1 + 1) count)
  if proof.innerProduct • statement.g + proof.tau • statement.h - x • proof.t1 -
      (x * x) • proof.t2 ≠ (z * z) • statement.commitment + constant • statement.g then
    throw (.invalidProof "invalid range proof")
  InnerProduct.verify (← statement.argument proof) proof.argument

end Statement

/-- Range proofs for several commitments, in order. -/
structure RangeProofs (S : Suite) where
  proofs : List (RangeProof S)

instance : JsonForm (RangeProofs S) where
  toJson proofs := .object [("proofs", toJson proofs.proofs)]
  fromJson value := do
    let [proofs] ← value.fields ["proofs"] | none
    return { proofs := ← required proofs }

structure Statements (S : Suite) where
  commitments : List S.G1
  /-- The base for values. -/
  g : S.G1
  /-- The base for blinding factors. -/
  h : S.G1
  parameters : Parameters S

namespace Statements

def single (statements : Statements S) (commitment : S.G1) : Statement S :=
  ⟨commitment, statements.g, statements.h, statements.parameters⟩

/-- Proves for every commitment that it hides a value in range, with an
independent source of randomness for each. -/
def prove {R : Type} [RandomSource S R] (statements : Statements S) (values : List UInt64)
    (blindingFactors : List S.Scalar) : Sampling R (RangeProofs S) := do
  let count := statements.commitments.length
  if values.length ≠ count ∨ blindingFactors.length ≠ count then
    throw (.invalidInput <|
      s!"cannot compute range proofs: [{count}] commitments, [{values.length}] " ++
      s!"values, [{blindingFactors.length}] blinding factors")
  statements.parameters.validate
  let max := statements.parameters.maxValue
  if let some value := values.find? (max < ·) then throw (.outOfRange value max)
  let proofs ← (statements.commitments.zip (values.zip blindingFactors)).mapM
    fun (commitment, value, blindingFactor) =>
      Sampling.forked S ((statements.single commitment).prove value blindingFactor)
  return ⟨proofs⟩

def verifyFrom (statements : Statements S) : (index : Nat) → List (RangeProof S × S.G1) →
    Result Unit
  | _, [] => .ok ()
  | index, (proof, commitment) :: rest => do
      during s!"invalid range proof at index {index}"
        ((statements.single commitment).verify proof)
      statements.verifyFrom (index + 1) rest

def verify (statements : Statements S) (proofs : RangeProofs S) : Result Unit := do
  if proofs.proofs.length ≠ statements.commitments.length then
    throw (.invalidProof "invalid range proof")
  statements.verifyFrom 0 (proofs.proofs.zip statements.commitments)

end Statements

end ConfidentialToken.Bulletproof
