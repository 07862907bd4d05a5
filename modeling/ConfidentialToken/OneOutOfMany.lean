import ConfidentialToken.Arithmetic
import ConfidentialToken.Json.Schema
import ConfidentialToken.Random.Source
import ConfidentialToken.Suite

/-!
One-out-of-many proofs.

Among `2 ^ n` commitments over two bases, one hides zero: it is a known multiple
of the second base. The prover shows that it knows which, without telling. It
commits to each bit of the index, and to the coefficients of the polynomials
that multiply the commitments when the bits are replaced by the responses.
-/

namespace ConfidentialToken.OneOutOfMany

open Json

variable {S : Suite}

/-- The commitments of a proof, one of each kind for every bit of the index. -/
structure Commitments (S : Suite) where
  l : List S.G1
  a : List S.G1
  b : List S.G1
  d : List S.G1

instance : JsonForm (Commitments S) where
  toJson commitments := .object [
    ("l", toJson commitments.l),
    ("a", toJson commitments.a),
    ("b", toJson commitments.b),
    ("d", toJson commitments.d)]
  fromJson value := do
    let [l, a, b, d] ← value.fields ["l", "a", "b", "d"] | none
    return { l := ← required l, a := ← required a, b := ← required b, d := ← required d }

structure Values (S : Suite) where
  l : List S.Scalar
  a : List S.Scalar
  b : List S.Scalar
  d : S.Scalar

instance : JsonForm (Values S) where
  toJson values := .object [
    ("l", toJson values.l),
    ("a", toJson values.a),
    ("b", toJson values.b),
    ("d", toJson values.d)]
  fromJson value := do
    let [l, a, b, d] ← value.fields ["l", "a", "b", "d"] | none
    return { l := ← required l, a := ← required a, b := ← required b, d := ← required d }

structure Proof (S : Suite) where
  commitments : Commitments S
  values : Values S

instance : JsonForm (Proof S) where
  toJson proof := .object [
    ("commitments", toJson proof.commitments),
    ("values", toJson proof.values)]
  fromJson value := do
    let [commitments, values] ← value.fields ["commitments", "values"] | none
    return { commitments := ← required commitments, values := ← required values }

structure Statement (S : Suite) where
  commitments : List S.G1
  /-- A message that the proof signs. -/
  message : Bytes
  pedersen : List S.G1
  bitLength : UInt64

/-- The number of commitments for a number of bits, if it is a word. -/
def setSize? (bitLength : UInt64) : Option Nat :=
  if bitLength < 64 then some (Nat.pow 2 bitLength.toNat) else none

/-- The factor of the commitment at an index: the product over all bits of the
response, or of the challenge minus the response where the bit of the index is
not set. -/
def indexFactor (challenge : S.Scalar) (responses : List S.Scalar) (index : Nat) :
    S.Scalar :=
  (responses.zipIdx.map fun (response, place) =>
    if bit (.ofNat index) place then response else challenge - response).foldl (· * ·) 1

namespace Statement

def transcript (statement : Statement S) (commitments : Commitments S) : Bytes :=
  Transcript.encodeAll commitments.l ++ Transcript.encodeAll commitments.a ++
    Transcript.encodeAll commitments.b ++ Transcript.encodeAll commitments.d ++
    Transcript.encodeAll statement.commitments ++
    Transcript.encodeAll statement.pedersen ++
    Bytes.ofText (toString statement.bitLength) ++ statement.message

def challenge (statement : Statement S) (commitments : Commitments S) : S.Scalar :=
  S.hashToScalar (statement.transcript commitments)

/-- Checks the two equations of one bit, given by its commitments and
responses. -/
def checkBit (g0 g1 : S.G1) (challenge : S.Scalar) :
    (S.G1 × S.G1 × S.G1) × (S.Scalar × S.Scalar × S.Scalar) → Result Unit
  | ((l, a, b), (vl, va, vb)) => do
      if challenge • l + a ≠ vl • g0 + va • g1 then
        throw (.invalidProof
          "verification of first equation of one out of many proof failed")
      if (challenge - vl) • l + b ≠ vb • g1 then
        throw (.invalidProof
          "verification of second equation of one out of many proof failed")

/-- The sum of all commitments with their factors, without the part that the
prover committed to. -/
def collapsed (statement : Statement S) (challenge : S.Scalar) (proof : Proof S) : S.G1 :=
  linearCombination statement.commitments
      ((List.range statement.commitments.length).map
        (indexFactor challenge proof.values.l)) -
    linearCombination proof.commitments.d (powers challenge proof.commitments.d.length)

def verify (statement : Statement S) (proof : Proof S) : Result Unit := do
  let [g0, g1] := statement.pedersen
    | throw (.invalidInput "length of Pedersen parameters != 2")
  let count := statement.bitLength.toNat
  if setSize? statement.bitLength ≠ some statement.commitments.length then
    throw (.invalidInput <|
      "the number of commitments is not 2^bitlength " ++
      s!"[{statement.commitments.length} != 2^{count}]")
  let c := proof.commitments
  if c.l.length ≠ count ∨ c.a.length ≠ count ∨ c.b.length ≠ count ∨
      c.d.length ≠ count then
    throw (.invalidInput <|
      "the size of the commitments in one out of many proof is not a multiple " ++
      s!"of {count}")
  let v := proof.values
  if v.l.length ≠ count ∨ v.a.length ≠ count ∨ v.b.length ≠ count then
    throw (.invalidInput
      s!"the size of the proofs in one out of many proof is not a multiple of {count}")
  let challenge := statement.challenge c
  ((c.l.zip (c.a.zip c.b)).zip (v.l.zip (v.a.zip v.b))).forM (checkBit g0 g1 challenge)
  if statement.collapsed challenge proof ≠ v.d • g1 then
    throw (.invalidProof "verification of third equation of one out of many proof failed")

end Statement

/-- A linear polynomial `slope x + constant`. -/
structure LinearFactor (F : Type) where
  slope : F
  constant : F

/-- The coefficients of the product with a linear polynomial, from the constant
one on. -/
def multiplyLinear {F : Type} [Zero F] [Add F] [Mul F] (coefficients : List F)
    (factor : LinearFactor F) : List F :=
  List.zipWith (· + ·)
    (coefficients.map (fun coefficient => factor.constant * coefficient) ++ [0])
    (0 :: coefficients.map fun coefficient => factor.slope * coefficient)

/-- The coefficients below the leading one of the product over all bits of an
index, where a bit that is set takes its factor from `ones` and another one from
`zeros`. -/
def polynomialForIndex {F : Type} [Zero F] [One F] [Add F] [Mul F] (index : Nat)
    (zeros ones : List (LinearFactor F)) : List F :=
  let factors := (zeros.zip ones).zipIdx.map fun ((zero, one), place) =>
    if bit (.ofNat index) place then one else zero
  (factors.foldl multiplyLinear [1]).take factors.length

/-- What the prover knows: the index of a commitment and its factor over the
second base. -/
structure Witness (S : Suite) where
  index : UInt64
  randomness : S.Scalar

/-- The random scalars of a proof, one of each kind for every bit. -/
structure Randomness (S : Suite) where
  a : List S.Scalar
  r : List S.Scalar
  s : List S.Scalar
  t : List S.Scalar
  rho : List S.Scalar

def sample {R : Type} [RandomSource S R] (count : Nat) : Sampling R (Randomness S) := do
  let a ← Sampling.scalars count
  let r ← Sampling.scalars count
  let s ← Sampling.scalars count
  let t ← Sampling.scalars count
  let rho ← Sampling.scalars count
  return { a, r, s, t, rho }

/-- The failure of a prover whose witness does not fit the statement. -/
def checkWitness (statement : Statement S) (witness : Witness S) :
    Result (S.G1 × S.G1) := do
  let [g0, g1] := statement.pedersen
    | throw (.invalidInput "length of Pedersen parameters != 2")
  let size := (setSize? statement.bitLength).getD 0
  if statement.commitments.length ≠ size ∨ size = 0 then
    throw (.invalidInput <|
      "number of commitments is not a power of 2, " ++
      s!"[{statement.commitments.length}][2^{statement.bitLength}]")
  if size ≤ witness.index.toNat then
    throw (.invalidInput s!"index [{witness.index}] out of range [0, {size})")
  if statement.commitments.getD witness.index.toNat 0 ≠ witness.randomness • g1 then
    throw (.invalidInput s!"commitment at index [{witness.index}] does not open to zero")
  return (g0, g1)

/-- The bits of an index, the least significant first. -/
def indexBits (index : UInt64) (count : Nat) : List Bool :=
  (List.range count).map (bit index)

/-- The linear factors of the bits that are set in an index, and of those that
are not. -/
def linearFactors (bits : List Bool) (a : List S.Scalar) :
    List (LinearFactor S.Scalar) × List (LinearFactor S.Scalar) :=
  (List.zipWith (fun bit a => { slope := if bit then 0 else 1, constant := -a }) bits a,
   List.zipWith (fun bit a => { slope := if bit then 1 else 0, constant := a }) bits a)

def commit (statement : Statement S) (g0 g1 : S.G1) (bits : List Bool)
    (randomness : Randomness S) : Commitments S :=
  let (zeros, ones) := linearFactors bits randomness.a
  let polynomials := (List.range statement.commitments.length).map fun index =>
    polynomialForIndex index zeros ones
  { l := List.zipWith (fun bit r => if bit then r • g1 + g0 else r • g1) bits randomness.r
    a := List.zipWith (fun a s => a • g0 + s • g1) randomness.a randomness.s
    b := List.zipWith (fun bit (a, t) => if bit then t • g1 + a • g0 else t • g1) bits
      (randomness.a.zip randomness.t)
    d := randomness.rho.zipIdx.map fun (rho, place) =>
      rho • g1 + linearCombination statement.commitments
        (polynomials.map fun polynomial => polynomial.getD place 0) }

def respond (challenge : S.Scalar) (bits : List Bool) (witness : Witness S)
    (randomness : Randomness S) : Values S :=
  let l := List.zipWith (fun bit a => if bit then a + challenge else a) bits randomness.a
  { l := l
    a := List.zipWith (fun r s => r * challenge + s) randomness.r randomness.s
    b := List.zipWith (fun l (r, t) => (challenge - l) * r + t) l
      (randomness.r.zip randomness.t)
    d := witness.randomness * power challenge bits.length -
      dotProduct randomness.rho (powers challenge bits.length) }

def proveWith (statement : Statement S) (witness : Witness S)
    (randomness : Randomness S) : Result (Proof S) := do
  let (g0, g1) ← checkWitness statement witness
  let bits := indexBits witness.index statement.bitLength.toNat
  let commitments := commit statement g0 g1 bits randomness
  let challenge := statement.challenge commitments
  return { commitments, values := respond challenge bits witness randomness }

/-- Proves that one of the commitments is a known multiple of the second
base. -/
def prove {R : Type} [RandomSource S R] (statement : Statement S) (witness : Witness S) :
    Sampling R (Proof S) := do
  let _ ← checkWitness statement witness
  let randomness ← sample statement.bitLength.toNat
  proveWith statement witness randomness

end ConfidentialToken.OneOutOfMany
