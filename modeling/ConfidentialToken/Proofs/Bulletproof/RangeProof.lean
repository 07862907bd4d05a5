import ConfidentialToken.Proofs.Bulletproof.InnerProduct
import ConfidentialToken.Bulletproof.RangeProof

/-!
Which range proofs over bits are accepted.

Whatever two vectors the commitments of a proof open to at the challenge of the
polynomial, the vectors are collapsed with the other challenges into one inner
product. A proof is accepted as soon as this inner product is the one that the
commitments to the coefficients announce.
-/

namespace ConfidentialToken.Bulletproof

variable {S : Suite}

/-- The generators of both sides are as many as there are bits. -/
structure Parameters.Sized (parameters : Parameters S) : Prop where
  left : parameters.leftGenerators.length = parameters.bitLength.toNat
  right : parameters.rightGenerators.length = parameters.bitLength.toNat

/-- The challenges of a proof. -/
structure Challenges (S : Suite) where
  /-- Separates the conditions on single bits. -/
  y : S.Scalar
  /-- Separates the kinds of conditions. -/
  z : S.Scalar
  /-- Evaluates the collapsed polynomial. -/
  x : S.Scalar

def Statement.challenges (statement : Statement S) (proof : RangeProof S) :
    Challenges S where
  y := challengeY proof.c proof.d statement.commitment
  z := challengeZ (challengeY proof.c proof.d statement.commitment)
  x := challengeX proof.t1 proof.t2

/-- The equation that the verifier checks itself: the commitments to the
coefficients announce the inner product. -/
def Statement.Announces (statement : Statement S) (challenges : Challenges S)
    (t1 t2 : S.G1) (innerProduct tau : S.Scalar) : Prop :=
  let { y, z, x } := challenges
  let count := statement.parameters.bitLength.toNat
  innerProduct • statement.g + tau • statement.h - x • t1 - (x * x) • t2 =
    (z * z) • statement.commitment +
      constantTerm z (powers y count) (powers (1 + 1) count) • statement.g

/-- The commitment to the collapsed vectors, which the verifier hands on. -/
def Parameters.vectorCommitment (parameters : Parameters S) (challenges : Challenges S)
    (scaled : List S.G1) (c d : S.G1) (delta : S.Scalar) : S.G1 :=
  let { y, z, x } := challenges
  let count := parameters.bitLength.toNat
  c + x • d - delta • parameters.p - z • sum parameters.leftGenerators +
    linearCombination scaled (List.zipWith (fun power two => z * power + z * z * two)
      (powers y count) (powers (1 + 1) count))

/-- The inner product that is proved for a commitment to two vectors. -/
def Parameters.argument (parameters : Parameters S) (scaled : List S.G1)
    (innerProduct : S.Scalar) (commitment : S.G1) : InnerProduct.Statement S where
  innerProduct := innerProduct
  q := parameters.q
  leftGenerators := parameters.leftGenerators
  rightGenerators := scaled
  commitment := commitment
  rounds := parameters.rounds

theorem Statement.argument_eq_ok {statement : Statement S} {proof : RangeProof S}
    {derived : InnerProduct.Statement S} :
    let parameters := statement.parameters
    let challenges := statement.challenges proof
    statement.argument proof = .ok derived ↔
      ∃ scaled,
        scaleRight parameters.rightGenerators
          (powers challenges.y parameters.bitLength.toNat) =
          .ok scaled ∧
        parameters.argument scaled proof.innerProduct
          (parameters.vectorCommitment challenges scaled proof.c proof.d proof.delta) =
            derived := by
  simp only [argument, bind_eq_ok, pure_eq_ok]
  rfl

theorem Statement.verify_eq_ok {statement : Statement S} {proof : RangeProof S} :
    statement.verify proof = .ok () ↔
      statement.parameters.Sized ∧
      statement.Announces (statement.challenges proof) proof.t1 proof.t2
        proof.innerProduct proof.tau ∧
      ∃ argument, statement.argument proof = .ok argument ∧
        InnerProduct.verify argument proof.argument = .ok () := by
  simp only [verify, guard_eq_ok, bind_eq_ok, not_or, ne_eq, not_not]
  constructor
  · rintro ⟨⟨left, right⟩, equation, argument⟩
    exact ⟨⟨left, right⟩, equation, argument⟩
  · rintro ⟨⟨left, right⟩, equation, argument⟩
    exact ⟨⟨left, right⟩, equation, argument⟩

theorem scaleRight_eq_ok {count : Nat} {generators : Fin count → S.G1}
    {factors : Fin count → S.Scalar} {scaled : List S.G1} :
    scaleRight (List.ofFn generators) (List.ofFn factors) = .ok scaled ↔
      (∀ index, factors index ≠ 0) ∧
        scaled = List.ofFn fun index => (factors index)⁻¹ • generators index := by
  simp only [scaleRight, zip_ofFn, mapM_eq_ok, bind_eq_ok, pure_eq_ok,
    InnerProduct.invert_eq_ok, List.forall₂_iff_get, List.get_ofFn, List.length_ofFn]
  constructor
  · rintro ⟨length, entries⟩
    obtain ⟨scaledEntries, rfl⟩ := exists_ofFn length.symm
    have each (index : Fin count) :
        factors index ≠ 0 ∧
          (factors index)⁻¹ • generators index = scaledEntries index := by
      obtain ⟨inverse, ⟨nonzero, rfl⟩, entry⟩ := entries index.val (by simp) (by simp)
      exact ⟨by simpa using nonzero, by simpa using entry⟩
    exact ⟨fun index => (each index).1, congrArg List.ofFn (funext fun index =>
      (each index).2.symm)⟩
  · rintro ⟨nonzero, rfl⟩
    refine ⟨by simp, fun index bound otherBound => ⟨_, ⟨nonzero _, rfl⟩, by simp⟩⟩

/-- The inner product that two collapsed vectors are proved to have. -/
def Parameters.collapsed (parameters : Parameters S) (scaled : List S.G1)
    (innerProduct : S.Scalar) (left right : List S.Scalar) : InnerProduct.Statement S :=
  parameters.argument scaled innerProduct
    (linearCombination parameters.leftGenerators left + linearCombination scaled right)

/-- The commitments of a proof open to two vectors, and the proof announces and
proves their inner product. -/
structure Statement.Evaluates (statement : Statement S) (proof : RangeProof S)
    (left right : List S.Scalar) : Prop where
  announced :
    statement.Announces (statement.challenges proof) proof.t1 proof.t2 proof.innerProduct
      proof.tau
  innerProduct : proof.innerProduct = dotProduct left right
  argument : ∃ scaled,
    scaleRight statement.parameters.rightGenerators
      (powers (statement.challenges proof).y statement.parameters.bitLength.toNat) =
        .ok scaled ∧
    statement.parameters.vectorCommitment (statement.challenges proof) scaled proof.c
      proof.d
        proof.delta =
      linearCombination statement.parameters.leftGenerators left +
        linearCombination scaled right ∧
    InnerProduct.prove
      (statement.parameters.collapsed scaled proof.innerProduct left right) left
      right = .ok proof.argument

variable [LawfulG1 S]

def collapsedLeft {count : Nat} (z : S.Scalar) (left : Fin count → S.Scalar) :
    List S.Scalar :=
  List.ofFn fun index => left index - z

def collapsedRight {count : Nat} (y z : S.Scalar) (right : Fin count → S.Scalar) :
    List S.Scalar :=
  List.ofFn fun index => (right index + z) * y ^ index.val + z * z * (1 + 1) ^ index.val

/-- The inner product of the collapsed vectors: the public constant, the value
that the left vector spells, and two sums that vanish where the left vector has
bits and the right one the bits minus one. -/
theorem dotProduct_collapsed {count : Nat} (y z : S.Scalar)
    (left right : Fin count → S.Scalar) :
    dotProduct (collapsedLeft z left) (collapsedRight y z right) =
      Statement.constantTerm z (powers y count) (powers (1 + 1) count) +
        z * z * ∑ index, left index * (1 + 1) ^ index.val +
        ∑ index, left index * right index * y ^ index.val +
        z * ∑ index, (left index - 1 - right index) * y ^ index.val := by
  simp only [collapsedLeft, collapsedRight, dotProduct_ofFn, Statement.constantTerm,
    powers_eq, sum_ofFn, Finset.mul_sum, ← Finset.sum_add_distrib, ←
    Finset.sum_sub_distrib]
  refine Finset.sum_congr rfl fun index _ => ?_
  ring

theorem dotProduct_collapsed_sub_one {count : Nat} (y z : S.Scalar)
    (left : Fin count → S.Scalar) :
    dotProduct (collapsedLeft z left) (collapsedRight y z fun index => left index - 1) =
      Statement.constantTerm z (powers y count) (powers (1 + 1) count) +
        z * z * ∑ index, left index * (1 + 1) ^ index.val +
        ∑ index, left index * (left index - 1) * y ^ index.val := by
  have difference : ∑ index, (left index - 1 - (left index - 1)) * y ^ index.val = 0 := by
    simp
  rw [dotProduct_collapsed, difference, mul_zero, add_zero]

/-- Along lines of vectors, the inner product of the collapsed vectors is a
polynomial whose constant coefficient is the inner product where the lines
start. -/
theorem dotProduct_collapsed_lines {count : Nat} (x y z : S.Scalar)
    (left right u v : Fin count → S.Scalar) :
    dotProduct (collapsedLeft z fun index => left index + x * u index)
        (collapsedRight y z fun index => right index + x * v index) =
      dotProduct (collapsedLeft z left) (collapsedRight y z right) +
        x * ∑ index, ((left index - z) * (v index * y ^ index.val) +
          (right index + z) * y ^ index.val * u index +
          z * z * (1 + 1) ^ index.val * u index) +
        x * x * ∑ index, u index * (v index * y ^ index.val) := by
  simp only [collapsedLeft, collapsedRight, dotProduct_ofFn, Finset.mul_sum,
    ← Finset.sum_add_distrib]
  refine Finset.sum_congr rfl fun index _ => ?_
  ring

/-- The commitment that the verifier derives differs from one to collapsed
vectors by as much as the commitments of the proof differ from one to the
vectors. -/
theorem Parameters.vectorCommitment_eq {parameters : Parameters S}
    {challenges : Challenges S} {count : Nat} {scaled : List S.G1} (c d : S.G1)
    (delta : S.Scalar) (left right : Fin count → S.Scalar)
    (bits : parameters.bitLength.toNat = count) (sized : parameters.Sized)
    (scaling : scaleRight parameters.rightGenerators (powers challenges.y count) =
      .ok scaled) :
    parameters.vectorCommitment challenges scaled c d delta =
      linearCombination parameters.leftGenerators (collapsedLeft challenges.z left) +
        linearCombination scaled (collapsedRight challenges.y challenges.z right) +
        (c + challenges.x • d -
          (commitVectors parameters (List.ofFn left) (List.ofFn right) +
          delta • parameters.p)) := by
  obtain ⟨leftGenerators, leftEq⟩ := exists_ofFn (sized.left.trans bits)
  obtain ⟨rightGenerators, rightEq⟩ := exists_ofFn (sized.right.trans bits)
  obtain ⟨y, z, x⟩ := challenges
  dsimp only at scaling ⊢
  rw [rightEq, powers_eq, scaleRight_eq_ok] at scaling
  obtain ⟨nonzero, rfl⟩ := scaling
  rw [commitVectors, leftEq, rightEq]
  simp only [vectorCommitment, bits, leftEq, collapsedLeft, collapsedRight, powers_eq,
    zipWith_ofFn, linearCombination_ofFn, sum_ofFn]
  have lefts : ∑ index, (left index - z) • leftGenerators index =
      ∑ index, left index • leftGenerators index - z • ∑ index, leftGenerators index := by
    rw [Finset.smul_sum, ← Finset.sum_sub_distrib]
    exact Finset.sum_congr rfl fun index _ => sub_smul _ _ _
  have rights :
    ∑ index, ((right index + z) * y ^ index.val + z * z * (1 + 1) ^ index.val) •
        (y ^ index.val)⁻¹ • rightGenerators index =
      ∑ index, right index • rightGenerators index +
        ∑ index, (z * y ^ index.val + z * z * (1 + 1) ^ index.val) •
          (y ^ index.val)⁻¹ • rightGenerators index := by
    rw [← Finset.sum_add_distrib]
    refine Finset.sum_congr rfl fun index _ => ?_
    -- A generator is the scaled one, multiplied by the power again.
    obtain ⟨scaled, scaledEq⟩ :
        ∃ scaled, (y ^ index.val)⁻¹ • rightGenerators index = scaled :=
      ⟨_, rfl⟩
    rw [scaledEq, ← smul_inv_smul₀ (nonzero index) (rightGenerators index), scaledEq]
    module
  rw [lefts, rights]
  abel

theorem Statement.Evaluates.verify {statement : Statement S} {proof : RangeProof S}
    {left right : List S.Scalar} (evaluates : statement.Evaluates proof left right)
    (sized : statement.parameters.Sized) : statement.verify proof = .ok () := by
  obtain ⟨announced, product, scaled, scaling, committed, proved⟩ := evaluates
  have argument : statement.argument proof =
      .ok (statement.parameters.collapsed scaled proof.innerProduct left right) :=
    argument_eq_ok.mpr ⟨scaled, scaling, congrArg _ committed⟩
  exact verify_eq_ok.mpr ⟨sized, announced, _, argument,
    InnerProduct.verify_prove proved product rfl⟩

/-- A proof whose commitments open to two vectors fits the collapsed ones if it
announces the inner product that these have, and if this inner product is
proved. -/
theorem Statement.evaluates_collapsed {statement : Statement S} {proof : RangeProof S}
    {count : Nat} {scaled : List S.G1} (left right : Fin count → S.Scalar)
    (bits : statement.parameters.bitLength.toNat = count)
    (sized : statement.parameters.Sized)
    (opened : proof.c + challengeX proof.t1 proof.t2 • proof.d =
      commitVectors statement.parameters (List.ofFn left) (List.ofFn right) +
        proof.delta • statement.parameters.p) :
    let x := challengeX proof.t1 proof.t2
    let y := challengeY proof.c proof.d statement.commitment
    let z := challengeZ y
    proof.innerProduct = dotProduct (collapsedLeft z left) (collapsedRight y z right) →
    proof.innerProduct • statement.g + proof.tau • statement.h =
      (z * z) • statement.commitment +
        constantTerm z (powers y count) (powers (1 + 1) count) • statement.g +
        x • proof.t1 +
        (x * x) • proof.t2 →
    scaleRight statement.parameters.rightGenerators (powers y count) = .ok scaled →
    InnerProduct.prove
      (statement.parameters.collapsed scaled proof.innerProduct (collapsedLeft z left)
        (collapsedRight y z right))
      (collapsedLeft z left) (collapsedRight y z right) = .ok proof.argument →
    statement.Evaluates proof (collapsedLeft z left) (collapsedRight y z right) := by
  intro x y z product announced scaling proved
  refine ⟨?_, product, scaled, bits ▸ scaling, ?_, proved⟩
  · simp only [Announces, challenges]
    rw [announced, bits]
    abel
  · rw [Parameters.vectorCommitment_eq _ _ _ left right bits sized scaling]
    exact add_eq_left.mpr (sub_eq_zero.mpr opened)

end ConfidentialToken.Bulletproof
