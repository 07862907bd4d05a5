import ConfidentialToken.Proofs.Bulletproof.RangeProof
import ConfidentialToken.Proofs.Sampling

/-!
Honest range proofs over bits are accepted.

The bits of a value and the bits minus one have no common entry, and their
difference is one everywhere, so that the inner product of the collapsed vectors
is what the verifier expects.
-/

namespace ConfidentialToken.Bulletproof

variable {S : Suite}

theorem sample_gives {R : Type} [RandomSource S R] {count : Nat}
    {randomness : Randomness S}
    (gives : Sampling.Gives (R := R) (sample count) randomness) :
    randomness.u.length = count ∧ randomness.v.length = count := by
  obtain ⟨u, uDrawn, gives⟩ := gives.bind
  obtain ⟨v, vDrawn, gives⟩ := gives.bind
  obtain ⟨rho, -, gives⟩ := gives.bind
  obtain ⟨eta, -, gives⟩ := gives.bind
  obtain ⟨tau1, -, gives⟩ := gives.bind
  obtain ⟨tau2, -, gives⟩ := gives.bind
  cases gives.pure
  exact ⟨uDrawn.length_times, vDrawn.length_times⟩

namespace Parameters

theorem validate_eq_ok {parameters : Parameters S}
    (valid : parameters.validate = .ok ()) :
    parameters.Sized ∧ parameters.bitLength ≤ 64 ∧ parameters.p ≠ 0 := by
  simp only [validate, guard_error_eq_ok, ite_error_eq_ok, ne_eq, not_not,
    UInt64.not_lt] at valid
  obtain ⟨-, -, -, bounded, -, left, right, nonzero⟩ := valid
  exact ⟨⟨left, right⟩, bounded, (not_or.mp nonzero.1).1⟩

theorem lt_of_le_maxValue {parameters : Parameters S} {value : UInt64}
    (bounded : parameters.bitLength ≤ 64) (within : value ≤ parameters.maxValue) :
    value.toNat < 2 ^ parameters.bitLength.toNat := by
  unfold maxValue at within
  by_cases full : 64 ≤ parameters.bitLength
  · have all : parameters.bitLength = 64 := UInt64.le_antisymm bounded full
    rw [all]
    exact value.toNat_lt
  · rw [if_neg full, UInt64.le_iff_toNat_le, UInt64.toNat_ofNat', Nat.pow_eq] at within
    have few : parameters.bitLength.toNat < 64 := by
      simpa [UInt64.le_iff_toNat_le] using full
    have word : 2 ^ parameters.bitLength.toNat < 2 ^ 64 :=
      Nat.pow_lt_pow_right (by decide) few
    have positive : 0 < 2 ^ parameters.bitLength.toNat := Nat.two_pow_pos _
    rw [Nat.mod_eq_of_lt (by omega)] at within
    omega

end Parameters

theorem Statements.verifyFrom_eq_ok {statements : Statements S} {start : Nat}
    {pairs : List (RangeProof S × S.G1)} :
    statements.verifyFrom start pairs = .ok () ↔
      ∀ pair ∈ pairs, (statements.single pair.2).verify pair.1 = .ok () := by
  induction pairs generalizing start with
  | nil => simp [verifyFrom]
  | cons pair pairs inductionHypothesis =>
      simp only [verifyFrom, bind_eq_ok, during_eq_ok, inductionHypothesis,
        List.forall_mem_cons]
      constructor
      · rintro ⟨⟨⟩, first, rest⟩
        exact ⟨first, rest⟩
      · rintro ⟨first, rest⟩
        exact ⟨(), first, rest⟩

variable [LawfulG1 S]

/-- The bits of a number as scalars. -/
def bitVector (number count : Nat) (index : Fin count) : S.Scalar :=
  if number.testBit index.val then 1 else 0

theorem bitVector_mul_sub_one {number count : Nat} (index : Fin count) :
    (bitVector number count index : S.Scalar) * (bitVector number count index - 1) =
      0 := by
  by_cases set : number.testBit index.val
  · rw [bitVector, if_pos set, sub_self, mul_zero]
  · rw [bitVector, if_neg set, zero_mul]

theorem sum_bitVector {number count : Nat} (bounded : number < 2 ^ count) :
    ∑ index, bitVector number count index * (1 + 1) ^ index.val =
      (number : S.Scalar) := by
  induction count generalizing number with
  | zero =>
      have zero : number = 0 := by simpa using bounded
      simp [zero]
  | succ count inductionHypothesis =>
      have half : number / 2 < 2 ^ count := by
        rw [Nat.pow_succ] at bounded
        omega
      have upper : ∑ index : Fin count, bitVector number (count + 1) index.succ
          * (1 + 1) ^ index.succ.val = ((1 + 1) * (number / 2 : Nat) : S.Scalar) := by
        rw [← inductionHypothesis half, Finset.mul_sum]
        refine Finset.sum_congr rfl fun index _ => ?_
        rw [bitVector, bitVector, Fin.val_succ, Nat.testBit_succ, pow_succ]
        ring
      have lowest : (bitVector number (count + 1) 0 : S.Scalar) = (number % 2 : Nat) := by
        rw [bitVector, Fin.val_zero, Nat.testBit_zero]
        rcases Nat.mod_two_eq_zero_or_one number with even | odd <;> simp [*]
      rw [Fin.sum_univ_succ, upper, lowest, Fin.val_zero, pow_zero, mul_one,
        one_add_one_eq_two, add_comm]
      exact_mod_cast congrArg (Nat.cast (R := S.Scalar)) (Nat.div_add_mod number 2)

/-- As many bits of a number as there are spell what remains of it modulo the
power of two. -/
theorem sum_bitVector_mod (number count : Nat) :
    ∑ index, bitVector number count index * (1 + 1) ^ index.val =
      ((number % 2 ^ count : Nat) : S.Scalar) := by
  rw [← sum_bitVector (Nat.mod_lt number (Nat.two_pow_pos count))]
  refine Finset.sum_congr rfl fun index _ => ?_
  rw [bitVector, bitVector, Nat.testBit_mod_two_pow, decide_eq_true index.isLt,
    Bool.true_and]

/-- The inner product of the vectors of a prover as a polynomial in the
challenge for it. -/
theorem dotProduct_bits {count : Nat} (x y z : S.Scalar) {bits : Fin count → S.Scalar}
    (u v : Fin count → S.Scalar) (isBit : ∀ index, bits index * (bits index - 1) = 0) :
    dotProduct (collapsedLeft z fun index => bits index + x * u index)
        (collapsedRight y z fun index => bits index - 1 + x * v index) =
      Statement.constantTerm z (powers y count) (powers (1 + 1) count) +
        z * z * ∑ index, bits index * (1 + 1) ^ index.val +
        x * ∑ index, ((bits index - z) * (v index * y ^ index.val) +
          (bits index - 1 + z) * y ^ index.val * u index +
          z * z * (1 + 1) ^ index.val * u index) +
        x * x * ∑ index, u index * (v index * y ^ index.val) := by
  have product : ∑ index, bits index * (bits index - 1) * y ^ index.val = 0 :=
    Finset.sum_eq_zero fun index _ => by rw [isBit, zero_mul]
  rw [dotProduct_collapsed_lines, dotProduct_collapsed_sub_one, product, add_zero]

/-- The coefficient of the challenge in the inner product of the vectors of a
prover. -/
def linearCoefficient {count : Nat} (y z : S.Scalar) (bits u v : Fin count → S.Scalar) :
    S.Scalar :=
  ∑ index, ((bits index - z) * (v index * y ^ index.val) +
    (bits index - 1 + z) * y ^ index.val * u index +
    z * z * (1 + 1) ^ index.val * u index)

/-- The coefficient of its square. -/
def quadraticCoefficient {count : Nat} (y : S.Scalar) (u v : Fin count → S.Scalar) :
    S.Scalar :=
  ∑ index, u index * (v index * y ^ index.val)

/-- The opening of a commitment to a value that has as many bits as there are
generators. -/
structure Statement.Opens (statement : Statement S) (value : UInt64)
    (blindingFactor : S.Scalar) : Prop where
  commitment : statement.commitment =
    (ScalarOperations.ofNat value.toNat : S.Scalar) • statement.g +
      blindingFactor • statement.h
  bounded : value.toNat < 2 ^ statement.parameters.bitLength.toNat

/-- The bits of a value, as many as there are generators. -/
def Statement.bits (statement : Statement S) (value : UInt64) :
    Fin statement.parameters.bitLength.toNat → S.Scalar :=
  bitVector value.toNat _

/-- The vectors of a prover at the challenge of the polynomial, as they are
handed on. -/
def Statement.leftAt (statement : Statement S) (challenges : Challenges S)
    (value : UInt64) (u : Fin statement.parameters.bitLength.toNat → S.Scalar) :
    List S.Scalar :=
  collapsedLeft challenges.z fun index =>
    statement.bits value index + challenges.x * u index

def Statement.rightAt (statement : Statement S) (challenges : Challenges S)
    (value : UInt64) (v : Fin statement.parameters.bitLength.toNat → S.Scalar) :
    List S.Scalar :=
  collapsedRight challenges.y challenges.z fun index =>
    statement.bits value index - 1 + challenges.x * v index

/-- What a proof consists of when its prover draws two vectors and four
scalars. -/
structure Statement.Makes (statement : Statement S) (value : UInt64)
    (blindingFactor : S.Scalar)
    (u v : Fin statement.parameters.bitLength.toNat → S.Scalar)
    (rho eta tau1 tau2 : S.Scalar) (proof : RangeProof S) : Prop where
  c : proof.c = commitVectors statement.parameters (List.ofFn (statement.bits value))
    (List.ofFn fun index => statement.bits value index - 1) + rho • statement.parameters.p
  d : proof.d =
    commitVectors statement.parameters (List.ofFn u) (List.ofFn v) +
      eta • statement.parameters.p
  t1 :
    proof.t1 =
    linearCoefficient (statement.challenges proof).y (statement.challenges proof).z
    (statement.bits value) u v • statement.g + tau1 • statement.h
  t2 : proof.t2 =
    quadraticCoefficient (statement.challenges proof).y u v • statement.g +
      tau2 • statement.h
  tau : proof.tau = (statement.challenges proof).x * tau1 +
    (statement.challenges proof).x * (statement.challenges proof).x * tau2 +
    (statement.challenges proof).z * (statement.challenges proof).z * blindingFactor
  delta : proof.delta = rho + eta * (statement.challenges proof).x
  innerProduct : proof.innerProduct = dotProduct
    (statement.leftAt (statement.challenges proof) value u)
    (statement.rightAt (statement.challenges proof) value v)
  argument : ∃ scaled,
    scaleRight statement.parameters.rightGenerators
      (powers (statement.challenges proof).y statement.parameters.bitLength.toNat) =
        .ok scaled ∧
    InnerProduct.prove (statement.parameters.collapsed scaled proof.innerProduct
        (statement.leftAt (statement.challenges proof) value u)
        (statement.rightAt (statement.challenges proof) value v))
      (statement.leftAt (statement.challenges proof) value u)
      (statement.rightAt (statement.challenges proof) value v) = .ok proof.argument

section Vectors

variable {count : Nat} (bits u v : Fin count → S.Scalar) (x y z : S.Scalar)

omit [LawfulG1 S] in
theorem map_sub_one :
    (List.ofFn bits).map (· - 1) = List.ofFn fun index => bits index - 1 :=
  List.map_ofFn

theorem dotProduct_linearTerms :
    dotProduct ((List.ofFn bits).map (· - z))
        (List.zipWith (· * ·) (List.ofFn v) (powers y count)) +
        dotProduct (List.zipWith (fun bit power => (bit + z) * power)
          (List.ofFn fun index => bits index - 1) (powers y count)) (List.ofFn u) +
        dotProduct ((powers (1 + 1 : S.Scalar) count).map (z * z * ·)) (List.ofFn u) =
      linearCoefficient y z bits u v := by
  simp only [powers_eq, List.map_ofFn, zipWith_ofFn, dotProduct_ofFn, linearCoefficient,
    Finset.sum_add_distrib, Function.comp_apply]

theorem dotProduct_quadraticTerms :
    dotProduct (List.ofFn u) (List.zipWith (· * ·) (List.ofFn v) (powers y count)) =
      quadraticCoefficient y u v := by
  simp only [powers_eq, zipWith_ofFn, dotProduct_ofFn, quadraticCoefficient]

theorem zipWith_leftLines :
    List.zipWith (fun constant linear => constant + x * linear)
      ((List.ofFn bits).map (· - z))
        (List.ofFn u) =
      collapsedLeft z fun index => bits index + x * u index := by
  rw [List.map_ofFn, zipWith_ofFn, collapsedLeft]
  refine congrArg List.ofFn (funext fun index => ?_)
  rw [Function.comp_apply]
  ring

theorem zipWith_rightLines :
    List.zipWith (fun constant weight => constant + weight)
        (List.zipWith (fun constant linear => constant + x * linear)
          (List.zipWith (fun bit power => (bit + z) * power)
            (List.ofFn fun index => bits index - 1) (powers y count))
          (List.zipWith (· * ·) (List.ofFn v) (powers y count)))
        ((powers (1 + 1 : S.Scalar) count).map (z * z * ·)) =
      collapsedRight y z fun index => bits index - 1 + x * v index := by
  simp only [powers_eq, collapsedRight, List.map_ofFn, zipWith_ofFn]
  refine congrArg List.ofFn (funext fun index => ?_)
  rw [Function.comp_apply]
  ring

end Vectors

omit [LawfulG1 S] in
theorem Statement.map_bit (statement : Statement S) (value : UInt64) :
    (List.range statement.parameters.bitLength.toNat).map
        (fun index => if bit value index then (1 : S.Scalar) else 0) =
      List.ofFn (statement.bits value) := by
  apply List.ext_getElem <;> simp [bits, bitVector, bit]

/-- What a prover sends with an argument: nothing else is left open by its value
and its draws. -/
def Statement.made (statement : Statement S) (value : UInt64)
    (blindingFactor : S.Scalar)
    (u v : Fin statement.parameters.bitLength.toNat → S.Scalar)
    (rho eta tau1 tau2 : S.Scalar) (argument : InnerProduct.Proof S) : RangeProof S :=
  let bits := statement.bits value
  let c := commitVectors statement.parameters (List.ofFn bits)
    (List.ofFn fun index => bits index - 1) + rho • statement.parameters.p
  let d := commitVectors statement.parameters (List.ofFn u) (List.ofFn v) +
    eta • statement.parameters.p
  let y := challengeY c d statement.commitment
  let z := challengeZ y
  let t1 := linearCoefficient y z bits u v • statement.g + tau1 • statement.h
  let t2 := quadraticCoefficient y u v • statement.g + tau2 • statement.h
  let x := challengeX t1 t2
  { t1 := t1
    t2 := t2
    tau := x * tau1 + x * x * tau2 + z * z * blindingFactor
    c := c
    d := d
    delta := rho + eta * x
    innerProduct := dotProduct (statement.leftAt ⟨y, z, x⟩ value u)
      (statement.rightAt ⟨y, z, x⟩ value v)
    argument := argument }

section Made

variable {statement : Statement S} {value : UInt64} {blindingFactor : S.Scalar}
  {u v : Fin statement.parameters.bitLength.toNat → S.Scalar}
    {rho eta tau1 tau2 : S.Scalar}
  {proof : RangeProof S}

theorem Statement.Makes.eq_made
    (makes : statement.Makes value blindingFactor u v rho eta tau1 tau2 proof) :
    proof = statement.made value blindingFactor u v rho eta tau1 tau2 proof.argument := by
  obtain ⟨c, d, t1, t2, tau, delta, innerProduct, -⟩ := makes
  cases proof
  simp only [challenges] at c d t1 t2 tau delta innerProduct
  -- The challenges follow from the first messages, so that these are replaced
  -- first.
  subst c d t1 t2 tau delta innerProduct
  rfl

/-- A prover succeeds with the proof that its equations describe. -/
theorem Statement.proveWith_eq_ok :
    statement.proveWith value blindingFactor ⟨List.ofFn u, List.ofFn v, rho, eta, tau1,
      tau2⟩ =
        .ok proof ↔
      statement.Makes value blindingFactor u v rho eta tau1 tau2 proof := by
  simp only [proveWith, map_bit, map_sub_one, dotProduct_linearTerms,
    dotProduct_quadraticTerms, zipWith_leftLines, zipWith_rightLines, bind_eq_ok,
    pure_eq_ok]
  constructor
  · rintro ⟨scaled, scaling, argument, proved, rfl⟩
    exact ⟨rfl, rfl, rfl, rfl, rfl, rfl, rfl, scaled, scaling, proved⟩
  · intro makes
    obtain ⟨scaled, scaling, proved⟩ := makes.argument
    obtain ⟨argument, rfl⟩ : ∃ argument,
        proof = statement.made value blindingFactor u v rho eta tau1 tau2 argument :=
      ⟨_, makes.eq_made⟩
    exact ⟨scaled, scaling, argument, proved, rfl⟩

end Made

theorem Statement.Makes.opened {statement : Statement S} {value : UInt64}
    {blindingFactor : S.Scalar}
    {u v : Fin statement.parameters.bitLength.toNat → S.Scalar}
    {rho eta tau1 tau2 : S.Scalar} {proof : RangeProof S}
    (makes : statement.Makes value blindingFactor u v rho eta tau1 tau2 proof)
    (sized : statement.parameters.Sized) :
    let x := (statement.challenges proof).x
    proof.c + x • proof.d = commitVectors statement.parameters
      (List.ofFn fun index => statement.bits value index + x * u index)
      (List.ofFn fun index => statement.bits value index - 1 + x * v index) +
        proof.delta • statement.parameters.p := by
  intro x
  rw [commitVectors, linearCombination_add_mul sized.left,
    linearCombination_add_mul sized.right, makes.c, makes.d, makes.delta, commitVectors,
    commitVectors]
  module

/-- The vectors at the challenge of the polynomial have an inner product that
tells what the bits spell. -/
theorem Statement.dotProduct_at (statement : Statement S) (challenges : Challenges S)
    (value : UInt64) (u v : Fin statement.parameters.bitLength.toNat → S.Scalar) :
    let count := statement.parameters.bitLength.toNat
    dotProduct (statement.leftAt challenges value u)
      (statement.rightAt challenges value v) =
      constantTerm challenges.z (powers challenges.y count) (powers (1 + 1) count) +
        challenges.z * challenges.z * (value.toNat % 2 ^ count : Nat) +
        challenges.x * linearCoefficient challenges.y challenges.z
          (statement.bits value) u v +
        challenges.x * challenges.x * quadraticCoefficient challenges.y u v := by
  intro count
  have isBit (index : Fin count) :
      statement.bits value index * (statement.bits value index - 1) = 0 :=
    bitVector_mul_sub_one index
  have spelled : ∑ index : Fin count, statement.bits value index * (1 + 1) ^ index.val =
      ((value.toNat % 2 ^ count : Nat) : S.Scalar) := sum_bitVector_mod _ _
  rw [leftAt, rightAt, dotProduct_bits _ _ _ u v isBit, spelled]
  rfl

/-- Where the value has no other bits, this is the inner product that is
announced. -/
theorem Statement.Opens.dotProduct_eq {statement : Statement S} {value : UInt64}
    {blindingFactor : S.Scalar} (opens : statement.Opens value blindingFactor)
    (challenges : Challenges S)
    (u v : Fin statement.parameters.bitLength.toNat → S.Scalar) :
    let count := statement.parameters.bitLength.toNat
    dotProduct (statement.leftAt challenges value u)
      (statement.rightAt challenges value v) =
      constantTerm challenges.z (powers challenges.y count) (powers (1 + 1) count) +
        challenges.z * challenges.z * ScalarOperations.ofNat value.toNat +
        challenges.x * linearCoefficient challenges.y challenges.z
          (statement.bits value) u v +
        challenges.x * challenges.x * quadraticCoefficient challenges.y u v := by
  intro count
  rw [statement.dotProduct_at, Nat.mod_eq_of_lt opens.bounded, ofNat_eq_natCast]

/-- The commitments to the coefficients announce the inner product. -/
theorem Statement.Makes.announced {statement : Statement S} {value : UInt64}
    {blindingFactor : S.Scalar}
    {u v : Fin statement.parameters.bitLength.toNat → S.Scalar}
    {rho eta tau1 tau2 : S.Scalar} {proof : RangeProof S}
    (makes : statement.Makes value blindingFactor u v rho eta tau1 tau2 proof)
    (opens : statement.Opens value blindingFactor) :
    let challenges := statement.challenges proof
    let count := statement.parameters.bitLength.toNat
    proof.innerProduct • statement.g + proof.tau • statement.h =
      (challenges.z * challenges.z) • statement.commitment +
        constantTerm challenges.z (powers challenges.y count) (powers (1 + 1) count) •
          statement.g + challenges.x • proof.t1 +
            (challenges.x * challenges.x) • proof.t2 := by
  intro challenges count
  rw [makes.innerProduct, opens.dotProduct_eq, opens.commitment, makes.tau, makes.t1,
    makes.t2]
  module

theorem Statement.Makes.evaluates {statement : Statement S} {value : UInt64}
    {blindingFactor : S.Scalar}
    {u v : Fin statement.parameters.bitLength.toNat → S.Scalar}
    {rho eta tau1 tau2 : S.Scalar} {proof : RangeProof S}
    (makes : statement.Makes value blindingFactor u v rho eta tau1 tau2 proof)
    (sized : statement.parameters.Sized)
    (opens : statement.Opens value blindingFactor) :
    statement.Evaluates proof (statement.leftAt (statement.challenges proof) value u)
      (statement.rightAt (statement.challenges proof) value v) := by
  obtain ⟨scaled, scaling, proved⟩ := makes.argument
  exact evaluates_collapsed _ _ rfl sized (makes.opened sized) makes.innerProduct
    (makes.announced opens) scaling proved

theorem Statement.verify_proveWith {statement : Statement S} {value : UInt64}
    {blindingFactor : S.Scalar} {randomness : Randomness S} {proof : RangeProof S}
    (sized : statement.parameters.Sized)
    (uLength : randomness.u.length = statement.parameters.bitLength.toNat)
    (vLength : randomness.v.length = statement.parameters.bitLength.toNat)
    (opens : statement.Opens value blindingFactor)
    (proved : statement.proveWith value blindingFactor randomness = .ok proof) :
    statement.verify proof = .ok () := by
  obtain ⟨u, v, rho, eta, tau1, tau2⟩ := randomness
  obtain ⟨u, rfl⟩ := exists_ofFn uLength
  obtain ⟨v, rfl⟩ := exists_ofFn vLength
  exact ((proveWith_eq_ok.mp proved).evaluates sized opens).verify sized

theorem Statement.verify_prove {R : Type} [RandomSource S R] {statement : Statement S}
    {value : UInt64} {blindingFactor : S.Scalar} {proof : RangeProof S}
    (sized : statement.parameters.Sized) (opens : statement.Opens value blindingFactor)
    (gives : Sampling.Gives (R := R) (statement.prove value blindingFactor) proof) :
    statement.verify proof = .ok () := by
  obtain ⟨randomness, drawn, gives⟩ := gives.bind
  obtain ⟨uLength, vLength⟩ := sample_gives drawn
  exact verify_proveWith sized uLength vLength opens gives.lift

namespace Statements

theorem verify_prove {R : Type} [RandomSource S R] {statements : Statements S}
    {values : List UInt64} {blindingFactors : List S.Scalar} {proofs : RangeProofs S}
    (opened : statements.commitments = List.zipWith (fun value factor =>
      (ScalarOperations.ofNat value.toNat : S.Scalar) • statements.g +
        factor • statements.h)
      values blindingFactors)
    (gives : Sampling.Gives (R := R) (statements.prove values blindingFactors) proofs) :
    statements.verify proofs = .ok () := by
  obtain ⟨lengths, gives⟩ := gives.guard
  obtain ⟨_, valid, gives⟩ := gives.bind
  obtain ⟨sized, bounded, -⟩ := Parameters.validate_eq_ok valid.lift
  rw [not_or, not_not, not_not] at lengths
  obtain ⟨valuesLength, factorsLength⟩ := lengths
  cases found : values.find? (statements.parameters.maxValue < ·) with
  | some value =>
      simp only [found] at gives
      obtain ⟨_, thrown, -⟩ := gives.bind
      exact thrown.throw.elim
  | none =>
      simp only [found] at gives
      obtain ⟨made, drawn, gives⟩ := gives.bind
      cases gives.pure
      have proved := drawn.mapM
      have count : made.length = statements.commitments.length := by
        rw [← proved.length_eq, List.length_zip, List.length_zip]
        omega
      have within := List.find?_eq_none.mp found
      have verified :
          statements.verifyFrom 0 (made.zip statements.commitments) = .ok () := by
        rw [verifyFrom_eq_ok]
        rintro ⟨proof, commitment⟩ membership
        obtain ⟨index, bound, same⟩ := List.getElem_of_mem membership
        rw [List.getElem_zip] at same
        obtain ⟨rfl, rfl⟩ := Prod.mk.inj same
        rw [List.length_zip] at bound
        have given := proved.get (i := index)
          (by rw [List.length_zip, List.length_zip]; omega) (by omega)
        simp only [List.get_eq_getElem, List.getElem_zip] at given
        have openedAt : statements.commitments[index] =
            (ScalarOperations.ofNat (values[index]).toNat : S.Scalar) • statements.g +
              blindingFactors[index] • statements.h := by
          simp only [opened, List.getElem_zipWith]
        have small : values[index] ≤ statements.parameters.maxValue := by
          simpa using within values[index] (List.getElem_mem _)
        exact Statement.verify_prove sized
          ⟨openedAt, Parameters.lt_of_le_maxValue bounded small⟩ given.forked
      simpa [verify, count] using verified

end Statements

end ConfidentialToken.Bulletproof
