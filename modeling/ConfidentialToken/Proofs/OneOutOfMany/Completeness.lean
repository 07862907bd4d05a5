import ConfidentialToken.Proofs.Algebra.Residue
import ConfidentialToken.Proofs.Algebra.Vectors
import ConfidentialToken.Proofs.OneOutOfMany.Selection
import ConfidentialToken.Proofs.Outcome
import ConfidentialToken.Proofs.Sampling

/-!
Honest one-out-of-many proofs are accepted.

The factor of a commitment is the value of a polynomial whose leading
coefficient is one at the index that the prover knows and zero everywhere else.
The prover has committed to the other coefficients.
-/

namespace ConfidentialToken.OneOutOfMany

variable {S : Suite}

theorem setSize?_eq_some {bitLength : UInt64} {size : Nat} :
    setSize? bitLength = some size ↔
      bitLength.toNat < 64 ∧ size = 2 ^ bitLength.toNat := by
  have small : bitLength < 64 ↔ bitLength.toNat < 64 := UInt64.lt_iff_toNat_lt
  simp only [setSize?, small, Option.ite_none_right_eq_some, Option.some.injEq,
    Nat.pow_eq]
  exact and_congr_right fun _ => eq_comm

/-- What a prover must know: the commitment at the index is a multiple of the
second base. -/
structure Fits (statement : Statement S) (witness : Witness S) (g0 g1 : S.G1) : Prop where
  pedersen : statement.pedersen = [g0, g1]
  size : setSize? statement.bitLength = some statement.commitments.length
  index : witness.index.toNat < statement.commitments.length
  opened : statement.commitments.getD witness.index.toNat 0 = witness.randomness • g1

theorem checkWitness_eq_ok {statement : Statement S} {witness : Witness S}
    {g0 g1 : S.G1} :
    checkWitness statement witness = .ok (g0, g1) ↔ Fits statement witness g0 g1 := by
  unfold checkWitness
  split
  case h_1 first second pedersen =>
    simp only [guard_eq_ok, pure_eq_ok, Prod.mk.injEq, not_or, ne_eq, not_not, Nat.not_le]
    constructor
    · rintro ⟨⟨size, positive⟩, inRange, opened, rfl, rfl⟩
      cases found : setSize? statement.bitLength with
      | none => simp [found] at positive
      | some count =>
          simp only [found, Option.getD_some] at size inRange
          exact ⟨pedersen, by rw [found, size], size ▸ inRange, opened⟩
    · rintro ⟨same, size, inRange, opened⟩
      cases pedersen.symm.trans same
      simp only [size, Option.getD_some]
      exact ⟨⟨trivial, Nat.ne_zero_of_lt inRange⟩, inRange, opened, trivial, trivial⟩
  case h_2 other =>
    constructor
    · intro thrown
      exact absurd thrown throw_ne_ok
    · intro fits
      exact (other g0 g1 fits.pedersen).elim

/-- The factors of the polynomial at an index. -/
def factorsAt (index : Nat) (bits : List Bool) (a : List S.Scalar) :
    List (LinearFactor S.Scalar) :=
  ((linearFactors bits a).1.zip (linearFactors bits a).2).zipIdx.map fun ((zero, one),
      place) =>
    if bit (.ofNat index) place then one else zero

theorem length_factorsAt {bits : List Bool} {a : List S.Scalar}
    (lengths : a.length = bits.length) (index : Nat) :
    (factorsAt index bits a).length = bits.length := by
  simp [factorsAt, linearFactors, lengths]

structure Randomness.Sized (randomness : Randomness S) (count : Nat) : Prop where
  a : randomness.a.length = count
  r : randomness.r.length = count
  s : randomness.s.length = count
  t : randomness.t.length = count
  rho : randomness.rho.length = count

theorem sample_gives {R : Type} [RandomSource S R] {count : Nat}
    {randomness : Randomness S}
    (gives : Sampling.Gives (R := R) (sample count) randomness) :
    randomness.Sized count := by
  obtain ⟨a, aDrawn, gives⟩ := gives.bind
  obtain ⟨r, rDrawn, gives⟩ := gives.bind
  obtain ⟨s, sDrawn, gives⟩ := gives.bind
  obtain ⟨t, tDrawn, gives⟩ := gives.bind
  obtain ⟨rho, rhoDrawn, gives⟩ := gives.bind
  cases gives.pure
  exact ⟨aDrawn.length_times, rDrawn.length_times, sDrawn.length_times,
    tDrawn.length_times, rhoDrawn.length_times⟩

/-- The proof of a prover who knows what it must know is made. -/
theorem prove_succeeds {R : Type} [RandomSource S R] {statement : Statement S}
    {witness : Witness S} {g0 g1 : S.G1} (fits : Fits statement witness g0 g1) :
    Sampling.Succeeds (prove (R := R) statement witness) := by
  have checked := checkWitness_eq_ok.mpr fits
  refine (Sampling.succeeds_lift checked).bind fun _ => ?_
  refine Sampling.Succeeds.bind ?_ fun randomness =>
    Sampling.succeeds_lift (bind_eq_ok.mpr ⟨_, checked, rfl⟩)
  exact Sampling.succeeds_scalars.bind fun _ => Sampling.succeeds_scalars.bind fun _ =>
    Sampling.succeeds_scalars.bind fun _ => Sampling.succeeds_scalars.bind fun _ =>
      Sampling.succeeds_scalars.bind fun _ => Sampling.succeeds_pure _

theorem checkBit_eq_ok {g0 g1 l a b : S.G1} {challenge vl va vb : S.Scalar} :
    Statement.checkBit g0 g1 challenge ((l, a, b), (vl, va, vb)) = .ok () ↔
      challenge • l + a = vl • g0 + va • g1 ∧ (challenge - vl) • l + b = vb • g1 := by
  simp only [Statement.checkBit, guard_eq_ok, ite_throw_eq_ok, pure_eq_ok, ne_eq, not_not,
    and_true]

structure Commitments.Sized (commitments : Commitments S) (count : Nat) : Prop where
  l : commitments.l.length = count
  a : commitments.a.length = count
  b : commitments.b.length = count
  d : commitments.d.length = count

structure Values.Sized (values : Values S) (count : Nat) : Prop where
  l : values.l.length = count
  a : values.a.length = count
  b : values.b.length = count

/-- A challenge with the responses to it. -/
structure Answer (S : Suite) where
  challenge : S.Scalar
  values : Values S

/-- What the verifier checks of an answer to given commitments: the two
equations of every bit, and the one of all commitments together. -/
structure Answer.Accepted (answer : Answer S) (statement : Statement S) (g0 g1 : S.G1)
    (commitments : Commitments S) : Prop where
  sized : answer.values.Sized statement.bitLength.toNat
  bits : ((commitments.l.zip (commitments.a.zip commitments.b)).zip
    (answer.values.l.zip (answer.values.a.zip answer.values.b))).forM
      (Statement.checkBit g0 g1 answer.challenge) = .ok ()
  collapsed : statement.collapsed answer.challenge ⟨commitments, answer.values⟩ =
    answer.values.d • g1

theorem Statement.verify_eq_ok {statement : Statement S} {proof : Proof S} :
    statement.verify proof = .ok () ↔
      ∃ g0 g1, statement.pedersen = [g0, g1] ∧
        setSize? statement.bitLength = some statement.commitments.length ∧
        proof.commitments.Sized statement.bitLength.toNat ∧
        Answer.Accepted ⟨statement.challenge proof.commitments, proof.values⟩
          statement g0 g1 proof.commitments := by
  unfold verify
  split
  case h_1 g0 g1 pedersen =>
    simp only [guard_eq_ok, bind_eq_ok, ite_throw_eq_ok, pure_eq_ok, not_or, ne_eq,
      not_not, and_true]
    constructor
    · rintro ⟨size, ⟨l, a, b, d⟩, ⟨vl, va, vb⟩, ⟨⟩, bits, collapsed⟩
      exact ⟨g0, g1, pedersen, size, ⟨l, a, b, d⟩, ⟨vl, va, vb⟩, bits, collapsed⟩
    · rintro ⟨g0, g1, same, size, ⟨l, a, b, d⟩, ⟨vl, va, vb⟩, bits, collapsed⟩
      cases pedersen.symm.trans same
      exact ⟨size, ⟨l, a, b, d⟩, ⟨vl, va, vb⟩, (), bits, collapsed⟩
  case h_2 other =>
    constructor
    · intro thrown
      exact absurd thrown throw_ne_ok
    · rintro ⟨g0, g1, pedersen, -⟩
      exact (other g0 g1 pedersen).elim

variable [LawfulG1 S]

/-- The responses of the prover are the values of its factors. -/
theorem prod_evaluate_factorsAt {bits : List Bool} {a : List S.Scalar}
    (lengths : a.length = bits.length) (index : Nat) (challenge : S.Scalar) :
    ((factorsAt index bits a).map fun factor => factor.evaluate challenge).prod =
      indexFactor challenge
        (List.zipWith (fun bit a => if bit then a + challenge else a) bits a) index := by
  rw [indexFactor, ← List.prod_eq_foldl]
  refine congrArg List.prod
    (List.ext_getElem (by simp [factorsAt, linearFactors, lengths]) ?_)
  intro place bound otherBound
  have inBits : place < bits.length := by
    simpa [length_factorsAt lengths] using bound
  simp only [factorsAt, linearFactors, List.getElem_map, List.getElem_zipIdx,
    List.getElem_zip, List.getElem_zipWith, zero_add]
  by_cases set : bit (.ofNat index) place <;> by_cases secret : bits[place] <;>
    simp [set, secret, LinearFactor.evaluate] <;> ring

/-- The product of the slopes tells the index of the prover from the others. -/
theorem prod_slope_factorsAt {index : UInt64} {count : Nat} (few : count < 64)
    {a : List S.Scalar} (lengths : a.length = count) {other : Nat}
    (bounded : other < 2 ^ count) (inRange : index.toNat < 2 ^ count) :
    ((factorsAt other (indexBits index count) a).map LinearFactor.slope).prod =
      if other = index.toNat then (1 : S.Scalar) else 0 := by
  have word : (UInt64.ofNat other).toNat = other :=
    UInt64.toNat_ofNat_of_lt
      (Nat.lt_trans bounded (Nat.pow_lt_pow_right Nat.one_lt_two few))
  have wordBound : (UInt64.ofNat other).toNat < 2 ^ count := word.symm ▸ bounded
  obtain ⟨a, rfl⟩ := exists_ofFn lengths
  rw [factorsAt, linearFactors_indexBits, map_choice_ofFn, List.map_ofFn, List.prod_ofFn]
  refine (prod_slope_chosenFactor wordBound inRange (fun _ => rfl) (fun _ => rfl)).trans
    ?_
  simp only [← UInt64.toNat_inj, word]

/-- The polynomial at an index lacks the leading term of the product of its
factors. -/
theorem evaluate_polynomialForIndex {bits : List Bool} {a : List S.Scalar}
    (lengths : a.length = bits.length) (index : Nat) (challenge : S.Scalar) :
    let polynomial :=
      polynomialForIndex index (linearFactors bits a).1 (linearFactors bits a).2
    polynomial.length = bits.length ∧ evaluate polynomial challenge =
      indexFactor challenge
          (List.zipWith (fun bit a => if bit then a + challenge else a) bits a) index -
        ((factorsAt index bits a).map LinearFactor.slope).prod *
          challenge ^ bits.length := by
  obtain ⟨length, value⟩ := evaluate_take_foldl (factorsAt index bits a) challenge
  rw [length_factorsAt lengths] at length value
  rw [prod_evaluate_factorsAt lengths] at value
  have same : polynomialForIndex index (linearFactors bits a).1 (linearFactors bits a).2 =
      ((factorsAt index bits a).foldl multiplyLinear [1]).take bits.length := by
    rw [← length_factorsAt lengths index]
    rfl
  simp only [same]
  exact ⟨length, value⟩

/-- The commitments to a bit and their responses satisfy the two equations of
the bit. -/
theorem checkBit_respond (g0 g1 : S.G1) (bit : Bool) (a r s t challenge : S.Scalar) :
    Statement.checkBit g0 g1 challenge
      ((if bit then r • g1 + g0 else r • g1, a • g0 + s • g1,
          if bit then t • g1 + a • g0 else t • g1),
        (if bit then a + challenge else a, r * challenge + s,
          (challenge - if bit then a + challenge else a) * r + t)) = .ok () := by
  refine checkBit_eq_ok.mpr ⟨?_, ?_⟩ <;>
    cases bit <;>
    simp only [Bool.false_eq_true, if_true, if_false] <;>
    module

theorem forM_checkBit (statement : Statement S) (witness : Witness S) (g0 g1 : S.G1)
    (bits : List Bool) (randomness : Randomness S) (challenge : S.Scalar) :
    let c := commit statement g0 g1 bits randomness
    let v := respond challenge bits witness randomness
    ((c.l.zip (c.a.zip c.b)).zip (v.l.zip (v.a.zip v.b))).forM
      (Statement.checkBit g0 g1 challenge) = .ok () := by
  intro c v
  refine forM_eq_ok.mpr fun pair membership => ?_
  obtain ⟨place, bound, rfl⟩ := List.getElem_of_mem membership
  simp only [c, v, commit, respond, List.getElem_zip, List.getElem_zipWith]
  exact checkBit_respond _ _ _ _ _ _ _ _

/-- What commitments to coefficients hide them with: the polynomials of all
commitments are taken off. -/
def masks (commitments : List S.G1) (polynomials : Nat → List S.Scalar)
    (coefficients : List S.G1) : List S.G1 :=
  coefficients.zipIdx.map fun (coefficient, place) =>
    coefficient - linearCombination commitments
      ((List.range commitments.length).map fun index => (polynomials index).getD place 0)

/-- Without the coefficients that are committed to, what is left of the factors
of all commitments is their remainders. -/
theorem linearCombination_unmask {commitments coefficients : List S.G1}
    (factors remainder : Nat → S.Scalar) (polynomials : Nat → List S.Scalar)
    (challenge : S.Scalar)
    (lengths : ∀ index < commitments.length,
      (polynomials index).length = coefficients.length)
    (values : ∀ index < commitments.length,
      evaluate (polynomials index) challenge = factors index - remainder index) :
    linearCombination commitments ((List.range commitments.length).map factors) -
        linearCombination coefficients (powers challenge coefficients.length) =
      linearCombination commitments ((List.range commitments.length).map remainder) -
        linearCombination (masks commitments polynomials coefficients)
          (powers challenge coefficients.length) := by
  unfold masks
  generalize sizeEq : commitments.length = size at *
  generalize countEq : coefficients.length = count at *
  obtain ⟨bases, rfl⟩ := exists_ofFn sizeEq
  obtain ⟨coefficients, rfl⟩ := exists_ofFn countEq
  have hidden : ((List.ofFn coefficients).zipIdx.map fun (coefficient, place) =>
      coefficient - linearCombination (List.ofFn bases)
        ((List.range size).map fun index => (polynomials index).getD place 0)) =
      List.ofFn fun place : Fin count => coefficients place -
        ∑ index : Fin size, (polynomials index).getD place 0 • bases index := by
    refine List.ext_getElem (by simp) fun place bound otherBound => ?_
    simp only [List.getElem_map, List.getElem_zipIdx, List.getElem_ofFn, zero_add,
      map_range_eq_ofFn, linearCombination_ofFn]
  have each (index : Fin size) : factors index =
      ∑ place : Fin count, (polynomials index).getD place 0 * challenge ^ place.val +
        remainder index := by
    rw [← evaluate_eq_sum (lengths index index.isLt), values index index.isLt,
      sub_add_cancel]
  rw [hidden, powers_eq, map_range_eq_ofFn, map_range_eq_ofFn, linearCombination_ofFn,
    linearCombination_ofFn, linearCombination_ofFn, linearCombination_ofFn]
  simp only [each, add_smul, Finset.sum_smul, smul_sub, Finset.smul_sum, smul_smul,
    Finset.sum_add_distrib, Finset.sum_sub_distrib]
  rw [Finset.sum_comm]
  simp only [mul_comm]
  abel

theorem linearCombination_indicator {commitments : List S.G1} {index : Nat}
    (inRange : index < commitments.length) (factor : S.Scalar) :
    linearCombination commitments ((List.range commitments.length).map fun other =>
      (if other = index then (1 : S.Scalar) else 0) * factor) =
      factor • commitments.getD index 0 := by
  obtain ⟨size, sizeEq⟩ : ∃ size, commitments.length = size := ⟨_, rfl⟩
  obtain ⟨bases, rfl⟩ := exists_ofFn sizeEq
  rw [List.length_ofFn] at inRange ⊢
  have entry : (List.ofFn bases).getD index 0 = bases ⟨index, inRange⟩ := by
    simp [inRange]
  rw [entry, map_range_eq_ofFn, linearCombination_ofFn,
    Finset.sum_eq_single ⟨index, inRange⟩]
  · simp
  · intro other _ different
    have apart : other.val ≠ index := fun same => different (Fin.ext same)
    simp [apart]
  · intro absent
    exact absurd (Finset.mem_univ _) absent

/-- Responses that are the values of the lines of an index leave of the sum the
commitment at the index and what hides the coefficients. -/
theorem collapsed_of_lines {statement : Statement S} {index : UInt64}
    (size : setSize? statement.bitLength = some statement.commitments.length)
    (inRange : index.toNat < statement.commitments.length) {a : List S.Scalar}
    (aLength : a.length = statement.bitLength.toNat) {challenge : S.Scalar}
    {proof : Proof S} (dLength : proof.commitments.d.length = statement.bitLength.toNat)
    (lines : proof.values.l = List.zipWith (fun bit a => if bit then a + challenge else a)
      (indexBits index statement.bitLength.toNat) a) :
    let factors := linearFactors (indexBits index statement.bitLength.toNat) a
    statement.collapsed challenge proof =
      challenge ^ statement.bitLength.toNat • statement.commitments.getD index.toNat 0 -
        linearCombination (masks statement.commitments
            (fun other => polynomialForIndex other factors.1 factors.2)
            proof.commitments.d)
          (powers challenge statement.bitLength.toNat) := by
  intro factors
  obtain ⟨few, sizeEq⟩ := setSize?_eq_some.mp size
  have bitsLength : (indexBits index statement.bitLength.toNat).length =
      statement.bitLength.toNat := by simp [indexBits]
  have lengths : a.length = (indexBits index statement.bitLength.toNat).length :=
    aLength.trans bitsLength.symm
  have slope {other : Nat} (bounded : other < statement.commitments.length) :
      ((factorsAt other (indexBits index statement.bitLength.toNat) a).map
        LinearFactor.slope).prod = if other = index.toNat then (1 : S.Scalar) else 0 :=
    prod_slope_factorsAt few aLength (sizeEq ▸ bounded) (sizeEq ▸ inRange)
  have unmasked := linearCombination_unmask
    (indexFactor challenge proof.values.l)
    (fun other => (if other = index.toNat then (1 : S.Scalar) else 0) *
      challenge ^ statement.bitLength.toNat)
    (fun other => polynomialForIndex other factors.1 factors.2) challenge
    (fun other _ => (evaluate_polynomialForIndex lengths other challenge).1.trans
      (bitsLength.trans dLength.symm))
    (fun other bounded => by
      rw [(evaluate_polynomialForIndex lengths other challenge).2, slope bounded,
        bitsLength, lines])
  rw [dLength] at unmasked
  rw [Statement.collapsed, dLength, unmasked, linearCombination_indicator inRange]

/-- The masks of a prover are multiples of the second base. -/
theorem masks_commit (statement : Statement S) (g0 g1 : S.G1) (bits : List Bool)
    (randomness : Randomness S) :
    let factors := linearFactors bits randomness.a
    masks statement.commitments
      (fun index => polynomialForIndex index factors.1 factors.2)
        (commit statement g0 g1 bits randomness).d =
      randomness.rho.map (· • g1) := by
  intro factors
  refine List.ext_getElem (by simp [masks, commit]) fun place bound otherBound => ?_
  simp [masks, commit, factors, Function.comp_def]

/-- What the commitments of a prover leave of the sum is the multiple of the
second base that the prover knows. -/
theorem collapsed_respond {statement : Statement S} {witness : Witness S} {g0 g1 : S.G1}
    (fits : Fits statement witness g0 g1) {randomness : Randomness S}
    (sized : randomness.Sized statement.bitLength.toNat) (challenge : S.Scalar) :
    let bits := indexBits witness.index statement.bitLength.toNat
    let values := respond challenge bits witness randomness
    statement.collapsed challenge ⟨commit statement g0 g1 bits randomness, values⟩ =
      values.d • g1 := by
  intro bits values
  have bitsLength : bits.length = statement.bitLength.toNat := by simp [bits, indexBits]
  have dLength : (commit statement g0 g1 bits randomness).d.length =
      statement.bitLength.toNat := by simp [commit, sized.rho]
  have raised : power challenge statement.bitLength.toNat =
      challenge ^ statement.bitLength.toNat := composeTimes_eq_pow challenge _
  have hidden := masks_commit statement g0 g1 bits randomness
  rw [collapsed_of_lines fits.size fits.index sized.a dLength rfl, hidden, fits.opened,
    linearCombination_map_smul, ← mul_smul, ← sub_smul]
  refine congrArg (· • g1) ?_
  simp only [values, respond, bitsLength, raised]
  ring

/-- An honest proof is accepted. -/
theorem verify_proveWith {statement : Statement S} {witness : Witness S}
    {randomness : Randomness S} {proof : Proof S}
    (sized : randomness.Sized statement.bitLength.toNat)
    (proved : proveWith statement witness randomness = .ok proof) :
    statement.verify proof = .ok () := by
  obtain ⟨⟨g0, g1⟩, checked, made⟩ := bind_eq_ok.mp proved
  cases pure_eq_ok.mp made
  have fits := checkWitness_eq_ok.mp checked
  have bitsLength : (indexBits witness.index statement.bitLength.toNat).length =
      statement.bitLength.toNat := by simp [indexBits]
  refine Statement.verify_eq_ok.mpr ⟨g0, g1, fits.pedersen, fits.size, ⟨?_, ?_, ?_, ?_⟩,
    ⟨?_, ?_, ?_⟩, forM_checkBit statement witness g0 g1 _ randomness _,
    collapsed_respond fits sized _⟩
  all_goals simp [commit, respond, bitsLength, sized.a, sized.r, sized.s, sized.t,
    sized.rho]

theorem verify_prove {R : Type} [RandomSource S R] {statement : Statement S}
    {witness : Witness S} {proof : Proof S}
    (gives : Sampling.Gives (R := R) (prove statement witness) proof) :
    statement.verify proof = .ok () := by
  obtain ⟨_, -, gives⟩ := gives.bind
  obtain ⟨randomness, drawn, gives⟩ := gives.bind
  exact verify_proveWith (sample_gives drawn) gives.lift

end ConfidentialToken.OneOutOfMany
