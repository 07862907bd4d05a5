import ConfidentialToken.Proofs.Algebra.Vectors
import ConfidentialToken.Proofs.Outcome
import ConfidentialToken.Bulletproof.InnerProduct

/-!
Honest inner product arguments are accepted.

What the vectors of a prover commit to changes in a round by the two points of
the round, each times the square of the challenge or of its inverse. The
verifier adds the same points to the commitment and folds the generators as the
prover has done, so that both end with one equation.
-/

namespace ConfidentialToken.Bulletproof.InnerProduct

variable {S : Suite}

/-- The generators of both sides are as many as the rounds need. -/
structure Statement.Sized (statement : Statement S) : Prop where
  rounds : statement.rounds < 64
  left : statement.leftGenerators.length = 2 ^ statement.rounds.toNat
  right : statement.rightGenerators.length = 2 ^ statement.rounds.toNat

/-- The generators of both sides are as many as the low bits of the number of
rounds ask for. -/
structure Statement.Matched (statement : Statement S) : Prop where
  few : statement.rounds.toNat % UInt32.size < 64
  left : statement.leftGenerators.length = 2 ^ (statement.rounds.toNat % UInt32.size)
  right : statement.rightGenerators.length = 2 ^ (statement.rounds.toNat % UInt32.size)

theorem generatorCount?_eq_some {rounds : UInt64} {count : Nat} :
    generatorCount? rounds = some count ↔
      rounds.toNat % UInt32.size < 64 ∧ count = 2 ^ (rounds.toNat % UInt32.size) := by
  rw [generatorCount?, Option.ite_none_right_eq_some, Option.some.injEq, Nat.pow_eq,
    eq_comm]

theorem Statement.sized_iff {statement : Statement S} :
    statement.sized = true ↔ statement.Matched := by
  simp only [sized, Bool.and_eq_true, decide_eq_true_eq, generatorCount?_eq_some]
  constructor
  · rintro ⟨same, few, left⟩
    exact ⟨few, left, same ▸ left⟩
  · rintro ⟨few, left, right⟩
    exact ⟨left.trans right.symm, few, left⟩

namespace Statement

variable {statement : Statement S}

theorem Sized.matched (sized : statement.Sized) : statement.Matched := by
  have few : statement.rounds.toNat < 64 := UInt64.lt_iff_toNat_lt.mp sized.rounds
  have low : statement.rounds.toNat % UInt32.size = statement.rounds.toNat :=
    Nat.mod_eq_of_lt (few.trans (by decide))
  exact ⟨low.symm ▸ few, low.symm ▸ sized.left, low.symm ▸ sized.right⟩

/-- Where the generators suffice for all rounds, the low bits of the number are
the whole of it. -/
theorem Matched.sized (matched : statement.Matched)
    (enough : 2 ^ statement.rounds.toNat ≤ statement.leftGenerators.length) :
    statement.Sized := by
  have within : statement.rounds.toNat ≤ statement.rounds.toNat % UInt32.size :=
    (Nat.pow_le_pow_iff_right (by decide)).mp (matched.left ▸ enough)
  have low : statement.rounds.toNat % UInt32.size = statement.rounds.toNat :=
    Nat.le_antisymm (Nat.mod_le _ _) within
  exact ⟨UInt64.lt_iff_toNat_lt.mpr (within.trans_lt matched.few), low ▸ matched.left,
    low ▸ matched.right⟩

end Statement

theorem invert_eq_ok {scalar inverse : S.Scalar} :
    invert scalar = .ok inverse ↔ scalar ≠ 0 ∧ scalar⁻¹ = inverse := by
  rw [invert, ite_error_eq_ok, Except.ok.injEq]

theorem mapM_invert_eq_ok {scalars inverses : List S.Scalar} :
    scalars.mapM invert = .ok inverses ↔
      (∀ scalar ∈ scalars, scalar ≠ 0) ∧ scalars.map (·⁻¹) = inverses := by
  simp only [mapM_eq_ok, invert_eq_ok]
  induction scalars generalizing inverses with
  | nil => simp [eq_comm]
  | cons scalar scalars inductionHypothesis =>
      cases inverses with
      | nil => simp
      | cons inverse inverses =>
          simp only [List.forall₂_cons, inductionHypothesis, List.forall_mem_cons,
            List.map_cons, List.cons.injEq, and_assoc, and_left_comm]

/-- What remains of the generators of a side after all rounds. -/
def folded (generators : List S.G1) (factors otherFactors : List S.Scalar) : S.G1 :=
  linearCombination generators (foldingFactors (factors.zip otherFactors))

namespace Proof

/-- The challenges of the rounds. -/
def challenges (proof : Proof S) : List S.Scalar :=
  List.zipWith roundChallenge proof.l proof.r

/-- What the scalars of a proof commit to with what remains of the
generators. -/
def opening (proof : Proof S) (leftGenerators rightGenerators : List S.G1)
    (base : S.G1) : S.G1 :=
  let inverses := proof.challenges.map (·⁻¹)
  proof.left • folded leftGenerators proof.challenges inverses +
    proof.right • folded rightGenerators inverses proof.challenges +
    (proof.left * proof.right) • base

/-- A commitment with the points of all rounds. -/
def extend (proof : Proof S) (commitment : S.G1) : S.G1 :=
  commitment + linearCombination proof.l (proof.challenges.map fun x => x * x) +
    linearCombination proof.r ((proof.challenges.map (·⁻¹)).map fun x => x * x)

/-- A pair of points for each round, from which invertible challenges follow. -/
structure Fits (proof : Proof S) (rounds : Nat) : Prop where
  l : proof.l.length = rounds
  r : proof.r.length = rounds
  invertible : ∀ challenge ∈ proof.challenges, challenge ≠ 0

theorem Fits.length_challenges {proof : Proof S} {rounds : Nat}
    (fits : proof.Fits rounds) : proof.challenges.length = rounds := by
  rw [challenges, List.length_zipWith, fits.l, fits.r, Nat.min_self]

end Proof

theorem Statement.verify_eq_ok {statement : Statement S} {proof : Proof S} :
    InnerProduct.verify statement proof = .ok () ↔
      proof.Fits statement.rounds.toNat ∧ statement.Matched ∧
      proof.opening statement.leftGenerators statement.rightGenerators
          (statement.initialChallenge • statement.q) =
        proof.extend (statement.commitment +
          (statement.initialChallenge * statement.innerProduct) • statement.q) := by
  simp only [InnerProduct.verify, guard_eq_ok, bind_eq_ok, mapM_invert_eq_ok,
    ite_throw_eq_ok, not_or, ne_eq, not_not, Bool.not_eq_true', Bool.not_eq_false,
    sized_iff, pure_eq_ok, and_true]
  constructor
  · rintro ⟨⟨same, rounds⟩, sized, inverses, ⟨invertible, rfl⟩, equation⟩
    exact ⟨⟨rounds, same ▸ rounds, invertible⟩, sized, equation⟩
  · rintro ⟨⟨l, r, invertible⟩, sized, equation⟩
    exact ⟨⟨l.trans r.symm, l⟩, sized, _, ⟨invertible, rfl⟩, equation⟩

theorem length_fold {α : Type} [Add α] [SMul S.Scalar α] {half : Nat} {vector : List α}
    (length : vector.length = 2 * half) (first second : S.Scalar) :
    (fold vector first second).length = half := by
  simp only [fold, List.length_zipWith, List.length_take, List.length_drop]
  omega

theorem foldScalars_eq (vector : List S.Scalar) (first second : S.Scalar) :
    foldScalars vector first second = fold vector first second :=
  rfl

theorem length_foldScalars {half : Nat} {vector : List S.Scalar}
    (length : vector.length = 2 * half) (first second : S.Scalar) :
    (foldScalars vector first second).length = half := by
  rw [foldScalars_eq, length_fold length]

theorem length_foldingFactors (pairs : List (S.Scalar × S.Scalar)) :
    (foldingFactors pairs).length = 2 ^ pairs.length := by
  induction pairs with
  | nil => rfl
  | cons pair pairs inductionHypothesis =>
      simp [foldingFactors, inductionHypothesis, Nat.pow_succ, Nat.mul_two]

theorem exists_halves {α : Type} {half : Nat} {list : List α}
    (length : list.length = 2 * half) :
    ∃ lower upper : Fin half → α, list = List.ofFn lower ++ List.ofFn upper := by
  have lowerLength : (list.take half).length = half := by rw [List.length_take]; omega
  have upperLength : (list.drop half).length = half := by rw [List.length_drop]; omega
  obtain ⟨lower, lowerEq⟩ := exists_ofFn lowerLength
  obtain ⟨upper, upperEq⟩ := exists_ofFn upperLength
  exact ⟨lower, upper, by rw [← lowerEq, ← upperEq, List.take_append_drop]⟩

namespace Vectors

structure Sized (vectors : Vectors S) (length : Nat) : Prop where
  leftGenerators : vectors.leftGenerators.length = length
  rightGenerators : vectors.rightGenerators.length = length
  left : vectors.left.length = length
  right : vectors.right.length = length

/-- The commitment to the vectors and to their inner product. -/
def commitment (vectors : Vectors S) (base : S.G1) : S.G1 :=
  linearCombination vectors.leftGenerators vectors.left +
    linearCombination vectors.rightGenerators vectors.right +
    dotProduct vectors.left vectors.right • base

theorem Sized.halve {vectors : Vectors S} {half : Nat} (sized : vectors.Sized (2 * half))
    (challenge inverse : S.Scalar) : (vectors.halve challenge inverse).Sized half where
  leftGenerators := length_fold sized.leftGenerators _ _
  rightGenerators := length_fold sized.rightGenerators _ _
  left := length_foldScalars sized.left _ _
  right := length_foldScalars sized.right _ _

end Vectors

variable [LawfulG1 S]

/-- A folded vector with folded factors: the terms of both halves, and the cross
terms. -/
theorem linearCombination_fold {G : Type} [AddCommGroup G] [Module S.Scalar G]
    {half : Nat} {bases : List G} {factors : List S.Scalar}
    (basesLength : bases.length = 2 * half) (factorsLength : factors.length = 2 * half)
    {challenge inverse : S.Scalar} (inverted : challenge * inverse = 1) :
    linearCombination (fold bases inverse challenge)
      (foldScalars factors challenge inverse) =
      linearCombination bases factors +
        (challenge * challenge) •
          linearCombination (bases.drop half) (factors.take half) +
        (inverse * inverse) •
          linearCombination (bases.take half) (factors.drop half) := by
  have halfBases : bases.length / 2 = half := by omega
  have halfFactors : factors.length / 2 = half := by omega
  have lower : (bases.take half).length = half := by rw [List.length_take]; omega
  have upper : (bases.drop half).length = half := by rw [List.length_drop]; omega
  have lowerFactors : (factors.take half).length = half := by rw [List.length_take]; omega
  have upperFactors : (factors.drop half).length = half := by rw [List.length_drop]; omega
  have expanded :=
    linearCombination_bilinear lower upper lowerFactors upperFactors inverse
      challenge challenge inverse
  rw [mul_comm inverse challenge, inverted, one_smul, one_smul] at expanded
  rw [linearCombination_take_drop half bases (basesLength.trans factorsLength.symm), fold,
    foldScalars, halfBases, halfFactors, expanded]
  abel

/-- Folding the generators once and combining them with the factors of the other
rounds is combining them with all factors. -/
theorem folded_cons {rounds : Nat} {generators : List S.G1}
    (challenge inverse : S.Scalar) {challenges inverses : List S.Scalar}
    (length : generators.length = 2 ^ (rounds + 1))
    (challengesLength : challenges.length = rounds)
    (inversesLength : inverses.length = rounds) :
    folded generators (challenge :: challenges) (inverse :: inverses) =
      folded (fold generators inverse challenge) challenges inverses := by
  have half : generators.length / 2 = 2 ^ rounds := by
    rw [length, Nat.pow_succ, Nat.mul_div_cancel _ Nat.two_pos]
  have count : (foldingFactors (challenges.zip inverses)).length = 2 ^ rounds := by
    rw [length_foldingFactors, List.length_zip, challengesLength, inversesLength,
      Nat.min_self]
  have lower : (generators.take (2 ^ rounds)).length = 2 ^ rounds := by
    rw [List.length_take, length, Nat.pow_succ]
    omega
  have upper : (generators.drop (2 ^ rounds)).length = 2 ^ rounds := by
    rw [List.length_drop, length, Nat.pow_succ]
    omega
  obtain ⟨lows, lowsEq⟩ := exists_ofFn lower
  obtain ⟨highs, highsEq⟩ := exists_ofFn upper
  obtain ⟨factors, factorsEq⟩ := exists_ofFn count
  have split : generators = List.ofFn lows ++ List.ofFn highs := by
    rw [← lowsEq, ← highsEq, List.take_append_drop]
  rw [folded, folded, List.zip_cons_cons, foldingFactors, fold, half, lowsEq, highsEq,
    factorsEq, zipWith_ofFn, linearCombination_ofFn, List.map_ofFn, List.map_ofFn]
  rw [split, linearCombination_append _ _ (by simp), linearCombination_ofFn,
    linearCombination_ofFn, ← Finset.sum_add_distrib]
  refine Finset.sum_congr rfl fun index _ => ?_
  simp only [Function.comp_apply]
  module

namespace Vectors

/-- A round changes the commitment by its two points. -/
theorem Sized.commitment_halve {vectors : Vectors S} {half : Nat}
    (sized : vectors.Sized (2 * half)) (base : S.G1) {challenge inverse : S.Scalar}
    (inverted : challenge * inverse = 1) :
    (vectors.halve challenge inverse).commitment base =
      vectors.commitment base + (challenge * challenge) • vectors.leftCross base +
        (inverse * inverse) • vectors.rightCross base := by
  have halfLeft : vectors.left.length / 2 = half := by rw [sized.left]; omega
  have left := linearCombination_fold sized.leftGenerators sized.left inverted
  have right := linearCombination_fold sized.rightGenerators sized.right
    ((mul_comm inverse challenge).trans inverted)
  have product := linearCombination_fold sized.right sized.left inverted
  simp only [commitment, Vectors.halve, leftCross, rightCross, halfLeft, dotProduct_eq,
    left, right]
  rw [foldScalars_eq vectors.right, product]
  simp only [smul_eq_mul]
  module

end Vectors

/-- The rounds of a prover: what is left opens the commitment to the vectors
with the points of all rounds. -/
theorem proveRounds_eq_ok {base : S.G1} {rounds : Nat} {vectors : Vectors S}
    {proof : Proof S} (sized : vectors.Sized (2 ^ rounds))
    (proved : proveRounds base rounds vectors = .ok proof) :
    proof.Fits rounds ∧
      proof.opening vectors.leftGenerators vectors.rightGenerators base =
        proof.extend (vectors.commitment base) := by
  induction rounds generalizing vectors proof with
  | zero =>
      obtain ⟨leftGenerators, rightGenerators, left, right⟩ := vectors
      obtain ⟨leftGenerator, rfl⟩ := List.length_eq_one_iff.mp sized.leftGenerators
      obtain ⟨rightGenerator, rfl⟩ := List.length_eq_one_iff.mp sized.rightGenerators
      obtain ⟨a, rfl⟩ := List.length_eq_one_iff.mp sized.left
      obtain ⟨b, rfl⟩ := List.length_eq_one_iff.mp sized.right
      cases proved
      refine ⟨⟨rfl, rfl, by simp [Proof.challenges]⟩, ?_⟩
      simp [Proof.opening, Proof.extend, Proof.challenges, folded, foldingFactors,
        Vectors.commitment, dotProduct]
  | succ rounds inductionHypothesis =>
      rw [Nat.pow_succ, Nat.mul_comm] at sized
      obtain ⟨inverse, inverted, rest, restProved, form⟩ := by
        simpa only [proveRounds, bind_eq_ok] using proved
      obtain ⟨nonzero, rfl⟩ := invert_eq_ok.mp inverted
      cases pure_eq_ok.mp form
      -- The rest of the rounds opens the commitment to the halved vectors,
      -- which is the given one with the two points of this round.
      obtain ⟨fits, opened⟩ := inductionHypothesis (sized.halve _ _) restProved
      have count := fits.length_challenges
      have inverseCount : (rest.challenges.map (·⁻¹)).length = rounds := by
        rw [List.length_map, count]
      refine ⟨⟨congrArg (· + 1) fits.l, congrArg (· + 1) fits.r,
        List.forall_mem_cons.mpr ⟨nonzero, fits.invertible⟩⟩, ?_⟩
      rw [sized.commitment_halve base (mul_inv_cancel₀ nonzero)] at opened
      have leftLength := sized.leftGenerators
      have rightLength := sized.rightGenerators
      rw [Nat.mul_comm, ← Nat.pow_succ] at leftLength rightLength
      simp only [Proof.opening, Proof.extend, Proof.challenges, List.zipWith_cons_cons,
        List.map_cons, linearCombination_cons, Vectors.halve]
          at opened ⊢ count inverseCount
      rw [folded_cons _ _ leftLength count inverseCount,
        folded_cons _ _ rightLength inverseCount count, opened]
      abel

omit [LawfulG1 S] in
/-- Each round halves the vectors, and an entry is left in the end. -/
theorem two_pow_le_of_proveRounds {base : S.G1} {rounds : Nat} {vectors : Vectors S}
    {proof : Proof S} (proved : proveRounds base rounds vectors = .ok proof) :
    2 ^ rounds ≤ vectors.left.length := by
  induction rounds generalizing vectors proof with
  | zero =>
      unfold proveRounds at proved
      split at proved
      · next head _ _ _ left _ => simp [left]
      · cases proved
  | succ rounds inductionHypothesis =>
      obtain ⟨inverse, -, rest, restProved, -⟩ := by
        simpa only [proveRounds, bind_eq_ok] using proved
      have halved := inductionHypothesis restProved
      simp only [Vectors.halve, foldScalars, List.length_zipWith, List.length_take,
        List.length_drop] at halved
      rw [Nat.pow_succ]
      omega

omit [LawfulG1 S] in
theorem prove_eq_ok {statement : Statement S} {left right : List S.Scalar}
    {proof : Proof S} :
    prove statement left right = .ok proof ↔
      statement.Sized ∧ left.length = statement.leftGenerators.length ∧
      right.length = statement.leftGenerators.length ∧
      proveRounds (statement.initialChallenge • statement.q) statement.rounds.toNat
        ⟨statement.leftGenerators, statement.rightGenerators, left, right⟩ =
          .ok proof := by
  simp only [prove, guard_eq_ok, not_or, Bool.or_eq_true, Bool.not_eq_true',
    decide_eq_true_eq, ne_eq, not_not, Bool.not_eq_false, Statement.sized_iff,
    and_assoc]
  constructor
  · rintro ⟨matched, leftLength, rightLength, proved⟩
    have enough := two_pow_le_of_proveRounds proved
    exact ⟨matched.sized (leftLength ▸ enough), leftLength, rightLength, proved⟩
  · rintro ⟨sized, rest⟩
    exact ⟨sized.matched, rest⟩

theorem verify_prove {statement : Statement S} {left right : List S.Scalar}
    {proof : Proof S} (proved : prove statement left right = .ok proof)
    (product : statement.innerProduct = dotProduct left right)
    (committed : statement.commitment = linearCombination statement.leftGenerators left +
      linearCombination statement.rightGenerators right) :
    verify statement proof = .ok () := by
  obtain ⟨sized, leftLength, rightLength, rounds⟩ := prove_eq_ok.mp proved
  obtain ⟨fits, opened⟩ :=
    proveRounds_eq_ok ⟨sized.left, sized.right, leftLength.trans sized.left,
    rightLength.trans sized.left⟩ rounds
  refine Statement.verify_eq_ok.mpr ⟨fits, sized.matched, ?_⟩
  rw [opened, Vectors.commitment, committed, product, smul_smul, mul_comm]

end ConfidentialToken.Bulletproof.InnerProduct
