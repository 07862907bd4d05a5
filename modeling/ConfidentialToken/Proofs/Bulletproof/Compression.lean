import Mathlib.LinearAlgebra.FiniteDimensional.Lemmas
import Mathlib.LinearAlgebra.Matrix.ToLin
import ConfidentialToken.Proofs.Bulletproof.InnerProduct

/-!
Inner product arguments do not show the whole of the vectors.

The first round folds each vector once. A change of the halves of the right
vector that cancels out in the fold shows only in the two points of the round
and in the inner product. These are three linear conditions on the change, so
that there is one without any effect as soon as the halves have four entries.
-/

namespace ConfidentialToken.Bulletproof

variable {S : Suite} [LawfulG1 S]

theorem exists_solution {equations unknowns : Nat} (fewer : equations < unknowns)
    (rows : Fin equations → Fin unknowns → S.Scalar) :
    ∃ solution : Fin unknowns → S.Scalar,
      solution ≠ 0 ∧ ∀ row, ∑ index, rows row index * solution index = 0 := by
  have kernel : LinearMap.ker (Matrix.mulVecLin (Matrix.of rows)) ≠ ⊥ :=
    LinearMap.ker_ne_bot_of_finrank_lt (by simpa using fewer)
  obtain ⟨solution, solves, nonzero⟩ := Submodule.exists_mem_ne_zero_of_ne_bot kernel
  exact ⟨solution, nonzero, fun row => congrFun (LinearMap.mem_ker.mp solves) row⟩

namespace InnerProduct

/-- What a prover has at the start of a round, with the sides that meet in
halves. -/
def inHalves {half : Nat} (leftGenerators : List S.G1)
    (lowerGenerators upperGenerators : Fin half → S.G1)
    (lower upper : Fin half → S.Scalar) (right : List S.Scalar) : Vectors S where
  leftGenerators := leftGenerators
  rightGenerators := List.ofFn lowerGenerators ++ List.ofFn upperGenerators
  left := List.ofFn lower ++ List.ofFn upper
  right := right

/-- A vector after a change of its halves that cancels out when they are folded
with the challenge and its inverse. -/
def shift {half : Nat} (challenge inverse : S.Scalar)
    (change lower upper : Fin half → S.Scalar) : List S.Scalar :=
  List.ofFn (fun index => lower index + -challenge * change index) ++
    List.ofFn fun index => upper index + inverse * change index

omit [LawfulG1 S] in
theorem length_shift {half : Nat} (challenge inverse : S.Scalar)
    (change lower upper : Fin half → S.Scalar) :
    (shift challenge inverse change lower upper).length = 2 * half := by
  rw [shift, List.length_append, List.length_ofFn, List.length_ofFn, two_mul]

theorem linearCombination_shift {G : Type} [AddCommGroup G] [Module S.Scalar G]
    {half : Nat} (first second : Fin half → G) (challenge inverse : S.Scalar)
    (change lower upper : Fin half → S.Scalar) :
    linearCombination (List.ofFn first ++ List.ofFn second)
        (shift challenge inverse change lower upper) =
      linearCombination (List.ofFn first ++ List.ofFn second)
        (List.ofFn lower ++ List.ofFn upper) +
        (inverse • ∑ index, change index • second index -
          challenge • ∑ index, change index • first index) := by
  rw [shift, linearCombination_append _ _ (by simp),
    linearCombination_append _ _ (by simp), linearCombination_add_mul (by simp),
    linearCombination_add_mul (by simp), linearCombination_ofFn first change,
    linearCombination_ofFn second change]
  module

/-- A change of the right vector that shows neither in the points of the first
round nor in the commitment to the vectors and their inner product. -/
structure Unseen {half : Nat} (base : S.G1) (challenge inverse : S.Scalar)
    (lowerGenerators upperGenerators : Fin half → S.G1)
    (lower upper change : Fin half → S.Scalar) : Prop where
  leftCross : ∑ index, change index • (lowerGenerators index + lower index • base) = 0
  rightCross : ∑ index, change index • (upperGenerators index + upper index • base) = 0
  product : inverse * ∑ index, change index * upper index =
    challenge * ∑ index, change index * lower index

/-- Halves of four entries leave such a change, as it has to meet three linear
conditions only. -/
theorem exists_unseen {log : S.G1 → S.Scalar} {generator : S.G1}
    (logarithm : IsLogarithm log generator) {half : Nat} (wide : 3 < half) (base : S.G1)
    (challenge inverse : S.Scalar) (lowerGenerators upperGenerators : Fin half → S.G1)
    (lower upper : Fin half → S.Scalar) :
    ∃ change : Fin half → S.Scalar, change ≠ 0 ∧
      Unseen base challenge inverse lowerGenerators upperGenerators lower
        upper change := by
  obtain ⟨change, nonzero, solves⟩ := exists_solution wide
    ![fun index => log (lowerGenerators index + lower index • base),
      fun index => log (upperGenerators index + upper index • base),
      fun index => inverse * upper index - challenge * lower index]
  -- A sum of points vanishes with the sum of their logarithms.
  have points (terms : Fin half → S.G1)
    (vanishes : ∑ index, log (terms index) * change index = 0) :
      ∑ index, change index • terms index = 0 := by
    have multiples index : change index • terms index =
        (log (terms index) * change index) • generator := by
      rw [mul_comm, mul_smul, logarithm.smul]
    rw [Finset.sum_congr rfl fun index _ => multiples index, ← Finset.sum_smul,
      vanishes, zero_smul]
  refine ⟨change, nonzero, points _ (solves 0), points _ (solves 1), ?_⟩
  rw [← sub_eq_zero, ← solves 2, Finset.mul_sum, Finset.mul_sum, ← Finset.sum_sub_distrib]
  refine Finset.sum_congr rfl fun index _ => ?_
  simp only [Matrix.cons_val]
  ring

namespace Unseen

variable {half : Nat} {base : S.G1} {challenge inverse : S.Scalar}
  {lowerGenerators upperGenerators : Fin half → S.G1}
    {lower upper change : Fin half → S.Scalar}

theorem dotProduct_shift
    (unseen : Unseen base challenge inverse lowerGenerators upperGenerators lower upper
      change)
    (rightLower rightUpper : Fin half → S.Scalar) :
    dotProduct (List.ofFn lower ++ List.ofFn upper)
        (shift challenge inverse change rightLower rightUpper) =
      dotProduct (List.ofFn lower ++ List.ofFn upper)
        (List.ofFn rightLower ++ List.ofFn rightUpper) := by
  rw [dotProduct_comm, dotProduct_eq, dotProduct_comm, dotProduct_eq,
    linearCombination_shift]
  simp only [smul_eq_mul, unseen.product, sub_self, add_zero]

theorem linearCombination_shift
    (unseen : Unseen base challenge inverse lowerGenerators upperGenerators lower upper
      change)
    (rightLower rightUpper : Fin half → S.Scalar) :
    linearCombination (List.ofFn lowerGenerators ++ List.ofFn upperGenerators)
        (shift challenge inverse change rightLower rightUpper) =
      linearCombination (List.ofFn lowerGenerators ++ List.ofFn upperGenerators)
        (List.ofFn rightLower ++ List.ofFn rightUpper) := by
  obtain ⟨leftCross, rightCross, product⟩ := unseen
  simp only [smul_add, smul_smul, Finset.sum_add_distrib, ← Finset.sum_smul]
    at leftCross rightCross
  rw [InnerProduct.linearCombination_shift, eq_neg_of_add_eq_zero_left leftCross,
    eq_neg_of_add_eq_zero_left rightCross, smul_neg, smul_neg, smul_smul, smul_smul,
    product, sub_self, add_zero]

theorem crosses_shift
    (unseen : Unseen base challenge inverse lowerGenerators upperGenerators lower upper
      change)
    (leftGenerators : List S.G1) (rightLower rightUpper : Fin half → S.Scalar) :
    let made := inHalves leftGenerators lowerGenerators upperGenerators lower upper
    let shifted := made (shift challenge inverse change rightLower rightUpper)
    let given := made (List.ofFn rightLower ++ List.ofFn rightUpper)
    shifted.leftCross base = given.leftCross base ∧
      shifted.rightCross base = given.rightCross base := by
  -- Both points have this form, one with the lower half of the left vector, one
  -- with the upper half.
  have shown (entries generators : Fin half → _) (others : Fin half → S.Scalar)
    (factor : S.Scalar)
      (vanishes : ∑ index, change index • (generators index + entries index • base) = 0) :
      ∑ index, (others index + factor * change index) • generators index +
          (∑ index, entries index * (others index + factor * change index)) • base =
        ∑ index, others index • generators index +
          (∑ index, entries index * others index) • base := by
    rw [← add_zero (∑ index, others index • generators index + _), ← smul_zero
      factor, ← vanishes]
    simp only [Finset.sum_smul, Finset.smul_sum, ← Finset.sum_add_distrib]
    refine Finset.sum_congr rfl fun index _ => ?_
    module
  have middle : (half + half) / 2 = half := by omega
  intro made shifted given
  simp only [shifted, given, made, inHalves, Vectors.leftCross, Vectors.rightCross, shift,
    List.length_append, List.length_ofFn, middle, List.take_left', List.drop_left',
    linearCombination_ofFn, dotProduct_ofFn, add_assoc]
  rw [shown _ _ _ _ unseen.leftCross, shown _ _ _ _ unseen.rightCross]
  exact ⟨rfl, rfl⟩

theorem halve_shift (leftGenerators : List S.G1)
    (change rightLower rightUpper : Fin half → S.Scalar) :
    let made := inHalves leftGenerators lowerGenerators upperGenerators lower upper
    (made (shift challenge inverse change rightLower rightUpper)).halve challenge
      inverse =
      (made (List.ofFn rightLower ++ List.ofFn rightUpper)).halve challenge inverse := by
  have middle : (half + half) / 2 = half := by omega
  intro made
  simp only [made, inHalves, Vectors.halve, foldScalars, shift, List.length_append,
    List.length_ofFn, middle, List.take_left', List.drop_left', zipWith_ofFn,
    Vectors.mk.injEq, true_and]
  refine congrArg List.ofFn (funext fun index => ?_)
  ring

/-- The rounds of a prover lead to the same after a change that the first round
does not show. -/
theorem proveRounds_shift {rounds : Nat} {leftGenerators : List S.G1}
    {rightLower rightUpper : Fin half → S.Scalar}
    (unseen :
      Unseen base challenge challenge⁻¹ lowerGenerators upperGenerators lower upper
        change) :
    let made := inHalves leftGenerators lowerGenerators upperGenerators lower upper
    let given := made (List.ofFn rightLower ++ List.ofFn rightUpper)
    challenge = roundChallenge (given.leftCross base) (given.rightCross base) →
    proveRounds base (rounds + 1)
        (made (shift challenge challenge⁻¹ change rightLower rightUpper)) =
      proveRounds base (rounds + 1) given := by
  intro made given fits
  obtain ⟨left, right⟩ := unseen.crosses_shift leftGenerators rightLower rightUpper
  simp only [proveRounds]
  rw [left, right, ← fits, invert]
  split
  · rfl
  · simp only [bind, Except.bind]
    rw [halve_shift]

end Unseen

omit [LawfulG1 S] in
theorem invertible_of_proveRounds {base : S.G1} {rounds : Nat} {vectors : Vectors S}
    {proof : Proof S} (proved : proveRounds base (rounds + 1) vectors = .ok proof) :
    roundChallenge (vectors.leftCross base) (vectors.rightCross base) ≠ 0 := by
  obtain ⟨_, inverted, -⟩ := bind_eq_ok.mp proved
  exact (invert_eq_ok.mp inverted).1

/-- Where there are at least three rounds, one argument is made for several
right vectors, which do not differ in what they commit to. -/
theorem exists_other_right {statement : Statement S} {left right : List S.Scalar}
    {proof : Proof S} {log : S.G1 → S.Scalar} {generator : S.G1}
    (logarithm : IsLogarithm log generator) (wide : 3 ≤ statement.rounds.toNat)
    (proved : prove statement left right = .ok proof) :
    ∃ other, other ≠ right ∧
      linearCombination statement.rightGenerators other =
        linearCombination statement.rightGenerators right ∧
      dotProduct left other = dotProduct left right ∧
        prove statement left other = .ok proof := by
  obtain ⟨sized, leftLength, rightLength, rest⟩ := prove_eq_ok.mp proved
  obtain ⟨rounds, roundsEq⟩ : ∃ rounds, statement.rounds.toNat = rounds + 1 :=
    Nat.exists_eq_add_one.mpr (by omega)
  have length : 2 ^ statement.rounds.toNat = 2 * 2 ^ rounds := by
    rw [roundsEq, Nat.pow_succ']
  have four : 3 < 2 ^ rounds :=
    Nat.lt_of_lt_of_le (by decide)
      (Nat.pow_le_pow_right Nat.two_pos (by omega : 2 ≤ rounds))
  obtain ⟨lower, upper, rfl⟩ := exists_halves (leftLength.trans (sized.left.trans length))
  obtain ⟨rightLower, rightUpper, rfl⟩ :=
    exists_halves (rightLength.trans (sized.left.trans length))
  obtain ⟨lowerGenerators, upperGenerators, generators⟩ :=
    exists_halves (sized.right.trans length)
  let base := statement.initialChallenge • statement.q
  let made :=
    inHalves statement.leftGenerators lowerGenerators upperGenerators lower upper
  let given := made (List.ofFn rightLower ++ List.ofFn rightUpper)
  let challenge := roundChallenge (given.leftCross base) (given.rightCross base)
  have proved : proveRounds base (rounds + 1) given = .ok proof := by
    rw [← roundsEq, ← rest]
    simp only [given, made, inHalves, generators, base]
  have invertible : challenge ≠ 0 := invertible_of_proveRounds proved
  obtain ⟨change, nonzero, unseen⟩ :=
    exists_unseen logarithm four base challenge challenge⁻¹
      lowerGenerators upperGenerators lower upper
  have same : proveRounds base (rounds + 1)
      (made (shift challenge challenge⁻¹ change rightLower rightUpper)) = .ok proof :=
    (unseen.proveRounds_shift rfl).trans proved
  refine ⟨shift challenge challenge⁻¹ change rightLower rightUpper, ?_, ?_,
    unseen.dotProduct_shift rightLower rightUpper,
    prove_eq_ok.mpr ⟨sized, leftLength, ?_, ?_⟩⟩
  · intro equal
    obtain ⟨-, upperEq⟩ := List.append_inj equal (by simp)
    refine nonzero (funext fun index => ?_)
    have entry := congrFun (List.ofFn_injective upperEq) index
    simpa [invertible] using entry
  · rw [generators, unseen.linearCombination_shift]
  · rw [length_shift, sized.left, length]
  · rw [roundsEq, ← same]
    simp only [made, inHalves, generators, base]

end InnerProduct

end ConfidentialToken.Bulletproof
