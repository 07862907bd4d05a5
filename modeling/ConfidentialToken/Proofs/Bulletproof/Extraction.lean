import Mathlib.LinearAlgebra.Vandermonde
import ConfidentialToken.Proofs.Algebra.Interpolation
import ConfidentialToken.Proofs.Bn254.Exponents
import ConfidentialToken.Proofs.Bulletproof.Completeness
import ConfidentialToken.Proofs.Schnorr.Extraction

/-!
What the equations of a range proof over bits guarantee.

The challenges branch: for the two first commitments of a proof there are
answers at several `y`, for each of them at three `z`, and there, for the
commitments to the coefficients, at three `x`. Two answers fix lines of vectors
which start at the vectors in the first commitment, and the three `x` give the
value at zero of the polynomial that is announced, which opens the commitment of
the statement. Where the same lines and the same opening serve all answers, the
inner product where the lines start is known at so many `y` and `z` that all
conditions on single bits hold. Where they do not, two openings of one
commitment are known, and with them a relation between the bases.
-/

namespace ConfidentialToken.Bulletproof

open Interpolation

variable {S : Suite} {count : Nat}

/-- The answer at an `x`: the collapsed vectors, and what opens the commitments
to them and to their inner product. -/
structure Answer (S : Suite) (count : Nat) where
  x : S.Scalar
  left : Fin count → S.Scalar
  right : Fin count → S.Scalar
  tau : S.Scalar
  delta : S.Scalar

/-- The commitments to the coefficients at a `z`, with the answers for them. -/
structure Branch (S : Suite) (count : Nat) where
  z : S.Scalar
  t1 : S.G1
  t2 : S.G1
  answers : Fin 3 → Answer S count

/-- What follows a `y`. -/
structure Fork (S : Suite) (count : Nat) where
  y : S.Scalar
  branches : Fin 3 → Branch S count

/-- The factors of the generators of both sides, and of one more base. -/
abbrev Exponents (S : Suite) (count : Nat) : Type :=
  (Fin count → S.Scalar) × (Fin count → S.Scalar) × S.Scalar

def Parameters.commitExponents (parameters : Parameters S)
    (exponents : Exponents S count) : S.G1 :=
  commitVectors parameters (List.ofFn exponents.1) (List.ofFn exponents.2.1) +
    exponents.2.2 • parameters.p

/-- The commitment to a value with a blinding factor. -/
def Statement.commitOpening (statement : Statement S) (opening : S.Scalar × S.Scalar) :
    S.G1 :=
  opening.1 • statement.g + opening.2 • statement.h

variable [LawfulG1 S]

/-- The inner product of the collapsed vectors of an answer. -/
def Answer.innerProduct (answer : Answer S count) : S.Scalar :=
  dotProduct (List.ofFn answer.left) (List.ofFn answer.right)

/-- The vectors that an answer opens the first commitments to. -/
def Answer.exponents (y z : S.Scalar) (answer : Answer S count) : Exponents S count :=
  (fun index => answer.left index + z,
    fun index =>
      (answer.right index - z * z * (1 + 1) ^ index.val) * (y ^ index.val)⁻¹ - z,
    answer.delta)

/-- An answer at which the verifier hands on the commitment to its vectors,
after the equation for their inner product. -/
structure Answer.Accepted (answer : Answer S count) (statement : Statement S) (c d : S.G1)
    (y z : S.Scalar) (t1 t2 : S.G1) : Prop where
  announces : statement.Announces ⟨y, z, answer.x⟩ t1 t2 answer.innerProduct answer.tau
  vectors : ∃ scaled,
    scaleRight statement.parameters.rightGenerators
      (powers y statement.parameters.bitLength.toNat) = .ok scaled ∧
    statement.parameters.vectorCommitment ⟨y, z, answer.x⟩ scaled c d answer.delta =
      linearCombination statement.parameters.leftGenerators (List.ofFn answer.left) +
        linearCombination scaled (List.ofFn answer.right)

structure Branch.Accepted (branch : Branch S count) (statement : Statement S) (c d : S.G1)
    (y : S.Scalar) : Prop where
  nonzero : branch.z ≠ 0
  distinct : Function.Injective fun which => (branch.answers which).x
  answers : ∀ which,
    (branch.answers which).Accepted statement c d y branch.z branch.t1 branch.t2

structure Fork.Accepted (fork : Fork S count) (statement : Statement S) (c d : S.G1) :
    Prop where
  distinct : Function.Injective fun which => (fork.branches which).z
  branches : ∀ which, (fork.branches which).Accepted statement c d fork.y

theorem isLinearMap_linearCombinations {leftGenerators rightGenerators : List S.G1}
    (left : leftGenerators.length = count) (right : rightGenerators.length = count)
    (base : S.G1) :
    IsLinearMap S.Scalar fun exponents : Exponents S count =>
      linearCombination leftGenerators (List.ofFn exponents.1) +
        linearCombination rightGenerators (List.ofFn exponents.2.1) +
        exponents.2.2 • base := by
  obtain ⟨leftGenerators, rfl⟩ := exists_ofFn left
  obtain ⟨rightGenerators, rfl⟩ := exists_ofFn right
  constructor
  · intro exponents otherExponents
    simp only [linearCombination_ofFn, Prod.fst_add, Prod.snd_add, Pi.add_apply, add_smul,
      Finset.sum_add_distrib]
    abel
  · intro factor exponents
    simp only [linearCombination_ofFn, Prod.smul_fst, Prod.smul_snd, Pi.smul_apply,
      smul_eq_mul, mul_smul, smul_add, Finset.smul_sum]

theorem Parameters.isLinearMap_commitExponents {parameters : Parameters S}
    (bits : parameters.bitLength.toNat = count) (sized : parameters.Sized) :
    IsLinearMap S.Scalar fun exponents : Exponents S count =>
      parameters.commitExponents exponents :=
  isLinearMap_linearCombinations (sized.left.trans bits) (sized.right.trans bits)
    parameters.p

theorem Statement.isLinearMap_commitOpening (statement : Statement S) :
    IsLinearMap S.Scalar statement.commitOpening :=
  Schnorr.isLinearMap_pair _ _

section Answer

variable {answer : Answer S count} {statement : Statement S} {c d t1 t2 : S.G1}
  {y z : S.Scalar}

theorem Answer.Accepted.pow_ne_zero (accepted : answer.Accepted statement c d y z t1 t2)
    (bits : statement.parameters.bitLength.toNat = count)
    (sized : statement.parameters.Sized) (index : Fin count) : y ^ index.val ≠ 0 := by
  obtain ⟨scaled, scaling, -⟩ := accepted.vectors
  obtain ⟨rightGenerators, rightEq⟩ := exists_ofFn (sized.right.trans bits)
  rw [rightEq, bits, powers_eq, scaleRight_eq_ok] at scaling
  exact scaling.1 index

theorem Answer.collapsed_exponents (answer : Answer S count) (z : S.Scalar)
    (nonzero : ∀ index : Fin count, y ^ index.val ≠ 0) :
    collapsedLeft z (answer.exponents y z).1 = List.ofFn answer.left ∧
      collapsedRight y z (answer.exponents y z).2.1 = List.ofFn answer.right := by
  constructor
  · simp [collapsedLeft, exponents]
  · refine congrArg List.ofFn (funext fun index => ?_)
    simp only [exponents, sub_add_cancel]
    rw [mul_assoc, inv_mul_cancel₀ (nonzero index), mul_one, sub_add_cancel]

theorem Answer.Accepted.commit_exponents
    (accepted : answer.Accepted statement c d y z t1 t2)
    (bits : statement.parameters.bitLength.toNat = count)
    (sized : statement.parameters.Sized) :
    statement.parameters.commitExponents (answer.exponents y z) = c + answer.x • d := by
  obtain ⟨left, right⟩ := answer.collapsed_exponents z (accepted.pow_ne_zero bits sized)
  obtain ⟨scaled, scaling, vectors⟩ := accepted.vectors
  rw [bits] at scaling
  rw [Parameters.vectorCommitment_eq _ _ _ (answer.exponents y z).1
    (answer.exponents y z).2.1 bits sized scaling, left, right, add_eq_left,
    sub_eq_zero] at vectors
  exact vectors.symm

end Answer

namespace Branch

variable {branch : Branch S count} {statement : Statement S} {c d : S.G1} {y : S.Scalar}

/-- The line of vectors through the first two answers of a branch. -/
def start (y : S.Scalar) (branch : Branch S count) : Exponents S count :=
  Schnorr.start (branch.answers 0).x (branch.answers 1).x
    ((branch.answers 0).exponents y branch.z) ((branch.answers 1).exponents y branch.z)

def slope (y : S.Scalar) (branch : Branch S count) : Exponents S count :=
  Schnorr.slope (branch.answers 0).x (branch.answers 1).x
    ((branch.answers 0).exponents y branch.z) ((branch.answers 1).exponents y branch.z)

/-- The inner product at zero. -/
def constant (branch : Branch S count) : S.Scalar :=
  ∑ which, constantWeight (fun which => (branch.answers which).x) which *
    (branch.answers which).innerProduct

/-- What a branch opens the commitment of the statement to. -/
def opening (y : S.Scalar) (branch : Branch S count) : S.Scalar × S.Scalar :=
  ((branch.z * branch.z)⁻¹ * (branch.constant -
      Statement.constantTerm branch.z (powers y count) (powers (1 + 1) count)),
    (branch.z * branch.z)⁻¹ * ∑ which,
      constantWeight (fun which => (branch.answers which).x) which *
        (branch.answers which).tau)

theorem Accepted.commit_opening (accepted : branch.Accepted statement c d y)
    (bits : statement.parameters.bitLength.toNat = count) :
    statement.commitOpening (branch.opening y) = statement.commitment := by
  let known := Statement.constantTerm branch.z (powers y count) (powers (1 + 1) count)
  let weights := constantWeight fun which => (branch.answers which).x
  have announced (which : Fin 3) :
      (branch.answers which).innerProduct • statement.g +
          (branch.answers which).tau • statement.h =
        (branch.z * branch.z) • statement.commitment + known • statement.g +
          ∑ place : Fin 2, (branch.answers which).x ^ (place.val + 1) •
            ![branch.t1, branch.t2] place := by
    have announces := (accepted.answers which).announces
    simp only [Statement.Announces, bits] at announces
    rw [sub_sub, sub_eq_iff_eq_add] at announces
    simpa [Fin.sum_univ_two, pow_two] using announces
  have interpolated : branch.constant • statement.g +
      (∑ which, weights which * (branch.answers which).tau) • statement.h =
        (branch.z * branch.z) • statement.commitment + known • statement.g := by
    rw [← sum_constantWeight_smul accepted.distinct
      ((branch.z * branch.z) • statement.commitment + known • statement.g)
      ![branch.t1, branch.t2]]
    simp only [← announced]
    simp only [constant, Finset.sum_smul, mul_smul, smul_add, Finset.sum_add_distrib,
      weights]
  have square : branch.z * branch.z ≠ 0 := mul_ne_zero accepted.nonzero accepted.nonzero
  calc statement.commitOpening (branch.opening y)
      = (branch.z * branch.z)⁻¹ • (branch.constant • statement.g +
          (∑ which, weights which * (branch.answers which).tau) • statement.h -
          known • statement.g) := by
        simp only [Statement.commitOpening, opening, weights, known]
        module
    _ = statement.commitment := by
        rw [interpolated, add_sub_cancel_right, inv_smul_smul₀ square]

/-- If all answers are on a line, the inner product at zero is the one where the
line starts. -/
theorem constant_eq (distinct : Function.Injective fun which => (branch.answers which).x)
    (nonzero : ∀ index : Fin count, y ^ index.val ≠ 0) {start slope : Exponents S count}
    (onLine : ∀ which, (branch.answers which).exponents y branch.z =
      start + (branch.answers which).x • slope) :
    branch.constant =
      dotProduct (collapsedLeft branch.z start.1)
        (collapsedRight y branch.z start.2.1) := by
  obtain ⟨linear, quadratic, along⟩ : ∃ linear quadratic, ∀ x,
      dotProduct (collapsedLeft branch.z (start + x • slope).1)
          (collapsedRight y branch.z (start + x • slope).2.1) =
        dotProduct (collapsedLeft branch.z start.1)
          (collapsedRight y branch.z start.2.1) +
          x * linear + x * x * quadratic :=
    ⟨_, _, fun x =>
      dotProduct_collapsed_lines x y branch.z start.1 start.2.1 slope.1 slope.2.1⟩
  rw [← sum_constantWeight_smul distinct
    (dotProduct (collapsedLeft branch.z start.1) (collapsedRight y branch.z start.2.1))
    ![linear, quadratic], constant]
  refine Finset.sum_congr rfl fun which _ => ?_
  obtain ⟨left, right⟩ := (branch.answers which).collapsed_exponents branch.z nonzero
  rw [Answer.innerProduct, ← left, ← right, onLine, along]
  simp only [Fin.sum_univ_two, Matrix.cons_val, smul_eq_mul, Fin.val_zero, Fin.val_one]
  ring

/-- The opening of a branch, in terms of the vectors whose collapsed inner
product is the one at zero. -/
theorem value_mul_eq (nonzero : branch.z ≠ 0) {left right : Fin count → S.Scalar}
    (known : branch.constant =
      dotProduct (collapsedLeft branch.z left) (collapsedRight y branch.z right)) :
    branch.z * branch.z * (branch.opening y).1 =
      branch.z * branch.z * ∑ index, left index * (1 + 1) ^ index.val +
        ∑ index, left index * right index * y ^ index.val +
        branch.z * ∑ index, (left index - 1 - right index) * y ^ index.val := by
  have square : branch.z * branch.z ≠ 0 := mul_ne_zero nonzero nonzero
  rw [opening, known, dotProduct_collapsed, mul_inv_cancel_left₀ square]
  ring

end Branch

/-- The conditions on single bits, and the value, can be told from their
collapsed forms at sufficiently many challenges. -/
theorem eq_of_collapsed {F : Type} [Field F] {value spelled : F}
    {products differences : Fin (count + 1) → F} {y : Fin (count + 1) → F}
    {z : Fin (count + 1) → Fin 3 → F} (distinctY : Function.Injective y)
    (distinctZ : ∀ first, Function.Injective (z first))
    (collapsed : ∀ first second, z first second * z first second * value =
      z first second * z first second * spelled +
        ∑ index, products index * y first ^ index.val +
        z first second * ∑ index, differences index * y first ^ index.val) :
    value = spelled ∧ products = 0 ∧ differences = 0 := by
  have coefficients (first : Fin (count + 1)) :
      ![∑ index, products index * y first ^ index.val,
        ∑ index, differences index * y first ^ index.val, spelled - value] = 0 := by
    refine Matrix.eq_zero_of_forall_index_sum_mul_pow_eq_zero
      (distinctZ first) fun second => ?_
    simp only [Fin.sum_univ_three, Matrix.cons_val, Fin.val_zero, Fin.val_one,
      Fin.val_two]
    linear_combination -collapsed first second
  refine ⟨(sub_eq_zero.mp (congrFun (coefficients 0) 2)).symm,
    Matrix.eq_zero_of_forall_index_sum_mul_pow_eq_zero distinctY fun first =>
      congrFun (coefficients first) 0,
    Matrix.eq_zero_of_forall_index_sum_mul_pow_eq_zero distinctY fun first =>
      congrFun (coefficients first) 1⟩

theorem toNat_spelled_lt {bits : Fin count → S.Scalar}
    (isBit : ∀ index, bits index = 0 ∨ bits index = 1) :
    ScalarOperations.toNat (dotProduct (List.ofFn bits) (powers (1 + 1) count)) <
      2 ^ count := by
  let number := Nat.ofBits fun index => decide (bits index = 1)
  have bounded : number < 2 ^ count := Nat.ofBits_lt_two_pow _
  have same : bits = bitVector number count := by
    funext index
    rw [bitVector, Nat.testBit_ofBits_lt _ _ index.isLt]
    rcases isBit index with zero | one <;> simp [*]
  rw [powers_eq, dotProduct_ofFn, same, sum_bitVector bounded, ← ofNat_eq_natCast,
    LawfulScalars.toNat_ofNat]
  exact Nat.lt_of_le_of_lt (Nat.mod_le _ _) bounded

/-- What answers give away: bits with a blinding factor, or how the generators
or the two bases of the commitment are related. -/
inductive Extracted (S : Suite) (count : Nat) where
  | opening (bits : Fin count → S.Scalar) (blinding : S.Scalar)
  | relatedGenerators (exponents : Exponents S count)
  | relatedBases (opening : S.Scalar × S.Scalar)

inductive Extracted.Holds (statement : Statement S) : Extracted S count → Prop
  | opening {bits : Fin count → S.Scalar} {blinding : S.Scalar}
      (isBit : ∀ index, bits index = 0 ∨ bits index = 1)
      (bounded : ScalarOperations.toNat
        (dotProduct (List.ofFn bits) (powers (1 + 1) count)) < 2 ^ count)
      (opened : statement.commitment = statement.commitOpening
        (dotProduct (List.ofFn bits) (powers (1 + 1) count), blinding)) :
      Holds statement (.opening bits blinding)
  | relatedGenerators {exponents : Exponents S count} (nonzero : exponents ≠ 0)
      (vanishes : statement.parameters.commitExponents exponents = 0) :
      Holds statement (.relatedGenerators exponents)
  | relatedBases {opening : S.Scalar × S.Scalar} (nonzero : opening ≠ 0)
      (vanishes : statement.commitOpening opening = 0) :
      Holds statement (.relatedBases opening)

/-- How far the vectors of all answers are from the line of a branch. -/
def deviations (forks : Fin count → Fork S count) (start slope : Exponents S count) :
    List (Exponents S count) :=
  (List.ofFn forks).flatMap fun fork => (List.ofFn fork.branches).flatMap fun branch =>
    (List.ofFn branch.answers).map fun answer =>
      start + answer.x • slope - answer.exponents fork.y branch.z

/-- How far the openings of all branches are from one of them. -/
def differences (forks : Fin count → Fork S count) (opening : S.Scalar × S.Scalar) :
    List (S.Scalar × S.Scalar) :=
  (List.ofFn forks).flatMap fun fork => (List.ofFn fork.branches).map fun branch =>
    branch.opening fork.y - opening

/-- Extracts from the answers to challenges that branch as often as there are
bits. Without any bit there would be no answer to extract from. -/
def extract (forks : Fin (count + 1) → Fork S (count + 1)) : Extracted S (count + 1) :=
  let { y, branches } := forks 0
  let opening := (branches 0).opening y
  match (deviations forks ((branches 0).start y) ((branches 0).slope y)).find?
    (· ≠ 0) with
  | some exponents => .relatedGenerators exponents
  | none =>
      match (differences forks opening).find? (· ≠ 0) with
      | some difference => .relatedBases difference
      | none => .opening ((branches 0).start y).1 opening.2

theorem mem_deviations {forks : Fin count → Fork S count}
    {start slope exponents : Exponents S count} :
    exponents ∈ deviations forks start slope ↔ ∃ first second third,
      start + (((forks first).branches second).answers third).x • slope -
        (((forks first).branches second).answers third).exponents (forks first).y
          ((forks first).branches second).z = exponents := by
  simp only [deviations, List.mem_flatMap, List.mem_map, List.mem_ofFn,
    exists_exists_eq_and]

theorem mem_differences {forks : Fin count → Fork S count}
    {opening difference : S.Scalar × S.Scalar} :
    difference ∈ differences forks opening ↔ ∃ first second,
      ((forks first).branches second).opening (forks first).y - opening = difference := by
  simp only [differences, List.mem_flatMap, List.mem_map, List.mem_ofFn,
    exists_exists_eq_and]

section Forks

variable {forks : Fin count → Fork S count} {statement : Statement S} {c d : S.G1}

theorem deviations_vanish {start slope : Exponents S count}
    (bits : statement.parameters.bitLength.toNat = count)
    (sized : statement.parameters.Sized)
    (accepted : ∀ which, (forks which).Accepted statement c d)
    (starts : statement.parameters.commitExponents start = c)
    (slopes : statement.parameters.commitExponents slope = d) :
    ∀ exponents ∈ deviations forks start slope,
      statement.parameters.commitExponents exponents = 0 := by
  have linear := Parameters.isLinearMap_commitExponents bits sized
  intro exponents membership
  obtain ⟨first, second, third, rfl⟩ := mem_deviations.mp membership
  have opened :=
    (((accepted first).branches second).answers third).commit_exponents bits sized
  rw [linear.map_sub, linear.map_add, linear.map_smul, starts, slopes, opened, sub_self]

theorem differences_vanish {opening : S.Scalar × S.Scalar}
    (bits : statement.parameters.bitLength.toNat = count)
    (accepted : ∀ which, (forks which).Accepted statement c d)
    (opened : statement.commitOpening opening = statement.commitment) :
    ∀ difference ∈ differences forks opening, statement.commitOpening difference = 0 := by
  intro difference membership
  obtain ⟨first, second, rfl⟩ := mem_differences.mp membership
  rw [statement.isLinearMap_commitOpening.map_sub,
    ((accepted first).branches second).commit_opening bits, opened, sub_self]

end Forks

/-- Where one line and one opening serve all answers, the line starts at bits
that spell the value of the opening. -/
theorem bits_of_shared {forks : Fin (count + 1) → Fork S (count + 1)}
    {statement : Statement S} {c d : S.G1}
    (bits : statement.parameters.bitLength.toNat = count + 1)
    (sized : statement.parameters.Sized)
    (distinct : Function.Injective fun which => (forks which).y)
    (accepted : ∀ which, (forks which).Accepted statement c d)
    {start slope : Exponents S (count + 1)} {opening : S.Scalar × S.Scalar}
    (onLine : ∀ first second third,
      (((forks first).branches second).answers third).exponents (forks first).y
          ((forks first).branches second).z =
        start + (((forks first).branches second).answers third).x • slope)
    (shared : ∀ first second,
      ((forks first).branches second).opening (forks first).y = opening) :
    (∀ index, start.1 index = 0 ∨ start.1 index = 1) ∧
      opening.1 = dotProduct (List.ofFn start.1) (powers (1 + 1) (count + 1)) := by
  have collapsed (first : Fin (count + 1)) (second : Fin 3) :
      let { y, branches } := forks first
      let { z, .. } := branches second
      z * z * opening.1 = z * z * ∑ index, start.1 index * (1 + 1) ^ index.val +
        ∑ index, start.1 index * start.2.1 index * y ^ index.val +
        z * ∑ index, (start.1 index - 1 - start.2.1 index) * y ^ index.val := by
    have branchAccepted := (accepted first).branches second
    have nonzero := (branchAccepted.answers 0).pow_ne_zero bits sized
    rw [← shared first second]
    exact Branch.value_mul_eq branchAccepted.nonzero
      (Branch.constant_eq branchAccepted.distinct nonzero (onLine first second))
  obtain ⟨spelled, products, complements⟩ := eq_of_collapsed distinct
    (fun first => (accepted first).distinct) collapsed
  refine ⟨fun index => ?_, ?_⟩
  · have product : start.1 index * start.2.1 index = 0 := congrFun products index
    have complement : start.1 index - 1 - start.2.1 index = 0 :=
      congrFun complements index
    rw [← sub_eq_zero.mp complement] at product
    exact (mul_eq_zero.mp product).imp id sub_eq_zero.mp
  · rw [spelled, powers_eq, dotProduct_ofFn]

/-- Answers that satisfy the equations of the verifier at challenges that branch
as often as there are bits, then into three, and into three again, give away
bits that spell the value in the commitment, or how its bases or the generators
are related. -/
theorem extract_holds_of_forks {statement : Statement S} {c d : S.G1}
    {forks : Fin (count + 1) → Fork S (count + 1)}
    (bits : statement.parameters.bitLength.toNat = count + 1)
    (sized : statement.parameters.Sized)
    (distinct : Function.Injective fun which => (forks which).y)
    (accepted : ∀ which, (forks which).Accepted statement c d) :
    (extract forks).Holds statement := by
  have first := (accepted 0).branches 0
  have linear := Parameters.isLinearMap_commitExponents bits sized
  have apart :
      (((forks 0).branches 0).answers 0).x ≠ (((forks 0).branches 0).answers 1).x :=
    fun same => absurd (first.distinct same) (by decide)
  obtain ⟨slopes, starts⟩ := Schnorr.map_line linear apart
    ((first.answers 0).commit_exponents bits sized)
    ((first.answers 1).commit_exponents bits sized)
  have opened := first.commit_opening bits
  unfold extract
  dsimp only
  split
  case h_1 exponents found =>
    refine .relatedGenerators (by simpa using List.find?_some found) ?_
    exact deviations_vanish bits sized accepted starts slopes exponents
      (List.mem_of_find?_eq_some found)
  case h_2 noDeviation =>
    split
    case h_1 difference found =>
      refine .relatedBases (by simpa using List.find?_some found) ?_
      exact differences_vanish bits accepted opened difference
        (List.mem_of_find?_eq_some found)
    case h_2 noDifference =>
      have onLine := fun first second third => sub_eq_zero.mp (by
        simpa using List.find?_eq_none.mp noDeviation _ (mem_deviations.mpr
          ⟨first, second, third, rfl⟩))
      have shared := fun first second => sub_eq_zero.mp (by
        simpa using List.find?_eq_none.mp noDifference _ (mem_differences.mpr
          ⟨first, second, rfl⟩))
      obtain ⟨isBit, spelled⟩ := bits_of_shared bits sized distinct accepted
        (fun first second third => (onLine first second third).symm) shared
      exact .opening isBit (toNat_spelled_lt isBit) (spelled ▸ opened.symm)

def twoBitStatement : Statement Bn254.exponentSuite where
  commitment := 110
  g := 17
  h := 19
  parameters := {
    leftGenerators := [2, 3]
    rightGenerators := [5, 7]
    p := 11
    q := 13
    bitLength := 2
    rounds := 1 }

def twoBitAnswer (y z x : Bn254.Fr) : Answer Bn254.exponentSuite 2 where
  x := x
  left := ![0 + x * 23 - z, 1 + x * 29 - z]
  right := ![-1 + x * 31 + z + z * z, (x * 37 + z) * y + z * z * 2]
  tau := x * 41 + x * x * 43 + z * z * 4
  delta := 47 + x * 53

def twoBitForks (first : Fin 2) : Fork Bn254.exponentSuite 2 :=
  let y : Bn254.Fr := ![2, 9] first
  { y := y
    branches := fun second =>
      let z : Bn254.Fr := ![3, 4, 12] second
      { z := z
        t1 :=
          ((0 - z) * 31 + (z - 1) * 23 + z * z * 23 + (1 - z) * (37 * y) + z * y * 29 +
          z * z * 2 * 29) * 17 + 41 * 19
        t2 := (23 * 31 + 29 * (37 * y)) * 17 + 43 * 19
        answers := fun third => twoBitAnswer y z (![5, 6, 20] third) } }

theorem twoBitAnswer_accepted (first : Fin 2) (second third : Fin 3) :
    let { y, branches } := twoBitForks first
    let { z, t1, t2, answers } := branches second
    (answers third).Accepted twoBitStatement (515 : Bn254.Fr)
    (1130 : Bn254.Fr) y z t1 t2 := by
  have scaled (first : Fin 2) : (scaleRight twoBitStatement.parameters.rightGenerators
      (powers (twoBitForks first).y 2)).toOption =
        some [(5 : Bn254.Fr), (twoBitForks first).y⁻¹ * 7] := by
    revert first
    decide +kernel
  constructor
  · revert first second third
    unfold Statement.Announces
    decide +kernel
  · refine ⟨_, toOption_eq_some.mp (scaled first), ?_⟩
    revert first second third
    decide +kernel

theorem extract_forks_sample :
    (extract twoBitForks).Holds twoBitStatement ∧
      extract twoBitForks = .opening ![(0 : Bn254.Fr), 1] (4 : Bn254.Fr) := by
  have bits : twoBitStatement.parameters.bitLength.toNat = 1 + 1 := rfl
  have sized : twoBitStatement.parameters.Sized := ⟨rfl, rfl⟩
  have distinct : Function.Injective fun which => (twoBitForks which).y := by
    decide +kernel
  have distinctZ : ∀ first, Function.Injective fun which =>
      ((twoBitForks first).branches which).z := by decide +kernel
  have distinctX : ∀ first second, Function.Injective fun which =>
      (((twoBitForks first).branches second).answers which).x := by decide +kernel
  have nonzero : ∀ first second, ((twoBitForks first).branches second).z ≠ 0 := by
    decide +kernel
  have accepted (first : Fin 2) : (twoBitForks first).Accepted twoBitStatement
      (515 : Bn254.Fr) (1130 : Bn254.Fr) :=
    ⟨distinctZ first, fun second => ⟨nonzero first second, distinctX first second,
      twoBitAnswer_accepted first second⟩⟩
  refine ⟨extract_holds_of_forks bits sized distinct accepted, ?_⟩
  have onLine : ∀ exponents ∈ deviations twoBitForks
      (((twoBitForks 0).branches 0).start (twoBitForks 0).y)
      (((twoBitForks 0).branches 0).slope (twoBitForks 0).y),
      ¬ decide (exponents ≠ 0) = true := by decide +kernel
  have shared : ∀ difference ∈ differences twoBitForks
      (((twoBitForks 0).branches 0).opening (twoBitForks 0).y),
      ¬ decide (difference ≠ 0) = true := by decide +kernel
  have start : (((twoBitForks 0).branches 0).start (twoBitForks 0).y).1 =
      ![(0 : Bn254.Fr), 1] := by
    decide +kernel
  have blinding :
      (((twoBitForks 0).branches 0).opening (twoBitForks 0).y).2 = (4 : Bn254.Fr) := by
    decide +kernel
  simp only [extract, List.find?_eq_none.mpr onLine, List.find?_eq_none.mpr shared,
    start, blinding]

end ConfidentialToken.Bulletproof
