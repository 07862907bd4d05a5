import Mathlib.Algebra.BigOperators.GroupWithZero.Finset
import Mathlib.Algebra.Field.Basic
import ConfidentialToken.Bn254.Suite
import ConfidentialToken.Proofs.Algebra.Vectors
import ConfidentialToken.Proofs.Bn254.ScalarField
import ConfidentialToken.Proofs.OneOutOfMany.Polynomials

/-!
How the polynomials of a set select one of its members.

The polynomial of an index is a product of linear factors without its leading
term; the bits of the index choose the factors. Those of a prover have the slope
one where a bit agrees with the bit of the index that the prover knows, and zero
where it does not. Indices that agree in all bits are the same, so that the
leading term is there for this index only.
-/

namespace ConfidentialToken.OneOutOfMany

variable {F : Type} {count : Nat}

/-- The factor that an index chooses at a place: the one from `ones` if its bit
there is set. -/
def chosenFactor (index : UInt64) (zeros ones : Fin count → LinearFactor F)
    (place : Fin count) : LinearFactor F :=
  if index.toNat.testBit place then ones place else zeros place

theorem map_choice_ofFn (index : Nat) (zeros ones : Fin count → LinearFactor F) :
    (((List.ofFn zeros).zip (List.ofFn ones)).zipIdx.map fun ((zero, one), place) =>
        if bit (.ofNat index) place then one else zero) =
      List.ofFn (chosenFactor (.ofNat index) zeros ones) := by
  refine List.ext_getElem (by simp) fun place bound otherBound => ?_
  simp only [List.getElem_map, List.getElem_zipIdx, List.getElem_zip, List.getElem_ofFn,
    zero_add, bit, chosenFactor]

section Product

variable [Field F] (index : UInt64) (zeros ones : Fin count → LinearFactor F)

theorem polynomialForIndex_ofFn :
    polynomialForIndex index.toNat (List.ofFn zeros) (List.ofFn ones) =
      ((List.ofFn (chosenFactor index zeros ones)).foldl multiplyLinear
        [1]).take count := by
  rw [polynomialForIndex, map_choice_ofFn, UInt64.ofNat_toNat, List.length_ofFn]

theorem sum_polynomialForIndex :
    let polynomial := polynomialForIndex index.toNat (List.ofFn zeros) (List.ofFn ones)
    polynomial.length = count ∧ ∀ point : F,
      ∑ place : Fin count, polynomial.getD place 0 * point ^ place.val +
          (∏ place, (chosenFactor index zeros ones place).slope) * point ^ count =
        ∏ place, (chosenFactor index zeros ones place).evaluate point := by
  intro polynomial
  have product (point : F) :=
    evaluate_take_foldl (List.ofFn (chosenFactor index zeros ones)) point
  simp only [List.length_ofFn, List.map_ofFn, List.prod_ofFn, Function.comp_apply,
    ← polynomialForIndex_ofFn] at product
  have length : polynomial.length = count := (product 0).1
  refine ⟨length, fun point => ?_⟩
  rw [← evaluate_eq_sum length, (product point).2, sub_add_cancel]

end Product

/-- The leading term of `(x - 11) (x + 12) (x + 13)` is left out. -/
example :
    polynomialForIndex 6 [⟨1, -11⟩, ⟨0, -12⟩, ⟨0, -13⟩] [⟨0, 11⟩, ⟨1, 12⟩, ⟨1, 13⟩] =
    [-1716, -119, (14 : Int)] := by
  decide

theorem forall_testBit_eq_iff {left right : Nat} (leftBound : left < 2 ^ count)
    (rightBound : right < 2 ^ count) :
    (∀ place : Fin count, left.testBit place = right.testBit place) ↔ left = right := by
  constructor
  · intro agree
    apply Nat.eq_of_testBit_eq
    intro place
    by_cases inRange : place < count
    · exact agree ⟨place, inRange⟩
    -- Beyond the range neither index has a bit set.
    · have wide : 2 ^ count ≤ 2 ^ place :=
        Nat.pow_le_pow_right Nat.two_pos (Nat.le_of_not_lt inRange)
      rw [Nat.testBit_lt_two_pow (Nat.lt_of_lt_of_le leftBound wide),
        Nat.testBit_lt_two_pow (Nat.lt_of_lt_of_le rightBound wide)]
  · rintro rfl place
    rfl

/-- The slopes of a prover who knows an index tell it from the others. -/
theorem prod_slope_chosenFactor [Field F] {index known : UInt64}
    {zeros ones : Fin count → LinearFactor F} (indexBound : index.toNat < 2 ^ count)
    (knownBound : known.toNat < 2 ^ count)
    (zeroSlope : ∀ place, (zeros place).slope =
      if known.toNat.testBit place then 0 else 1)
    (oneSlope : ∀ place, (ones place).slope =
      if known.toNat.testBit place then 1 else 0) :
    ∏ place, (chosenFactor index zeros ones place).slope =
      if index = known then 1 else 0 := by
  have slope (place : Fin count) : (chosenFactor index zeros ones place).slope =
      if index.toNat.testBit place = known.toNat.testBit place then 1 else 0 := by
    -- Either list has the slope one where the known index would choose from it
    -- too.
    rw [chosenFactor]
    split
    case isTrue set =>
      rw [oneSlope, set]
      cases known.toNat.testBit place <;> rfl
    case isFalse unset =>
      rw [zeroSlope, Bool.eq_false_of_not_eq_true unset]
      cases known.toNat.testBit place <;> rfl
  simp only [slope, Fintype.prod_boole, forall_testBit_eq_iff indexBound knownBound,
    UInt64.toNat_inj]

theorem linearFactors_indexBits {S : Suite} (known : UInt64) (a : Fin count → S.Scalar) :
    linearFactors (indexBits known count) (List.ofFn a) =
      (List.ofFn fun place => ⟨if known.toNat.testBit place then 0 else 1, -a place⟩,
        List.ofFn fun place =>
          ⟨if known.toNat.testBit place then 1 else 0, a place⟩) := by
  have bits : indexBits known count =
      List.ofFn fun place : Fin count => known.toNat.testBit place := by
    apply List.ext_getElem <;> simp [indexBits, bit]
  rw [linearFactors, bits, zipWith_ofFn, zipWith_ofFn]

/-- The polynomial of an index is the product of the chosen factors without its
leading term. Among the factors of a prover, those of the index that it knows
have a product of degree `count` with the leading coefficient one, and those of
any other index have one of a smaller degree. -/
theorem polynomials_select_index {S : Suite} [LawfulScalars S.Scalar] (count : Nat)
    (index : UInt64) :
    let _ : Field S.Scalar := LawfulScalars.field
    (∀ zeros ones : Fin count → LinearFactor S.Scalar,
      let polynomial := polynomialForIndex index.toNat (List.ofFn zeros) (List.ofFn ones)
      polynomial.length = count ∧ ∀ point : S.Scalar,
        ∑ place : Fin count, polynomial.getD place 0 * point ^ place.val +
            (∏ place, (chosenFactor index zeros ones place).slope) * point ^ count =
          ∏ place, (chosenFactor index zeros ones place).evaluate point) ∧
    ∀ known : UInt64, index.toNat < 2 ^ count → known.toNat < 2 ^ count →
      ∀ a : Fin count → S.Scalar, ∃ zeros ones : Fin count → LinearFactor S.Scalar,
        linearFactors (indexBits known count) (List.ofFn a) =
            (List.ofFn zeros, List.ofFn ones) ∧
          ∏ place, (chosenFactor index zeros ones place).slope =
            if index = known then 1 else 0 := by
  intro field
  constructor
  · exact sum_polynomialForIndex index
  · intro known indexBound knownBound a
    refine ⟨_, _, linearFactors_indexBits known a, ?_⟩
    exact prod_slope_chosenFactor indexBound knownBound (fun _ => rfl) (fun _ => rfl)

theorem polynomials_select_six :
    let _ : Field Bn254.suite.Scalar := LawfulScalars.field
    let a : Fin 3 → Bn254.suite.Scalar := ![11, 12, 13]
    (∃ zeros ones : Fin 3 → LinearFactor Bn254.suite.Scalar,
      linearFactors (indexBits 6 3) (List.ofFn a) = (List.ofFn zeros, List.ofFn ones) ∧
        ∏ place, (chosenFactor 6 zeros ones place).slope = 1) ∧
    ∃ zeros ones : Fin 3 → LinearFactor Bn254.suite.Scalar,
      linearFactors (indexBits 6 3) (List.ofFn a) = (List.ofFn zeros, List.ofFn ones) ∧
        ∏ place, (chosenFactor 2 zeros ones place).slope = 0 := by
  intro field a
  have known : (6 : UInt64).toNat < 2 ^ 3 := by decide
  have other : (2 : UInt64).toNat < 2 ^ 3 := by decide
  constructor
  · exact (polynomials_select_index (S := Bn254.suite) 3 6).2 6 known known a
  · exact (polynomials_select_index (S := Bn254.suite) 3 2).2 6 other known a

end ConfidentialToken.OneOutOfMany
