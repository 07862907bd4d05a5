import Mathlib.Algebra.BigOperators.Fin
import Mathlib.LinearAlgebra.Lagrange

/-!
Coefficients of polynomials from their values.

A polynomial of a degree below the number of points is known from its values at
the points. Its first and its last coefficient are sums of the values with
weights that depend on nothing but the points, so that they are found also where
the coefficients are elements of a group. The same holds of the constant
coefficient where there is one of the inverse of the point too.
-/

namespace ConfidentialToken.Interpolation

open Polynomial

variable {F : Type} [Field F] {count : Nat}

/-- The weight of the value at a point in the leading coefficient. -/
def leadingWeight (points : Fin count → F) (index : Fin count) : F :=
  ∏ other ∈ Finset.univ.erase index, (points index - points other)⁻¹

/-- The weight of the value at a point in the constant coefficient. -/
def constantWeight (points : Fin count → F) (index : Fin count) : F :=
  ∏ other ∈ Finset.univ.erase index, points other * (points other - points index)⁻¹

theorem degree_monomial_lt {place : Nat} (small : place < count) :
    (X ^ place : F[X]).degree < (Finset.univ : Finset (Fin count)).card := by
  rw [degree_X_pow, Finset.card_univ, Fintype.card_fin]
  exact_mod_cast small

theorem sum_leadingWeight_mul_pow {points : Fin (count + 1) → F}
    (distinct : Function.Injective points) {place : Nat} (small : place < count + 1) :
    ∑ index, leadingWeight points index * points index ^ place =
      if place = count then 1 else 0 := by
  have picked := Lagrange.coeff_eq_sum (fun _ _ _ _ same => distinct same)
    (degree_monomial_lt (F := F) small)
  simp only [Finset.card_univ, Fintype.card_fin, Nat.add_sub_cancel, coeff_X_pow,
    eval_pow, eval_X, eq_comm (a := count)] at picked
  rw [picked]
  refine Finset.sum_congr rfl fun index _ => ?_
  rw [leadingWeight, Finset.prod_inv_distrib, div_eq_mul_inv, mul_comm]

theorem sum_constantWeight_mul_pow {points : Fin count → F}
    (distinct : Function.Injective points) {place : Nat} (small : place < count) :
    ∑ index, constantWeight points index * points index ^ place =
      if place = 0 then 1 else 0 := by
  have interpolated := Lagrange.eq_interpolate (fun _ _ _ _ same => distinct same)
    (degree_monomial_lt (F := F) small)
  have picked := congrArg (eval 0) interpolated
  simp only [Lagrange.interpolate_apply, eval_finsetSum, eval_mul, eval_C, eval_pow,
    eval_X, zero_pow_eq, Lagrange.basis, Lagrange.basisDivisor, eval_prod, eval_sub,
    zero_sub] at picked
  rw [picked]
  refine Finset.sum_congr rfl fun index _ => ?_
  rw [constantWeight, mul_comm]
  refine congrArg _ (Finset.prod_congr rfl fun other _ => ?_)
  rw [← neg_sub (points index), inv_neg]
  ring

section Module

variable {G : Type} [AddCommGroup G] [Module F G]

/-- Weights that pick one power of the points pick the coefficient of that
power. -/
theorem sum_weights_smul {size : Nat} {weights points : Fin size → F} (target : Fin count)
    (picks : ∀ place : Fin count,
      ∑ index, weights index * points index ^ place.val = if place = target then 1 else 0)
    (coefficients : Fin count → G) :
    ∑ index, weights index • ∑ place : Fin count, points index ^ place.val •
      coefficients place =
      coefficients target := by
  calc ∑ index, weights index • ∑ place : Fin count, points index ^ place.val •
    coefficients place
      = ∑ place : Fin count,
          (∑ index, weights index * points index ^ place.val) • coefficients place := by
        simp only [Finset.smul_sum, smul_smul, Finset.sum_smul]
        exact Finset.sum_comm
    _ = coefficients target := by
        simp only [picks, ite_smul, one_smul, zero_smul, Finset.sum_ite_eq',
          Finset.mem_univ, if_true]

theorem sum_leadingWeight_smul {points : Fin (count + 1) → F}
    (distinct : Function.Injective points) (leading : G) (lower : Fin count → G) :
    ∑ index, leadingWeight points index • (points index ^ count • leading +
        ∑ place : Fin count, points index ^ place.val • lower place) = leading := by
  have picked := sum_weights_smul (Fin.last count)
    (fun place => (sum_leadingWeight_mul_pow distinct place.isLt).trans (by
      simp only [Fin.ext_iff, Fin.val_last]))
    (Fin.snoc lower leading : Fin (count + 1) → G)
  simpa only [Fin.sum_univ_castSucc, Fin.snoc_castSucc, Fin.snoc_last, Fin.val_castSucc,
    Fin.val_last, add_comm] using picked

theorem sum_constantWeight_smul {points : Fin (count + 1) → F}
    (distinct : Function.Injective points) (constant : G) (higher : Fin count → G) :
    ∑ index, constantWeight points index • (constant +
        ∑ place : Fin count, points index ^ (place.val + 1) • higher place) =
          constant := by
  have picked := sum_weights_smul (0 : Fin (count + 1))
    (fun place => (sum_constantWeight_mul_pow distinct place.isLt).trans (by
      simp only [Fin.ext_iff, Fin.val_zero]))
    (Fin.cons constant higher : Fin (count + 1) → G)
  simpa only [Fin.sum_univ_succ, Fin.cons_zero, Fin.cons_succ, Fin.val_zero,
    Fin.val_succ, pow_zero, one_smul] using picked

end Module

/-- Whatever the values at the points are, a polynomial has them. -/
theorem exists_coefficients {points : Fin count → F}
    (distinct : Function.Injective points) (values : Fin count → F) :
    ∃ coefficients : Fin count → F, ∀ index,
      values index = ∑ place : Fin count, points index ^ place.val •
        coefficients place := by
  have unit : IsUnit (Matrix.vandermonde points) := by
    rw [Matrix.isUnit_iff_isUnit_det, isUnit_iff_ne_zero]
    exact Matrix.det_vandermonde_ne_zero_iff.mpr distinct
  obtain ⟨coefficients, solves⟩ := Matrix.mulVec_surjective_iff_isUnit.mpr unit values
  exact ⟨coefficients, fun index => (congrFun solves index).symm⟩

/-- Values at four points are on a line if neither they nor their multiples by
the points have a leading coefficient. -/
theorem exists_line {points values : Fin 4 → F} (distinct : Function.Injective points)
    (cubic : ∑ index, leadingWeight points index * values index = 0)
    (quadratic : ∑ index,
      leadingWeight points index * (points index * values index) = 0) :
    ∃ start slope, ∀ index, values index = start + points index * slope := by
  obtain ⟨coefficients, valuesEq⟩ := exists_coefficients distinct values
  have third : coefficients 3 = 0 := by
    calc coefficients 3
        = ∑ index, leadingWeight points index • (points index ^ 3 • coefficients 3 +
            ∑ place : Fin 3, points index ^ place.val •
              ![coefficients 0, coefficients 1, coefficients 2] place) :=
          (sum_leadingWeight_smul distinct _ _).symm
      _ = ∑ index, leadingWeight points index * values index := by
          refine Finset.sum_congr rfl fun index _ =>
            congrArg (leadingWeight points index * ·) ?_
          rw [valuesEq, Fin.sum_univ_four, Fin.sum_univ_three]
          simp
          ring
      _ = 0 := cubic
  have second : coefficients 2 = 0 := by
    calc coefficients 2
        = ∑ index, leadingWeight points index • (points index ^ 3 • coefficients 2 +
            ∑ place : Fin 3, points index ^ place.val •
              ![0, coefficients 0, coefficients 1] place) :=
          (sum_leadingWeight_smul distinct _ _).symm
      _ = ∑ index, leadingWeight points index * (points index * values index) := by
          refine Finset.sum_congr rfl fun index _ =>
            congrArg (leadingWeight points index * ·) ?_
          rw [valuesEq, Fin.sum_univ_four, Fin.sum_univ_three, third]
          simp
          ring
      _ = 0 := quadratic
  refine ⟨coefficients 0, coefficients 1, fun index => ?_⟩
  rw [valuesEq, Fin.sum_univ_four, third, second]
  simp

/-- The weight of the value at a point in the constant coefficient, where the
inverse of the point has a coefficient too. -/
def middleWeight (points : Fin count → F) (index : Fin count) : F :=
  constantWeight points index *
    (1 - (∑ other, constantWeight points other * (points other)⁻¹) * points index)

theorem sum_middleWeight_smul {G : Type} [AddCommGroup G] [Module F G]
    {points : Fin count → F} (three : 2 < count) (distinct : Function.Injective points)
    (nonzero : ∀ index, points index ≠ 0) (pole constant linear : G) :
    ∑ index, middleWeight points index •
        (constant + points index • linear + (points index)⁻¹ • pole) = constant := by
  obtain ⟨poles, polesEq⟩ :
      ∃ poles, ∑ other, constantWeight points other * (points other)⁻¹ = poles :=
    ⟨_, rfl⟩
  have weight (index : Fin count) : middleWeight points index =
      constantWeight points index * (1 - poles * points index) := by
    rw [middleWeight, polesEq]
  have zeroth := sum_constantWeight_mul_pow distinct (show 0 < count by omega)
  have first := sum_constantWeight_mul_pow distinct (show 1 < count by omega)
  have second := sum_constantWeight_mul_pow distinct three
  simp only [pow_zero, mul_one, pow_one, if_true, one_ne_zero, two_ne_zero, if_false]
    at zeroth first second
  have constants : ∑ index, middleWeight points index = 1 := by
    calc ∑ index, middleWeight points index
        = ∑ index, constantWeight points index -
            poles * ∑ index, constantWeight points index * points index := by
          rw [Finset.mul_sum, ← Finset.sum_sub_distrib]
          exact Finset.sum_congr rfl fun index _ => by rw [weight]; ring
      _ = 1 := by rw [zeroth, first, mul_zero, sub_zero]
  have lines : ∑ index, middleWeight points index * points index = 0 := by
    calc ∑ index, middleWeight points index * points index
        = ∑ index, constantWeight points index * points index -
            poles * ∑ index, constantWeight points index * points index ^ 2 := by
          rw [Finset.mul_sum, ← Finset.sum_sub_distrib]
          exact Finset.sum_congr rfl fun index _ => by rw [weight]; ring
      _ = 0 := by rw [first, second, mul_zero, sub_zero]
  have inverses : ∑ index, middleWeight points index * (points index)⁻¹ = 0 := by
    calc ∑ index, middleWeight points index * (points index)⁻¹
        = poles - poles * ∑ index, constantWeight points index := by
          rw [← polesEq, Finset.mul_sum, ← Finset.sum_sub_distrib, polesEq]
          refine Finset.sum_congr rfl fun index _ => ?_
          have invertible := nonzero index
          rw [weight]
          field_simp
      _ = 0 := by rw [zeroth, mul_one, sub_self]
  calc ∑ index, middleWeight points index •
        (constant + points index • linear + (points index)⁻¹ • pole)
      = (∑ index, middleWeight points index) • constant +
          (∑ index, middleWeight points index * points index) • linear +
          (∑ index, middleWeight points index * (points index)⁻¹) • pole := by
        simp only [smul_add, smul_smul, Finset.sum_add_distrib, Finset.sum_smul]
    _ = constant := by
        rw [constants, lines, inverses, one_smul, zero_smul, zero_smul, add_zero,
          add_zero]

end ConfidentialToken.Interpolation
