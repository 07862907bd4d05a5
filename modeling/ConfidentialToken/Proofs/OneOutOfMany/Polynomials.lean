import Mathlib.Algebra.BigOperators.Fin
import Mathlib.Algebra.BigOperators.Group.List.Lemmas
import Mathlib.Tactic.Ring
import ConfidentialToken.OneOutOfMany

/-!
Products of linear polynomials as lists of coefficients.

A product of `n` factors has the degree `n`; its leading coefficient is the
product of the slopes, and its value the product of the values of the factors.
-/

namespace ConfidentialToken.OneOutOfMany

variable {F : Type} [Field F]

def LinearFactor.evaluate (factor : LinearFactor F) (point : F) : F :=
  factor.slope * point + factor.constant

/-- The value of the polynomial with the given coefficients, from the constant
one on. -/
def evaluate (coefficients : List F) (point : F) : F :=
  coefficients.foldr (fun coefficient value => coefficient + point * value) 0

@[simp]
theorem evaluate_nil (point : F) : evaluate [] point = 0 := rfl

@[simp]
theorem evaluate_cons (coefficient : F) (coefficients : List F) (point : F) :
    evaluate (coefficient :: coefficients) point =
      coefficient + point * evaluate coefficients point := rfl

theorem evaluate_append_singleton (coefficients : List F) (leading point : F) :
    evaluate (coefficients ++ [leading]) point =
      evaluate coefficients point + leading * point ^ coefficients.length := by
  induction coefficients with
  | nil => simp
  | cons coefficient coefficients inductionHypothesis =>
      rw [List.cons_append, evaluate_cons, inductionHypothesis, evaluate_cons,
        List.length_cons]
      ring

/-- The value is the sum of the coefficients times the powers of the point. -/
theorem evaluate_eq_sum {coefficients : List F} {count : Nat}
    (length : coefficients.length = count) (point : F) :
    evaluate coefficients point =
      ∑ place : Fin count, coefficients.getD place.val 0 * point ^ place.val := by
  induction coefficients generalizing count with
  | nil =>
      subst length
      simp
  | cons coefficient coefficients inductionHypothesis =>
      subst length
      rw [evaluate_cons, inductionHypothesis rfl, List.length_cons, Fin.sum_univ_succ,
        Finset.mul_sum]
      simp only [Fin.val_zero, Fin.val_succ, List.getD_cons_zero, List.getD_cons_succ,
        pow_zero, mul_one, pow_succ']
      congr 1
      exact Finset.sum_congr rfl fun place _ => by ring

/-- The value of a product, with the carry of the coefficients that are left. -/
theorem evaluate_multiply_carry (coefficients : List F) (slope constant carry point : F) :
    evaluate (List.zipWith (· + ·)
        (coefficients.map (fun coefficient => constant * coefficient) ++ [0])
        (carry :: coefficients.map fun coefficient => slope * coefficient)) point =
      carry + (slope * point + constant) * evaluate coefficients point := by
  induction coefficients generalizing carry with
  | nil => simp
  | cons coefficient coefficients inductionHypothesis =>
      simp only [List.map_cons, List.cons_append, List.zipWith_cons_cons, evaluate_cons,
        inductionHypothesis]
      ring

theorem evaluate_multiplyLinear (coefficients : List F) (factor : LinearFactor F)
    (point : F) :
    evaluate (multiplyLinear coefficients factor) point =
      factor.evaluate point * evaluate coefficients point := by
  rw [multiplyLinear, evaluate_multiply_carry, zero_add]
  rfl

theorem evaluate_foldl (factors : List (LinearFactor F)) (coefficients : List F)
    (point : F) :
    evaluate (factors.foldl multiplyLinear coefficients) point =
      (factors.map fun factor => factor.evaluate point).prod *
        evaluate coefficients point := by
  induction factors generalizing coefficients with
  | nil => simp
  | cons factor factors inductionHypothesis =>
      rw [List.foldl_cons, inductionHypothesis, evaluate_multiplyLinear, List.map_cons,
        List.prod_cons]
      ring

theorem multiplyLinear_append (lower : List F) (leading : F) (factor : LinearFactor F) :
    ∃ product, multiplyLinear (lower ++ [leading]) factor =
      product ++ [factor.slope * leading] ∧
      product.length = lower.length + 1 := by
  refine ⟨List.zipWith (· + ·)
    (lower.map (fun coefficient => factor.constant * coefficient) ++
      [factor.constant * leading])
    (0 :: lower.map fun coefficient => factor.slope * coefficient), ?_, by simp⟩
  rw [multiplyLinear, List.map_append, List.map_append, ← List.cons_append,
    List.zipWith_append]
  · simp
  · simp

/-- The leading coefficient of a product is the product of the slopes. -/
theorem foldl_multiplyLinear (factors : List (LinearFactor F)) (lower : List F)
    (leading : F) :
    ∃ product, factors.foldl multiplyLinear (lower ++ [leading]) =
        product ++ [(factors.map LinearFactor.slope).prod * leading] ∧
      product.length = lower.length + factors.length := by
  induction factors generalizing lower leading with
  | nil => exact ⟨lower, by simp, by simp⟩
  | cons factor factors inductionHypothesis =>
      obtain ⟨first, firstEq, firstLength⟩ := multiplyLinear_append lower leading factor
      obtain ⟨product, productEq, productLength⟩ :=
        inductionHypothesis first (factor.slope * leading)
      refine ⟨product, ?_, ?_⟩
      · rw [List.foldl_cons, firstEq, productEq, List.map_cons, List.prod_cons]
        congr 2
        ring
      · rw [productLength, firstLength, List.length_cons]
        omega

/-- The coefficients below the leading one give the product without its leading
term. -/
theorem evaluate_take_foldl (factors : List (LinearFactor F)) (point : F) :
    ((factors.foldl multiplyLinear [1]).take factors.length).length = factors.length ∧
    evaluate ((factors.foldl multiplyLinear [1]).take factors.length) point =
      (factors.map fun factor => factor.evaluate point).prod -
        (factors.map LinearFactor.slope).prod * point ^ factors.length := by
  obtain ⟨product, productEq, productLength⟩ := foldl_multiplyLinear factors [] 1
  rw [List.nil_append, mul_one] at productEq
  rw [List.length_nil, zero_add] at productLength
  have whole := evaluate_foldl factors [1] point
  rw [productEq, evaluate_append_singleton, productLength] at whole
  rw [productEq, List.take_left' productLength]
  refine ⟨productLength, eq_sub_of_add_eq ?_⟩
  simpa using whole

end ConfidentialToken.OneOutOfMany
