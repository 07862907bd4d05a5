import Mathlib.Algebra.BigOperators.Fin
import Mathlib.Tactic.Module
import Mathlib.Tactic.Ring
import ConfidentialToken.Proofs.Algebra.LinearCombination

/-!
Lists of scalars as vectors.

A list of a known length is the list of the values of a function of the index.
Sums over such lists are sums over the indices, so that an equation between them
is proved index by index.
-/

namespace ConfidentialToken

theorem exists_ofFn {α : Type} {count : Nat} {list : List α}
    (length : list.length = count) :
    ∃ entries : Fin count → α, list = List.ofFn entries := by
  subst length
  exact ⟨list.get, (List.ofFn_get list).symm⟩

theorem zipWith_ofFn {α β γ : Type} {count : Nat} (combine : α → β → γ)
    (left : Fin count → α) (right : Fin count → β) :
    List.zipWith combine (List.ofFn left) (List.ofFn right) =
      List.ofFn fun index => combine (left index) (right index) := by
  apply List.ext_getElem <;> simp

theorem zip_ofFn {α β : Type} {count : Nat} (left : Fin count → α)
    (right : Fin count → β) :
    (List.ofFn left).zip (List.ofFn right) = List.ofFn fun index =>
      (left index, right index) :=
  zipWith_ofFn Prod.mk left right

theorem map_range_eq_ofFn {α : Type} (size : Nat) (convert : Nat → α) :
    (List.range size).map convert = List.ofFn fun index : Fin size => convert index := by
  apply List.ext_getElem <;> simp

theorem sum_ofFn {G : Type} [AddCommMonoid G] {count : Nat} (entries : Fin count → G) :
    sum (List.ofFn entries) = ∑ index, entries index := by
  rw [sum_eq_list_sum, List.sum_ofFn]

section Module

variable {F G : Type} [Field F] [AddCommGroup G] [Module F G]

theorem linearCombination_ofFn {count : Nat} (bases : Fin count → G)
    (factors : Fin count → F) :
    linearCombination (List.ofFn bases) (List.ofFn factors) =
      ∑ index, factors index • bases index := by
  rw [linearCombination, zipWith_ofFn, sum_ofFn]

/-- An inner product is the linear combination of its right side with the left
one as factors. -/
theorem dotProduct_eq (left right : List F) :
    dotProduct left right = linearCombination right left := by
  rw [dotProduct, linearCombination, List.zipWith_comm]
  simp only [smul_eq_mul]

theorem dotProduct_comm (left right : List F) :
    dotProduct left right = dotProduct right left := by
  rw [dotProduct, dotProduct, List.zipWith_comm]
  simp only [mul_comm]

theorem dotProduct_ofFn {count : Nat} (left right : Fin count → F) :
    dotProduct (List.ofFn left) (List.ofFn right) = ∑ index, left index *
      right index := by
  rw [dotProduct, zipWith_ofFn, sum_ofFn]

theorem geometric_eq (ratio start : F) (count : Nat) :
    geometric ratio count start = List.ofFn fun index : Fin count =>
      start * ratio ^ index.val := by
  induction count generalizing start with
  | zero => rfl
  | succ count inductionHypothesis =>
      rw [geometric, inductionHypothesis, List.ofFn_succ]
      simp [pow_succ', mul_assoc]

theorem powers_eq (base : F) (count : Nat) :
    powers base count = List.ofFn fun index : Fin count => base ^ index.val := by
  rw [powers, geometric_eq]
  simp only [one_mul]

@[simp]
theorem length_geometric {R : Type} [Mul R] (ratio : R) (count : Nat) (start : R) :
    (geometric ratio count start).length = count := by
  induction count generalizing start with
  | zero => rfl
  | succ count inductionHypothesis =>
      rw [geometric, List.length_cons, inductionHypothesis]

@[simp]
theorem length_powers {R : Type} [One R] [Mul R] (base : R) (count : Nat) :
    (powers base count).length = count :=
  length_geometric base count 1

theorem powers_succ (base : F) (count : Nat) :
    powers base (count + 1) = 1 :: (powers base count).map (base * ·) := by
  rw [powers_eq, powers_eq, List.ofFn_succ, List.map_ofFn]
  simp [Function.comp_def, pow_succ']

theorem linearCombination_append {bases : List G} {factors : List F} (otherBases : List G)
    (otherFactors : List F) (lengths : bases.length = factors.length) :
    linearCombination (bases ++ otherBases) (factors ++ otherFactors) =
      linearCombination bases factors + linearCombination otherBases otherFactors := by
  rw [linearCombination, List.zipWith_append lengths, sum_eq_list_sum, List.sum_append,
    ← sum_eq_list_sum, ← sum_eq_list_sum]
  rfl

/-- A linear combination is the one of the first terms and the one of the
others. -/
theorem linearCombination_take_drop (half : Nat) (bases : List G) {factors : List F}
    (lengths : bases.length = factors.length) :
    linearCombination bases factors =
      linearCombination (bases.take half) (factors.take half) +
        linearCombination (bases.drop half) (factors.drop half) := by
  rw [← linearCombination_append, List.take_append_drop, List.take_append_drop]
  simp [lengths]

theorem linearCombination_map_mul (bases : List G) (scale : F) (factors : List F) :
    linearCombination bases (factors.map (scale * ·)) =
      scale • linearCombination bases factors := by
  induction bases generalizing factors with
  | nil => simp
  | cons base bases inductionHypothesis =>
      cases factors with
      | nil => simp
      | cons factor factors => simp [inductionHypothesis, mul_smul]

/-- Multiples of one base combine to a multiple of that base. -/
theorem linearCombination_map_smul (scalars factors : List F) (base : G) :
    linearCombination (scalars.map (· • base)) factors =
      dotProduct scalars factors • base := by
  rw [dotProduct_comm, dotProduct_eq]
  induction scalars generalizing factors with
  | nil => simp
  | cons scalar scalars inductionHypothesis =>
      cases factors with
      | nil => simp
      | cons factor factors =>
          rw [List.map_cons, linearCombination_cons, linearCombination_cons,
            inductionHypothesis, add_smul, smul_eq_mul, mul_smul]

theorem linearCombination_add_mul {count : Nat} {bases : List G}
    (length : bases.length = count) (scale : F) (factors otherFactors : Fin count → F) :
    linearCombination bases
      (List.ofFn fun index => factors index + scale * otherFactors index) =
      linearCombination bases (List.ofFn factors) +
        scale • linearCombination bases (List.ofFn otherFactors) := by
  obtain ⟨entries, rfl⟩ := exists_ofFn length
  simp only [linearCombination_ofFn, Finset.smul_sum, ← Finset.sum_add_distrib,
    add_smul, mul_smul]

/-- A linear combination is linear in the bases and in the factors. -/
theorem linearCombination_bilinear {count : Nat} {bases otherBases : List G}
    {factors otherFactors : List F} (basesLength : bases.length = count)
    (otherBasesLength : otherBases.length = count)
    (factorsLength : factors.length = count)
    (otherFactorsLength : otherFactors.length = count) (a b c d : F) :
    linearCombination (List.zipWith (fun p q => a • p + b • q) bases otherBases)
        (List.zipWith (fun s t => c * s + d * t) factors otherFactors) =
      (a * c) • linearCombination bases factors +
        (a * d) • linearCombination bases otherFactors +
        (b * c) • linearCombination otherBases factors +
        (b * d) • linearCombination otherBases otherFactors := by
  obtain ⟨p, rfl⟩ := exists_ofFn basesLength
  obtain ⟨q, rfl⟩ := exists_ofFn otherBasesLength
  obtain ⟨s, rfl⟩ := exists_ofFn factorsLength
  obtain ⟨t, rfl⟩ := exists_ofFn otherFactorsLength
  simp only [zipWith_ofFn, linearCombination_ofFn,
    Finset.smul_sum, ← Finset.sum_add_distrib]
  refine Finset.sum_congr rfl fun index _ => ?_
  module

end Module

end ConfidentialToken
