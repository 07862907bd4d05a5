import Mathlib.Algebra.BigOperators.Group.List.Basic
import ConfidentialToken.Proofs.Algebra.LinearCombination

/-!
Linear combinations by places.

A factor that is written where a zero stood adds its multiple of the base at
that place, and the places may be gone through in any order.
-/

namespace ConfidentialToken

variable {F G : Type} [Field F] [AddCommGroup G] [Module F G]

theorem linearCombination_set (bases : List G) {factors : List F} {place : Nat}
    (inRange : place < factors.length) (unset : factors.getD place 0 = 0) (factor : F) :
    linearCombination bases (factors.set place factor) =
      linearCombination bases factors + factor • bases.getD place 0 := by
  induction factors generalizing bases place with
  | nil => cases inRange
  | cons first factors inductionHypothesis =>
      cases bases with
      | nil => simp
      | cons base bases =>
          cases place with
          | zero =>
              have zero : first = 0 := unset
              simp [zero, add_comm]
          | succ place =>
              have rest :=
                inductionHypothesis bases (Nat.lt_of_succ_lt_succ inRange) unset
              simp only [List.set_cons_succ, linearCombination_cons, rest,
                List.getD_cons_succ, add_assoc]

@[simp]
theorem linearCombination_replicate_zero (bases : List G) (count : Nat) :
    linearCombination bases (List.replicate count (0 : F)) = 0 := by
  induction count generalizing bases with
  | zero => simp
  | succ count inductionHypothesis =>
      cases bases <;> simp [List.replicate_succ, inductionHypothesis]

theorem linearCombination_map {Place : Type} (places : List Place) (base : Place → G)
    (factor : Place → F) :
    linearCombination (places.map base) (places.map factor) =
      (places.map fun place => factor place • base place).sum := by
  rw [linearCombination, List.zipWith_map, List.zipWith_self, sum_eq_list_sum]

theorem linearCombination_eq_range (bases : List G) (factors : List F) :
    linearCombination bases factors =
      linearCombination ((List.range factors.length).map (bases.getD · 0))
        ((List.range factors.length).map (factors.getD · 0)) := by
  induction factors generalizing bases with
  | nil => simp
  | cons first factors inductionHypothesis =>
      have shifted := inductionHypothesis bases.tail
      cases bases with
      | nil =>
          rw [linearCombination_map]
          simp
      | cons base bases =>
          simp only [List.length_cons, List.range_succ_eq_map, List.map_cons,
            List.map_map, linearCombination_cons, List.getD_cons_zero,
            Function.comp_def, List.getD_cons_succ]
          exact congrArg (first • base + ·) shifted

/-- The places of the factors may be gone through in any order. -/
theorem linearCombination_of_perm (bases : List G) {factors : List F} {places : List Nat}
    (covers : places.Perm (List.range factors.length)) :
    linearCombination bases factors =
      linearCombination (places.map (bases.getD · 0))
        (places.map (factors.getD · 0)) := by
  rw [linearCombination_eq_range, linearCombination_map, linearCombination_map]
  exact (covers.map _).sum_eq.symm

end ConfidentialToken
