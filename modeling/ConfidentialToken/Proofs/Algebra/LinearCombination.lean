import Mathlib.Algebra.BigOperators.Group.List.Basic
import Mathlib.Algebra.Order.BigOperators.Group.List
import Mathlib.Tactic.Abel
import Mathlib.Tactic.Module
import ConfidentialToken.Arithmetic
import ConfidentialToken.Proofs.Algebra.Laws

/-!
Sums and linear combinations under the laws of a group.

A sum taken from the left is the sum of Mathlib, and a linear combination is
linear in its factors.
-/

namespace ConfidentialToken

theorem sum_eq_list_sum {G : Type} [AddCommMonoid G] (elements : List G) :
    sum elements = elements.sum := by
  rw [List.sum_eq_foldl]
  rfl

@[simp]
theorem sum_nil {G : Type} [AddCommMonoid G] : sum ([] : List G) = 0 := rfl

@[simp]
theorem sum_cons {G : Type} [AddCommMonoid G] (element : G) (elements : List G) :
    sum (element :: elements) = element + sum elements := by
  simp [sum_eq_list_sum]

theorem sum_zipWith_sub {G : Type} [AddCommGroup G] {left right : List G}
    (lengths : left.length = right.length) :
    sum (List.zipWith (· - ·) left right) = sum left - sum right := by
  induction left generalizing right with
  | nil =>
      cases right with
      | nil => simp
      | cons second right => simp at lengths
  | cons first left inductionHypothesis =>
      cases right with
      | nil => simp at lengths
      | cons second right =>
          simp only [List.zipWith_cons_cons, sum_cons]
          rw [inductionHypothesis (Nat.succ.inj lengths)]
          abel

/-- Elements that are combined twice can be combined in either order, if the
operations agree. -/
theorem zipWith_zipWith_zipWith {α β γ δ : Type} {outer : γ → γ → δ}
    {left right : α → β → γ} {inner : α → α → α} {innerRight : β → β → β}
    {combined : α → β → δ}
    (agree : ∀ a b otherA otherB,
      outer (left a b) (right otherA otherB) =
        combined (inner a otherA) (innerRight b otherB))
    (as otherAs : List α) (bs otherBs : List β) :
    List.zipWith outer (List.zipWith left as bs) (List.zipWith right otherAs otherBs) =
      List.zipWith combined (List.zipWith inner as otherAs)
        (List.zipWith innerRight bs otherBs) := by
  apply List.ext_getElem
  · simp only [List.length_zipWith]
    omega
  · intro index bound otherBound
    simp [agree]

section Module

variable {F G : Type} [Field F] [AddCommGroup G] [Module F G]

theorem sum_map_mul (factor : F) (scalars : List F) :
    sum (scalars.map (· * factor)) = sum scalars * factor := by
  induction scalars with
  | nil => simp
  | cons first scalars inductionHypothesis =>
      simp only [List.map_cons, sum_cons, inductionHypothesis, add_mul]

@[simp]
theorem linearCombination_nil (bases : List G) :
    linearCombination bases ([] : List F) = 0 := by
  simp [linearCombination]

@[simp]
theorem linearCombination_nil_bases (factors : List F) :
    linearCombination ([] : List G) factors = 0 := by
  simp [linearCombination]

@[simp]
theorem linearCombination_cons (base : G) (bases : List G) (factor : F)
    (factors : List F) :
    linearCombination (base :: bases) (factor :: factors) =
      factor • base + linearCombination bases factors := by
  simp [linearCombination]

theorem linearCombination_triple (p q r : G) (a b c : F) :
    linearCombination [p, q, r] [a, b, c] = a • p + b • q + c • r := by
  simp [add_assoc]

/-- A linear combination is linear in its factors. -/
theorem linearCombination_zipWith (bases : List G) (scale : F) {left right : List F}
    (lengths : left.length = right.length) :
    linearCombination bases (List.zipWith (fun a b => (a - b) * scale) left right) =
      scale • (linearCombination bases left - linearCombination bases right) := by
  induction left generalizing right bases with
  | nil =>
      cases right with
      | nil => simp
      | cons second right => simp at lengths
  | cons first left inductionHypothesis =>
      cases right with
      | nil => simp at lengths
      | cons second right =>
          cases bases with
          | nil => simp
          | cons base bases =>
              simp only [List.zipWith_cons_cons, linearCombination_cons]
              rw [inductionHypothesis bases (Nat.succ.inj lengths), mul_comm, mul_smul,
                sub_smul, ← smul_add]
              congr 1
              abel

/-- The sum of commitments that share a part is a commitment to the sums of what
they open to. -/
theorem sum_zipWith_commitments (shared valueBase blindingBase : G)
    {values blinding : List F} (lengths : values.length = blinding.length) :
    sum (List.zipWith (fun value factor => shared + value • valueBase +
      factor • blindingBase)
        values blinding) =
      (values.length : F) • shared + sum values • valueBase +
        sum blinding • blindingBase := by
  induction values generalizing blinding with
  | nil =>
      rw [List.length_eq_zero_iff.mp lengths.symm]
      simp
  | cons value values inductionHypothesis =>
      obtain ⟨factor, blinding, rfl⟩ := List.exists_cons_of_length_eq_add_one lengths.symm
      rw [List.zipWith_cons_cons, sum_cons, inductionHypothesis (Nat.succ.inj lengths)]
      simp only [List.length_cons, Nat.cast_succ, sum_cons]
      module

end Module

/-- The number that a sum of scalars denotes is the sum of their numbers, if
that is below the order. -/
theorem toNat_sum {F : Type} [ScalarOperations F] [LawfulScalars F] (scalars : List F)
    (bounded : (scalars.map ScalarOperations.toNat).sum < LawfulScalars.order F) :
    ScalarOperations.toNat (sum scalars) = (scalars.map ScalarOperations.toNat).sum := by
  let _ := LawfulScalars.field (F := F)
  induction scalars with
  | nil => exact LawfulScalars.toNat_zero
  | cons first scalars inductionHypothesis =>
      rw [List.map_cons, List.sum_cons] at bounded
      have rest := inductionHypothesis (by omega)
      calc ScalarOperations.toNat (sum (first :: scalars))
          = ScalarOperations.toNat (first + sum scalars) :=
            congrArg ScalarOperations.toNat (sum_cons first scalars)
        _ = (ScalarOperations.toNat first + ScalarOperations.toNat (sum scalars)) %
              LawfulScalars.order F := LawfulScalars.toNat_add _ _
        _ = ((first :: scalars).map ScalarOperations.toNat).sum := by
            rw [rest, Nat.mod_eq_of_lt bounded, List.map_cons, List.sum_cons]

/-- Sums of fewer than `2 ^ 64` words stay below the order of the scalars. -/
theorem sum_words_lt_order {F : Type} [ScalarOperations F] [LawfulScalars F]
    (scalars : List F) (few : scalars.length < 2 ^ 64)
    (words : ∀ scalar ∈ scalars, ScalarOperations.toNat scalar < 2 ^ 64) :
    (scalars.map ScalarOperations.toNat).sum < LawfulScalars.order F := by
  have bound : (scalars.map ScalarOperations.toNat).sum ≤ scalars.length * 2 ^ 64 := by
    have terms := List.sum_le_card_nsmul (scalars.map ScalarOperations.toNat) (2 ^ 64) (by
      intro number membership
      obtain ⟨scalar, scalarMembership, rfl⟩ := List.mem_map.mp membership
      exact (words scalar scalarMembership).le)
    simpa using terms
  calc (scalars.map ScalarOperations.toNat).sum
      ≤ scalars.length * 2 ^ 64 := bound
    _ < 2 ^ 128 := by omega
    _ ≤ LawfulScalars.order F := LawfulScalars.order_wide

end ConfidentialToken
