import Mathlib.Algebra.Module.Defs
import ConfidentialToken.Bn254.Suite
import ConfidentialToken.Proofs.Algebra.LinearCombination
import ConfidentialToken.Proofs.Bn254.Encoding
import ConfidentialToken.Proofs.Bn254.ScalarField

/-!
The groups of BN254 seen through logarithms.

Every group of the suite is cyclic of the same prime order, so that a choice of
generators makes an element of each group a scalar, and the pairing the product.
This suite has the laws of a suite, and what is proved from the laws can be
tried out in it.
-/

namespace ConfidentialToken.Bn254

@[reducible]
def exponentOperations : GroupOperations Fr Fr where
  smul factor exponent := factor * exponent

/-- The suite in which elements of groups are given by their logarithms. -/
abbrev exponentSuite : Suite where
  Scalar := Fr
  G1 := Fr
  G2 := Fr
  Gt := Fr
  scalarDecidableEq := inferInstance
  g1DecidableEq := inferInstance
  g2DecidableEq := inferInstance
  gtDecidableEq := inferInstance
  scalarOperations := inferInstance
  g1Operations := exponentOperations
  g2Operations := exponentOperations
  gtOperations := exponentOperations
  scalarEncoding := inferInstance
  g1Encoding := inferInstance
  g2Encoding := inferInstance
  gtEncoding := inferInstance
  pairingSum pairs := sum (pairs.map fun (left, right) => left * right)
  hashToScalar := hashToScalar
  hashToG1 := hashToScalar

theorem exponents_lawful : @LawfulGroup Fr Fr _ exponentOperations :=
  let _ := LawfulScalars.field (F := Fr)
  let _ := exponentOperations
  { add_assoc := add_assoc
    add_comm := add_comm
    zero_add := zero_add
    neg_add_self := neg_add_cancel
    sub_eq := sub_eq_add_neg
    one_smul := one_mul
    mul_smul := mul_assoc
    smul_add := mul_add
    add_smul := add_mul }

theorem exponents_pairing (left right : Fr) :
    let _ := LawfulScalars.field (F := Fr)
    exponentSuite.pairing left right = left * right :=
  let _ := LawfulScalars.field (F := Fr)
  zero_add (left * right)

instance : LawfulPairing exponentSuite :=
  let _ := LawfulScalars.field (F := Fr)
  { scalars := inferInstance
    g1 := exponents_lawful
    g2 := exponents_lawful
    gt := exponents_lawful
    pairingSum_nil := rfl
    pairingSum_cons := fun pair pairs => by
      rw [exponents_pairing]
      exact sum_cons _ _
    pairing_add_left := fun p q r => by
      simp only [exponents_pairing]
      exact add_mul p q r
    pairing_add_right := fun p q r => by
      simp only [exponents_pairing]
      exact mul_add p q r
    pairing_smul_left := fun a p q => by
      simp only [exponents_pairing]
      exact mul_assoc a p q
    pairing_smul_right := fun a p q => by
      simp only [exponents_pairing]
      exact mul_left_comm p a q
    pairing_eq_zero := fun p q zero => by
      rw [exponents_pairing] at zero
      exact mul_eq_zero.mp zero }

theorem exponents_cyclic : CyclicG1 exponentSuite :=
  let _ := LawfulScalars.field (F := Fr)
  ⟨(1 : Fr), fun exponent => ⟨exponent, mul_one exponent⟩⟩

/-- A source that counts. -/
structure Counter where
  next : Nat

instance : RandomSource exponentSuite Counter where
  scalar counter := (ScalarOperations.ofNat counter.next, ⟨counter.next + 1⟩)
  g1 counter := (ScalarOperations.ofNat counter.next, ⟨counter.next + 1⟩)
  g2 counter := (ScalarOperations.ofNat counter.next, ⟨counter.next + 1⟩)
  fork counter := (counter, counter)

instance : FixedWidthEncoding exponentSuite.Scalar :=
  inferInstanceAs (FixedWidthEncoding Fr)

instance : FixedWidthEncoding exponentSuite.G1 :=
  inferInstanceAs (FixedWidthEncoding Fr)

instance : FixedWidthEncoding exponentSuite.Gt :=
  inferInstanceAs (FixedWidthEncoding Fr)

instance : FaithfulEncoding exponentSuite.Scalar :=
  inferInstanceAs (FaithfulEncoding Fr)

instance : FaithfulEncoding exponentSuite.G1 :=
  inferInstanceAs (FaithfulEncoding Fr)

end ConfidentialToken.Bn254
