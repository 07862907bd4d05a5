import Mathlib.Algebra.Field.Basic
import Mathlib.Algebra.Module.Defs
import Mathlib.Algebra.Module.Torsion.Field
import Mathlib.Data.ZMod.Basic
import ConfidentialToken.Suite

/-!
The laws of a suite.

The scalars are the residues modulo a prime, each group is a vector space over
them, and the pairing is bilinear. The protocols use the operations of a suite
without these laws; what the protocols guarantee is proved from them. The laws
make Mathlib's algebra available with the operations of the suite itself, so
that no statement has to be translated.
-/

namespace ConfidentialToken

/-- The laws of the operations of a prime field, in terms of least
representatives. -/
class LawfulScalars (F : Type) [ScalarOperations F] where
  /-- The number of scalars. -/
  order : Nat
  order_prime : order.Prime
  /-- A sum of fewer than `2 ^ 64` words does not reach the order. -/
  order_wide : 2 ^ 128 ≤ order
  toNat_lt : ∀ a : F, ScalarOperations.toNat a < order
  toNat_injective : ∀ a b : F, ScalarOperations.toNat a = ScalarOperations.toNat b → a = b
  toNat_ofNat : ∀ number : Nat,
    ScalarOperations.toNat (ScalarOperations.ofNat number : F) = number % order
  toNat_zero : ScalarOperations.toNat (0 : F) = 0
  toNat_one : ScalarOperations.toNat (1 : F) = 1
  toNat_add : ∀ a b : F, ScalarOperations.toNat (a + b) =
    (ScalarOperations.toNat a + ScalarOperations.toNat b) % order
  toNat_mul : ∀ a b : F, ScalarOperations.toNat (a * b) =
    ScalarOperations.toNat a * ScalarOperations.toNat b % order
  neg_add_self : ∀ a : F, -a + a = 0
  sub_eq : ∀ a b : F, a - b = a + -b
  mul_inv_self : ∀ a : F, a ≠ 0 → a * a⁻¹ = 1
  inv_zero : (0 : F)⁻¹ = 0

namespace LawfulScalars

variable {F : Type} [ScalarOperations F] [LawfulScalars F]

def residue (a : F) : ZMod (order F) :=
  (ScalarOperations.toNat a : ZMod (order F))

theorem residue_injective : Function.Injective (residue : F → ZMod (order F)) := by
  intro a b equal
  apply toNat_injective
  have congruent := (ZMod.natCast_eq_natCast_iff' _ _ _).mp equal
  rwa [Nat.mod_eq_of_lt (toNat_lt a), Nat.mod_eq_of_lt (toNat_lt b)] at congruent

@[simp]
theorem residue_zero : residue (0 : F) = 0 := by
  simp [residue, toNat_zero]

@[simp]
theorem residue_one : residue (1 : F) = 1 := by
  simp [residue, toNat_one]

@[simp]
theorem residue_add (a b : F) : residue (a + b) = residue a + residue b := by
  simp [residue, toNat_add]

@[simp]
theorem residue_mul (a b : F) : residue (a * b) = residue a * residue b := by
  simp [residue, toNat_mul]

@[simp]
theorem residue_ofNat (number : Nat) :
    residue (ScalarOperations.ofNat number : F) = (number : ZMod (order F)) := by
  simp [residue, toNat_ofNat]

/-- The field of the scalars; a number is the scalar that it denotes. -/
@[reducible]
def field : Field F where
  zero := 0
  one := 1
  add := (· + ·)
  mul := (· * ·)
  neg := (- ·)
  sub := (· - ·)
  inv := (·⁻¹)
  natCast := ScalarOperations.ofNat
  nsmul := nsmulRec
  zsmul := zsmulRec
  nnqsmul := _
  qsmul := _
  add_assoc a b c := residue_injective (by simp [add_assoc])
  zero_add a := residue_injective (by simp)
  add_zero a := residue_injective (by simp)
  add_comm a b := residue_injective (by simp [add_comm])
  mul_assoc a b c := residue_injective (by simp [mul_assoc])
  one_mul a := residue_injective (by simp)
  mul_one a := residue_injective (by simp)
  mul_comm a b := residue_injective (by simp [mul_comm])
  left_distrib a b c := residue_injective (by simp [mul_add])
  right_distrib a b c := residue_injective (by simp [add_mul])
  zero_mul a := residue_injective (by simp)
  mul_zero a := residue_injective (by simp)
  neg_add_cancel := neg_add_self
  sub_eq_add_neg := sub_eq
  natCast_zero := residue_injective (by simp)
  natCast_succ number := residue_injective (by simp)
  exists_pair_ne := by
    refine ⟨0, 1, fun equal => ?_⟩
    have numbers : ScalarOperations.toNat (0 : F) = ScalarOperations.toNat (1 : F) :=
      congrArg ScalarOperations.toNat equal
    rw [toNat_zero, toNat_one] at numbers
    exact Nat.zero_ne_one numbers
  mul_inv_cancel := mul_inv_self
  inv_zero := inv_zero
  nnqsmul_def _ _ := rfl
  qsmul_def _ _ := rfl

end LawfulScalars

/-- The laws of a vector space over the scalars. -/
class LawfulGroup (F G : Type) [ScalarOperations F] [GroupOperations F G] : Prop where
  add_assoc : ∀ p q r : G, p + q + r = p + (q + r)
  add_comm : ∀ p q : G, p + q = q + p
  zero_add : ∀ p : G, 0 + p = p
  neg_add_self : ∀ p : G, -p + p = 0
  sub_eq : ∀ p q : G, p - q = p + -q
  one_smul : ∀ p : G, (1 : F) • p = p
  mul_smul : ∀ (a b : F) (p : G), (a * b) • p = a • b • p
  smul_add : ∀ (a : F) (p q : G), a • (p + q) = a • p + a • q
  add_smul : ∀ (a b : F) (p : G), (a + b) • p = a • p + b • p

namespace LawfulGroup

variable (F G : Type) [ScalarOperations F] [GroupOperations F G] [LawfulGroup F G]

@[reducible]
def addCommGroup : AddCommGroup G where
  __ : Zero G := GroupOperations.toZero F
  __ : Add G := GroupOperations.toAdd F
  __ : Neg G := GroupOperations.toNeg F
  __ : Sub G := GroupOperations.toSub F
  nsmul := letI := GroupOperations.toZero (G := G) F
    letI := GroupOperations.toAdd (G := G) F
    nsmulRec
  zsmul := letI := GroupOperations.toZero (G := G) F
    letI := GroupOperations.toAdd (G := G) F
    letI := GroupOperations.toNeg (G := G) F
    zsmulRec
  add_assoc := LawfulGroup.add_assoc (F := F)
  add_comm := LawfulGroup.add_comm (F := F)
  zero_add := LawfulGroup.zero_add (F := F)
  add_zero p :=
    (LawfulGroup.add_comm (F := F) p 0).trans (LawfulGroup.zero_add (F := F) p)
  neg_add_cancel := LawfulGroup.neg_add_self (F := F)
  sub_eq_add_neg := LawfulGroup.sub_eq (F := F)

@[reducible]
def module [LawfulScalars F] :
    letI := LawfulScalars.field (F := F)
    letI := addCommGroup F G
    Module F G :=
  letI := LawfulScalars.field (F := F)
  letI := addCommGroup F G
  { smul := (GroupOperations.toSMul (F := F) (G := G)).smul
    one_smul := LawfulGroup.one_smul (F := F)
    mul_smul := LawfulGroup.mul_smul (F := F)
    smul_add := LawfulGroup.smul_add (F := F)
    add_smul := LawfulGroup.add_smul (F := F)
    smul_zero := fun a => by
      have doubled : a • (0 : G) + a • (0 : G) = a • (0 : G) := by
        rw [← LawfulGroup.smul_add (F := F), add_zero]
      simpa using doubled
    zero_smul := fun p => by
      have doubled : (0 : F) • p + (0 : F) • p = (0 : F) • p := by
        rw [← LawfulGroup.add_smul (F := F), add_zero]
      simpa using doubled }

end LawfulGroup

/-- A suite whose first group is a vector space over the prime field of its
scalars. -/
class LawfulG1 (S : Suite) where
  scalars : LawfulScalars S.Scalar
  g1 : LawfulGroup S.Scalar S.G1

/-- A suite all of whose groups are vector spaces over the prime field of its
scalars, with a bilinear pairing. -/
class BilinearPairing (S : Suite) extends LawfulG1 S where
  g2 : LawfulGroup S.Scalar S.G2
  gt : LawfulGroup S.Scalar S.Gt
  pairingSum_nil : S.pairingSum [] = 0
  pairingSum_cons : ∀ (pair : S.G1 × S.G2) (pairs : List (S.G1 × S.G2)),
    S.pairingSum (pair :: pairs) = Suite.pairing pair.1 pair.2 + S.pairingSum pairs
  pairing_add_left : ∀ (p q : S.G1) (r : S.G2),
    Suite.pairing (p + q) r = Suite.pairing p r + Suite.pairing q r
  pairing_add_right : ∀ (p : S.G1) (q r : S.G2),
    Suite.pairing p (q + r) = Suite.pairing p q + Suite.pairing p r
  pairing_smul_left : ∀ (a : S.Scalar) (p : S.G1) (q : S.G2),
    Suite.pairing (a • p) q = a • Suite.pairing p q
  pairing_smul_right : ∀ (a : S.Scalar) (p : S.G1) (q : S.G2),
    Suite.pairing p (a • q) = a • Suite.pairing p q

/-- A suite with the laws of all its operations: its bilinear pairing does not
degenerate. -/
class LawfulPairing (S : Suite) extends BilinearPairing S where
  pairing_eq_zero : ∀ (p : S.G1) (q : S.G2), Suite.pairing p q = 0 → p = 0 ∨ q = 0

section Instances

variable {S : Suite}

instance [LawfulG1 S] : LawfulScalars S.Scalar := LawfulG1.scalars

instance [LawfulG1 S] : LawfulGroup S.Scalar S.G1 := LawfulG1.g1

instance [BilinearPairing S] : LawfulGroup S.Scalar S.G2 := BilinearPairing.g2

instance [BilinearPairing S] : LawfulGroup S.Scalar S.Gt := BilinearPairing.gt

instance [LawfulG1 S] : Field S.Scalar := LawfulScalars.field

instance [LawfulG1 S] : AddCommGroup S.G1 := LawfulGroup.addCommGroup S.Scalar S.G1

instance [LawfulG1 S] : Module S.Scalar S.G1 := LawfulGroup.module S.Scalar S.G1

instance [BilinearPairing S] : AddCommGroup S.G2 := LawfulGroup.addCommGroup S.Scalar S.G2

instance [BilinearPairing S] : Module S.Scalar S.G2 := LawfulGroup.module S.Scalar S.G2

instance [BilinearPairing S] : AddCommGroup S.Gt := LawfulGroup.addCommGroup S.Scalar S.Gt

instance [BilinearPairing S] : Module S.Scalar S.Gt := LawfulGroup.module S.Scalar S.Gt

theorem ofNat_eq_natCast [LawfulG1 S] (number : Nat) :
    (ScalarOperations.ofNat number : S.Scalar) = number :=
  rfl

/-- A scalar is denoted by its number. -/
theorem natCast_toNat [LawfulG1 S] (scalar : S.Scalar) :
    ((ScalarOperations.toNat scalar : Nat) : S.Scalar) = scalar := by
  apply LawfulScalars.toNat_injective
  rw [← ofNat_eq_natCast, LawfulScalars.toNat_ofNat,
    Nat.mod_eq_of_lt (LawfulScalars.toNat_lt scalar)]

/-- Numbers below the order are told apart by the scalars that they are. -/
theorem natCast_inj_of_lt [LawfulG1 S] {left right : Nat}
    (leftBound : left < LawfulScalars.order S.Scalar)
    (rightBound : right < LawfulScalars.order S.Scalar) :
    (left : S.Scalar) = right ↔ left = right := by
  constructor
  · intro same
    have numbers := congrArg ScalarOperations.toNat same
    rw [← ofNat_eq_natCast, ← ofNat_eq_natCast, LawfulScalars.toNat_ofNat,
      LawfulScalars.toNat_ofNat, Nat.mod_eq_of_lt leftBound,
      Nat.mod_eq_of_lt rightBound] at numbers
    exact numbers
  · exact congrArg Nat.cast

end Instances

section Logarithms

variable {S : Suite} [LawfulG1 S]

/-- The logarithms to a base. -/
structure IsLogarithm (log : S.G1 → S.Scalar) (base : S.G1) : Prop where
  nonzero : base ≠ 0
  smul : ∀ point, log point • base = point

theorem IsLogarithm.eq_iff {log : S.G1 → S.Scalar} {base : S.G1}
    (logarithm : IsLogarithm log base) {factor : S.Scalar} {point : S.G1} :
    factor • base = point ↔ factor = log point := by
  constructor
  · intro same
    exact smul_left_injective S.Scalar logarithm.nonzero
      (same.trans (logarithm.smul point).symm)
  · rintro rfl
    exact logarithm.smul point

/-- All elements of the first group are multiples of one of them. -/
def CyclicG1 (S : Suite) : Prop :=
  ∃ generator : S.G1, ∀ point : S.G1, ∃ exponent : S.Scalar, exponent • generator = point

theorem CyclicG1.exists_isLogarithm (cyclic : CyclicG1 S) {base : S.G1}
    (nonzero : base ≠ 0) : ∃ log, IsLogarithm log base := by
  obtain ⟨generator, generates⟩ := cyclic
  obtain ⟨scale, rfl⟩ := generates base
  have scaleNonzero : scale ≠ 0 := by
    rintro rfl
    exact nonzero (zero_smul _ _)
  choose exponent exponentSmul using generates
  refine ⟨fun point => exponent point * scale⁻¹, nonzero, fun point => ?_⟩
  rw [smul_smul, inv_mul_cancel_right₀ scaleNonzero, exponentSmul]

end Logarithms

section Pairing

variable {S : Suite} [BilinearPairing S]

@[simp]
theorem pairingSum_pair (p r : S.G1) (q s : S.G2) :
    S.pairingSum [(p, q), (r, s)] = Suite.pairing p q + Suite.pairing r s := by
  rw [BilinearPairing.pairingSum_cons, BilinearPairing.pairingSum_cons,
    BilinearPairing.pairingSum_nil, add_zero]

@[simp]
theorem pairing_neg_left (p : S.G1) (q : S.G2) :
    Suite.pairing (-p) q = -Suite.pairing p q := by
  rw [← neg_one_smul S.Scalar p, BilinearPairing.pairing_smul_left, neg_one_smul]

@[simp]
theorem pairing_sub_left (p r : S.G1) (q : S.G2) :
    Suite.pairing (p - r) q = Suite.pairing p q - Suite.pairing r q := by
  rw [sub_eq_add_neg, BilinearPairing.pairing_add_left, pairing_neg_left, sub_eq_add_neg]

@[simp]
theorem pairing_sub_right (p : S.G1) (q r : S.G2) :
    Suite.pairing p (q - r) = Suite.pairing p q - Suite.pairing p r := by
  rw [sub_eq_add_neg, BilinearPairing.pairing_add_right, ← neg_one_smul S.Scalar r,
    BilinearPairing.pairing_smul_right, neg_one_smul, sub_eq_add_neg]

end Pairing

end ConfidentialToken
