import Mathlib.Tactic.LinearCombination
import ConfidentialToken.Bn254.Curve
import ConfidentialToken.Proofs.Bn254.ScalarField

/-!
The base field of BN254 is a prime field, and no point of either curve has
second coordinate zero.

The first coordinate of such a point would be a cube root of the constant of the
curve with its sign changed. There is none in the base field, and none in its
quadratic extension because the norm of the constant has no cube root in the
base field.
-/

namespace ConfidentialToken.Bn254

/-- Certificates that build on those for the scalar field; the one for the base
field comes last. -/
def baseCertificates : List PrimeCertificate :=
  [
    ⟨67, 2, [(2, 1), (3, 1), (11, 1)]⟩, ⟨73, 5, [(2, 3), (3, 2)]⟩,
    ⟨89, 3, [(2, 3), (11, 1)]⟩,
    ⟨109, 6, [(2, 2), (3, 3)]⟩, ⟨127, 3, [(2, 1), (3, 2), (7, 1)]⟩,
    ⟨233, 3, [(2, 3), (29, 1)]⟩,
    ⟨271, 6, [(2, 1), (3, 3), (5, 1)]⟩, ⟨311, 17, [(2, 1), (5, 1), (31, 1)]⟩,
    ⟨911, 17, [(2, 1), (5, 1), (7, 1), (13, 1)]⟩,
    ⟨1231, 3, [(2, 1), (3, 1), (5, 1), (41, 1)]⟩,
    ⟨2221, 2, [(2, 2), (3, 1), (5, 1), (37, 1)]⟩, ⟨3557, 2, [(2, 2), (7, 1), (127, 1)]⟩,
    ⟨13327, 3, [(2, 1), (3, 1), (2221, 1)]⟩,
    ⟨327599, 19, [(2, 1), (19, 1), (37, 1), (233, 1)]⟩,
    ⟨1853641, 17, [(2, 3), (3, 2), (5, 1), (19, 1), (271, 1)]⟩,
    ⟨4562087, 5, [(2, 1), (17, 1), (109, 1), (1231, 1)]⟩,
    ⟨173171039, 13, [(2, 1), (73, 1), (89, 1), (13327, 1)]⟩,
    ⟨1263766531, 10, [(2, 1), (3, 1), (5, 1), (13, 1), (911, 1), (3557, 1)]⟩,
    ⟨11465965001, 3, [(2, 3), (5, 4), (7, 1), (327599, 1)]⟩,
    ⟨35385462869, 2, [(2, 2), (7, 1), (1263766531, 1)]⟩,
    ⟨2480874801745591, 6, [(2, 1), (3, 2), (5, 1), (19, 1), (41, 1), (35385462869, 1)]⟩,
    ⟨13427688667394608761327070753331941386769, 17,
      [(2, 4), (3, 1), (7, 1), (11, 1), (1853641, 1),
      (4562087, 1), (173171039, 1), (2480874801745591, 1)]⟩,
    ⟨baseModulus, 3, [(2, 1), (3, 2), (13, 1), (29, 1), (67, 1), (229, 1), (311, 1),
      (983, 1), (11003, 1), (405928799, 1), (11465965001, 1),
      (13427688667394608761327070753331941386769, 1)]⟩]

theorem prime_baseModulus : baseModulus.Prime := by
  have known : ∀ prime ∈ scalarCertificates.map PrimeCertificate.number, prime.Prime := by
    intro prime membership
    obtain ⟨certificate, among, rfl⟩ := List.mem_map.mp membership
    exact prime_of_mem_scalarCertificates certificate among
  have hold : PrimeCertificate.AllHold (scalarCertificates.map PrimeCertificate.number)
      baseCertificates := by
    decide +kernel
  exact PrimeCertificate.prime_of_allHold known hold _
    (List.getLast_mem (by simp [baseCertificates]))

/-- A number whose power to a third of the number of units is not one has no
cube root. -/
theorem cube_ne_natCast (number : Nat) (nonzero : number % baseModulus ≠ 0)
    (power : powerModulo baseModulus number ((baseModulus - 1) / 3) ≠ 1)
    (root : ZMod baseModulus) : root ^ 3 ≠ number := by
  have : Fact baseModulus.Prime := ⟨prime_baseModulus⟩
  intro cube
  have unit : root ≠ 0 := by
    rintro rfl
    rw [zero_pow (by decide)] at cube
    exact nonzero (Nat.mod_eq_zero_of_dvd ((ZMod.natCast_eq_zero_iff _ _).mp cube.symm))
  have thirds : 3 * ((baseModulus - 1) / 3) = baseModulus - 1 := by decide
  apply power
  rw [powerModulo_eq_one prime_baseModulus.one_lt, ← cube, ← pow_mul, thirds]
  exact ZMod.pow_card_sub_one_eq_one unit

/-- No first coordinate makes the second one zero on the first curve. -/
theorem Fq.cube_add_ne_zero (x : Fq) : x * x * x + g1Constant ≠ 0 := by
  intro zero
  apply cube_ne_natCast (-g1Constant).val (by decide +kernel) (by decide +kernel)
    (Residue.toZMod x)
  change Residue.toZMod x ^ 3 = Residue.toZMod (-g1Constant)
  have cast := congrArg Residue.toZMod zero
  rw [Residue.toZMod_add, Residue.toZMod_mul, Residue.toZMod_mul, Residue.toZMod_zero]
    at cast
  rw [Residue.toZMod_neg]
  linear_combination cast

namespace Fq2

/-- The product of an element with its conjugate. -/
def norm (a : Fq2) : ZMod baseModulus :=
  a.c0.toZMod ^ 2 + a.c1.toZMod ^ 2

theorem norm_mul (a b : Fq2) : norm (a * b) = norm a * norm b := by
  change norm (mul a b) = _
  simp only [norm, mul, Residue.toZMod_add, Residue.toZMod_mul, Residue.toZMod_sub]
  ring

theorem norm_square (a : Fq2) : norm a.square = norm a ^ 2 := by
  simp only [norm, square, Residue.toZMod_add, Residue.toZMod_mul, Residue.toZMod_sub]
  ring

theorem norm_eq_of_add_eq_zero {a b : Fq2} (zero : a + b = 0) : norm a = norm b := by
  have first : a.c0.toZMod + b.c0.toZMod = 0 := by
    rw [← Residue.toZMod_add, ← Residue.toZMod_zero]
    exact congrArg (fun sum => sum.c0.toZMod) zero
  have second : a.c1.toZMod + b.c1.toZMod = 0 := by
    rw [← Residue.toZMod_add, ← Residue.toZMod_zero]
    exact congrArg (fun sum => sum.c1.toZMod) zero
  rw [norm, norm, eq_neg_of_add_eq_zero_left first, eq_neg_of_add_eq_zero_left second]
  ring

/-- No first coordinate makes the second one zero on the second curve. -/
theorem cube_add_ne_zero (x : Fq2) : x.square * x + g2Constant ≠ 0 := by
  intro zero
  apply cube_ne_natCast (g2Constant.c0.val ^ 2 + g2Constant.c1.val ^ 2)
    (by decide +kernel) (by decide +kernel) (norm x)
  rw [Nat.cast_add, Nat.cast_pow, Nat.cast_pow]
  change norm x ^ 3 = norm g2Constant
  rw [← norm_eq_of_add_eq_zero zero, norm_mul, norm_square]
  ring

end Fq2

end ConfidentialToken.Bn254
