import Mathlib.Algebra.Field.Basic
import ConfidentialToken.Bn254.Field
import ConfidentialToken.Proofs.Algebra.Laws
import ConfidentialToken.Proofs.Algebra.Primality

/-!
The scalars of BN254 are a prime field.

The order of the groups is prime by Lucas's criterion, and so are the primes
that its certificate refers to.
-/

namespace ConfidentialToken.Bn254

/-- Certificates for the order of the groups, which comes last, and for the
primes it takes. -/
def scalarCertificates : List PrimeCertificate :=
  [
    ⟨2, 1, []⟩, ⟨3, 2, [(2, 1)]⟩, ⟨5, 2, [(2, 2)]⟩, ⟨7, 3, [(2, 1), (3, 1)]⟩,
    ⟨11, 2, [(2, 1), (5, 1)]⟩, ⟨13, 2, [(2, 2), (3, 1)]⟩, ⟨17, 3, [(2, 4)]⟩,
    ⟨19, 2, [(2, 1), (3, 2)]⟩, ⟨23, 5, [(2, 1), (11, 1)]⟩, ⟨29, 2, [(2, 2), (7, 1)]⟩,
    ⟨31, 3, [(2, 1), (3, 1), (5, 1)]⟩, ⟨37, 2, [(2, 2), (3, 2)]⟩,
    ⟨41, 6, [(2, 3), (5, 1)]⟩,
    ⟨47, 5, [(2, 1), (23, 1)]⟩, ⟨53, 2, [(2, 2), (13, 1)]⟩,
    ⟨71, 7, [(2, 1), (5, 1), (7, 1)]⟩,
    ⟨83, 2, [(2, 1), (41, 1)]⟩, ⟨107, 2, [(2, 1), (53, 1)]⟩, ⟨137, 3, [(2, 3), (17, 1)]⟩,
    ⟨223, 3, [(2, 1), (3, 1), (37, 1)]⟩, ⟨229, 6, [(2, 2), (3, 1), (19, 1)]⟩,
    ⟨379, 2, [(2, 1), (3, 3), (7, 1)]⟩, ⟨409, 21, [(2, 3), (3, 1), (17, 1)]⟩,
    ⟨449, 3, [(2, 6), (7, 1)]⟩, ⟨491, 2, [(2, 1), (5, 1), (7, 2)]⟩,
    ⟨661, 2, [(2, 2), (3, 1), (5, 1), (11, 1)]⟩, ⟨823, 3, [(2, 1), (3, 1), (137, 1)]⟩,
    ⟨853, 2, [(2, 2), (3, 1), (71, 1)]⟩, ⟨983, 5, [(2, 1), (491, 1)]⟩,
    ⟨1637, 2, [(2, 2), (409, 1)]⟩, ⟨3691, 2, [(2, 1), (3, 2), (5, 1), (41, 1)]⟩,
    ⟨4999, 3, [(2, 1), (3, 1), (7, 2), (17, 1)]⟩, ⟨5501, 2, [(2, 2), (5, 3), (11, 1)]⟩,
    ⟨11003, 2, [(2, 1), (5501, 1)]⟩, ⟨20963, 2, [(2, 1), (47, 1), (223, 1)]⟩,
    ⟨41927, 5, [(2, 1), (20963, 1)]⟩, ⟨93001, 14, [(2, 3), (3, 1), (5, 3), (31, 1)]⟩,
    ⟨237073, 15, [(2, 4), (3, 1), (11, 1), (449, 1)]⟩,
    ⟨1593227, 2, [(2, 1), (19, 1), (41927, 1)]⟩,
    ⟨405928799, 22, [(2, 1), (11, 1), (3691, 1), (4999, 1)]⟩,
    ⟨639533339, 2, [(2, 1), (229, 1), (853, 1), (1637, 1)]⟩,
    ⟨12048837557, 2, [(2, 2), (7, 2), (661, 1), (93001, 1)]⟩,
    ⟨5156902474397, 2, [(2, 2), (107, 1), (12048837557, 1)]⟩,
    ⟨1670836401704629, 2, [(2, 2), (3, 4), (5156902474397, 1)]⟩,
    ⟨65865678001877903, 5, [(2, 1), (83, 1), (379, 1), (1637, 1), (639533339, 1)]⟩,
    ⟨13818364434197438864469338081, 3,
      [(2, 5), (5, 1), (823, 1), (1593227, 1), (65865678001877903, 1)]⟩,
    ⟨scalarModulus, 5,
      [(2, 28), (3, 2), (13, 1), (29, 1), (983, 1), (11003, 1), (237073, 1),
      (405928799, 1), (1670836401704629, 1), (13818364434197438864469338081, 1)]⟩]

theorem prime_of_mem_scalarCertificates :
    ∀ certificate ∈ scalarCertificates, certificate.number.Prime :=
  PrimeCertificate.prime_of_allHold (by simp)
    (by decide +kernel : PrimeCertificate.AllHold [] scalarCertificates)

/-- The order of the groups is prime. -/
theorem prime_scalarModulus : scalarModulus.Prime :=
  prime_of_mem_scalarCertificates _ (List.getLast_mem (by simp [scalarCertificates]))

instance : LawfulScalars Fr where
  order := scalarModulus
  order_prime := prime_scalarModulus
  order_wide := by decide
  toNat_lt := Residue.isLt
  toNat_injective _ _ := Residue.ext
  toNat_ofNat := Residue.val_ofNat
  toNat_zero := by decide
  toNat_one := by decide
  toNat_add := Residue.val_add
  toNat_mul := Residue.val_mul
  neg_add_self := Residue.neg_add_self
  sub_eq := Residue.sub_eq
  mul_inv_self := Residue.mul_inv_self prime_scalarModulus
  inv_zero := Residue.inv_zero (by decide)

end ConfidentialToken.Bn254
